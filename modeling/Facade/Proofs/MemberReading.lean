-- Members and values agree when the forms they nest do.
import Facade.Proofs.WholeTypes

namespace Facade

open Reader Grammar

variable {text : List Char} {g g' : Productions}

/-! ## What is known of members -/

section Known

instance : Known ReadMember := ⟨fun text read => known text read.member⟩

instance : Known ClassMember := ⟨fun text found => known text found.member⟩

instance : Known MemberList := ⟨fun text list => known text list.members⟩

@[simp]
theorem known_readMember {member : Member} {form : Form} :
    known text (⟨member, form⟩ : ReadMember) ↔ known text member := Iff.rfl

@[simp]
theorem known_read_member {read : ReadMember} (h : known text read) : known text read.member := h

@[simp]
theorem known_classMember {member : Member} {ending : Option Form} :
    known text (⟨member, ending⟩ : ClassMember) ↔ known text member := Iff.rfl

@[simp]
theorem known_found_member {found : ClassMember} (h : known text found) :
    known text found.member := h

@[simp]
theorem known_memberList {start : Start} {members : List Member} :
    known text (⟨start, members⟩ : MemberList) ↔ known text members := Iff.rfl

@[simp]
theorem known_list_members {list : MemberList} (h : known text list) :
    known text list.members := h

@[simp]
theorem known_markupMembers {token : Token} : known text (markupMembers token) := by
  intro member hmember
  rw [List.eq_of_mem_replicate hmember]
  simp

/-- The words for who may use a member say nothing else. -/
theorem isKnown_accessOf (words : List String) (name : MemberName) : (accessOf words name).IsKnown := by
  intro word hword
  unfold accessOf at hword
  split at hword <;> try cases hword
  rename_i hpublic hprivate hprotected hfound
  have hmem := List.find?_some hfound
  simp only [accessWords, List.contains_cons, List.contains_nil, Bool.or_false, Bool.or_eq_true,
    beq_iff_eq] at hmem
  rcases hmem with rfl | rfl | rfl
  · exact hpublic rfl
  · exact hprivate rfl
  · exact hprotected rfl

theorem isKnown_roleOf (words : List String) : (roleOf words).IsKnown := by
  intro word hword
  unfold roleOf at hword
  split at hword
  · cases hword
  · split at hword <;> cases hword

@[simp]
theorem known_propertyMember {words : List String} {name : MemberName} {optional : Bool}
    {type : TypeExpr} (h : known text type) :
    known text (propertyMember words name optional type) := by
  have haccess := isKnown_accessOf words name
  cases name with
  | plain word => exact known_property.mpr ⟨haccess, h⟩
  | secret word => exact known_property.mpr ⟨haccess, h⟩
  | computed => exact known_otherMember.mpr haccess

@[simp]
theorem known_methodMember {words : List String} {name : MemberName} {optional : Bool}
    {found : Signature} (h : known text found) :
    known text (methodMember words name optional found) := by
  have haccess := isKnown_accessOf words name
  have hmethod : ∀ word : String, known text
      (if word == "constructor" then
        Member.construct (accessOf words name) (words.contains "static") found.params
      else
        .method (accessOf words name) (words.contains "static") word found.typeParams found.params
          found.ret (roleOf words) optional (words.contains "abstract")) := by
    intro word
    split
    · exact known_construct.mpr ⟨haccess, h.2.1⟩
    · rename_i hname
      exact known_method.mpr ⟨haccess, isKnown_roleOf words, by simpa using hname, h.1, h.2.1, h.2.2⟩
  cases name with
  | plain word => exact hmethod word
  | secret word => exact hmethod word
  | computed => exact known_otherMember.mpr haccess

@[simp]
theorem known_map_type {reads : List ReadType} (h : known text reads) :
    known text (reads.map (·.type)) := by
  intro type htype
  obtain ⟨read, hread, rfl⟩ := List.mem_map.mp htype
  exact h read hread

@[simp]
theorem known_map_ref {words : List String} : known text (words.map (TypeExpr.ref · [])) := by
  intro type htype
  obtain ⟨word, -, rfl⟩ := List.mem_map.mp htype
  exact known_ref.mpr known_nil

end Known

namespace Grammar

/-! ## Members -/

@[simp]
theorem modifiers_agree {ending : Ending} {words : List String} :
    Reader.Agree text (modifiers ending words) (modifiers ending words) := by
  unfold modifiers
  gcongr <;> simp [*]

@[gcongr]
theorem memberName_agree (h : g.Agree text g') :
    Reader.Agree text (memberName g) (memberName g') := by
  unfold memberName
  gcongr <;> simp [*]

@[gcongr]
theorem nameAfter_agree (h : g.Agree text g') (words : List String) :
    Reader.Agree text (nameAfter g words) (nameAfter g' words) := by
  unfold nameAfter
  dsimp only
  gcongr <;> simp [*]

@[simp]
theorem acceptOptional_agree {words : List String} :
    Reader.Agree text (acceptOptional words) (acceptOptional words) := by
  unfold acceptOptional
  dsimp only
  gcongr <;> simp [*]

@[simp]
theorem signatureNext_agree {words : List String} :
    Reader.Agree text (signatureNext words) (signatureNext words) := by
  unfold signatureNext
  gcongr <;> simp [*]

@[simp]
theorem indexColon_agree :
    Reader.Agree text indexColon indexColon := by
  unfold indexColon
  gcongr
  · simp
  · split <;> simp [*]

@[gcongr]
theorem indexMember_agree (h : g.Agree text g') (readonly : Bool) :
    Reader.Agree text (indexMember g readonly) (indexMember g' readonly) := by
  unfold indexMember
  dsimp only
  gcongr <;> simp [*]

@[simp]
theorem indexReadonly_agree :
    Reader.Agree text indexReadonly indexReadonly := by
  unfold indexReadonly
  gcongr <;> simp [*]

@[gcongr]
theorem indexSignature_agree (h : g.Agree text g') :
    Reader.Agree text (indexSignature g) (indexSignature g') := by
  unfold indexSignature
  gcongr
  simp [*]

@[gcongr]
theorem namedObjectMember_agree (h : g.Agree text g') (start : Start) :
    Reader.Agree text (namedObjectMember g start) (namedObjectMember g' start) := by
  unfold namedObjectMember
  dsimp only
  gcongr <;> simp [*]

@[gcongr]
theorem constructSignature_agree (h : g.Agree text g') :
    Reader.Agree text (constructSignature g) (constructSignature g') := by
  unfold constructSignature
  dsimp only
  gcongr <;> simp [*]

@[gcongr]
theorem objectMember_agree (h : g.Agree text g') (start : Start) :
    Reader.Agree text (objectMember g start) (objectMember g' start) := by
  unfold objectMember
  gcongr <;> simp [*]

@[simp]
theorem acceptClosingBrace_agree :
    Reader.Agree text acceptClosingBrace acceptClosingBrace := by
  unfold acceptClosingBrace
  gcongr <;> simp [*]

@[gcongr]
theorem objectMembers_agree (h : g.Agree text g') (start : Start) :
    Reader.Agree text (objectMembers g start) (objectMembers g' start) := by
  unfold objectMembers
  dsimp only
  gcongr <;> simp [*]

@[gcongr]
theorem bracedBlock_agree (h : g.Agree text g') :
    Reader.Agree text (bracedBlock g) (bracedBlock g') := by
  unfold bracedBlock
  gcongr <;> simp [*]

@[gcongr]
theorem classMethod_agree (h : g.Agree text g') (decorated : Bool) (words : List String) (name : MemberName) (optional : Bool) :
    Reader.Agree text (classMethod g decorated words name optional) (classMethod g' decorated words name optional) := by
  unfold classMethod
  dsimp only
  gcongr <;> simp [*]

@[gcongr]
theorem classField_agree (h : g.Agree text g') (words : List String) (name : MemberName) (optional : Bool) :
    Reader.Agree text (classField g words name optional) (classField g' words name optional) := by
  unfold classField
  dsimp only
  gcongr <;> simp [*]

@[gcongr]
theorem namedClassMember_agree (h : g.Agree text g') (decorated : Bool) :
    Reader.Agree text (namedClassMember g decorated) (namedClassMember g' decorated) := by
  unfold namedClassMember
  gcongr <;> simp [*]

@[gcongr]
theorem classMember_agree (h : g.Agree text g') :
    Reader.Agree text (classMember g) (classMember g') := by
  unfold classMember
  gcongr <;> simp [*]

@[simp]
theorem classMemberEnd_agree {ending : Option Form} :
    Reader.Agree text (classMemberEnd ending) (classMemberEnd ending) := by
  unfold classMemberEnd
  cases ending with
  | none => simp
  | some form =>
    dsimp only
    gcongr <;> simp

@[gcongr]
theorem classMembers_agree (h : g.Agree text g') :
    Reader.Agree text (classMembers g) (classMembers g') := by
  unfold classMembers
  dsimp only
  gcongr <;> simp [*]

@[gcongr]
theorem baseClass_agree (h : g.Agree text g') :
    Reader.Agree text (baseClass g) (baseClass g') := by
  unfold baseClass
  dsimp only
  gcongr <;> simp [*]

@[gcongr]
theorem classTail_agree (h : g.Agree text g') (named : Bool) (isAbstract : Bool) :
    Reader.Agree text (classTail g named isAbstract) (classTail g' named isAbstract) := by
  unfold classTail
  dsimp only
  gcongr <;> simp [*]

@[gcongr]
theorem interfaceTail_agree (h : g.Agree text g') :
    Reader.Agree text (interfaceTail g) (interfaceTail g') := by
  unfold interfaceTail
  dsimp only
  gcongr <;> simp [*]

/-! ## Values -/

@[gcongr]
theorem sequence_agree (h : g.Agree text g') (ending : Ending) :
    Reader.Agree text (sequence g ending) (sequence g' ending) := by
  unfold sequence
  gcongr
  simp [*]

@[gcongr]
theorem arrayElements_agree (h : g.Agree text g') :
    Reader.Agree text (arrayElements g) (arrayElements g') := by
  unfold arrayElements
  gcongr
  simp [*]

@[gcongr]
theorem objectPart_agree (h : g.Agree text g') :
    Reader.Agree text (objectPart g) (objectPart g') := by
  unfold objectPart
  gcongr <;> simp [*]

@[gcongr]
theorem objectParts_agree (h : g.Agree text g') :
    Reader.Agree text (objectParts g) (objectParts g') := by
  unfold objectParts
  gcongr

@[gcongr]
theorem templateValue_agree (h : g.Agree text g') :
    Reader.Agree text (templateValue g) (templateValue g') := by
  unfold templateValue
  gcongr with first hfirst here hhere
  · simp
  · cases hstop : here.templateStop? true with
    | none => simp
    | some found =>
      obtain ⟨stop, rest⟩ := found
      have hrest : known text rest := Cursor.In.templateStop? hhere hstop
      cases stop with
      | close =>
        dsimp only
        gcongr <;> simp [*]
      | code =>
        dsimp only
        gcongr <;> simp [*]

@[gcongr]
theorem functionTail_agree (h : g.Agree text g') :
    Reader.Agree text (functionTail g) (functionTail g') := by
  unfold functionTail
  gcongr <;> simp [*]

@[gcongr]
theorem arrowBody_agree (h : g.Agree text g') (ending : Ending) :
    Reader.Agree text (arrowBody g ending) (arrowBody g' ending) := by
  unfold arrowBody
  gcongr <;> simp [*]

@[gcongr]
theorem annotatedArrow_agree (h : g.Agree text g') (ending : Ending) :
    Reader.Agree text (annotatedArrow g ending) (annotatedArrow g' ending) := by
  unfold annotatedArrow
  dsimp only
  gcongr <;> simp [*]

@[gcongr]
theorem arrowFunction_agree (h : g.Agree text g') (ending : Ending) :
    Reader.Agree text (arrowFunction g ending) (arrowFunction g' ending) := by
  unfold arrowFunction
  dsimp only
  gcongr <;> simp [*]

@[gcongr]
theorem optionalPart_agree (h : g.Agree text g') (shape : ValueShape) :
    Reader.Agree text (optionalPart g shape) (optionalPart g' shape) := by
  unfold optionalPart
  dsimp only
  gcongr <;> simp [*]

@[gcongr]
theorem accessTail?_agree (h : g.Agree text g') (shape : ValueShape) :
    Reader.Agree text (accessTail? g shape) (accessTail? g' shape) := by
  unfold accessTail?
  gcongr <;> simp [*]

@[simp]
theorem wordItself_agree {here : Cursor} {shape : ValueShape} (hhere : known text here) :
    Reader.Agree text (wordItself here shape) (wordItself here shape) := by
  unfold wordItself
  gcongr <;> simp [*]

@[gcongr]
theorem asyncValue_agree (h : g.Agree text g') (ending : Ending) {here : Cursor} (hhere : known text here) :
    Reader.Agree text (asyncValue g ending here) (asyncValue g' ending here) := by
  unfold asyncValue
  dsimp only
  gcongr <;> simp [*]

@[gcongr]
theorem constructor_agree (h : g.Agree text g') (ending : Ending) {here : Cursor} (hhere : known text here) :
    Reader.Agree text (constructor g ending here) (constructor g' ending here) := by
  unfold constructor
  dsimp only
  gcongr
  any_goals simp [*]
  all_goals split <;> simp [*]

@[gcongr]
theorem newValue_agree (h : g.Agree text g') (ending : Ending) {here : Cursor} (hhere : known text here) :
    Reader.Agree text (newValue g ending here) (newValue g' ending here) := by
  unfold newValue
  dsimp only
  gcongr <;> simp [*]

@[gcongr]
theorem importValue_agree (h : g.Agree text g') {here : Cursor} (hhere : known text here) :
    Reader.Agree text (importValue g here) (importValue g' here) := by
  have hafter : known text here.next.withMarkup := by simp [hhere]
  unfold importValue
  dsimp only
  gcongr <;> simp [*]

@[gcongr]
theorem namespaceValue_agree (h : g.Agree text g') (ending : Ending) {here : Cursor} (hhere : known text here) :
    Reader.Agree text (namespaceValue g ending here) (namespaceValue g' ending here) := by
  unfold namespaceValue
  dsimp only
  gcongr <;> simp [*]

@[gcongr]
theorem wordValue_agree (h : g.Agree text g') (ending : Ending) {here : Cursor} (hhere : known text here) :
    Reader.Agree text (wordValue g ending here) (wordValue g' ending here) := by
  unfold wordValue
  dsimp only
  split
  any_goals gcongr
  any_goals simp [*]
  split
  any_goals gcongr
  simp [*]

@[gcongr]
theorem groupedValue_agree (h : g.Agree text g') :
    Reader.Agree text (groupedValue g) (groupedValue g') := by
  unfold groupedValue
  dsimp only
  gcongr <;> simp [*]

@[gcongr]
theorem markValue_agree (h : g.Agree text g') (ending : Ending) {here : Cursor} (hhere : known text here) :
    Reader.Agree text (markValue g ending here) (markValue g' ending here) := by
  unfold markValue
  split
  any_goals gcongr
  any_goals simp [*]
  split
  · gcongr <;> simp [*]
  · simp

@[gcongr]
theorem simpleValue_agree (h : g.Agree text g') (ending : Ending) :
    Reader.Agree text (simpleValue g ending) (simpleValue g' ending) := by
  unfold simpleValue
  gcongr
  · simp
  · split
    any_goals gcongr
    all_goals simp [*]

@[gcongr]
theorem headArgsNext_agree (h : g.Agree text g') (ending : Ending) :
    Reader.Agree text (headArgsNext g ending) (headArgsNext g' ending) := by
  unfold headArgsNext
  gcongr <;> simp [*]

@[gcongr]
theorem appliedValue_agree (h : g.Agree text g') (ending : Ending) (shape : ValueShape) :
    Reader.Agree text (appliedValue g ending shape) (appliedValue g' ending shape) := by
  unfold appliedValue
  dsimp only
  gcongr <;> simp [*]

@[gcongr]
theorem valueTail_agree (h : g.Agree text g') (ending : Ending) (shape : ValueShape) :
    Reader.Agree text (valueTail g ending shape) (valueTail g' ending shape) := by
  unfold valueTail
  gcongr
  any_goals simp [*]
  split <;> simp

@[gcongr]
theorem valueTails_agree (h : g.Agree text g') (ending : Ending) (shape : ValueShape) :
    Reader.Agree text (valueTails g ending shape) (valueTails g' ending shape) := by
  unfold valueTails
  gcongr
  simp [*]

@[gcongr]
theorem target_agree (h : g.Agree text g') (ending : Ending) :
    Reader.Agree text (target g ending) (target g' ending) := by
  unfold target
  gcongr <;> simp [*]

@[gcongr]
theorem yieldedValue_agree (h : g.Agree text g') (ending : Ending) :
    Reader.Agree text (yieldedValue g ending) (yieldedValue g' ending) := by
  unfold yieldedValue
  dsimp only
  gcongr <;> simp [*]

@[gcongr]
theorem usedValue_agree (h : g.Agree text g') (ending : Ending) :
    Reader.Agree text (usedValue g ending) (usedValue g' ending) := by
  unfold usedValue
  dsimp only
  gcongr <;> simp [*]

@[gcongr]
theorem unary_agree (h : g.Agree text g') (ending : Ending) :
    Reader.Agree text (unary g ending) (unary g' ending) := by
  unfold unary
  gcongr <;> simp [*]

@[gcongr]
theorem operatorTail_agree (h : g.Agree text g') (ending : Ending) (shape : ValueShape) {here : Cursor} (hhere : known text here) (operator : Operator) :
    Reader.Agree text (operatorTail g ending shape here operator) (operatorTail g' ending shape here operator) := by
  unfold operatorTail
  cases operator with
  | assigns =>
    dsimp only
    gcongr <;> simp [*]
  | updates size =>
    dsimp only
    gcongr <;> simp [*]
  | computes size =>
    dsimp only
    gcongr <;> simp [*]

@[gcongr]
theorem expressionTail_agree (h : g.Agree text g') (ending : Ending) (shape : ValueShape) :
    Reader.Agree text (expressionTail g ending shape) (expressionTail g' ending shape) := by
  unfold expressionTail
  dsimp only
  gcongr
  any_goals simp [*]
  split
  · gcongr
  · simp

@[gcongr]
theorem expression_agree (h : g.Agree text g') (ending : Ending) :
    Reader.Agree text (expression g ending) (expression g' ending) := by
  unfold expression
  gcongr
  simp [*]

end Grammar

end Facade
