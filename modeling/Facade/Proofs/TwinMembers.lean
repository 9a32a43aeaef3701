-- Members of interfaces, object literal types and classes at twins.
import Facade.Proofs.TwinTypes
import Facade.Proofs.MemberReading

namespace Facade

open Lexer Reader Grammar

set_option synthInstance.maxSize 4096

/-! ## Names that hold the spot -/

/-- A text with the spot in it is no name. -/
theorem Twin.textUpTo_eq_or {s : Spot} {start start' stop stop' : Cursor}
    (hstart : Twin s start start') (hstop : Twin s stop stop') :
    start'.textUpTo stop' 0 = start.textUpTo stop 0 ∨
      (start.textUpTo stop 0).toList.all isNameChar = false := by
  by_cases hsame : start.left ≤ s.rest.length ∨ s.rest.length ≤ stop.left + stop.gap
  · exact .inl (hstart.textUpTo_eq hstop hsame)
  · refine .inr ?_
    rw [not_or, Nat.not_le, Nat.not_le] at hsame
    cases hstart with
    | @ahead token more before h hmore =>
      have hne : token.text.toList ++ more ≠ [] := by
        rw [ne_eq, List.append_eq_nil_iff]
        exact fun hnil => h.text_ne hnil.1
      have hcount : (token.text.toList ++ more).length + 1 ≤
          (token.text.toList ++ (more ++ s.rest)).length - (stop.left + stop.gap) + 0 := by
        simp only [List.length_append] at hsame ⊢
        omega
      obtain ⟨count, hcount⟩ := Nat.exists_eq_add_of_le hcount
      obtain ⟨d, rest, hrest⟩ :=
        List.exists_cons_of_length_pos (Nat.lt_of_le_of_lt (Nat.zero_le _) hsame.2)
      have hjoins : joins ((token.text.toList ++ more).getLast hne) d = false := by
        refine s.apart_rest ?_ (by rw [hrest, List.head?_cons])
        rw [← s.getLast?_front h hmore, List.getLast?_eq_some_getLast hne]
      -- the text reaches at least one character past the spot
      have htext : (token.text.toList ++ (more ++ s.rest)).take
        ((token.text.toList ++ more).length + 1 + count) =
          (token.text.toList ++ more) ++ d :: rest.take count := by
        rw [← List.append_assoc, hrest, Nat.add_assoc, List.take_length_add_append, Nat.add_comm 1,
          List.take_succ_cons]
      rw [Cursor.textUpTo, String.toList_ofList, Cursor.chars]
      dsimp only
      rw [hcount, htext, Bool.eq_false_iff, ne_eq, List.all_eq_true]
      intro hall
      have hlast := hall _ (List.mem_append_left _ (List.getLast_mem hne))
      have hnext := hall d (List.mem_append_right _ (List.mem_cons_self ..))
      rw [joins, hlast, hnext] at hjoins
      cases hjoins
    | here =>
      have hlength := s.length_rest
      dsimp only at hsame
      omega
    | past hin hpast => omega

section Same

variable {α : Type}

instance same_cons {first first' : α} {rest rest' : List α} [h : SameValue first first']
    [hrest : SameValue rest rest'] :
    SameValue (first :: rest) (first' :: rest') := ⟨by rw [h.eq, hrest.eq]⟩

instance same_contains [BEq α] (list : List α) {first first' : α} [h : SameValue first first'] :
    SameValue (list.contains first) (list.contains first') := ⟨by rw [h.eq]⟩

instance memberList_same (start : Start) {members members' : List Member}
    [h : SameValue members members'] :
    SameValue (MemberList.mk start members) (MemberList.mk start members') := ⟨by rw [h.eq]⟩

end Same

section

variable {s : Spot} {g g' : Productions} [h : Productions.Alike s g g']

/-! ## Names -/

instance modifierNext_same (ending : Ending) (words found : List String) {place twin : Cursor}
    [Twin s place twin] :
    SameValue (modifierNext ending words found place) (modifierNext ending words found twin) := by
  unfold modifierNext
  dsimp only
  infer_instance

instance modifiers_alike (ending : Ending) (words : List String) :
    ReadsAlike s Eq (modifiers ending words) (modifiers ending words) := by
  unfold modifiers
  infer_instance

instance memberName_alike : ReadsAlike s Eq (memberName g) (memberName g') := by
  unfold memberName
  refine .andThen fun found => .ite (fun _ => inferInstance) (take_alike (h := fun tokens => ?_))
  rw [tokens.alike.kind, tokens.alike.text]
  infer_instance

instance nameAfter_alike (words : List String) :
    ReadsAlike s Eq (nameAfter g words) (nameAfter g' words) := by
  unfold nameAfter
  infer_instance

instance acceptOptional_alike (words : List String) :
    ReadsAlike s Eq (acceptOptional words) (acceptOptional words) := by
  unfold acceptOptional
  infer_instance

instance signatureNext_alike (words : List String) :
    ReadsAlike s Eq (signatureNext words) (signatureNext words) := by
  unfold signatureNext
  infer_instance

/-! ## Index signatures -/

instance indexNext_same {place twin : Cursor} [Twin s place twin] :
    SameValue (indexNext place) (indexNext twin) := by
  unfold indexNext
  dsimp only
  infer_instance

instance indexStarts_same {place twin : Cursor} [Twin s place twin] :
    SameValue (indexStarts place) (indexStarts twin) := by
  unfold indexStarts
  infer_instance

omit h in
/-- The same of these operators comes next at twins. -/
theorem sizeOfAny?_eq {texts : List String} (htexts : ∀ text ∈ texts, isJoined text.toList)
    {place twin : Cursor}
    (h : Twin s place twin) : sizeOfAny? texts twin.chars = sizeOfAny? texts place.chars := by
  unfold sizeOfAny?
  induction texts with
  | nil => rfl
  | cons text texts ih =>
    obtain ⟨htext, htexts⟩ := List.forall_mem_cons.mp htexts
    rw [List.findSome?_cons, List.findSome?_cons, h.isPrefixOf_eq htext, ih htexts]

omit h in
theorem exists_of_sizeOfAny? {texts : List String} {chars : List Char} {size : Nat}
    (h : sizeOfAny? texts chars = some size) :
    ∃ text ∈ texts, text.toList.isPrefixOf chars ∧ text.length = size := by
  obtain ⟨text, hmem, hfound⟩ := List.exists_of_findSome?_eq_some h
  split at hfound
  · rename_i hstart
    exact ⟨text, hmem, hstart, by simpa using hfound⟩
  · cases hfound

omit h in
theorem indexColon_apply (place : Cursor) :
    indexColon place = (match indexColonSize? place.withMarkup.chars with
      | some size => goTo (place.withMarkup.skip size)
      | none => fail) place.withMarkup := rfl

omit h in
/-- What follows a colon of an index has the same blanks and comments in front of it. -/
instance indexColon_clear {β : Type} {relatedTo : β → β → Prop} {next next' : Unit → Reader β}
    [hnext : ReadsClear s relatedTo (next ()) (next' ())] :
    ReadsAlike s relatedTo (indexColon >>= next) (indexColon >>= next') := by
  refine ⟨fun {place twin} htwin => ?_⟩
  have hsize : indexColonSize? twin.withMarkup.chars = indexColonSize? place.withMarkup.chars :=
    sizeOfAny?_eq (by decide) htwin.withMarkup
  rw [bind_apply, bind_apply, indexColon_apply, indexColon_apply, hsize]
  cases hfound : indexColonSize? place.withMarkup.chars with
  | none => exact .reject _ _
  | some size =>
    obtain ⟨text, hmem, hstart, rfl⟩ := exists_of_sizeOfAny? hfound
    have hcolon : ∀ text ∈ ["-?:", "+?:", "?:", ":"], text ≠ "" ∧ isJoined text.toList ∧
        (text.toList.all fun c => operatorChars.contains c) ∧
          text.toList.getLast? = some ':' := by decide
    obtain ⟨hne, hjoined, hchars, hlast⟩ := hcolon text hmem
    obtain ⟨hskip, htoken⟩ := htwin.withMarkup.skip hne hjoined hchars hstart
    exact hnext.alike hskip (htoken hlast)

instance indexMember_alike (readonly : Bool) :
    ReadsAlike s Eq (indexMember g readonly) (indexMember g' readonly) := by
  unfold indexMember
  infer_instance

instance indexReadonly_alike : ReadsAlike s Eq indexReadonly indexReadonly := by
  unfold indexReadonly
  infer_instance

instance indexSignature_alike : ReadsAlike s Eq (indexSignature g) (indexSignature g') := by
  unfold indexSignature
  infer_instance

/-! ## Interfaces and object literal types -/

instance namedObjectMember_alike (start : Start) :
    ReadsAlike s Eq (namedObjectMember g start) (namedObjectMember g' start) := by
  unfold namedObjectMember
  dsimp only
  infer_instance

instance constructNext_same {place twin : Cursor} [Twin s place twin] :
    SameValue (constructNext place) (constructNext twin) := by
  unfold constructNext
  infer_instance

instance constructSignature_alike :
    ReadsAlike s Eq (constructSignature g) (constructSignature g') := by
  unfold constructSignature
  infer_instance

instance exportNext_same {place twin : Cursor} [Twin s place twin] :
    SameValue (exportNext place) (exportNext twin) := by
  unfold exportNext
  infer_instance

instance objectMember_alike (start : Start) :
    ReadsAlike s Eq (objectMember g start) (objectMember g' start) := by
  unfold objectMember
  infer_instance

instance acceptClosingBrace_alike : ReadsAlike s Eq acceptClosingBrace acceptClosingBrace := by
  unfold acceptClosingBrace
  refine look_alike (h := fun places => .ite (fun hbrace => ?_) inferInstance)
  rw [Bool.and_eq_true_iff] at hbrace
  have hskip : Twin s (places.place.skip 2) (places.twin.skip 2) :=
    places.alike.skip_marks (by decide) (by decide) (by decide) hbrace.1 hbrace.2 rfl
  infer_instance

instance objectMembers_alike (start : Start) :
    ReadsAlike s Eq (Grammar.objectMembers g start) (Grammar.objectMembers g' start) := by
  unfold Grammar.objectMembers
  dsimp only
  refine peek_alike (h := fun lead => .andThen fun led => .andThen fun _ => .andThen fun _ => ?_)
  refine @loop_alike _ _ _ _ _ _ _ inferInstance fun list => ?_
  refine .andThen fun _ =>
    peek_alike (h := fun tokens => .andThen fun closed => .ite (fun _ => inferInstance) ?_)
  infer_instance

/-! ## Classes -/

instance bracedBlock_alike : ReadsAlike s Eq (bracedBlock g) (bracedBlock g') := by
  unfold bracedBlock
  infer_instance

instance classMethod_alike (decorated : Bool) (words : List String) (name : MemberName)
    (optional : Bool) :
    ReadsAlike s Eq (classMethod g decorated words name optional)
      (classMethod g' decorated words name optional) := by
  unfold classMethod
  dsimp only
  infer_instance

instance classField_alike (words : List String) (name : MemberName) (optional : Bool) :
    ReadsAlike s Eq (classField g words name optional) (classField g' words name optional) := by
  unfold classField
  infer_instance

instance namedClassMember_alike (decorated : Bool) :
    ReadsAlike s Eq (namedClassMember g decorated) (namedClassMember g' decorated) := by
  unfold namedClassMember
  infer_instance

instance classMember_alike : ReadsAlike s Eq (classMember g) (classMember g') := by
  unfold classMember
  infer_instance

instance classMemberEnd_alike (form : Option Form) :
    ReadsAlike s Eq (classMemberEnd form) (classMemberEnd form) := by
  unfold classMemberEnd
  cases form <;> infer_instance

instance classMembers_alike : ReadsAlike s Eq (classMembers g) (classMembers g') := by
  unfold classMembers
  dsimp only
  infer_instance

/-! ## Heads -/

omit h in
/-- The bases of a class are the same, or one of them is no name. -/
class BasesAlike (first second : List TypeExpr) : Prop where
  alike : second = first ∨ first.any TypeExpr.isUnnamed
  unknown : typesHaveUnknown second = typesHaveUnknown first

omit h in
/-- Bases that are the same, or one of them is no name. -/
structure BasesTwins where
  bases : List TypeExpr
  twin : List TypeExpr
  alike : BasesAlike bases twin

instance (twins : BasesTwins) : BasesAlike twins.bases twins.twin := twins.alike

instance basesAlike_refl (bases : List TypeExpr) : BasesAlike bases bases := ⟨.inl rfl, rfl⟩

omit h in
theorem typesHaveUnknown_append (first second : List TypeExpr) :
    typesHaveUnknown (first ++ second) = (typesHaveUnknown first || typesHaveUnknown second) := by
  induction first with
  | nil => rfl
  | cons type first ih =>
    rw [List.cons_append, typesHaveUnknown, typesHaveUnknown, ih, Bool.or_assoc]

omit h in
theorem BasesAlike.append {first first' second second' : List TypeExpr}
    (h : BasesAlike first first')
    (h' : BasesAlike second second') : BasesAlike (first ++ second) (first' ++ second') := by
  constructor
  · rw [List.any_append, Bool.or_eq_true]
    rcases h.alike with rfl | h
    · rcases h'.alike with rfl | h'
      · exact .inl rfl
      · exact .inr (.inr h')
    · exact .inr (.inl h)
  · rw [typesHaveUnknown_append, typesHaveUnknown_append, h.unknown, h'.unknown]

instance baseClass_alike : ReadsAlike s BasesAlike (baseClass g) (baseClass g') := by
  unfold baseClass
  refine ⟨fun {place twin} htwin => .look (((h.expression .head).alike htwin.withMarkup).bind
    fun _ _ stop stop' _ _ _ hstop => .place (.place ?_))⟩
  have hafter : SameValue (stop.token.isMark "<" && !stop.touches "<")
      (stop'.token.isMark "<" && !stop'.touches "<") :=
    inferInstance
  have hbases (args : List TypeExpr) :
      BasesAlike ((markupTexts place.withMarkup.token).map (TypeExpr.ref · []) ++
          [.ref (place.withMarkup.textUpTo stop 0) args])
        ((markupTexts twin.withMarkup.token).map (TypeExpr.ref · []) ++
          [.ref (twin.withMarkup.textUpTo stop' 0) args]) := by
    rw [htwin.withMarkup.token.markup]
    refine .append (basesAlike_refl _) ?_
    rcases htwin.withMarkup.textUpTo_eq_or hstop with htext | htext
    · rw [htext]
      exact basesAlike_refl _
    · exact ⟨.inr (by rw [List.any_cons, TypeExpr.isUnnamed, htext]; rfl), rfl⟩
  refine .ite (fun _ => ?_) (.ok (hbases []) hstop)
  refine (ReadsAlike.alike hstop).bind fun args args' _ _ _ _ (heq : args = args') hrest => ?_
  exact heq ▸ .ok (hbases args) hrest

theorem baseClasses_alike :
    ReadsAlike s (fun found found' => BasesAlike found.flatten found'.flatten)
      (commaSeparated1 (baseClass g))
      (commaSeparated1 (baseClass g')) := by
  unfold commaSeparated1
  refine .loop (fun found found' => BasesAlike found.flatten found'.flatten)
    (fun found found' hfound => ?_)
    (basesAlike_refl _)
  refine baseClass_alike.bind fun base base' hbase => .andThen fun more => ?_
  have hall : BasesAlike (found ++ [base]).flatten (found' ++ [base']).flatten := by
    rw [List.flatten_concat, List.flatten_concat]
    exact hfound.append hbase
  cases more with
  | true => exact ⟨fun htwin => .ok hall htwin⟩
  | false => exact ⟨fun htwin => .ok hall htwin⟩

instance baseClasses_then {β : Type} {relatedTo : β → β → Prop}
    {next next' : List TypeExpr → Reader β}
    [hnext : ∀ twins : BasesTwins, ReadsAlike s relatedTo (next twins.bases) (next' twins.twin)] :
    ReadsAlike s relatedTo ((do return (← commaSeparated1 (baseClass g)).flatten) >>= next)
      ((do return (← commaSeparated1 (baseClass g')).flatten) >>= next') := by
  have hall : ReadsAlike s BasesAlike (do return (← commaSeparated1 (baseClass g)).flatten)
      (do return (← commaSeparated1 (baseClass g')).flatten) :=
    baseClasses_alike.bind fun _ _ hbases => ⟨fun htwin => .ok hbases htwin⟩
  exact hall.bind fun bases twin halike => hnext ⟨bases, twin, halike⟩

omit h in
instance pure_class_alike {name : String} {typeParams : List TypeParam}
    {bases bases' : List TypeExpr}
    [hbases : BasesAlike bases bases'] {interfaces : List TypeExpr} {members : List Member}
    {isAbstract : Bool} :
    ReadsAlike s ClassDecl.Alike (pure ⟨name, typeParams, bases, interfaces, members, isAbstract⟩)
      (pure ⟨name, typeParams, bases', interfaces, members, isAbstract⟩) :=
  ⟨fun htwin => .ok ⟨rfl, hbases.alike, hbases.unknown⟩ htwin⟩

instance classTail_alike (named isAbstract : Bool) :
    ReadsAlike s ClassDecl.Alike (classTail g named isAbstract)
      (classTail g' named isAbstract) := by
  unfold classTail
  dsimp only
  infer_instance

instance interfaceTail_alike : ReadsAlike s Eq (interfaceTail g) (interfaceTail g') := by
  unfold interfaceTail
  infer_instance

end

end Facade
