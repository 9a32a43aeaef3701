-- Patterns, parameters, results and type arguments agree when the forms they nest do. What nested
-- types leave behind is said here too, because the types around them depend on it.
import Facade.Proofs.WellRead

namespace Facade

open Reader Grammar

/-! ## What is known of what is written -/

section Known

variable {text : List Char}

instance : Known ReadType := ⟨fun text read => known text read.type⟩

instance : Known TypeList := ⟨fun text list => known text list.types⟩

instance : Known ParamName where
  known _
    | .named name => name ≠ "this"
    | .rest name => name ≠ "this"
    | .receiver => True
    | .unnamed => True
    | .unnamedRest => True

instance : Known WrittenParam := ⟨fun text param => known text param.name ∧ known text param.type⟩

instance : Known ParamList := ⟨fun text list => known text list.params⟩

instance : Known Signature where
  known text found :=
    known text found.typeParams ∧ known text found.params ∧ known text found.ret

@[simp]
theorem known_readType {type : TypeExpr} {shape : TypeShape} {shared : Bool} :
    known text (⟨type, shape, shared⟩ : ReadType) ↔ known text type := Iff.rfl

@[simp]
theorem known_read_type {read : ReadType} (h : known text read) : known text read.type := h

@[simp]
theorem known_typeList {start : Start} {types : List TypeExpr} :
    known text (⟨start, types⟩ : TypeList) ↔ known text types := Iff.rfl

@[simp]
theorem known_list_types {list : TypeList} (h : known text list) : known text list.types := h

@[simp]
theorem known_receiver : known text ParamName.receiver := trivial

@[simp]
theorem known_unnamed : known text ParamName.unnamed := trivial

@[simp]
theorem known_unnamedRest : known text ParamName.unnamedRest := trivial

@[simp]
theorem known_named {name : String} : known text (ParamName.named name) ↔ name ≠ "this" := Iff.rfl

@[simp]
theorem known_rest {name : String} : known text (ParamName.rest name) ↔ name ≠ "this" := Iff.rfl

@[simp]
theorem known_writtenParam {name : ParamName} {type : TypeExpr} {optional : Bool} :
    known text (⟨name, type, optional⟩ : WrittenParam) ↔ known text name ∧ known text type := Iff.rfl

@[simp]
theorem known_paramList {start : Start} {params : List WrittenParam} :
    known text (⟨start, params⟩ : ParamList) ↔ known text params := Iff.rfl

@[simp]
theorem known_list_params {list : ParamList} (h : known text list) : known text list.params := h

@[simp]
theorem known_signature {typeParams : List TypeParam} {params : List Param} {ret : TypeExpr} :
    known text (⟨typeParams, params, ret⟩ : Signature) ↔
      known text typeParams ∧ known text params ∧ known text ret := Iff.rfl

@[simp]
theorem known_signature_typeParams {found : Signature} (h : known text found) :
    known text found.typeParams := h.1

@[simp]
theorem known_signature_params {found : Signature} (h : known text found) :
    known text found.params := h.2.1

@[simp]
theorem known_signature_ret {found : Signature} (h : known text found) :
    known text found.ret := h.2.2

@[simp]
theorem known_markupTypes {token : Token} : known text (markupTypes token) := by
  intro type htype
  rw [List.eq_of_mem_replicate htype]
  exact known_unsupported

@[simp]
theorem known_getD {found : Option TypeExpr} {type : TypeExpr} (hfound : known text found)
    (htype : known text type) : known text (found.getD type) := by
  cases found with
  | none => exact htype
  | some value => exact known_some.mp hfound

theorem eq_of_remarkBefore? {token : Token} {type : TypeExpr}
    (h : remarkBefore? token = some type) : ∃ kind, type = .unsupported kind := by
  obtain ⟨remark, -, rfl⟩ := Option.map_eq_some_iff.mp h
  exact ⟨_, rfl⟩

theorem standIn_cases (tokens : List Token) :
    standIn tokens = .unknown ∨ ∃ kind, standIn tokens = .unsupported kind := by
  rw [standIn]
  cases hfound : tokens.findSome? remarkBefore? with
  | none => exact .inl rfl
  | some type =>
    obtain ⟨token, -, htype⟩ := List.exists_of_findSome?_eq_some hfound
    exact .inr (eq_of_remarkBefore? htype)

@[simp]
theorem known_standIn {tokens : List Token} : known text (standIn tokens) := by
  rcases standIn_cases tokens with h | ⟨kind, h⟩ <;> simp [h]

@[simp]
theorem known_operandOf {type : TypeExpr} (h : known text type) :
    known text (operandOf type) := by
  unfold operandOf
  split
  · exact known_unknown
  · exact h

@[simp]
theorem known_keptWith {name : ParamName} (h : known text name) (type : TypeExpr) :
    known text (name.keptWith type) := by
  cases name with
  | receiver =>
    rw [ParamName.keptWith]
    split
    · exact known_unnamed
    · exact known_receiver
  | _ => exact h

theorem known_numberParams {params : List WrittenParam} (h : known text params) (count : Nat) :
    ∀ param ∈ numberParams count params, known text param := by
  fun_induction numberParams count params with
  | case1 => exact List.forall_mem_nil _
  | case2 count type optional more ih => exact ih (known_cons.mp h).2
  | case3 count name type optional more ih =>
    obtain ⟨hfirst, hmore⟩ := known_cons.mp h
    exact List.forall_mem_cons.mpr ⟨known_param.mpr hfirst, ih hmore⟩
  | case4 count name type optional more ih =>
    obtain ⟨hfirst, hmore⟩ := known_cons.mp h
    exact List.forall_mem_cons.mpr ⟨known_param.mpr hfirst, ih hmore⟩
  | case5 count type optional more ih =>
    obtain ⟨hfirst, hmore⟩ := known_cons.mp h
    refine List.forall_mem_cons.mpr ⟨known_param.mpr ⟨?_, hfirst.2⟩, ih hmore⟩
    intro hname
    have := congrArg String.toList hname
    simp at this
  | case6 count type optional more ih =>
    obtain ⟨hfirst, hmore⟩ := known_cons.mp h
    exact List.forall_mem_cons.mpr ⟨known_param.mpr ⟨by decide, hfirst.2⟩, ih hmore⟩

end Known

/-! ## What types leave behind -/

/-- Whether a joint makes types like this one. -/
def Grammar.Joint.makes (joint : Joint) (type : TypeExpr) : Bool :=
  match joint.shape with
  | .union => type.isUnion
  | .intersection => type.isInter
  | _ => false

/-- The joints that there are. -/
def Grammar.joints : List Joint := [unionJoint, intersectionJoint]

/-- Whether a mark at a place joins types. -/
def Ending.joinsAt (ending : Ending) (mark : String) (here : Cursor) : Bool :=
  here.token.isMark mark && !ending.isAt here && !here.touches "\x7d"
    && !(ending.isValue && (here.touches mark || here.touches "="))

/-- What was read before a place has come to its end there, as far as the marks around it say. -/
def Ending.EndedAt (ending : Ending) (place : Cursor) : Prop :=
  ending = .enclosed → place.before ≠ .held

/-- No mark at a place joins types to what was read before it. -/
structure Ending.StopsAt (ending : Ending) (mark : String) (place : Cursor) : Prop where
  noJoint : ending.joinsAt mark (ending.view place) = false
  ended : ending.EndedAt place

/-- A type was read as a whole, with nothing left that could be joined to it. -/
structure Whole (start : Start) (ending : Ending) (read : ReadType) (rest : Cursor) : Prop where
  /-- Where only types can stand it is no value. -/
  ofPlain : start = .plain → read.shared = false
  ended : read.shared = false → ending.EndedAt rest
  closed : ∀ joint ∈ joints, joint.makes read.type → ending.StopsAt joint.mark rest

/-- A type was read from a place on that may become a part of a joined type. -/
structure Part (start : Start) (ending : Ending) (place : Cursor) (read : ReadType)
    (rest : Cursor) : Prop where
  /-- Where only types can stand it is no value. -/
  ofPlain : start = .plain → read.shared = false
  /-- A joined type is no value. -/
  unshared : ∀ joint ∈ joints, joint.makes read.type → read.shared = false
  /-- A joined type shows by its shape, unless `readonly` stands in front of it. -/
  shaped : ∀ joint ∈ joints, joint.makes read.type →
    read.shape = joint.shape ∨
      (read.shape = .loose ∧ place.withMarkup.token.isWord "readonly")
  /-- A type that counts as none is written as one of two words. -/
  ofConst : isConstType read.type → place.withMarkup.token.isAnyWord ["const", "readonly"]
  /-- Nothing can be joined to a type whose parts are joined in turn. -/
  closed : ∀ joint ∈ joints, ∀ member ∈ partsFor joint.shape read, joint.makes member →
    ending.StopsAt joint.mark rest

/-- Such a type has also come to its end. -/
structure EndedPart (start : Start) (ending : Ending) (place : Cursor) (read : ReadType)
    (rest : Cursor) : Prop extends Part start ending place read rest where
  ended : read.shared = false → ending.EndedAt rest

/-! ## Forms that agree -/

/-- The second forms answer like the first wherever nesting does not run out for the first. -/
structure Productions.Agree (text : List Char) (g g' : Productions) : Prop where
  /-- The first forms are those of the language, to some depth. -/
  nested : ∃ depth, g = productions depth
  type : ∀ start ending (place : Cursor), place.In text →
    AgreeAt text (g.type start ending) (g'.type start ending) place (Whole start ending)
  conjunction : ∀ ending (place : Cursor), place.In text →
    AgreeAt text (g.conjunction ending) (g'.conjunction ending) place
      (EndedPart .plain ending place)
  operand : ∀ start ending (place : Cursor), place.In text →
    AgreeAt text (g.operand start ending) (g'.operand start ending) place
      (EndedPart start ending place)
  expression : ∀ ending, Reader.Agree text (g.expression ending) (g'.expression ending)
  unary : ∀ ending, Reader.Agree text (g.unary ending) (g'.unary ending)
  simpleValue : ∀ ending, Reader.Agree text (g.simpleValue ending) (g'.simpleValue ending)
  target : ∀ ending, Reader.Agree text (g.target ending) (g'.target ending)
  pattern : ∀ start, Reader.Agree text (g.pattern start) (g'.pattern start)
  objectMembers : ∀ start, Reader.Agree text (g.objectMembers start) (g'.objectMembers start)
  declaration : Reader.Agree text g.declaration g'.declaration
  exportStatement : Reader.Agree text g.exportStatement g'.exportStatement
  statement : Reader.Agree text g.statement g'.statement
  block : Reader.Agree text g.block g'.block

variable {text : List Char} {g g' : Productions}

namespace Productions

@[gcongr]
theorem type_agree (h : g.Agree text g') (start : Start) (ending : Ending) :
    Reader.Agree text (g.type start ending) (g'.type start ending) :=
  AgreeAt.of_forall (h.type start ending)

@[gcongr]
theorem conjunction_agree (h : g.Agree text g') (ending : Ending) :
    Reader.Agree text (g.conjunction ending) (g'.conjunction ending) :=
  AgreeAt.of_forall (h.conjunction ending)

@[gcongr]
theorem operand_agree (h : g.Agree text g') (start : Start) (ending : Ending) :
    Reader.Agree text (g.operand start ending) (g'.operand start ending) :=
  AgreeAt.of_forall (h.operand start ending)

@[gcongr]
theorem expression_agree (h : g.Agree text g') (ending : Ending) :
    Reader.Agree text (g.expression ending) (g'.expression ending) := h.expression ending

@[gcongr]
theorem unary_agree (h : g.Agree text g') (ending : Ending) :
    Reader.Agree text (g.unary ending) (g'.unary ending) := h.unary ending

@[gcongr]
theorem simpleValue_agree (h : g.Agree text g') (ending : Ending) :
    Reader.Agree text (g.simpleValue ending) (g'.simpleValue ending) := h.simpleValue ending

@[gcongr]
theorem target_agree (h : g.Agree text g') (ending : Ending) :
    Reader.Agree text (g.target ending) (g'.target ending) := h.target ending

@[gcongr]
theorem pattern_agree (h : g.Agree text g') (start : Start) :
    Reader.Agree text (g.pattern start) (g'.pattern start) := h.pattern start

@[gcongr]
theorem objectMembers_agree (h : g.Agree text g') (start : Start) :
    Reader.Agree text (g.objectMembers start) (g'.objectMembers start) := h.objectMembers start

@[gcongr]
theorem declaration_agree (h : g.Agree text g') :
    Reader.Agree text g.declaration g'.declaration := h.declaration

@[gcongr]
theorem exportStatement_agree (h : g.Agree text g') :
    Reader.Agree text g.exportStatement g'.exportStatement := h.exportStatement

@[gcongr]
theorem statement_agree (h : g.Agree text g') :
    Reader.Agree text g.statement g'.statement := h.statement

@[gcongr]
theorem block_agree (h : g.Agree text g') : Reader.Agree text g.block g'.block := h.block

end Productions

namespace Grammar

/-! ## Patterns -/

@[gcongr]
theorem arguments_agree (h : g.Agree text g') :
    Reader.Agree text (arguments g) (arguments g') := by
  unfold arguments
  gcongr
  simp

@[gcongr]
theorem computedName_agree (h : g.Agree text g') :
    Reader.Agree text (computedName g) (computedName g') := by
  unfold computedName
  gcongr <;> simp

@[gcongr]
theorem initializer_agree (h : g.Agree text g') (ending : Ending) :
    Reader.Agree text (initializer g ending) (initializer g' ending) := by
  unfold initializer
  gcongr <;> simp

@[gcongr]
theorem defaultedPattern_agree (h : g.Agree text g') (start : Start) :
    Reader.Agree text (defaultedPattern g start) (defaultedPattern g' start) := by
  unfold defaultedPattern
  gcongr <;> simp

@[gcongr]
theorem bracketedDefault_agree (h : g.Agree text g') :
    Reader.Agree text (bracketedDefault g) (bracketedDefault g') := by
  unfold bracketedDefault
  gcongr <;> simp

@[gcongr]
theorem namedPatternPart_agree (h : g.Agree text g') (start : Start) (isWord : Bool) :
    Reader.Agree text (namedPatternPart g start isWord) (namedPatternPart g' start isWord) := by
  unfold namedPatternPart
  gcongr <;> simp

@[gcongr]
theorem objectPatternPart_agree (h : g.Agree text g') (start : Start) :
    Reader.Agree text (objectPatternPart g start) (objectPatternPart g' start) := by
  unfold objectPatternPart
  dsimp only
  gcongr <;> simp

@[gcongr]
theorem patternParts_agree {close : String} {part part' : Start → Reader Start} {start : Start}
    (h : ∀ start, Reader.Agree text (part start) (part' start)) :
    Reader.Agree text (patternParts close part start) (patternParts close part' start) := by
  unfold patternParts
  gcongr <;> simp [h]

@[gcongr]
theorem objectPattern_agree (h : g.Agree text g') (start : Start) :
    Reader.Agree text (objectPattern g start) (objectPattern g' start) := by
  unfold objectPattern
  gcongr
  simp

@[gcongr]
theorem arrayPattern_agree (h : g.Agree text g') (start : Start) :
    Reader.Agree text (arrayPattern g start) (arrayPattern g' start) := by
  unfold arrayPattern
  gcongr
  simp

@[gcongr]
theorem bracketPattern_agree (h : g.Agree text g') (start : Start) :
    Reader.Agree text (bracketPattern g start) (bracketPattern g' start) := by
  unfold bracketPattern
  gcongr
  simp

@[gcongr]
theorem pattern_agree (h : g.Agree text g') (start : Start) :
    Reader.Agree text (pattern g start) (pattern g' start) := by
  unfold pattern
  gcongr <;> simp

/-! ## Types after a mark -/

@[simp]
theorem remarkType?_agree : Reader.Agree text remarkType? remarkType? := by
  unfold remarkType?
  gcongr
  · simp
  · apply pure_agree
    intro type htype
    obtain ⟨kind, rfl⟩ := eq_of_remarkBefore? htype
    exact known_unsupported

@[gcongr]
theorem annotation_agree (h : g.Agree text g') (start : Start) (ending : Ending) :
    Reader.Agree text ( annotation g start ending) ( annotation g' start ending) := by
  unfold annotation
  gcongr <;> simp [*]

@[gcongr]
theorem colonType_agree (h : g.Agree text g') (ending : Ending) :
    Reader.Agree text (colonType g ending) (colonType g' ending) := by
  unfold colonType
  gcongr <;> simp [*]

/-! ## Results -/

theorem known_predicateSubject? {here : Cursor} (h : known text here) :
    known text (predicateSubject? here) := by
  unfold predicateSubject?
  split
  · exact known_some.mpr (known_next h)
  · split
    · exact known_some.mpr (known_next (known_next h))
    · exact known_none

@[gcongr]
theorem predicate?_agree (h : g.Agree text g') (ending : Ending) :
    Reader.Agree text (predicate? g ending) (predicate? g' ending) := by
  unfold predicate?
  dsimp only
  gcongr with here hhere
  any_goals simp
  have hsubject := known_predicateSubject? hhere
  cases hafter : predicateSubject? here with
  | none => simp
  | some after =>
    rw [hafter, known_some] at hsubject
    dsimp only
    gcongr <;> simp [*]

@[gcongr]
theorem result_agree (h : g.Agree text g') (ending : Ending) :
    Reader.Agree text (result g ending) (result g' ending) := by
  unfold result
  gcongr with found hfound
  cases found with
  | none => dsimp only; gcongr; simp [*]
  | some type => simpa using hfound

@[gcongr]
theorem annotatedResult_agree (h : g.Agree text g') (ending : Ending) :
    Reader.Agree text (annotatedResult g ending) (annotatedResult g' ending) := by
  unfold annotatedResult
  gcongr with found hfound
  cases found with
  | none => dsimp only; gcongr; simp [*]
  | some type => simpa using hfound

@[gcongr]
theorem colonResult_agree (h : g.Agree text g') (ending : Ending) :
    Reader.Agree text (colonResult g ending) (colonResult g' ending) := by
  unfold colonResult
  gcongr <;> simp

/-! ## Type parameters and arguments -/

@[gcongr]
theorem typeParam_agree (h : g.Agree text g') :
    Reader.Agree text (typeParam g) (typeParam g') := by
  unfold typeParam
  dsimp only
  gcongr <;> simp [*]

@[gcongr]
theorem typeParams_agree (h : g.Agree text g') :
    Reader.Agree text (typeParams g) (typeParams g') := by
  unfold typeParams
  gcongr <;> simp [*]

@[gcongr]
theorem nextTypeArg_agree (h : g.Agree text g') {list : TypeList} (hlist : known text list) :
    Reader.Agree text (nextTypeArg g list) (nextTypeArg g' list) := by
  unfold nextTypeArg
  dsimp only
  gcongr <;> simp [*]

@[gcongr]
theorem typeArgs_agree (h : g.Agree text g') (start : Start) :
    Reader.Agree text (typeArgs g start) (typeArgs g' start) := by
  unfold typeArgs
  gcongr
  simp [*]

/-! ## Decorators -/

@[gcongr]
theorem decoratorTarget_agree (h : g.Agree text g') :
    Reader.Agree text (decoratorTarget g) (decoratorTarget g') := by
  unfold decoratorTarget
  gcongr <;> simp

@[gcongr]
theorem decorator_agree (h : g.Agree text g') :
    Reader.Agree text (decorator g) (decorator g') := by
  unfold decorator
  gcongr <;> simp

@[gcongr]
theorem decorators_agree (h : g.Agree text g') :
    Reader.Agree text (decorators g) (decorators g') := by
  unfold decorators
  gcongr <;> simp

/-! ## Parameters -/

theorem nameBetween?_ne_this {start stop : Cursor} {name : String}
    (h : nameBetween? start stop = some name) : name ≠ "this" := by
  unfold nameBetween? at h
  split at h
  · rename_i hname
    cases h
    simp only [Bool.and_eq_true, Token.isWordBut] at hname
    rintro hthis
    simp [hthis] at hname
  · cases h

@[gcongr]
theorem restName_agree (h : g.Agree text g') :
    Reader.Agree text (restName g) (restName g') := by
  unfold restName
  gcongr
  any_goals simp
  split
  · rename_i hname
    exact pure_agree (nameBetween?_ne_this hname)
  · simp

@[gcongr]
theorem paramName_agree (h : g.Agree text g') (start : Start) :
    Reader.Agree text (paramName g start) (paramName g' start) := by
  unfold paramName
  gcongr
  any_goals simp
  split
  · rename_i hname
    exact pure_agree (nameBetween?_ne_this hname)
  · simp

@[simp]
theorem acceptParamModifier_agree {words : List String} :
    Reader.Agree text (acceptParamModifier words) (acceptParamModifier words) := by
  unfold acceptParamModifier
  gcongr <;> simp [*]

@[simp]
theorem paramModifiers_agree : Reader.Agree text paramModifiers paramModifiers := by
  unfold paramModifiers
  gcongr <;> simp

@[gcongr]
theorem paramTail_agree (h : g.Agree text g') {name : ParamName} (hname : known text name) :
    Reader.Agree text (paramTail g name) (paramTail g' name) := by
  unfold paramTail optionalMark
  gcongr <;> simp [*]

@[gcongr]
theorem modifiedParam_agree (h : g.Agree text g') (start : Start) :
    Reader.Agree text (modifiedParam g start) (modifiedParam g' start) := by
  unfold modifiedParam
  gcongr <;> simp

@[gcongr]
theorem param_agree (h : g.Agree text g') (start : Start) :
    Reader.Agree text (param g start) (param g' start) := by
  unfold param
  dsimp only
  gcongr
  simp

@[gcongr]
theorem nextParam_agree (h : g.Agree text g') {list : ParamList} (hlist : known text list) :
    Reader.Agree text (nextParam g list) (nextParam g' list) := by
  unfold nextParam
  dsimp only
  gcongr <;> simp [*]

@[gcongr]
theorem writtenParams_agree (h : g.Agree text g') (start : Start) :
    Reader.Agree text (writtenParams g start) (writtenParams g' start) := by
  unfold writtenParams
  gcongr <;> simp

@[gcongr]
theorem params_agree (h : g.Agree text g') (start : Start) :
    Reader.Agree text (params g start) (params g' start) := by
  obtain ⟨depth, rfl⟩ := h.nested
  intro place hplace
  rw [params_eq, params_eq]
  refine bind_agreeAt (writtenParams_agree h start place hplace).answers
    fun written rest hwritten hrest hread => ?_
  have hparams : ReadParams text (numberParams 0 written) :=
    ⟨written, ⟨depth, start, place, rest, hplace, hread⟩, rfl⟩
  exact pure_agreeAt hrest ⟨known_numberParams hwritten 0, hparams⟩ trivial

@[gcongr]
theorem signature_agree (h : g.Agree text g') (ending : Ending) :
    Reader.Agree text (signature g ending) (signature g' ending) := by
  unfold signature
  gcongr
  simp [*]

end Grammar

end Facade
