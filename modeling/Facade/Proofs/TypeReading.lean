-- Types agree when the forms they nest do. The members of a union or intersection are kept flat by
-- what the type before a joint leaves behind.
import Facade.Proofs.SignatureReading

namespace Facade

open Reader Grammar

variable {text : List Char} {g g' : Productions}

namespace Grammar

/-! ## Names and words -/

@[simp]
theorem importEnds_agree {start : Start} {ending : Ending} :
    Reader.Agree text (importEnds start ending) (importEnds start ending) := by
  unfold importEnds
  gcongr <;> simp

theorem acceptJoint?_apply (ending : Ending) (mark : String) (here : Cursor) :
    acceptJoint? ending mark here =
      if ending.joinsAt mark (ending.view here) then
        .ok (some (ending.view here).token) (ending.view here).next
      else .ok none (ending.view here) := by
  unfold acceptJoint? Ending.view Ending.joinsAt
  dsimp only
  split <;> simp only [bind_apply, look, Reader.place] <;> split <;> rfl

@[simp]
theorem acceptJoint?_agree {ending : Ending} {mark : String} :
    Reader.Agree text (acceptJoint? ending mark) (acceptJoint? ending mark) := by
  unfold acceptJoint?
  dsimp only
  gcongr <;> simp [*]

@[gcongr]
theorem typeAfterWord_agree {type type' : Reader ReadType} (h : Reader.Agree text type type') :
    Reader.Agree text (typeAfterWord type) (typeAfterWord type') := by
  unfold typeAfterWord
  gcongr <;> simp [*]

@[simp]
theorem nextSegment_agree {ending : Ending} :
    Reader.Agree text (nextSegment ending) (nextSegment ending) := by
  unfold nextSegment
  gcongr <;> simp

@[simp]
theorem dottedName_agree {ending : Ending} :
    Reader.Agree text (dottedName ending) (dottedName ending) := by
  unfold dottedName
  gcongr <;> simp

@[simp]
theorem nextNamePart_agree {ending : Ending} {shared : Bool} :
    Reader.Agree text (nextNamePart ending shared) (nextNamePart ending shared) := by
  unfold nextNamePart
  gcongr <;> simp

@[gcongr]
theorem namedType_agree (h : g.Agree text g') (ending : Ending) (name : String) (shared : Bool) :
    Reader.Agree text (namedType g ending name shared) (namedType g' ending name shared) := by
  unfold namedType
  gcongr
  any_goals simp
  split
  · gcongr
    simp [simple, *]
  · simp

@[gcongr]
theorem reference_agree (h : g.Agree text g') (start : Start) (ending : Ending) :
    Reader.Agree text (reference g start ending) (reference g' start ending) := by
  unfold reference
  gcongr <;> simp

@[simp]
theorem optionalQueryPart_agree : Reader.Agree text optionalQueryPart optionalQueryPart := by
  unfold optionalQueryPart
  dsimp only
  gcongr <;> simp

@[gcongr]
theorem queryTail_agree (h : g.Agree text g') (ending : Ending) (shape : QueryShape) :
    Reader.Agree text (queryTail g ending shape) (queryTail g' ending shape) := by
  unfold queryTail
  dsimp only
  gcongr <;> simp [*]

@[gcongr]
theorem typeQuery_agree (h : g.Agree text g') (start : Start) (ending : Ending) :
    Reader.Agree text (typeQuery g start ending) (typeQuery g' start ending) := by
  unfold typeQuery
  dsimp only
  gcongr <;> simp

@[gcongr]
theorem importTail_agree (h : g.Agree text g') (ending : Ending) (called : Bool) :
    Reader.Agree text (importTail g ending called) (importTail g' ending called) := by
  unfold importTail
  dsimp only
  gcongr <;> simp

@[gcongr]
theorem importType_agree (h : g.Agree text g') (start : Start) (ending : Ending) :
    Reader.Agree text (importType g start ending) (importType g' start ending) := by
  unfold importType
  gcongr <;> simp [loose]

theorem literalWord?_isKnown {word : String} {kind : LiteralKind} (h : literalWord? word = some kind) :
    kind.IsKnown := by
  intro label hlabel
  subst hlabel
  unfold literalWord? at h
  split at h <;> cases h

@[simp]
theorem known_constBefore {ending : Ending} {here : Cursor} :
    known text (constBefore ending here) := by
  unfold constBefore
  dsimp only
  split <;> simp [constType]

@[simp]
theorem constWord_agree {ending : Ending} :
    Reader.Agree text (constWord ending) (constWord ending) := by
  unfold constWord
  gcongr <;> simp [simple]

@[gcongr]
theorem wordType_agree (h : g.Agree text g') (start : Start) (ending : Ending) (first : Token) :
    Reader.Agree text (wordType g start ending first) (wordType g' start ending first) := by
  unfold wordType
  gcongr
  any_goals simp [simple]
  split
  · rename_i hkind
    gcongr
    · simp
    · exact pure_agree (known_literal.mpr (literalWord?_isKnown hkind))
  · gcongr

/-! ## Brackets -/

@[simp]
theorem openingBrace_agree : Reader.Agree text openingBrace openingBrace := by
  unfold openingBrace
  gcongr <;> simp [*]

@[gcongr]
theorem objectType_agree (h : g.Agree text g') (start : Start) :
    Reader.Agree text (objectType g start) (objectType g' start) := by
  unfold objectType
  gcongr <;> simp [*]

@[simp]
theorem acceptLabel_agree {start : Start} :
    Reader.Agree text (acceptLabel start) (acceptLabel start) := by
  unfold acceptLabel
  refine bind_agree look_agree fun here hhere => ?_
  have hsecond : known text (if (start != .plain) = true then here.next else here.next.withMarkup) := by
    simp [*]
  dsimp only
  generalize (if (start != .plain) = true then here.next else here.next.withMarkup) = second at hsecond ⊢
  have hthird : known text second.next.withMarkup := by simp [hsecond]
  gcongr <;> simp [*]

@[gcongr]
theorem tupleRest_agree (h : g.Agree text g') (start : Start) :
    Reader.Agree text (tupleRest g start) (tupleRest g' start) := by
  unfold tupleRest
  dsimp only
  gcongr <;> simp

@[gcongr]
theorem tuplePart_agree (h : g.Agree text g') (start : Start) :
    Reader.Agree text (tuplePart g start) (tuplePart g' start) := by
  unfold tuplePart
  gcongr <;> simp

@[gcongr]
theorem tupleType_agree (h : g.Agree text g') (start : Start) :
    Reader.Agree text (tupleType g start) (tupleType g' start) := by
  unfold tupleType
  dsimp only
  gcongr <;> simp [simple]

@[gcongr]
theorem typeInParentheses_agree (h : g.Agree text g') (start : Start) :
    Reader.Agree text (typeInParentheses g start) (typeInParentheses g' start) := by
  unfold typeInParentheses
  dsimp only
  gcongr <;> simp [*]

@[gcongr]
theorem groupedType_agree (h : g.Agree text g') (start : Start) :
    Reader.Agree text (groupedType g start) (groupedType g' start) := by
  unfold groupedType
  gcongr <;> simp [simple, *]

@[simp]
theorem signedNumber_agree {start : Start} :
    Reader.Agree text (signedNumber start) (signedNumber start) := by
  unfold signedNumber
  gcongr <;> simp

@[gcongr]
theorem templateType_agree (h : g.Agree text g') (start : Start) :
    Reader.Agree text (templateType g start) (templateType g' start) := by
  unfold templateType
  gcongr with here hhere
  · simp
  · simp [*]
  · rename_i state hstate
    obtain ⟨here, start⟩ := state
    dsimp only
    cases hstop : here.templateStop? false with
    | none => simp
    | some found =>
      obtain ⟨stop, rest⟩ := found
      have hrest : known text rest := Cursor.In.templateStop? hstate.1 hstop
      cases stop with
      | close =>
        dsimp only
        gcongr <;> simp [*]
      | code =>
        dsimp only
        gcongr <;> simp [*]
  · simp [simple]

end Grammar

end Facade
