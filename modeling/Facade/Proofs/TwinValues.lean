-- Values at twins.
import Facade.Proofs.TwinMembers

namespace Facade

open Lexer Reader Grammar

set_option synthInstance.maxSize 4096

/-! ## Operators -/

namespace Twin

variable {s : Spot} {place twin : Cursor}

theorem text_ne_of_chars (h : Twin s place twin) (hne : place.chars ≠ []) :
    place.token.text ≠ "" := by
  cases h with
  | ahead h => exact h.text_ne_empty
  | here => exact s.text_ne_empty
  | past hin hleft hcut => exact hcut.resolve_right fun hend => hne hend.2

/-- No slash starts a token in front of the spot. -/
theorem skip_slash (h : Twin s place twin) (hslash : place.chars.head? = some '/') {count : Nat}
    (hpos : 0 < count) :
    Twin s (place.skip count) (twin.skip count) := by
  have hne : place.token.text ≠ "" := h.text_ne_of_chars fun hnil => by
    rw [hnil] at hslash
    cases hslash
  have hhead : place.token.text.toList.head? = some '/' := by
    cases htext : place.token.text.toList with
    | nil => exact absurd (String.toList_eq_nil_iff.mp htext) hne
    | cons c more =>
      rw [Cursor.chars, htext] at hslash
      exact hslash
  have hafter := h.after_eq hhead (.inl rfl)
  rw [h.skip_eq hafter]
  exact h.skip_self hafter hne hpos

/-- An operator is passed alike. -/
theorem skip_operator (h : Twin s place twin) {text : String}
    (hmem : text ∈ updatingOperators ++ binaryOperators)
    (hstart : text.toList.isPrefixOf place.chars) :
    Twin s (place.skip text.length) (twin.skip text.length) := by
  have hall : ∀ text ∈ updatingOperators ++ binaryOperators, text ≠ "" ∧ isJoined text.toList ∧
      (text.toList.head? = some '/' ∨
        text.toList.all fun c => operatorChars.contains c) := by decide
  obtain ⟨hne, hjoined, hslash | hchars⟩ := hall text hmem
  · refine h.skip_slash ?_ (length_pos_of_ne_empty hne)
    obtain ⟨rest, hrest⟩ := List.isPrefixOf_iff_prefix.mp hstart
    rw [← hrest, List.head?_append, hslash, Option.some_or]
  · exact (h.skip hne hjoined hchars hstart).1

end Twin

section

variable {s : Spot} {g g' : Productions} [h : Productions.Alike s g g']

instance operator?_same {place twin : Cursor} [h : Twin s place twin] :
    SameValue (operator? place) (operator? twin) := by
  have hmark : SameValue (place.token.kind != .mark || place.token.isMark "=>")
    (twin.token.kind != .mark || twin.token.isMark "=>") := inferInstance
  refine ⟨?_⟩
  unfold operator?
  rw [hmark.eq, sizeOfAny?_eq (by decide) h, sizeOfAny?_eq (by decide) h, h.isMark_eq]

instance startsOnlyType_same {place twin : Cursor} [h : Twin s place twin] :
    SameValue (startsOnlyType place) (startsOnlyType twin) := by
  unfold startsOnlyType
  infer_instance

instance startsValue_same {place twin : Cursor} [h : Twin s place twin] :
    SameValue (startsValue place) (startsValue twin) := by
  unfold startsValue
  infer_instance

/-! ## Lists of values -/

instance sequence_alike (ending : Ending) :
    ReadsAlike s Eq (Grammar.sequence g ending) (Grammar.sequence g' ending) := by
  unfold Grammar.sequence
  infer_instance

instance arrayElements_alike : ReadsAlike s Eq (arrayElements g) (arrayElements g') := by
  unfold arrayElements
  infer_instance

instance objectPart_alike : ReadsAlike s Eq (objectPart g) (objectPart g') := by
  unfold objectPart
  infer_instance

instance objectParts_alike : ReadsAlike s Eq (objectParts g) (objectParts g') := by
  unfold objectParts
  infer_instance

theorem templateValue_alike {place twin : Cursor} (htwin : PastTwins s place twin) :
    Reply.Alike s Eq (templateValue g place) (templateValue g' twin) := by
  unfold templateValue
  refine .place ((ReadsAlike.loop (PastTwins s) (fun here here' hkept => ?_) htwin).alike
    htwin.alike)
  obtain ⟨hhere, hafter, hne⟩ := hkept
  rw [hhere.templateStop?_eq hafter]
  cases hstop : here.templateStop? true with
  | none => exact fail_alike
  | some found =>
    obtain ⟨stop, rest⟩ := found
    have hself := (hhere.templateStop?_self hafter hne hstop).1
    cases stop with
    | close => exact ⟨fun _ => .ok rfl hself⟩
    | code =>
      refine ⟨fun _ => .goTo ?_⟩
      refine .bind_self (sequence_alike .value) (sequence_agree h.agree .value) hself
        fun _ rest hrest => .look (.require fun hclose => ?_)
      have htext : rest.withMarkup.token.text =
        "\x7d" := by simpa using (Bool.and_eq_true_iff.1 hclose).2
      refine .ok ⟨hrest.withMarkup, rfl, ?_⟩ hrest.withMarkup
      rw [htext]
      decide

/-! ## Functions -/

instance functionTail_alike : ReadsAlike s Eq (functionTail g) (functionTail g') := by
  unfold functionTail
  infer_instance

instance arrowBody_alike (ending : Ending) :
    ReadsAlike s Eq (arrowBody g ending) (arrowBody g' ending) := by
  unfold arrowBody
  infer_instance

instance annotatedArrow_clear (ending : Ending) :
    ReadsClear s Eq (annotatedArrow g ending) (annotatedArrow g' ending) := by
  unfold annotatedArrow
  dsimp only
  infer_instance

instance arrowFunction_alike (ending : Ending) :
    ReadsAlike s Eq (arrowFunction g ending) (arrowFunction g' ending) := by
  unfold arrowFunction
  infer_instance

instance arrowLikely_same {place twin : Cursor} [h : Twin s place twin] :
    SameValue (arrowLikely place) (arrowLikely twin) := by
  unfold arrowLikely
  infer_instance

/-! ## Accesses -/

instance optionalPart_alike (shape : ValueShape) :
    ReadsAlike s Eq (optionalPart g shape) (optionalPart g' shape) := by
  unfold optionalPart
  infer_instance

omit h in
theorem optionalPart_rejects {place : Cursor} (hpointed : place.IsPointed) (g : Productions)
    (shape : ValueShape) :
    ∃ failure, optionalPart g shape place = .reject failure := by
  obtain ⟨failure, htake⟩ := take_rejects_of_isPointed hpointed
  have hbracket := @Cursor.IsPointed.isMark _ hpointed "[" (by decide)
  have hopen := @Cursor.IsPointed.isMark _ hpointed "(" (by decide)
  have hless := @Cursor.IsPointed.isMark _ hpointed "<" (by decide)
  refine ⟨failure, ?_⟩
  change (if place.withMarkup.token.isMark "[" then _ else
    if startsSignature place.withMarkup.token then _ else _ : Reader ValueShape) place.withMarkup =
      _
  rw [hpointed.settled, if_neg (by simp [hbracket]),
    if_neg (by simp [startsSignature, hopen, hless]), bind_apply,
    htake]

omit h in
/-- The spot does not follow a question mark or a point. -/
theorem Twin.head?_after_point {place twin : Cursor} (h : Twin s place twin)
    (hopen : place.token.text ∈ openers)
    (hpoint : place.touches ".") : (twin.after.drop 1).head? = (place.after.drop 1).head? := by
  cases h with
  | @ahead token more before h hmore =>
    match more with
    | [] =>
      rcases h.last rfl with heq | ⟨heq, -⟩
      · exact absurd (heq ▸ hopen) s.noOpener
      · exact absurd hopen (by rw [heq]; decide)
    | [c] =>
      have hc : c = '.' := by
        have hpoint : ['.'].isPrefixOf (c :: s.rest) := hpoint
        rw [List.isPrefixOf, Bool.and_eq_true, beq_iff_eq] at hpoint
        exact hpoint.1.symm
      subst hc
      exact absurd (hmore.getLast? (List.cons_ne_nil _ _)).symm s.noPoint
    | c :: d :: more => rfl
  | here => rfl
  | past => rfl

instance optionalNext_same {place twin : Cursor} [h : Twin s place twin] :
    SameValue (optionalNext place) (optionalNext twin) := by
  unfold optionalNext
  cases hmark : place.token.isMark "?" with
  | false => exact ⟨by rw [h.isMark_eq, hmark]; rfl⟩
  | true =>
    have htext : place.token.text = "?" := by simpa using (Bool.and_eq_true_iff.1 hmark).2
    have htouches : twin.touches "." = place.touches "." := h.touches_eq (by rw [htext]; decide)
    refine ⟨?_⟩
    rw [h.isMark_eq, hmark, htouches]
    cases hpoint : place.touches "." with
    | false => rfl
    | true => rw [h.head?_after_point (by rw [htext]; decide) hpoint]

omit h in
/-- A template that starts at a place starts at its twin too. -/
theorem Twin.pastTwins {place twin : Cursor} (h : Twin s place twin)
    (htext : place.token.text = "`") :
    PastTwins s place twin :=
  ⟨h, h.after_eq (by rw [htext]; rfl) (.inr rfl), by rw [htext]; decide⟩

instance accessTail?_alike (shape : ValueShape) :
    ReadsAlike s Eq (accessTail? g shape) (accessTail? g' shape) := by
  unfold accessTail?
  refine ⟨fun {place twin} htwin =>
    .place (.ite (fun _ => ReadsAlike.alike htwin) (.ite (fun hoptional => ?_)
    (.ite (fun _ => ReadsAlike.alike htwin)
      (.ite (fun htemplate => ?_) (ReadsAlike.alike htwin)))))⟩
  · rw [optionalNext, Bool.and_eq_true_iff, Bool.and_eq_true_iff] at hoptional
    refine .goTo ?_
    rcases htwin.skip_point hoptional.1.1 hoptional.1.2 with hskip | ⟨hpointed, hpointed'⟩
    · exact ReadsAlike.alike hskip
    · exact .of_rejects (optionalPart_rejects hpointed g shape)
        (optionalPart_rejects hpointed' g' shape) _ _
  · have htext : place.token.text = "`" := by
      rw [Bool.and_eq_true_iff, Token.isMark, Bool.and_eq_true_iff, beq_iff_eq,
        beq_iff_eq] at htemplate
      exact htemplate.1.2
    exact (templateValue_alike (htwin.pastTwins htext)).bind fun _ _ _ _ _ _ _ hrest =>
      .ok rfl hrest

/-! ## Values without operators -/

instance wordItself_alike {place twin : Cursor} [Twin s place twin] (shape : ValueShape) :
    ReadsAlike s Eq (wordItself place shape) (wordItself twin shape) := by
  unfold wordItself
  infer_instance

instance asyncValue_alike (ending : Ending) {place twin : Cursor} [Twin s place twin] :
    ReadsAlike s Eq (asyncValue g ending place) (asyncValue g' ending twin) := by
  unfold asyncValue
  dsimp only
  infer_instance

instance constructor_alike (ending : Ending) {place twin : Cursor} [Twin s place twin] :
    ReadsAlike s Eq (Grammar.constructor g ending place) (Grammar.constructor g' ending twin) := by
  unfold Grammar.constructor
  dsimp only
  refine .ite (fun _ => .andThen fun shape => ?_)
    (.ite (fun _ => .andThen fun shape => ?_) (.andThen fun shape => ?_))
  all_goals
    refine @loop_alike _ _ _ _ _ _ _ inferInstance fun shape => place_alike (h := fun places => .ite
      (fun _ => inferInstance) (.andThen fun found => ?_))
    cases found <;> infer_instance

instance newValue_alike (ending : Ending) {place twin : Cursor} [Twin s place twin] :
    ReadsAlike s Eq (newValue g ending place) (newValue g' ending twin) := by
  unfold newValue
  dsimp only
  infer_instance

instance importValue_alike {place twin : Cursor} [Twin s place twin] :
    ReadsAlike s Eq (importValue g place) (importValue g' twin) := by
  unfold importValue
  dsimp only
  infer_instance

instance namespaceValue_alike (ending : Ending) {place twin : Cursor} [Twin s place twin] :
    ReadsAlike s Eq (namespaceValue g ending place) (namespaceValue g' ending twin) := by
  unfold namespaceValue
  dsimp only
  infer_instance

instance wordValue_alike (ending : Ending) {place twin : Cursor} [htwin : Twin s place twin] :
    ReadsAlike s Eq (wordValue g ending place) (wordValue g' ending twin) := by
  unfold wordValue
  rw [htwin.text_eq]
  dsimp only
  split
  case h_5 =>
    refine .ite (fun _ => inferInstance) (.ite (fun _ => inferInstance) ?_)
    split <;> infer_instance
  all_goals infer_instance

instance groupedValue_alike : ReadsAlike s Eq (groupedValue g) (groupedValue g') := by
  unfold groupedValue
  infer_instance

instance isAssigned_same {place twin : Cursor} [h : Twin s place twin] :
    SameValue (isAssigned place) (isAssigned twin) := by
  unfold isAssigned
  infer_instance

theorem markValue_alike (ending : Ending) {place twin : Cursor} (htwin : Twin s place twin) :
    Reply.Alike s Eq (markValue g ending place place) (markValue g' ending twin twin) := by
  unfold markValue
  rw [htwin.text_eq]
  generalize htext : place.token.text = text
  split
  case h_5 =>
    exact (templateValue_alike (htwin.pastTwins htext)).bind fun _ _ _ _ _ _ _ hrest =>
      .ok rfl hrest
  case h_6 =>
    have hhead : place.token.text.toList.head? = some '/' := by rw [htext]; rfl
    have hslash : place.chars.head? =
      some '/' := by rw [Cursor.chars, List.head?_append, hhead, Option.some_or]
    rw [htwin.after_eq hhead (.inl rfl)]
    cases regexSize? place.after with
    | none => exact .reject _ _
    | some size => exact .goTo (.ok rfl (htwin.skip_slash hslash (by omega)))
  all_goals exact ReadsAlike.alike htwin

instance simpleValue_alike (ending : Ending) :
    ReadsAlike s Eq (Grammar.simpleValue g ending) (Grammar.simpleValue g' ending) := by
  unfold Grammar.simpleValue
  refine ⟨fun {place twin} htwin => .look ?_⟩
  have hmarkup : Twin s place.withMarkup twin.withMarkup := htwin.withMarkup
  rw [hmarkup.kind_eq]
  cases place.withMarkup.token.kind with
  | mark => exact .goTo (markValue_alike ending hmarkup)
  | _ => exact ReadsAlike.alike hmarkup

/-! ## Calls -/

instance headArgsNext_alike (ending : Ending) :
    ReadsAlike s Eq (headArgsNext g ending) (headArgsNext g' ending) := by
  unfold headArgsNext
  infer_instance

instance doubled_plus_same {place twin : Cursor} [Twin s place twin] :
    SameValue (doubled place "+") (doubled twin "+") := by
  unfold doubled
  infer_instance

instance doubled_minus_same {place twin : Cursor} [Twin s place twin] :
    SameValue (doubled place "-") (doubled twin "-") := by
  unfold doubled
  infer_instance

omit h in
/-- A mark that comes twice is passed alike. -/
theorem Twin.skip_doubled {place twin : Cursor} (h : Twin s place twin)
    (hdoubled : doubled place "+" || doubled place "-") : Twin s (place.skip 2) (twin.skip 2) := by
  rw [Bool.or_eq_true, doubled, doubled, Bool.and_eq_true, Bool.and_eq_true] at hdoubled
  rcases hdoubled with ⟨hmark, htouches⟩ | ⟨hmark, htouches⟩
  all_goals exact h.skip_marks (by decide) (by decide) (by decide) hmark htouches rfl

instance operandNext_same {place twin : Cursor} [h : Twin s place twin] :
    SameValue (operandNext place) (operandNext twin) := by
  have hdoubled : SameValue (doubled place "+" || doubled place "-")
    (doubled twin "+" || doubled twin "-") := inferInstance
  refine ⟨?_⟩
  unfold operandNext
  rw [hdoubled.eq]
  split
  · next hskip => exact (@startsValue_same _ _ _ (h.skip_doubled hskip)).eq
  · exact startsValue_same.eq

instance appliedValue_alike (ending : Ending) (shape : ValueShape) :
    ReadsAlike s Eq (appliedValue g ending shape) (appliedValue g' ending shape) := by
  unfold appliedValue
  dsimp only
  infer_instance

instance valueTail_alike (ending : Ending) (shape : ValueShape) :
    ReadsAlike s Eq (valueTail g ending shape) (valueTail g' ending shape) := by
  unfold valueTail
  refine place_alike (h := fun places =>
    .ite (fun _ => inferInstance) (.ite (fun _ => inferInstance)
    (.ite (fun hdoubled => ?_) (.ite (fun _ => inferInstance) ?_))))
  · have hskip := places.alike.skip_doubled hdoubled
    infer_instance
  · refine .andThen fun found => ?_
    cases found <;> infer_instance

instance valueTails_alike (ending : Ending) (shape : ValueShape) :
    ReadsAlike s Eq (valueTails g ending shape) (valueTails g' ending shape) := by
  unfold valueTails
  infer_instance

instance target_alike (ending : Ending) :
    ReadsAlike s Eq (Grammar.target g ending) (Grammar.target g' ending) := by
  unfold Grammar.target
  infer_instance

/-! ## Values with operators -/

instance yieldedValue_alike (ending : Ending) :
    ReadsAlike s Eq (yieldedValue g ending) (yieldedValue g' ending) := by
  unfold yieldedValue
  infer_instance

instance usedValue_alike (ending : Ending) :
    ReadsAlike s Eq (usedValue g ending) (usedValue g' ending) := by
  unfold usedValue
  infer_instance

instance unary_alike (ending : Ending) :
    ReadsAlike s Eq (Grammar.unary g ending) (Grammar.unary g' ending) := by
  unfold Grammar.unary
  infer_instance

omit h in
/-- The operator that comes next is passed alike. -/
theorem Twin.skip_of_operator? {place twin : Cursor} (h : Twin s place twin) {size : Nat}
    (hoperator : operator? place = some (.updates size) ∨ operator? place = some (.computes size)) :
    Twin s (place.skip size) (twin.skip size) := by
  have hsize : sizeOfAny? updatingOperators place.chars = some size ∨
      sizeOfAny? binaryOperators place.chars = some size := by
    unfold operator? at hoperator
    split at hoperator
    · simp at hoperator
    · split at hoperator
      · simp_all
      · simp_all
      · split at hoperator <;> simp at hoperator
  rcases hsize with hsize | hsize
  · obtain ⟨text, hmem, hstart, rfl⟩ := exists_of_sizeOfAny? hsize
    exact h.skip_operator (List.mem_append_left _ hmem) hstart
  · obtain ⟨text, hmem, hstart, rfl⟩ := exists_of_sizeOfAny? hsize
    exact h.skip_operator (List.mem_append_right _ hmem) hstart

theorem operatorTail_alike (ending : Ending) (shape : ValueShape) {place twin : Cursor}
    [htwin : Twin s place twin]
    {operator : Operator} (hoperator : operator? place = some operator) :
    ReadsAlike s Eq (operatorTail g ending shape place operator)
      (operatorTail g' ending shape twin operator) := by
  unfold operatorTail
  cases operator with
  | assigns =>
    dsimp only
    infer_instance
  | updates size =>
    have hskip := htwin.skip_of_operator? (.inl hoperator)
    dsimp only
    infer_instance
  | computes size =>
    have hskip := htwin.skip_of_operator? (.inr hoperator)
    dsimp only
    infer_instance

instance expressionTail_alike (ending : Ending) (shape : ValueShape) :
    ReadsAlike s Eq (expressionTail g ending shape) (expressionTail g' ending shape) := by
  unfold expressionTail
  dsimp only
  refine place_alike (h := fun places => .andThen fun found => .ite (fun _ => inferInstance)
    (.ite (fun _ => inferInstance)
      (.ite (fun _ => inferInstance) (.ite (fun _ => inferInstance) ?_))))
  have hsame : SameValue (operator? places.place) (operator? places.twin) := inferInstance
  rw [hsame.eq]
  cases hoperator : operator? places.place with
  | none => infer_instance
  | some operator => exact operatorTail_alike ending shape hoperator

instance expression_alike (ending : Ending) :
    ReadsAlike s Eq (Grammar.expression g ending) (Grammar.expression g' ending) := by
  unfold Grammar.expression
  infer_instance

end

end Facade
