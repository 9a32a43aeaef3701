-- Types at twins.
import Facade.Proofs.TwinSignatures
import Facade.Proofs.TypeReading
import Facade.Proofs.TokenRuns

namespace Facade

open Lexer Reader Grammar

set_option synthInstance.maxSize 4096

section

variable {s : Spot} {g g' : Productions} [h : Productions.Alike s g g']

/-! ## Types -/

instance importEnds_alike (start : Start) (ending : Ending) :
    ReadsAlike s Eq (importEnds start ending) (importEnds start ending) := by
  unfold importEnds
  cases ending <;> infer_instance

instance joinsAt_same (ending : Ending) (text : String) [IsJoint text] {place twin : Cursor}
    [Twin s place twin] :
    SameValue (ending.joinsAt text place) (ending.joinsAt text twin) := by
  unfold Ending.joinsAt
  infer_instance

/-- A joint is a token twin of the other. -/
instance acceptJoint?_alike (ending : Ending) (text : String) [IsJoint text] {β : Type}
    {relatedTo : β → β → Prop} {next next' : Option Token → Reader β}
    [hsome : ∀ tokens : TokenTwins, ReadsAlike s relatedTo (next (some tokens.token))
      (next' (some tokens.twin))]
    [hnone : ReadsAlike s relatedTo (next none) (next' none)] :
    ReadsAlike s relatedTo (acceptJoint? ending text >>= next)
      (acceptJoint? ending text >>= next') := by
  refine ⟨fun {place twin} htwin => ?_⟩
  have hview := htwin.view ending
  have hjoins : SameValue (ending.joinsAt text (ending.view place))
      (ending.joinsAt text (ending.view twin)) :=
    inferInstance
  rw [bind_apply, bind_apply, acceptJoint?_apply, acceptJoint?_apply, hjoins.eq]
  cases ending.joinsAt text (ending.view place) with
  | true => exact (hsome ⟨_, _, hview.token⟩).alike hview.next
  | false => exact hnone.alike hview

instance typeAfterWord_clear {type type' : Reader ReadType} [ReadsAlike s Eq type type'] :
    ReadsClear s Eq (typeAfterWord type) (typeAfterWord type') := by
  unfold typeAfterWord
  infer_instance

instance nextSegment_alike (ending : Ending) :
    ReadsAlike s Eq (nextSegment ending) (nextSegment ending) := by
  unfold nextSegment
  infer_instance

instance nextNamePart_alike (ending : Ending) (shared : Bool) :
    ReadsAlike s Eq (nextNamePart ending shared) (nextNamePart ending shared) := by
  unfold nextNamePart
  infer_instance

instance namedType_alike (ending : Ending) (name : String) (shared : Bool) :
    ReadsAlike s Eq (namedType g ending name shared) (namedType g' ending name shared) := by
  unfold namedType
  infer_instance

/-- The spot is not behind the place. -/
def Spot.IsAhead (s : Spot) (place : Cursor) : Prop :=
  (∃ twin, Twin s place twin) ∧ s.rest.length ≤ place.left + place.gap

omit h in
/-- The spot is not next to a dot in a name. -/
theorem isAhead_of_segment {α : Type} {ending : Ending} {next last found : α} {place rest : Cursor}
    (hahead : s.IsAhead place)
    (hread : (do
      if ← continueWith ending (·.isMark ".") then
        let _ ← word
        return next
      return last : Reader α) place = .ok found rest) : s.IsAhead rest := by
  obtain ⟨⟨twin, htwin⟩, hleft⟩ := hahead
  have hself : ending.view place = place := by
    unfold Ending.view
    split
    · exact htwin.withMarkup_eq hleft
    · rfl
  obtain ⟨dotted, stop, hdot, hread⟩ := bind_eq_ok_iff.1 hread
  cases dotted with
  | false =>
    cases hread
    rw [continueWith_eq_false hdot, hself]
    exact ⟨⟨twin, htwin⟩, hleft⟩
  | true =>
    obtain ⟨hmark, rfl⟩ := continueWith_eq_true hdot
    rw [hself] at hmark hread
    have htext : place.token.text = "." := by simpa using (Bool.and_eq_true_iff.1 hmark).2
    have hopen : place.token.text ∈ openers := by
      rw [htext]
      decide
    have hfront := htwin.next_front (htwin.front_of_dot hleft htext) hopen
    obtain ⟨_, _, hword, hread⟩ := bind_eq_ok_iff.1 hread
    cases hread
    obtain ⟨_, _, hword, hread⟩ := bind_eq_ok_iff.1 hword
    cases hread
    have hnext := htwin.next
    rw [(take_eq_ok hword).2, hnext.withMarkup_eq (by omega)]
    exact ⟨⟨_, hnext.next⟩, hnext.next_ahead hfront⟩

omit h in
theorem loopUpTo_keeps {σ α : Type} {round : σ → Reader (Round σ α)} {kept : Cursor → Prop}
    (h : ∀ {state place found rest}, kept place → round state place = .ok found rest → kept rest)
    {fuel : Nat} {state : σ} {place rest : Cursor} {value : α} (hkept : kept place)
    (hread : loopUpTo round fuel state place = .ok value rest) : kept rest := by
  induction fuel generalizing state place with
  | zero => cases hread
  | succ fuel ih =>
    obtain ⟨found, stop, hround, hread⟩ := bind_eq_ok_iff.1 hread
    have hstop := h hkept hround
    cases found with
    | again state => exact ih hstop hread
    | done value =>
      cases hread
      exact hstop

omit h in
/-- A name with segments after dots stands on one side of the spot. -/
theorem isAhead_of_segments {σ α : Type} {test : Token → Bool} {round : σ → Reader (Round σ α)}
    (hround : ∀ {state place found rest}, s.IsAhead place → round state place = .ok found rest →
      s.IsAhead rest)
    {first first' rest stop : Cursor} {token : Token} {state : σ} {value : α}
    (hfirst : Twin s first first') (hword : take test first.withMarkup = .ok token rest)
    (hloop : loop round state rest = .ok value stop) :
    first.withMarkup.left ≤ s.rest.length ∨ s.IsAhead stop := by
  rcases Nat.lt_or_ge s.rest.length first.withMarkup.left with hfront | hpast
  · have hrest := (take_eq_ok hword).2
    rw [hfirst.withMarkup_withMarkup] at hrest
    have hahead : s.IsAhead rest :=
      hrest ▸ ⟨⟨_, hfirst.withMarkup.next⟩, hfirst.withMarkup.next_ahead hfront⟩
    exact .inr (loopUpTo_keeps hround hahead hloop)
  · exact .inl hpast

instance dottedName_alike (ending : Ending) :
    ReadsAlike s Eq (dottedName ending) (dottedName ending) := by
  unfold dottedName
  refine ⟨fun {place twin} htwin => .look ?_⟩
  refine (word_alike.alike htwin.withMarkup).bind fun _ _ rest _ hword _ _ hrest => ?_
  refine (loop_alike.alike hrest).bind fun _ _ stop _ hloop _ _ hstop => ?_
  refine ((settle_alike ending).alike hstop).bind fun _ _ last last' hsettle _ _ hlast =>
    .ok ?_ hlast
  obtain ⟨_, _, hword, hread⟩ := bind_eq_ok_iff.1 hword
  cases hread
  refine (htwin.withMarkup.textUpTo_eq hlast ?_).symm
  refine (isAhead_of_segments isAhead_of_segment htwin hword hloop).imp_right fun hahead => ?_
  rw [settle_apply] at hsettle
  cases hsettle
  split <;> exact hahead.2

instance reference_alike (start : Start) (ending : Ending) :
    ReadsAlike s Eq (reference g start ending) (reference g' start ending) := by
  unfold reference
  refine ⟨fun {place twin} htwin => .look ?_⟩
  refine ((wordBut_alike _).alike htwin.withMarkup).bind fun _ _ rest _ hword _ _ hrest => ?_
  refine (loop_alike.alike hrest).bind fun shared _ stop stop' hloop _ heq hstop => ?_
  obtain ⟨_, _, hword, hread⟩ := bind_eq_ok_iff.1 hword
  cases hread
  subst heq
  have htext := htwin.withMarkup.textUpTo_eq hstop
    ((isAhead_of_segments isAhead_of_segment htwin hword hloop).imp_right And.right)
  change Reply.Alike s Eq (namedType g ending (place.withMarkup.textUpTo stop 0) shared stop)
    (namedType g' ending (twin.withMarkup.textUpTo stop' 0) shared stop')
  rw [htext]
  exact (namedType_alike ending _ shared).alike hstop

instance optionalQueryPart_alike : ReadsAlike s Eq optionalQueryPart optionalQueryPart := by
  unfold optionalQueryPart
  infer_instance

omit h in
theorem take_rejects_of_isPointed {place : Cursor} (hpointed : place.IsPointed) :
    ∃ failure, take (fun t => t.kind == .word || t.kind == .privateName) place =
      .reject failure := by
  rw [take_apply, hpointed.settled, if_neg]
  · exact ⟨_, rfl⟩
  · rcases hpointed.pointed with hkind | ⟨hkind, -⟩ <;> simp [hkind]

omit h in
theorem optionalQueryPart_rejects {place : Cursor} (hpointed : place.IsPointed) :
    ∃ failure, optionalQueryPart place = .reject failure := by
  obtain ⟨failure, htake⟩ := take_rejects_of_isPointed hpointed
  have haccept : acceptMark "[" place = .ok false place := by
    rw [acceptMark, accept_apply, hpointed.settled, if_neg]
    simp [@Cursor.IsPointed.isMark _ hpointed "[" (by decide)]
  refine ⟨failure, ?_⟩
  rw [optionalQueryPart, bind_apply, haccept]
  change (take (fun t => t.kind == .word || t.kind == .privateName) >>= fun _ => pure ()) place = _
  rw [bind_apply, htake]

instance queryTail_alike (ending : Ending) (shape : QueryShape) :
    ReadsAlike s Eq (queryTail g ending shape) (queryTail g' ending shape) := by
  unfold queryTail
  refine .ite (fun _ => look_alike (h := ?tail)) (place_alike (h := ?tail))
  intro places
  refine .ite (fun _ => inferInstance)
    (.ite (fun _ => inferInstance) (.ite (fun hoptional => ?_) inferInstance))
  rw [Bool.and_eq_true_iff, Bool.and_eq_true_iff] at hoptional
  refine ⟨fun _ => .goTo ?_⟩
  rcases places.alike.skip_point hoptional.1.1 hoptional.1.2 with hskip | ⟨hpointed, hpointed'⟩
  · exact ReadsAlike.alike hskip
  · exact .of_rejects (optionalQueryPart_rejects hpointed) (optionalQueryPart_rejects hpointed') _ _

instance ofWord_same {word word' : String} [h : SameValue word word'] :
    SameValue (QueryShape.ofWord word) (QueryShape.ofWord word') := ⟨by rw [h.eq]⟩

instance typeQuery_alike (start : Start) (ending : Ending) :
    ReadsAlike s Eq (typeQuery g start ending) (typeQuery g' start ending) := by
  unfold typeQuery
  dsimp only
  infer_instance

instance importTail_alike (ending : Ending) (called : Bool) :
    ReadsAlike s Eq (importTail g ending called) (importTail g' ending called) := by
  unfold importTail
  infer_instance

instance importType_alike (start : Start) (ending : Ending) :
    ReadsAlike s Eq (importType g start ending) (importType g' start ending) := by
  unfold importType
  infer_instance

instance openingBrace_alike : ReadsAlike s Eq openingBrace openingBrace := by
  unfold openingBrace
  refine ⟨fun {place twin} htwin => .look (((mark_alike _).alike htwin.withMarkup).bind
    fun _ _ rest rest' hread _ _ hrest => ?_)⟩
  have hbrace := (mark_eq_ok hread).1
  rw [htwin.withMarkup_withMarkup] at hbrace
  have hbar : SameValue (place.withMarkup.touches "|") (twin.withMarkup.touches "|") := by
    refine ⟨htwin.withMarkup.touches_eq ?_⟩
    rw [show place.withMarkup.token.text = "\x7b" by simpa using (Bool.and_eq_true_iff.1 hbrace).2]
    decide
  refine (ReadsAlike.ite (fun hbar => ?_) inferInstance).alike hrest
  have hskip : Twin s (place.withMarkup.skip 2) (twin.withMarkup.skip 2) :=
    htwin.withMarkup.skip_marks (by decide) (by decide) (by decide) hbrace hbar rfl
  infer_instance

instance objectType_alike (start : Start) :
    ReadsAlike s Eq (objectType g start) (objectType g' start) := by
  unfold objectType
  infer_instance

instance acceptLabel_alike (start : Start) :
    ReadsAlike s Eq (acceptLabel start) (acceptLabel start) := by
  unfold acceptLabel
  dsimp only
  infer_instance

instance tupleRest_alike (start : Start) :
    ReadsAlike s Eq (tupleRest g start) (tupleRest g' start) := by
  unfold tupleRest
  infer_instance

instance tuplePart_alike (start : Start) :
    ReadsAlike s Eq (tuplePart g start) (tuplePart g' start) := by
  unfold tuplePart
  infer_instance

instance tupleType_alike (start : Start) :
    ReadsAlike s Eq (tupleType g start) (tupleType g' start) := by
  unfold tupleType
  infer_instance

/-! ## The word `const` alone -/

omit h in
theorem remarkBefore?_of_isClean {leading : List Trivia} (hclean : Trivia.isClean leading)
    (hremark : leading.any Trivia.isRemark) (kind : TokenKind) (text : String) :
    remarkBefore? ⟨leading, kind, text⟩ = some (.unsupported "comment") := by
  rw [remarkBefore?, Token.remark?]
  dsimp only
  induction leading with
  | nil => cases hremark
  | cons piece leading ih =>
    cases piece with
    | blank blank => exact ih (Cursor.isClean_tail hclean) hremark
    | comment comment => rfl
    | markup markup => cases hclean

omit h in
/-- What a remark in front of the next token stands for, if it does not stand first at the spot. -/
theorem Spot.Front.remarkBefore?_eq {more : List Char} (h : s.Front more)
    (hremark : more = [] → s.gap.any Trivia.isRemark) :
    remarkBefore? (Cursor.ofChars [] (more ++ s.noted).length (more ++ s.noted)).withMarkup.token =
      remarkBefore?
        (Cursor.ofChars [] (more ++ s.rest).length (more ++ s.rest)).withMarkup.token := by
  by_cases hnil : more = []
  · subst hnil
    rw [List.nil_append, List.nil_append, s.ofChars_rest, s.ofChars_noted, Twin.withMarkup_here,
      Twin.withMarkup_here, remarkBefore?_of_isClean s.cleanNote s.remarked,
      remarkBefore?_of_isClean s.clean (hremark rfl)]
  · rw [(Twin.of_front h).1.withMarkup_token ((Twin.of_front h).2 hnil)]

omit h in
/-- The same remarks stand for types after the word `const` that stands alone. -/
theorem Twin.remarks_of_lone {place twin : Cursor} (h : Twin s place twin)
    (hlone : loneConsts.contains [place.token.text, place.next.withMarkup.token.text,
      place.next.withMarkup.next.withMarkup.token.text]) :
    remarkBefore? twin.next.withMarkup.token = remarkBefore? place.next.withMarkup.token ∧
      remarkBefore? twin.next.withMarkup.next.withMarkup.token =
        remarkBefore? place.next.withMarkup.next.withMarkup.token := by
  rw [← h.isLoneConst_iff] at hlone
  cases h with
  | here => exact ⟨rfl, rfl⟩
  | past => exact ⟨rfl, rfl⟩
  | @ahead token more before h hmore =>
    rw [next_eq_ofChars, next_eq_ofChars]
    refine ⟨hmore.remarkBefore?_eq fun hnil => h.lone hlone (.inl hnil), ?_⟩
    cases hmore with
    | nil =>
      rw [List.nil_append, List.nil_append, s.ofChars_rest, s.ofChars_noted, withMarkup_here,
        withMarkup_here]
      rfl
    | @cons second more hsecond hmore =>
      rw [List.append_assoc, List.append_assoc, hsecond.lexes.ofChars_eq,
        hsecond.lexesNoted.ofChars_eq, (withMarkup_ahead hsecond hmore _ _).1,
        (withMarkup_ahead hsecond hmore _ _).2, next_eq_ofChars, next_eq_ofChars]
      refine hmore.remarkBefore?_eq fun hnil => h.lone hlone (.inr ⟨second, ?_, ?_⟩)
      · have hlexes := hsecond.lexes
        rwa [hnil, List.nil_append] at hlexes
      · rw [hnil, List.append_nil]

theorem typeInParentheses_alike (start : Start) {place twin : Cursor} (htwin : Twin s place twin)
    (hlone : place.withMarkup.token.isWord "const" →
      place.withMarkup.next.withMarkup.token.isMark ")" →
      remarkBefore? twin.withMarkup.next.withMarkup.token =
        remarkBefore? place.withMarkup.next.withMarkup.token) :
    Reply.Alike s Eq (typeInParentheses g start place) (typeInParentheses g' start twin) := by
  unfold typeInParentheses
  have hplace := htwin.withMarkup
  have hclose := hplace.next.withMarkup
  have htype := (h.type (inParentheses start) .enclosed).alike hplace
  refine .look (htype.bind fun read _ rest rest' _ _ heq hrest => ?_)
  subst heq
  refine .ite (fun hword => .ok ?_ hrest) (.ok rfl hrest)
  rw [Bool.and_eq_true] at hword
  rw [standIn, standIn, List.findSome?_cons, List.findSome?_cons, hlone hword.1 hword.2]

theorem typeInParentheses_after (start : Start) {place twin : Cursor} (htwin : Twin s place twin)
    (htoken : twin.token = place.token)
    (hlone : place.withMarkup.token.isWord "const" →
      place.withMarkup.next.withMarkup.token.isMark ")" →
      remarkBefore? twin.withMarkup.next.withMarkup.token =
        remarkBefore? place.withMarkup.next.withMarkup.token) :
    Reply.Alike s Eq (typeAfterWord (typeInParentheses g start) place)
      (typeAfterWord (typeInParentheses g' start) twin) := by
  unfold typeAfterWord
  refine (remarkType?_clear.alike htwin htoken).bind
    fun remark _ rest rest' hread hread' heq hrest => ?_
  cases hread
  cases hread'
  rw [heq]
  refine Reply.Alike.bind (typeInParentheses_alike start hrest ?_) fun _ _ _ _ _ _ hread hrest => ?_
  · rwa [htwin.withMarkup_withMarkup, htwin.twin_withMarkup_withMarkup]
  · rw [hread]
    exact ReadsAlike.alike hrest

instance groupedType_alike (start : Start) :
    ReadsAlike s Eq (groupedType g start) (groupedType g' start) := by
  unfold groupedType
  refine ⟨fun {place twin} htwin => ((mark_alike "(").alike htwin).bind
    fun _ _ rest rest' hread hread' _ hrest => ?_⟩
  obtain ⟨hopen, rfl⟩ := mark_eq_ok hread
  obtain ⟨-, rfl⟩ := mark_eq_ok hread'
  have htoken := htwin.withMarkup.next_token (openerTest_isMark "(") hopen
  refine Reply.Alike.bind (typeInParentheses_after start hrest htoken fun hconst hclose => ?_)
    fun _ _ _ _ _ _ heq hrest => ?_
  · refine (htwin.withMarkup.remarks_of_lone ?_).2
    rw [Token.text_of_isMark hopen, Token.text_of_isWord hconst, Token.text_of_isMark hclose]
    decide
  · rw [heq]
    exact ReadsAlike.alike hrest

/-! ## Brackets and joined types -/

instance nextBrackets_alike (ending : Ending) (read : ReadType) :
    ReadsAlike s Eq (nextBrackets g ending read) (nextBrackets g' ending read) := by
  unfold nextBrackets
  infer_instance

instance withBrackets_alike (ending : Ending) {first first' : ReadType} [SameValue first first'] :
    ReadsAlike s Eq (withBrackets g ending first) (withBrackets g' ending first') := by
  unfold withBrackets
  infer_instance

instance readType_same {type type' : TypeExpr} [h : SameValue type type'] (shape : TypeShape)
    (shared : Bool) :
    SameValue (ReadType.mk type shape shared) (ReadType.mk type' shape shared) := ⟨by rw [h.eq]⟩

instance join_same (joint : Joint) {types types' : List TypeExpr} [h : SameValue types types'] :
    SameValue (joint.join types) (joint.join types') := ⟨by rw [h.eq]⟩

instance : IsJoint unionJoint.mark := inferInstanceAs (IsJoint "|")

instance : IsJoint intersectionJoint.mark := inferInstanceAs (IsJoint "&")

instance ledType_alike (joint : Joint) {part part' : Reader ReadType} [ReadsAlike s Eq part part'] :
    ReadsAlike s Eq (ledType joint part) (ledType joint part') := by
  unfold ledType
  infer_instance

instance joinedType?_alike (joint : Joint) [IsJoint joint.mark] (ending : Ending)
    {part part' : Reader ReadType} [ReadsAlike s Eq part part'] (left : ReadType) :
    ReadsAlike s Eq (joinedType? g joint ending part left)
      (joinedType? g' joint ending part' left) := by
  unfold joinedType?
  dsimp only
  infer_instance

instance nextJoined_alike (joint : Joint) [IsJoint joint.mark] (ending : Ending)
    {part part' : Reader ReadType} [ReadsAlike s Eq part part'] (left : ReadType) :
    ReadsAlike s Eq (nextJoined g joint ending part left)
      (nextJoined g' joint ending part' left) := by
  unfold nextJoined
  refine .andThen fun found => ?_
  cases found <;> infer_instance

instance joinedTypes_alike (joint : Joint) [IsJoint joint.mark] (ending : Ending)
    {part part' : Reader ReadType}
    [ReadsAlike s Eq part part'] {first first' : ReadType} [SameValue first first'] :
    ReadsAlike s Eq (joinedTypes g joint ending part first)
      (joinedTypes g' joint ending part' first') := by
  unfold joinedTypes
  infer_instance

instance conditionalType_alike (ending : Ending) :
    ReadsAlike s Eq (conditionalType g ending) (conditionalType g' ending) := by
  unfold conditionalType
  infer_instance

instance largerType_alike (ending : Ending) (read : ReadType) :
    ReadsAlike s Eq (largerType g ending read) (largerType g' ending read) := by
  unfold largerType
  refine .andThen fun found => .ite (fun _ => inferInstance) (.andThen fun joined => ?_)
  cases joined with
  | some joined => infer_instance
  | none =>
    refine .andThen fun joined => ?_
    cases joined <;> infer_instance

instance keysType_alike (ending : Ending) :
    ReadsAlike s Eq (keysType g ending) (keysType g' ending) := by
  unfold keysType
  infer_instance

instance readonlyType_alike (start : Start) (ending : Ending) :
    ReadsAlike s Eq (readonlyType g start ending) (readonlyType g' start ending) := by
  unfold readonlyType
  dsimp only
  infer_instance

instance maybeType_alike (ending : Ending) :
    ReadsAlike s Eq (maybeType g ending) (maybeType g' ending) := by
  unfold maybeType
  infer_instance

instance typeParamsAt_alike (start : Start) :
    ReadsAlike s Eq (typeParamsAt g start) (typeParamsAt g' start) := by
  unfold typeParamsAt
  dsimp only
  infer_instance

instance functionType_alike (start : Start) (ending : Ending) :
    ReadsAlike s Eq (functionType g start ending) (functionType g' start ending) := by
  unfold functionType
  infer_instance

instance constructorType_alike (start : Start) (ending : Ending) :
    ReadsAlike s Eq (constructorType g start ending) (constructorType g' start ending) := by
  unfold constructorType
  infer_instance

instance inferredType_alike (ending : Ending) :
    ReadsAlike s Eq (inferredType g ending) (inferredType g' ending) := by
  unfold inferredType
  infer_instance

/-! ## Types by how they start -/

omit h in
/-- The spot is not between two tokens of which it does not follow the first. -/
theorem textUpTo_of_two {first first' stop stop' : Cursor} (hfirst : Twin s first first')
    (hopen : first.token.text ∈ openers) (hstop : Twin s stop stop')
    (heq : stop = first.next.withMarkup.next) :
    first'.textUpTo stop' 0 = first.textUpTo stop 0 := by
  refine hfirst.textUpTo_eq hstop ?_
  rcases Nat.lt_or_ge s.rest.length first.left with hfront | hpast
  · have hnext := hfirst.next_front hfront hopen
    have hself := hfirst.next.withMarkup_eq (by omega)
    rw [hself] at heq
    exact .inr (heq ▸ hfirst.next.next_ahead hnext)
  · exact .inl hpast

omit h in
theorem view_eq_withMarkup {ending : Ending} {place : Cursor}
    (hmark : (ending.view place).token.isMark "[") : ending.view place = place.withMarkup := by
  unfold Ending.view at hmark ⊢
  split
  · rfl
  · rename_i hending
    rw [if_neg hending] at hmark
    exact (Cursor.withMarkup_of_mark hmark (by decide)).symm

omit h in
/-- What the word `const` is in front of brackets. -/
theorem Twin.constBefore_eq (ending : Ending) {place twin : Cursor} (h : Twin s place twin)
    (hconst : place.token.isWord "const") :
    constBefore ending (ending.view twin.next) = constBefore ending (ending.view place.next) := by
  have hview := h.next.view ending
  have hclose := hview.next.withMarkup
  have hends : SameValue (ending.isAt (ending.view place.next))
      (ending.isAt (ending.view twin.next)) := inferInstance
  unfold constBefore
  dsimp only
  rw [hview.isMark_eq, hends.eq, hclose.isMark_eq]
  split
  · rename_i hbrackets
    rw [Bool.and_eq_true, Bool.and_eq_true] at hbrackets
    have hopen := hbrackets.1.1
    rw [view_eq_withMarkup (hview.isMark_eq "[" ▸ hopen), view_eq_withMarkup hopen]
    rw [view_eq_withMarkup hopen] at hbrackets
    obtain ⟨hfirst, hsecond⟩ := h.remarks_of_lone (by
      rw [Token.text_of_isWord hconst, Token.text_of_isMark hbrackets.1.1,
        Token.text_of_isMark hbrackets.2]
      decide)
    rw [standIn, standIn, List.findSome?_cons, List.findSome?_cons, List.findSome?_cons,
      List.findSome?_cons, hfirst, hsecond]
  · rfl

omit h in
instance constWord_alike (ending : Ending) :
    ReadsAlike s Eq (constWord ending) (constWord ending) := by
  unfold constWord
  refine ⟨fun {place twin} htwin => ((keyword_alike "const").alike htwin).bind
    fun _ _ rest rest' hread hread' _ hrest => .place (.ok ?_ hrest)⟩
  obtain ⟨hconst, rfl⟩ := keyword_eq_ok hread
  obtain ⟨-, rfl⟩ := keyword_eq_ok hread'
  exact congrArg simple (htwin.withMarkup.constBefore_eq ending hconst).symm

instance wordType_alike (start : Start) (ending : Ending) (tokens : TokenTwins) :
    ReadsAlike s Eq (wordType g start ending tokens.token)
      (wordType g' start ending tokens.twin) := by
  unfold wordType
  rw [tokens.alike.text]
  refine ⟨fun {place twin} htwin => .look (.ite (fun _ => ReadsAlike.alike htwin.withMarkup)
    (.ite (fun _ => ?_) ?_))⟩
  · refine ((keyword_alike _).alike htwin.withMarkup).bind fun _ _ rest _ hunique _ _ hrest => ?_
    refine ((keyword_alike _).alike hrest).bind fun _ _ stop stop' hsymbol _ _ hstop => .ok ?_ hstop
    obtain ⟨hword, rfl⟩ := keyword_eq_ok hunique
    rw [htwin.withMarkup_withMarkup] at hword hsymbol
    have htext : place.withMarkup.token.text =
      "unique" := by simpa using (Bool.and_eq_true_iff.1 hword).2
    have hopen : place.withMarkup.token.text ∈ openers := by
      rw [htext]
      decide
    rw [textUpTo_of_two htwin.withMarkup hopen hstop (keyword_eq_ok hsymbol).2]
  · cases literalWord? tokens.token.text <;> exact ReadsAlike.alike htwin.withMarkup

theorem signedNumber_alike (start : Start) {place twin : Cursor} (htwin : Twin s place twin)
    (hopen : place.withMarkup.token.text ∈ openers) :
    Reply.Alike s Eq (signedNumber start place) (signedNumber start twin) := by
  unfold signedNumber
  refine .look ?_
  refine (next_token_alike.alike htwin.withMarkup).bind fun _ _ rest _ hsign _ _ hrest => ?_
  refine (take_token_alike.alike hrest).bind fun _ _ stop stop' hnumber _ _ hstop => .ok ?_ hstop
  have hstart := next_eq_ok hsign
  rw [htwin.withMarkup_withMarkup] at hstart
  subst hstart
  rw [textUpTo_of_two htwin.withMarkup hopen hstop (take_eq_ok hnumber).2]

omit h in
/-- Where a template or its next part starts, behind the spot. -/
structure PastTwins (s : Spot) (place twin : Cursor) : Prop where
  alike : Twin s place twin
  after : twin.after = place.after
  ne : place.token.text ≠ ""

theorem templateType_alike (start : Start) {place twin : Cursor} (htwin : Twin s place twin)
    (hpast : PastTwins s place.withMarkup twin.withMarkup) :
    Reply.Alike s Eq (templateType g start place) (templateType g' start twin) := by
  unfold templateType
  refine .look (Reply.Alike.bind ((ReadsAlike.loop
    (fun here here' => PastTwins s here.1 here'.1 ∧ here'.2 = here.2)
    (fun here here' hkept => ?_) ⟨hpast, rfl⟩).alike htwin.withMarkup)
    fun _ _ _ _ _ _ (_ : () = ()) hrest => .ok rfl hrest)
  obtain ⟨here, start⟩ := here
  obtain ⟨here', start'⟩ := here'
  obtain ⟨⟨hhere, hafter, hne⟩, rfl⟩ := hkept
  dsimp only at hhere hafter hne ⊢
  rw [hhere.templateStop?_eq hafter]
  cases hstop : here.templateStop? false with
  | none => exact fail_alike
  | some found =>
    obtain ⟨stop, rest⟩ := found
    have hself := (hhere.templateStop?_self hafter hne hstop).1
    cases stop with
    | close => exact ⟨fun _ => .ok rfl hself⟩
    | code =>
      refine ⟨fun _ => .goTo (.peek ?_)⟩
      refine .bind_self (h.type start' .enclosed) (Productions.type_agree h.agree start' .enclosed)
        hself.withMarkup fun read rest hrest => .require fun _ => .look (.require fun hclose => ?_)
      have htext : rest.withMarkup.token.text =
        "\x7d" := by simpa using (Bool.and_eq_true_iff.1 hclose).2
      refine .ok ⟨⟨hrest.withMarkup, rfl, ?_⟩, rfl⟩ hrest.withMarkup
      rw [htext]
      decide

instance simpleType_alike (start : Start) (ending : Ending) :
    ReadsAlike s Eq (simpleType g start ending) (simpleType g' start ending) := by
  unfold simpleType
  refine ⟨fun {place twin} htwin => .peek ?_⟩
  have htoken : TokenTwin place.withMarkup.token twin.withMarkup.token := htwin.withMarkup.token
  rw [htoken.kind, htoken.text]
  cases place.withMarkup.token.kind with
  | word => exact (wordType_alike start ending ⟨_, _, htoken⟩).alike htwin.withMarkup
  | mark =>
    have hself := htwin.withMarkup_withMarkup
    dsimp only
    generalize htext : place.withMarkup.token.text = text
    split
    case h_4 => exact signedNumber_alike start htwin.withMarkup (by rw [hself, htext]; decide)
    case h_5 => exact signedNumber_alike start htwin.withMarkup (by rw [hself, htext]; decide)
    case h_6 =>
      have hhead : place.withMarkup.token.text.toList.head? = some '\x60' := by rw [htext]; rfl
      refine templateType_alike start htwin.withMarkup ?_
      rw [hself, htwin.twin_withMarkup_withMarkup]
      exact ⟨htwin.withMarkup, htwin.withMarkup.after_eq hhead (.inr rfl), by rw [htext]; decide⟩
    all_goals exact ReadsAlike.alike htwin.withMarkup
  | _ => exact ReadsAlike.alike htwin.withMarkup

instance operandType_alike (start : Start) (ending : Ending) :
    ReadsAlike s Eq (operandType g start ending) (operandType g' start ending) := by
  unfold operandType
  dsimp only
  infer_instance

instance intersectionFrom_alike (ending : Ending) {first first' : ReadType}
    [SameValue first first'] :
    ReadsAlike s Eq (intersectionFrom g ending first) (intersectionFrom g' ending first') := by
  unfold intersectionFrom
  infer_instance

instance intersectionType_alike (start : Start) (ending : Ending) :
    ReadsAlike s Eq (intersectionType g start ending) (intersectionType g' start ending) := by
  unfold intersectionType
  infer_instance

instance unionFrom_alike (ending : Ending) (first : ReadType) :
    ReadsAlike s Eq (unionFrom g ending first) (unionFrom g' ending first) := by
  unfold unionFrom
  infer_instance

instance type_alike (start : Start) (ending : Ending) :
    ReadsAlike s Eq (Grammar.type g start ending) (Grammar.type g' start ending) := by
  unfold Grammar.type
  infer_instance

end

end Facade
