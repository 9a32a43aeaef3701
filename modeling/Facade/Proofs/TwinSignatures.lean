-- Patterns and signatures at twins.
import Facade.Proofs.ClearReaders

namespace Facade

open Lexer Reader Grammar

set_option synthInstance.maxSize 4096

section

variable {s : Spot}

/-! ## Brackets -/

instance closing?_any_same {place twin : Cursor} [h : Twin s place twin]
    {test test' : Cursor → Bool}
    [htest : ∀ places : Twins s, SameValue (test places.place) (test' places.twin)] :
    SameValue (place.closing?.any test) (twin.closing?.any test') := by
  have hrel := h.closing?_rel
  generalize place.closing? = found at hrel
  generalize twin.closing? = found' at hrel
  cases hrel with
  | none => exact same_refl _
  | some hclosing => exact htest ⟨_, _, hclosing⟩

instance accessFollows_same {place twin : Cursor} [h : Twin s place twin] :
    SameValue (accessFollows place) (accessFollows twin) := by
  unfold accessFollows
  infer_instance

instance startsBracketPattern_same {place twin : Cursor} [h : Twin s place twin] :
    SameValue (startsBracketPattern place) (startsBracketPattern twin) := by
  unfold startsBracketPattern
  infer_instance

instance arrowFollows_same {place twin : Cursor} [h : Twin s place twin] :
    SameValue (arrowFollows place) (arrowFollows twin) := by
  unfold arrowFollows
  infer_instance

variable {g g' : Productions} [h : Productions.Alike s g g']

instance arguments_alike : ReadsAlike s Eq (arguments g) (arguments g') := by
  unfold arguments
  infer_instance

instance computedName_alike : ReadsAlike s Eq (computedName g) (computedName g') := by
  unfold computedName
  infer_instance

instance initializer_alike (ending : Ending) :
    ReadsAlike s Eq (initializer g ending) (initializer g' ending) := by
  unfold initializer
  infer_instance

instance defaultedPattern_alike (start : Start) :
    ReadsAlike s Eq (defaultedPattern g start) (defaultedPattern g' start) := by
  unfold defaultedPattern
  infer_instance

instance bracketedDefault_alike : ReadsAlike s Eq (bracketedDefault g) (bracketedDefault g') := by
  unfold bracketedDefault
  infer_instance

instance namedPatternPart_alike (start : Start) {isWord isWord' : Bool}
    [hword : SameValue isWord isWord'] :
    ReadsAlike s Eq (namedPatternPart g start isWord) (namedPatternPart g' start isWord') := by
  unfold namedPatternPart
  infer_instance

instance objectPatternPart_alike (start : Start) :
    ReadsAlike s Eq (objectPatternPart g start) (objectPatternPart g' start) := by
  unfold objectPatternPart
  dsimp only
  infer_instance

instance patternParts_alike (close : String) {part part' : Start → Reader Start}
    [hpart : ∀ start, ReadsAlike s Eq (part start) (part' start)] (start : Start) :
    ReadsAlike s Eq (patternParts close part start) (patternParts close part' start) := by
  unfold patternParts
  infer_instance

instance objectPattern_alike (start : Start) :
    ReadsAlike s Eq (objectPattern g start) (objectPattern g' start) := by
  unfold objectPattern
  infer_instance

instance arrayPattern_alike (start : Start) :
    ReadsAlike s Eq (arrayPattern g start) (arrayPattern g' start) := by
  unfold arrayPattern
  infer_instance

instance bracketPattern_alike (start : Start) :
    ReadsAlike s Eq (bracketPattern g start) (bracketPattern g' start) := by
  unfold bracketPattern
  infer_instance

instance pattern_alike (start : Start) :
    ReadsAlike s Eq (Grammar.pattern g start) (Grammar.pattern g' start) := by
  unfold Grammar.pattern
  infer_instance

/-! ## Signatures -/

instance remarkType?_clear : ReadsClear s Eq remarkType? remarkType? := by
  unfold remarkType?
  infer_instance

instance annotation_clear (start : Start) (ending : Ending) :
    ReadsClear s Eq ( annotation g start ending) ( annotation g' start ending) := by
  unfold annotation
  infer_instance

instance colonType_alike (ending : Ending) :
    ReadsAlike s Eq (colonType g ending) (colonType g' ending) := by
  unfold colonType
  infer_instance

omit h in
theorem rel_ite {c c' : Bool} [hc : SameValue c c'] {first first' second second' : Option Cursor}
    (hfirst : Option.Rel (Twin s) first first') (hsecond : Option.Rel (Twin s) second second') :
    Option.Rel (Twin s) (if c then first else second) (if c' then first' else second') := by
  rw [hc.eq]
  cases c
  · exact hsecond
  · exact hfirst

omit h in
theorem predicateSubject?_rel (places : Twins s) :
    Option.Rel (Twin s) (predicateSubject? places.place) (predicateSubject? places.twin) := by
  unfold predicateSubject?
  exact rel_ite (.some inferInstance) (rel_ite (.some inferInstance) .none)

instance predicate?_alike (ending : Ending) :
    ReadsAlike s Eq (predicate? g ending) (predicate? g' ending) := by
  unfold predicate?
  refine look_alike (h := fun places => ?_)
  have hsubject := predicateSubject?_rel places
  generalize predicateSubject? places.place = after at hsubject
  generalize predicateSubject? places.twin = after' at hsubject
  cases hsubject with
  | none => infer_instance
  | some hafter =>
    dsimp only
    infer_instance

instance result_alike (ending : Ending) : ReadsAlike s Eq (result g ending) (result g' ending) := by
  unfold result
  refine .andThen fun found => ?_
  cases found <;> infer_instance

omit h in
theorem not_gives_isSome {α : Type} {reader : Reader (Option α)} {place rest : Cursor}
    (hread : reader place = .ok none rest) : ¬ Gives (fun found => found.isSome) reader :=
  fun hgives => absurd (hgives place none rest hread) Bool.false_ne_true

omit h in
theorem rest_of_predicate?_eq_none {ending : Ending} {place rest : Cursor}
    (hread : predicate? g ending place = .ok none rest) : rest = place.withMarkup := by
  unfold predicate? at hread
  obtain ⟨here, _, hlook, hread⟩ := bind_eq_ok_iff.1 hread
  cases hlook
  split at hread
  · refine (not_gives_isSome hread (gives_after fun _ => gives_after fun name => ?_)).elim
    refine gives_ite (fun _ => gives_after fun _ => ?_) fun _ => ?_
    all_goals
      exact gives_after fun _ => gives_ite (fun _ => gives_after fun _ => gives_pure rfl)
        fun _ => gives_after fun _ => gives_after fun _ => gives_pure rfl
  · generalize predicateSubject? place.withMarkup = subject at hread
    cases subject with
    | none =>
      cases hread
      rfl
    | some after =>
      obtain ⟨_, _, -, hread⟩ := bind_eq_ok_iff.1 hread
      obtain ⟨found, _, -, hread⟩ := bind_eq_ok_iff.1 hread
      cases found with
      | true =>
        obtain ⟨_, _, -, hread⟩ := bind_eq_ok_iff.1 hread
        cases hread
      | false =>
        obtain ⟨_, _, hgo, hread⟩ := bind_eq_ok_iff.1 hread
        cases hgo
        cases hread
        rfl

instance annotatedResult_clear (ending : Ending) :
    ReadsClear s Eq (annotatedResult g ending) (annotatedResult g' ending) := by
  unfold annotatedResult
  refine ⟨fun htwin htoken => ((predicate?_alike ending).alike htwin).bind
    fun found _ rest rest' hread hread' heq hrest => ?_⟩
  subst heq
  cases found with
  | some type => exact .ok rfl hrest
  | none =>
    have hannotation : ReadsClear s Eq (do return (← annotation g .plain ending).type)
      (do return (← annotation g' .plain ending).type) := inferInstance
    rw [rest_of_predicate?_eq_none hread, rest_of_predicate?_eq_none hread'] at *
    exact hannotation.alike htwin.withMarkup (htwin.withMarkup_token htoken)

instance colonResult_alike (ending : Ending) :
    ReadsAlike s Eq (colonResult g ending) (colonResult g' ending) := by
  unfold colonResult
  infer_instance

instance typeParam_alike : ReadsAlike s Eq (typeParam g) (typeParam g') := by
  unfold typeParam
  infer_instance

instance typeParams_alike : ReadsAlike s Eq (typeParams g) (typeParams g') := by
  unfold typeParams
  infer_instance

instance typeList_same (start : Start) {types types' : List TypeExpr} [h : SameValue types types'] :
    SameValue (TypeList.mk start types) (TypeList.mk start types') := ⟨by rw [h.eq]⟩

omit h in
theorem mark_rejects {text : String} {place : Cursor}
    (h : place.withMarkup.token.isMark text = false) :
    ∃ failure, mark text place = .reject failure := by
  rw [mark_apply]
  split
  · exact ⟨_, rfl⟩
  · rw [if_neg (by simp [h])]
    exact ⟨_, rfl⟩

omit h in
theorem require_mark_rejects {α : Type} {text : String} {place : Cursor}
    (h : place.withMarkup.token.isMark text = false) (c : Bool) (next : Unit → Reader α) :
    ∃ failure, (require c >>= fun _ => mark text >>= next) place = .reject failure := by
  cases c with
  | true =>
    obtain ⟨failure, hmark⟩ := mark_rejects h
    refine ⟨failure, ?_⟩
    change (mark text >>= next) place = _
    rw [bind_apply, hmark]
  | false => exact ⟨_, rfl⟩

instance nextTypeArg_alike (list : TypeList) :
    ReadsAlike s Eq (nextTypeArg g list) (nextTypeArg g' list) := by
  unfold nextTypeArg
  refine peek_alike (h := fun tokens => .andThen fun read => ⟨fun {place twin} htwin => .look ?_⟩)
  have hmarkup : Twin s place.withMarkup twin.withMarkup := htwin.withMarkup
  have hfirst : markupTypes tokens.twin = markupTypes tokens.token := same_markupTypes.eq
  have htypes : markupTypes twin.withMarkup.token = markupTypes place.withMarkup.token :=
    same_markupTypes.eq
  rw [hfirst, htypes]
  refine ((acceptMark_alike ",").alike hmarkup).bind fun found _ rest rest' hread hread' heq
    hrest => ?_
  subst heq
  cases found with
  | true => exact ReadsAlike.alike hrest
  | false =>
    have hself : rest = place.withMarkup :=
      (rest_of_acceptMark hread).trans htwin.withMarkup_withMarkup
    have hself' : rest' = twin.withMarkup :=
      (rest_of_acceptMark hread').trans htwin.twin_withMarkup_withMarkup
    subst hself
    subst hself'
    -- only a bracket that closes is looked past
    cases hmark : place.withMarkup.token.isMark ">" with
    | true =>
      have hmem : place.withMarkup.token.text ∈ [">"] := (markedBy_isMark ">").mem hmark
      have hdouble : SameAfter [">"] place.withMarkup (place.withMarkup.touches ">")
          (twin.withMarkup.touches ">") :=
        inferInstance
      have hequals : SameAfter [">"] place.withMarkup (place.withMarkup.touches "=")
          (twin.withMarkup.touches "=") :=
        inferInstance
      rw [hdouble.eq hmem, hequals.eq hmem]
      exact ReadsAlike.alike hmarkup
    | false =>
      have hmark' : twin.withMarkup.token.isMark ">" = false := by rw [hmarkup.isMark_eq, hmark]
      rw [← htwin.withMarkup_withMarkup] at hmark
      rw [← htwin.twin_withMarkup_withMarkup] at hmark'
      obtain ⟨_, hreject⟩ := require_mark_rejects hmark _ _
      obtain ⟨_, hreject'⟩ := require_mark_rejects hmark' _ _
      rw [if_neg Bool.false_ne_true, if_neg Bool.false_ne_true, hreject, hreject']
      exact .reject _ _

instance typeArgs_alike (start : Start) :
    ReadsAlike s Eq (typeArgs g start) (typeArgs g' start) := by
  unfold typeArgs
  infer_instance

instance decoratorTarget_alike : ReadsAlike s Eq (decoratorTarget g) (decoratorTarget g') := by
  unfold decoratorTarget
  infer_instance

instance decorator_alike : ReadsAlike s Eq (decorator g) (decorator g') := by
  unfold decorator
  infer_instance

instance decorators_alike : ReadsAlike s Eq (decorators g) (decorators g') := by
  unfold decorators
  infer_instance

instance nameBetween?_same {place twin stop stop' : Cursor} [Twin s place twin]
    [Twin s stop stop'] :
    SameValue (nameBetween? place stop) (nameBetween? twin stop') := by
  unfold nameBetween?
  infer_instance

instance restName_clear : ReadsClear s Eq (restName g) (restName g') := by
  unfold restName
  refine look_clear (h := fun places => clear_of_alike (h := ?_))
  refine .andThen fun _ => .andThen fun _ => .andThen fun _ => place_alike (h := fun stops => ?_)
  have hname : SameValue (nameBetween? places.place stops.place)
    (nameBetween? places.twin stops.twin) := inferInstance
  rw [places.token, hname.eq]
  split <;> infer_instance

instance paramName_alike {start start' : Start} [hstart : SameValue start start'] :
    ReadsAlike s Eq (paramName g start) (paramName g' start') := by
  rw [hstart.eq]
  unfold paramName
  refine look_alike (h := fun places =>
    .ite (fun _ => inferInstance) (@acceptMark_clear _ _ _ _ _ _ _ inferInstance ?_))
  refine .andThen fun _ => place_alike (h := fun stops => .andThen fun _ => ?_)
  have hname : SameValue (nameBetween? places.place stops.place)
    (nameBetween? places.twin stops.twin) := inferInstance
  rw [hname.eq]
  split <;> infer_instance

instance acceptParamModifier_alike (words : List String) :
    ReadsAlike s Eq (acceptParamModifier words) (acceptParamModifier words) := by
  unfold acceptParamModifier
  infer_instance

instance paramModifiers_alike : ReadsAlike s Eq paramModifiers paramModifiers := by
  unfold paramModifiers
  infer_instance

instance optionalMark_alike : ReadsAlike s Eq optionalMark optionalMark := by
  unfold optionalMark
  infer_instance

instance paramTail_alike (name : ParamName) :
    ReadsAlike s Eq (paramTail g name) (paramTail g' name) := by
  unfold paramTail
  infer_instance

instance modifiedParam_alike (start : Start) :
    ReadsAlike s Eq (modifiedParam g start) (modifiedParam g' start) := by
  unfold modifiedParam
  infer_instance

instance param_alike (start : Start) : ReadsAlike s Eq (param g start) (param g' start) := by
  unfold param
  dsimp only
  infer_instance

instance nextParam_alike (list : ParamList) :
    ReadsAlike s Eq (nextParam g list) (nextParam g' list) := by
  unfold nextParam
  dsimp only
  infer_instance

instance params_alike (start : Start) : ReadsAlike s Eq (params g start) (params g' start) := by
  unfold params
  infer_instance

instance signature_alike (ending : Ending) :
    ReadsAlike s Eq (signature g ending) (signature g' ending) := by
  unfold signature
  infer_instance

end

end Facade
