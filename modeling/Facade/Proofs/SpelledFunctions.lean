-- Reading function types that are spelled, and with them all types: a parameter is a name with a
-- colon and a type, and a result says nothing about a parameter.
import Facade.Proofs.SpelledReading

namespace Facade

open Reader Grammar

variable {g : Productions} {start : Start} {ending : Ending} {place : Cursor} {more : List Token}

/-! ## Names of parameters -/

/-- The place after the token at a place, where a value could go on. -/
def Cursor.held (place : Cursor) : Cursor := { place.next with before := .held }

theorem isOneToken_held {token : Token} (h : place.Shows (token :: more)) :
    isOneToken place place.held := by
  have hleft := h.1.left_eq_next
  rw [isOneToken, beq_iff_eq, h.1.token_eq]
  exact hleft

section Name

variable {name colon : Token} (hname : name.isName) (hcolon : colon.isMark ":")
  (h : place.Shows (name :: colon :: more))

include hcolon h

theorem valueTails_before_colon (shape : ValueShape) :
    valueTails g .value shape place.next = .ok shape place.next := by
  have hmark {text : String} (htext : ":" ≠ text) : place.next.token.isMark text = false := by
    rw [h.2.1.token_eq]
    exact Token.isMark_of_isMark hcolon htext
  have haccess : accessTail? g shape place.next = .ok none place.next := by
    rw [accessTail?, bind_apply, Reader.place]
    dsimp only
    rw [hmark (by decide), hmark (by decide), hmark (by decide), hmark (by decide), optionalNext,
      hmark (by decide)]
    rfl
  have htail : valueTail g .value shape place.next = .ok (.done shape) place.next := by
    have hgoes : Ending.value.isAt place.next = false := rfl
    rw [valueTail, bind_apply, Reader.place]
    dsimp only
    rw [hgoes, doubled, doubled, hmark (by decide), hmark (by decide), hmark (by decide),
      hmark (by decide)]
    simp only [Bool.false_eq_true, if_false, Bool.false_and, Bool.or_self]
    rw [bind_apply, haccess]
    rfl
  rw [valueTails, loop, loopUpTo, bind_apply, htail]
  rfl

include hname

theorem wordValue_of_name : wordValue g ending place = wordItself place .name := by
  have hkeyword := Token.not_mem_of_isName hname
  have harrow : place.next.token.isMark "=>" = false := by
    rw [h.2.1.token_eq]
    exact Token.isMark_of_isMark hcolon (by decide)
  unfold wordValue
  dsimp only
  rw [h.1.token_eq]
  split
  · simp_all [keywords, valueWords]
  · simp_all [keywords, valueWords]
  · simp_all [keywords, valueWords]
  · simp_all [keywords, valueWords]
  · rw [contains_of_isName hname (by decide), harrow]
    simp only [Bool.false_eq_true, if_false]
    split
    · simp_all [keywords, softWords]
    · simp_all [keywords, softWords]
    · simp_all [keywords, softWords]
    · rfl

theorem target_of_name : target g .value place = .ok .name place.held := by
  have hsimple : simpleValue g .value place = .ok .name place.next := by
    rw [simpleValue, bind_apply, look, h.1.withMarkup_eq]
    dsimp only
    rw [h.1.token_eq, Token.kind_of_isName hname]
    dsimp only
    rw [wordValue_of_name hname hcolon h]
    rfl
  rw [target, bind_apply, hsimple]
  dsimp only
  rw [bind_apply, valueTails_before_colon hcolon h]
  rfl

end Name

section Pattern

variable {name : Token} (hname : name.isName) (h : place.Shows (name :: more))

include hname h

theorem pattern_of_name (htarget : g.target .value place = .ok .name place.held) :
    pattern g start place = .ok start place.held := by
  have hkind := Token.kind_of_isName hname
  have hlook : look place = .ok place place := by
    rw [look, h.1.withMarkup_eq]
  have hbracket : startsBracketPattern place = false := by
    rw [startsBracketPattern, h.1.token_eq, Token.isAnyMark_of_kind (by simp [hkind]),
      Bool.false_and]
  have hpure : place.token.isAnyWord pureTypeWords = false := by
    rw [h.1.token_eq, Token.isAnyWord, contains_of_isName hname (by decide), Bool.and_false]
  have hreadonly : place.token.isWord "readonly" = false := by
    rw [h.1.token_eq, Token.isWord, text_of_isName hname (by decide), Bool.and_false]
  rw [pattern, bind_apply, hlook]
  dsimp only
  rw [hbracket, hpure, hreadonly]
  simp only [Bool.false_eq_true, if_false, Bool.false_and, Bool.or_self, Bool.and_false]
  change (g.target .value >>= _) place = _
  rw [bind_apply, htarget]
  change Reply.ok (if isOneToken place place.held then start else .plain) place.held = _
  rw [if_pos (isOneToken_held h)]

theorem paramName_of_name (hpattern : g.pattern start place = .ok start place.held) :
    paramName g start place = .ok (.named name.text) place.held := by
  have hlook : look place = .ok place place := by
    rw [look, h.1.withMarkup_eq]
  have hthis : place.token.isWord "this" = false := by
    rw [h.1.token_eq, Token.isWord, text_of_isName hname (by decide), Bool.and_false]
  have hdots : acceptMark "..." place = .ok false place := by
    rw [acceptMark, accept_apply, h.1.withMarkup_eq, h.1.token_eq,
      Token.isMark_of_kind (by simp [Token.kind_of_isName hname]), Bool.and_false]
    rfl
  have hshared : place.token.isAnyWord sharedTypeWords = false := by
    rw [h.1.token_eq, Token.isAnyWord, contains_of_isName hname (by decide), Bool.and_false]
  have hbetween : nameBetween? place place.held = some name.text := by
    have hbut : name.isWordBut ["undefined", "this"] := by
      rw [Token.isWordBut, Token.kind_of_isName hname, contains_of_isName hname (by decide)]
      rfl
    rw [nameBetween?, isOneToken_held h, h.1.token_eq, hbut]
    rfl
  rw [paramName, bind_apply, hlook]
  dsimp only
  rw [hthis]
  simp only [Bool.false_eq_true, if_false]
  rw [bind_apply, hdots]
  dsimp only
  simp only [Bool.false_eq_true, if_false]
  rw [bind_apply, hpattern]
  dsimp only
  rw [bind_apply, Reader.place]
  dsimp only
  rw [hshared, hbetween]
  simp only [Bool.and_false, Bool.false_and]
  rfl

end Pattern

/-- Names in front of a colon are read as patterns. -/
def Productions.ReadsNames (g : Productions) : Prop :=
  ∀ {start : Start} {place : Cursor} {name colon : Token} {more : List Token}, name.isName →
    colon.isMark ":" → place.Shows (name :: colon :: more) →
    g.pattern start place = .ok start place.held

theorem productions_readsNames (depth : Nat) : (productions (depth + 2)).ReadsNames :=
  fun hname hcolon h => pattern_of_name hname h (target_of_name hname hcolon h)

/-! ## Parameters -/

theorem decorators_misses {token : Token} (h : place.Shows (token :: more))
    (hmark : token.isMark "@" = false) : Gets (decorators g) place false (token :: more) := by
  refine gets_loop h (Nat.zero_le _) fun _ => gets_done ?_
  refine gets_bind (nextIs_gets h _) fun stop hstop => ?_
  rw [hmark]
  exact gets_pure hstop _

theorem optionalMark_misses {token : Token} (h : place.Shows (token :: more))
    (hmark : token.isMark "?" = false) : Gets optionalMark place false (token :: more) := by
  have hchoice : place.isChoice = false := by
    rw [Cursor.isChoice, h.1.token_eq, hmark, Bool.false_and, Bool.false_and, Bool.false_and]
  refine gets_bind (place_gets h) fun middle hmiddle => ?_
  refine gets_bind (require_gets hmiddle (by rw [hchoice]; rfl)) fun stop hstop => ?_
  exact accept_misses hstop hmark

theorem initializer_misses {token : Token} (h : place.Shows (token :: more))
    (hmark : token.isMark "=" = false) :
    Gets (initializer g ending) place false (token :: more) := by
  have hequals : Gets acceptEquals place false (token :: more) := by
    refine gets_bind (look_gets h) fun stop hstop => ?_
    rw [h.1.token_eq, hmark]
    exact gets_pure hstop _
  exact gets_bind hequals fun stop hstop => gets_pure hstop _

/-- The parameter as it is read, before the parameters are numbered. -/
def SpelledParam.written (param : SpelledParam) : WrittenParam :=
  ⟨.named param.name.text, readAfterMark param.type.tokens param.type.read, false⟩

theorem numberParams_written (params : List SpelledParam) (count : Nat) :
    numberParams count (params.map (·.written)) = params.map (·.readParam) := by
  induction params generalizing count with
  | nil => rfl
  | cons param params ih =>
    rw [List.map_cons, List.map_cons, ← ih (count + 1)]
    rfl

/-- The parameter is spelled as one, and its type is read. -/
structure SpelledParam.IsRead (g : Productions) (param : SpelledParam) : Prop where
  name : param.name.isName
  colon : param.colon.isMark ":"
  spells : Spells .whole param.type.tokens param.type.type param.type.read
  reads : g.ReadsType param.type.tokens param.type.read

section Params

variable {param : SpelledParam}

theorem SpelledParam.IsRead.tail (hparam : param.IsRead g) :
    (paramTail g (.named param.name.text)).Takes (param.colon :: param.type.tokens) param.written
      Binding.whole.stops := by
  intro place more h hmore
  obtain ⟨shape, shared, -, htype⟩ := hparam.reads .plain .enclosed
  have hcolonType : (colonType g .enclosed).Takes (param.colon :: param.type.tokens)
      (readAfterMark param.type.tokens param.type.read) Binding.whole.stops := by
    intro place more h hmore
    have htakes := annotation_takes hparam.spells.starts hparam.spells.notConst htype
    refine gets_bind (accept_gets h hparam.colon) fun middle hmiddle => ?_
    exact gets_bind (htakes hmiddle hmore) fun stop hstop => gets_pure hstop _
  have hquestion : param.colon.isMark "?" = false := Token.isMark_of_isMark hparam.colon (by decide)
  refine gets_bind (optionalMark_misses h hquestion) fun middle hmiddle => ?_
  refine gets_bind (hcolonType hmiddle hmore) fun stop hstop => ?_
  cases more with
  | nil => cases hmore
  | cons follow more =>
    have hequals : follow.isMark "=" = false := Token.isMark_of_isAnyMark hmore (by decide)
    exact gets_bind (initializer_misses hstop hequals) fun last hlast => gets_pure hlast _

theorem SpelledParam.IsRead.takes (hnames : g.ReadsNames) (hparam : param.IsRead g) :
    (Grammar.param g start).Takes param.whole.tokens param.written Binding.whole.stops := by
  intro place more h hmore
  have hkind := Token.kind_of_isName hparam.name
  have hat : param.name.isMark "@" = false := Token.isMark_of_kind (by simp [hkind])
  have hmodifier : param.name.isAnyWord (accessWords ++ ["override", "readonly"]) = false := by
    rw [Token.isAnyWord, contains_of_isName hparam.name (by decide), Bool.and_false]
  refine gets_bind (decorators_misses h hat) fun middle hmiddle => ?_
  refine gets_bind (look_gets hmiddle) fun here hhere => ?_
  dsimp only
  rw [hmiddle.1.token_eq, hmodifier]
  simp only [Bool.false_and, Bool.false_eq_true, if_false]
  have hname : Gets (paramName g start) here (.named param.name.text)
      (param.colon :: param.type.tokens ++ more) :=
    ⟨here.held, paramName_of_name hparam.name hhere (hnames hparam.name hparam.colon hhere),
      hhere.2.withBefore .held⟩
  exact gets_bind hname fun stop hstop => hparam.tail hstop hmore

variable {written : List WrittenParam}

/-- A parameter is read, up to the mark after it. -/
theorem nextParam_gets {round : Round ParamList (List WrittenParam)} {rest : List Token}
    (hnames : g.ReadsNames) (hparam : param.IsRead g) (hmore : comesFirst Binding.whole.stops more)
    (h : place.Shows (param.whole.tokens ++ more))
    (hmark : ∀ after : Cursor, after.Shows more →
      Gets (do
        if ← acceptMark "," then return .again ⟨.plain, written ++ [param.written]⟩
        mark ")"
        return .done (written ++ [param.written])) after round rest) :
    Gets (nextParam g ⟨start, written⟩) place round rest := by
  have hclosing : param.name.isMark ")" = false :=
    Token.isMark_of_kind (by simp [Token.kind_of_isName hparam.name])
  refine gets_bind (accept_misses h hclosing) fun middle hmiddle => ?_
  exact gets_bind (hparam.takes hnames hmiddle hmore) fun after hafter => hmark after hafter

theorem moreParams_gets {params : List SpelledParam} {closing : Token} (hnames : g.ReadsNames)
    (hclosing : closing.isMark ")") (hcommas : ∀ other ∈ params, other.type.mark.isMark ",")
    (hparams : ∀ other ∈ param :: params, other.IsRead g)
    (h : place.Shows (separated ((param :: params).map (·.whole)) ++ closing :: more)) (fuel : Nat) :
    Gets (loopUpTo (nextParam g) (fuel + params.length + 1) ⟨start, written⟩) place
      (written ++ (param :: params).map (·.written)) more := by
  induction params generalizing param start written place with
  | nil =>
    rw [List.map_cons, List.map_nil, separated, marked, List.flatMap_nil, List.append_nil] at h
    have hstops : comesFirst Binding.whole.stops (closing :: more) :=
      Token.isAnyMark_of_isMark hclosing (by decide)
    refine gets_done (nextParam_gets hnames (hparams param List.mem_cons_self) hstops h ?_)
    intro after hafter
    have hcomma : closing.isMark "," = false := Token.isMark_of_isMark hclosing (by decide)
    refine gets_bind (accept_misses hafter hcomma) fun middle hmiddle => ?_
    exact gets_bind (mark_gets hmiddle hclosing) fun stop hstop => gets_pure hstop _
  | cons second params ih =>
    rw [List.forall_mem_cons] at hcommas hparams
    have htokens : separated ((param :: second :: params).map (·.whole)) ++ closing :: more =
        param.whole.tokens ++ second.type.mark ::
          (separated ((second :: params).map (·.whole)) ++ closing :: more) := by
      simp [separated, marked_cons, SpelledParam.whole]
    rw [htokens] at h
    rw [List.length_cons, ← Nat.add_assoc, List.map_cons, List.append_cons]
    have hstops : comesFirst Binding.whole.stops (second.type.mark ::
        (separated ((second :: params).map (·.whole)) ++ closing :: more)) :=
      Token.isAnyMark_of_isMark hcommas.1 (by decide)
    have hround : Gets (nextParam g ⟨start, written⟩) place
        (.again ⟨.plain, written ++ [param.written]⟩)
        (separated ((second :: params).map (·.whole)) ++ closing :: more) := by
      refine nextParam_gets hnames hparams.1 hstops h fun after hafter => ?_
      exact gets_bind (accept_gets hafter hcommas.1) fun stop hstop => gets_pure hstop _
    exact gets_again hround fun middle hmiddle => ih hcommas.2 hparams.2 hmiddle

theorem params_gets {params : List SpelledParam} {opening closing : Token} (hnames : g.ReadsNames)
    (hopening : opening.isMark "(") (hclosing : closing.isMark ")")
    (hcommas : ∀ other ∈ params.tail, other.type.mark.isMark ",")
    (hparams : ∀ other ∈ params, other.IsRead g)
    (h : place.Shows (opening :: separated (params.map (·.whole)) ++ closing :: more)) :
    Gets (Grammar.params g start) place (params.map (·.readParam)) more := by
  have hloop : ∀ middle : Cursor,
      middle.Shows (separated (params.map (·.whole)) ++ closing :: more) →
      Gets (loop (nextParam g) ⟨start, []⟩) middle (params.map (·.written)) more := by
    intro middle hmiddle
    cases params with
    | nil =>
      refine gets_loop hmiddle (Nat.zero_le _) fun _ => gets_done ?_
      exact gets_bind (accept_gets hmiddle hclosing) fun stop hstop => gets_pure hstop _
    | cons param params =>
      have hrounds : params.length ≤
          (separated ((param :: params).map (·.whole)) ++ closing :: more).length := by
        have hmarked := length_le_marked (params.map (·.whole))
        rw [List.map_cons, separated, List.length_append, List.length_append]
        rw [List.length_map] at hmarked
        omega
      exact gets_loop hmiddle hrounds (moreParams_gets hnames hclosing hcommas hparams hmiddle)
  refine gets_bind (mark_gets h hopening) fun middle hmiddle => ?_
  refine gets_bind (hloop middle hmiddle) fun stop hstop => ?_
  rw [numberParams_written]
  exact gets_pure hstop _

end Params

/-! ## Results -/

/-- What a result may say something about is one word, and a mark follows it. -/
theorem predicateSubject?_of_starts {first next : Token} (hstarts : StartsType (first :: next :: more))
    (h : place.IsAt first) {after : Cursor} (hafter : predicateSubject? place = some after) :
    after = place.next ∧ next.kind = .mark := by
  rw [predicateSubject?, h.token_eq] at hafter
  cases hstarts with
  | word hfirst hnext =>
    have hunique : first.isWord "unique" = false := by
      rcases hfirst with hname | hkeyword
      · rw [Token.isWord, text_of_isName hname (by decide), Bool.and_false]
      · have hne : first.text ≠ "unique" := by
          intro heq
          have hmem := Token.mem_of_isAnyWord hkeyword
          rw [heq] at hmem
          revert hmem
          decide
        rw [Token.isWord, beq_eq_false_iff_ne.mpr hne, Bool.and_false]
    rw [hunique, Bool.false_and] at hafter
    split at hafter
    · cases hafter
      exact ⟨rfl, hnext next rfl⟩
    · cases hafter
  | keyOf hword =>
    have hkeyof : first.kind = .word ∧ first.text = "keyof" :=
      ⟨Token.kind_of_isWord hword, Token.text_of_isWord hword⟩
    rw [Token.isWordBut, Token.isWord, Token.isAnyWord, Token.isWord, hkeyof.1, hkeyof.2] at hafter
    cases hafter
  | paren hmark =>
    have hkind := Token.kind_of_isMark hmark
    rw [Token.isWordBut, Token.isWord, Token.isAnyWord, Token.isWord, hkind] at hafter
    cases hafter

/-- Where a type stands alone, nothing is said about a parameter. -/
theorem predicate?_misses {first next : Token} (hstarts : StartsType (first :: next :: more))
    (h : place.Shows (first :: next :: more)) :
    Gets (predicate? g ending) place none (first :: next :: more) := by
  have hasserts : first.isWord "asserts" = false := by
    rw [Bool.eq_false_iff]
    intro hword
    cases hstarts with
    | word hfirst =>
      have htext := Token.text_of_isWord hword
      rcases hfirst with hname | hkeyword
      · exact Token.not_mem_of_isName hname (htext ▸ by decide)
      · have hmem := Token.mem_of_isAnyWord hkeyword
        rw [htext] at hmem
        revert hmem
        decide
    | keyOf hkeyof =>
      have htext := (Token.text_of_isWord hword).symm.trans (Token.text_of_isWord hkeyof)
      revert htext
      decide
    | paren hmark =>
      have hkind := (Token.kind_of_isWord hword).symm.trans (Token.kind_of_isMark hmark)
      cases hkind
  refine gets_bind (look_gets h) fun middle hmiddle => ?_
  rw [h.1.token_eq, hasserts]
  simp only [Bool.false_eq_true, if_false]
  cases hsubject : predicateSubject? place with
  | none => exact gets_pure hmiddle none
  | some after =>
    obtain ⟨rfl, hmark⟩ := predicateSubject?_of_starts hstarts h.1 hsubject
    have his : next.isWord "is" = false := Token.isWord_of_kind (by simp [hmark])
    refine gets_bind (goTo_gets h.2) fun stop hstop => ?_
    refine gets_bind (continueWith_misses hstop his) fun last hlast => ?_
    exact gets_bind (goTo_gets h) fun back hback => gets_pure hback none

theorem result_takes {tokens : List Token} {read : ReadType} {stops : List String}
    (hstarts : StartsType tokens) (htype : (g.type .plain ending).Takes tokens read stops) :
    (result g ending).Takes tokens read.type stops := by
  intro place more h hmore
  obtain ⟨first, behind, rfl, -⟩ := hstarts.exists_cons
  have hmark : ∀ next ∈ more.head?, next.kind = .mark := by
    intro next hnext
    rw [comesFirst, hnext, Option.any_some, Token.isAnyMark, Bool.and_eq_true, beq_iff_eq] at hmore
    exact hmore.1
  have hall := hstarts.append hmark
  obtain ⟨next, rest, hrest⟩ : ∃ next rest, behind ++ more = next :: rest := by
    refine List.exists_cons_of_ne_nil ?_
    cases more with
    | nil => cases hmore
    | cons follow more => simp
  rw [List.cons_append, hrest] at hall
  have hpredicate : Gets (predicate? g ending) place none (first :: next :: rest) := by
    rw [List.cons_append, hrest] at h
    exact predicate?_misses hall h
  refine gets_bind hpredicate fun middle hmiddle => ?_
  rw [← hrest] at hmiddle
  exact gets_bind (htype hmiddle hmore) fun stop hstop => gets_pure hstop _

/-! ## Function types -/

theorem typeParamsAt_misses {token : Token} (h : place.Shows (token :: more))
    (hmark : token.isMark "<" = false) : Gets (typeParamsAt g start) place [] (token :: more) := by
  refine gets_bind (look_gets h) fun middle hmiddle => ?_
  have hcondition : (!(start != .plain && place.token.isMark "<" &&
      place.next.withMarkup.token.isAnyWord typeWords && !(place.next.withMarkup.token.isWord "const"
        && place.next.withMarkup.next.token.kind == .word))) = true := by
    rw [h.1.token_eq, hmark, Bool.and_false, Bool.false_and, Bool.false_and, Bool.not_false]
  refine gets_bind (require_gets hmiddle hcondition) fun stop hstop => ?_
  exact gets_bind (accept_misses hstop hmark) fun last hlast => gets_pure hlast _

theorem functionType_gets {params : List SpelledParam} {opening closing arrow : Token}
    {tokens : List Token} {read : TypeExpr} {shape : TypeShape} {shared : Bool} {stops : List String}
    (hnames : g.ReadsNames) (hopening : opening.isMark "(") (hclosing : closing.isMark ")")
    (harrow : arrow.isMark "=>") (hcommas : ∀ other ∈ params.tail, other.type.mark.isMark ",")
    (hparams : ∀ other ∈ params, other.IsRead g) (hstarts : StartsType tokens)
    (hret : (g.type .plain ending).Takes tokens ⟨read, shape, shared⟩ stops)
    (hmore : comesFirst stops more)
    (h : place.Shows (opening :: separated (params.map (·.whole)) ++
      closing :: arrow :: (tokens ++ more))) :
    Gets (functionType g start ending) place (loose (.func (params.map (·.readParam)) read)) more := by
  have hless : opening.isMark "<" = false := Token.isMark_of_isMark hopening (by decide)
  refine gets_bind (typeParamsAt_misses h hless) fun middle hmiddle => ?_
  refine gets_bind (params_gets hnames hopening hclosing hcommas hparams hmiddle) fun inner hinner => ?_
  refine gets_bind (mark_gets hinner harrow) fun stop hstop => ?_
  exact gets_bind (result_takes hstarts hret hstop hmore) fun last hlast => gets_pure hlast _

theorem readsWhole_func {params : List SpelledParam} {opening closing arrow : Token}
    {tokens : List Token} {type read : TypeExpr} (hnames : g.ReadsNames)
    (hopening : opening.isMark "(") (hclosing : closing.isMark ")") (harrow : arrow.isMark "=>")
    (hcommas : ∀ other ∈ params.tail, other.type.mark.isMark ",")
    (hparams : ∀ other ∈ params, other.IsRead g) (hspells : Spells .whole tokens type read)
    (hreads : g.ReadsType tokens read) :
    ReadsWhole g (opening :: separated (params.map (·.whole)) ++ closing :: arrow :: tokens)
      (.func (params.map (·.readParam)) read) := by
  intro start ending
  obtain ⟨shape, shared, -, hret⟩ := hreads .plain ending
  refine ⟨.loose, false, fun _ => rfl, fun place more h hmore => ?_⟩
  have hplace : place.Shows (opening :: separated (params.map (·.whole)) ++
      closing :: arrow :: (tokens ++ more)) := by
    simpa using h
  have hpasses : Passes (separated (params.map (·.whole))) :=
    passes_params (fun other hother => (hparams other hother).name)
      (fun other hother => (hparams other hother).colon) hcommas
      (fun other hother => (hparams other hother).spells.passes)
  have hfollows : arrowFollows place = true := by
    rw [arrowFollows_of_passes (Token.isAnyMark_of_isMark hclosing (by decide)) hpasses hplace, harrow]
  have hoperand : Gets (operandType g start ending) place
      (loose (.func (params.map (·.readParam)) read)) more := by
    have hword {word : String} : opening.isWord word = false :=
      Token.isWord_of_kind (by simp [Token.kind_of_isMark hopening])
    have hwords {words : List String} : opening.isAnyWord words = false := by
      rw [Token.isAnyWord, Token.kind_of_isMark hopening]
      rfl
    have hmark {mark : String} (hne : "(" ≠ mark) : opening.isMark mark = false :=
      Token.isMark_of_isMark hopening hne
    refine gets_bind (look_gets hplace) fun middle hmiddle => ?_
    dsimp only
    rw [hplace.1.token_eq, hword, hword, hwords, hword, hword, hmark (by decide), hmark (by decide),
      hmark (by decide), hmark (by decide), hopening, hfollows]
    simp only [Bool.or_true, Bool.and_self, Bool.false_eq_true, if_false, if_true]
    refine gets_bind (functionType_gets hnames hopening hclosing harrow hcommas hparams
      hspells.starts hret hmore hmiddle) fun stop hstop => ?_
    exact gets_bind (settle_gets hstop _) fun last hlast => gets_pure hlast _
  refine type_gets hmore hoperand fun middle hmiddle => ?_
  refine gets_bind (joinedTypes_misses hmore (by decide) hmiddle) fun stop hstop => ?_
  exact joinedTypes_misses hmore (by decide) hstop

/-! ## All types -/

/-- The type is read from the tokens where a type that binds like this stands. -/
def Binding.Reads (g : Productions) : Binding → List Token → TypeExpr → Prop
  | .primary => ReadsPrimary g
  | .operand => Facade.ReadsOperand g
  | .conjunction => ReadsConjunction g
  | .whole => ReadsWhole g

theorem Spells.reads {binding : Binding} {tokens : List Token} {type read : TypeExpr}
    (h : Spells binding tokens type read) {depth : Nat} (hdepth : tokens.length ≤ depth) :
    binding.Reads (productions depth) tokens read := by
  induction h generalizing depth with
  | keyword hword => exact readsPrimary_keyword hword
  | name hname => exact readsPrimary_name hname
  | @applied name opening closing args hname hopening hclosing hsome hcommas hargs ih =>
    simp only [List.length_cons, List.length_append, List.length_nil] at hdepth
    obtain ⟨less, rfl⟩ : ∃ less, depth = less + 1 := ⟨depth - 1, by omega⟩
    refine readsPrimary_applied hname hopening hclosing hsome hcommas hargs fun arg harg => ?_
    have hlength := length_le_of_mem_separated harg
    have hread : arg.tokens.length ≤ less := by omega
    exact ih arg harg hread
  | array hopening hclosing _ ih =>
    rw [List.length_append] at hdepth
    exact ReadsPrimary.array (ih (by omega)) hopening hclosing
  | @paren _ _ tokens _ _ hopening hclosing hinner ih =>
    simp only [List.length_cons, List.length_append, List.length_nil] at hdepth
    obtain ⟨less, rfl⟩ : ∃ less, depth = less + 1 := ⟨depth - 1, by omega⟩
    have hread : tokens.length ≤ less := by omega
    exact readsPrimary_paren hopening hclosing hinner.starts (ih hread)
  | operand h ih => exact readsOperand_of_primary h (ih hdepth)
  | keyOf hword hoperand ih =>
    rw [List.length_cons] at hdepth
    obtain ⟨less, rfl⟩ : ∃ less, depth = less + 1 := ⟨depth - 1, by omega⟩
    refine readsOperand_keyOf hword hoperand.starts hoperand.operandOf_readAfterMark ?_
    intro ending
    obtain ⟨shared, hshared, htakes⟩ := ih (Nat.le_of_succ_le_succ hdepth) .plain ending
    rw [hshared rfl] at htakes
    exact htakes
  | conjunction h ih => exact readsConjunction_of_operand h.notConst (ih hdepth)
  | inter hjoints hmembers ih =>
    refine readsConjunction_inter hjoints hmembers fun member hmember => ?_
    exact ih member hmember (Nat.le_trans (length_le_of_mem_separated hmember) hdepth)
  | whole h ih => exact readsWhole_of_conjunction (ih hdepth)
  | union hjoints hmembers ih =>
    refine readsWhole_union hjoints hmembers fun member hmember => ?_
    exact ih member hmember (Nat.le_trans (length_le_of_mem_separated hmember) hdepth)
  | @func _ _ _ params tokens _ _ hopening hclosing harrow hnames hcolons hcommas hparams hret
      ihparams ihret =>
    simp only [List.length_cons, List.length_append] at hdepth
    obtain ⟨less, rfl⟩ : ∃ less, depth = less + 2 := ⟨depth - 2, by omega⟩
    have hresult : tokens.length ≤ less + 1 := by omega
    refine readsWhole_func (productions_readsNames less) hopening hclosing harrow hcommas ?_ hret
      (ihret hresult)
    intro param hparam
    have hmem : param.whole ∈ params.map (·.whole) := List.mem_map_of_mem hparam
    have hlength : param.type.tokens.length + 2 ≤ (separated (params.map (·.whole))).length :=
      length_le_of_mem_separated hmem
    have hread : param.type.tokens.length ≤ less + 1 := by omega
    exact ⟨hnames param hparam, hcolons param hparam, hparams param hparam,
      ihparams param hparam hread⟩

end Facade
