-- Readers at twins. A reader reads alike when it answers at the twin of a place as it does at the
-- place. What is built from such readers reads alike too, so that instance search finds it for most
-- forms.
import Facade.Proofs.TwinPlaces
import Facade.Proofs.StatementReading

namespace Facade

open Lexer Reader Grammar

-- Each form is composed of more readers than instance search takes by default.
set_option synthInstance.maxSize 4096

/-! ## Values that are the same -/

/-- Two values are the same. -/
class SameValue {α : Type} (first second : α) : Prop where
  eq : second = first

/-- Two tokens are the same, but for comments in front of them. -/
class TokenTwin (token twin : Token) : Prop where
  kind : twin.kind = token.kind
  text : twin.text = token.text
  markup : markupTexts twin = markupTexts token

/-- Two tokens that are the same, but for comments in front of them. -/
structure TokenTwins where
  token : Token
  twin : Token
  alike : TokenTwin token twin

instance (tokens : TokenTwins) : TokenTwin tokens.token tokens.twin := tokens.alike

/-- A place and its twin. -/
structure Twins (s : Spot) where
  place : Cursor
  twin : Cursor
  alike : Twin s place twin

instance {s : Spot} (places : Twins s) : Twin s places.place places.twin := places.alike

/-- The second text may follow the first in an operator. -/
class Joins (first second : String) : Prop where
  joined : isJoined (first.toList ++ second.toList)

instance : Joins "=" "=" := ⟨by decide⟩

instance : Joins "!" "=" := ⟨by decide⟩

instance : Joins "/" "=" := ⟨by decide⟩

instance : Joins "+" "=" := ⟨by decide⟩

instance : Joins "-" "=" := ⟨by decide⟩

instance : Joins "*" "=" := ⟨by decide⟩

instance : Joins ">" "=" := ⟨by decide⟩

instance : Joins "+" "+" := ⟨by decide⟩

instance : Joins "-" "-" := ⟨by decide⟩

instance : Joins "*" "*" := ⟨by decide⟩

instance : Joins ">" ">" := ⟨by decide⟩

instance : Joins "?" "." := ⟨by decide⟩

/-- A mark that joins types may start an operator. -/
class IsJoint (text : String) : Prop where
  equals : isJoined (text.toList ++ "=".toList)
  double : isJoined (text.toList ++ text.toList)
  brace : isJoined (text.toList ++ "\x7d".toList)

instance : IsJoint "<" := ⟨by decide, by decide, by decide⟩

instance : IsJoint "|" := ⟨by decide, by decide, by decide⟩

instance : IsJoint "&" := ⟨by decide, by decide, by decide⟩

instance (priority := low) joins_equals (text : String) [h : IsJoint text] : Joins text "=" :=
  ⟨h.equals⟩

instance (priority := low) joins_double (text : String) [h : IsJoint text] : Joins text text :=
  ⟨h.double⟩

instance (priority := low) joins_brace (text : String) [h : IsJoint text] : Joins text "\x7d" :=
  ⟨h.brace⟩

/-- The text may follow each of these in an operator. -/
class JoinsAll (texts : List String) (second : String) : Prop where
  joined : ∀ first ∈ texts, isJoined (first.toList ++ second.toList)

instance joinsAll_nil (second : String) : JoinsAll [] second := ⟨List.forall_mem_nil _⟩

instance joinsAll_cons (first second : String) (texts : List String) [h : Joins first second]
    [hmore : JoinsAll texts second] : JoinsAll (first :: texts) second :=
  ⟨List.forall_mem_cons.mpr ⟨h.joined, hmore.joined⟩⟩

section Same

variable {α β : Type}

instance same_refl (value : α) : SameValue value value := ⟨rfl⟩

instance same_not {first second : Bool} [h : SameValue first second] :
    SameValue (!first) (!second) :=
  ⟨congrArg _ h.eq⟩

instance same_and {first first' second second' : Bool} [h : SameValue first first']
    [h' : SameValue second second'] :
    SameValue (first && second) (first' && second') := ⟨by rw [h.eq, h'.eq]⟩

instance same_or {first first' second second' : Bool} [h : SameValue first first']
    [h' : SameValue second second'] :
    SameValue (first || second) (first' || second') := ⟨by rw [h.eq, h'.eq]⟩

instance same_beq [BEq α] {first second : α} [h : SameValue first second] (value : α) :
    SameValue (first == value) (second == value) := ⟨by rw [h.eq]⟩

instance same_bne [BEq α] {first second : α} [h : SameValue first second] (value : α) :
    SameValue (first != value) (second != value) := ⟨by rw [h.eq]⟩

instance same_append {first first' second second' : List α} [h : SameValue first first']
    [h' : SameValue second second'] :
    SameValue (first ++ second) (first' ++ second') := ⟨by rw [h.eq, h'.eq]⟩

instance same_again {first second : α} [h : SameValue first second] :
    SameValue (Round.again first : Round α β) (.again second) := ⟨by rw [h.eq]⟩

instance same_done {first second : β} [h : SameValue first second] :
    SameValue (Round.done first : Round α β) (.done second) := ⟨by rw [h.eq]⟩

instance same_some {first second : α} [h : SameValue first second] :
    SameValue (some first) (some second) :=
  ⟨by rw [h.eq]⟩

instance same_ite {first first' second second' : α} {c c' : Bool} [h : SameValue c c']
    [hfirst : SameValue first first'] [hsecond : SameValue second second'] :
    SameValue (if c then first else second) (if c' then first' else second') :=
  ⟨by rw [h.eq, hfirst.eq, hsecond.eq]⟩

end Same

/-! ## Tokens -/

theorem markupCount_eq (token : Token) :
    Trivia.markupCount token.leading = (markupTexts token).length := by
  unfold Trivia.markupCount markupTexts
  induction token.leading with
  | nil => rfl
  | cons trivia leading ih => cases trivia <;> simp_all

theorem TokenTwin.markupCount {token twin : Token} (h : TokenTwin token twin) :
    Trivia.markupCount twin.leading = Trivia.markupCount token.leading := by
  rw [markupCount_eq, markupCount_eq, h.markup]

section Tokens

variable {token twin : Token} [h : TokenTwin token twin]

instance same_kind : SameValue token.kind twin.kind := ⟨h.kind⟩

instance same_text : SameValue token.text twin.text := ⟨h.text⟩

instance same_markupCount :
    SameValue (Trivia.markupCount token.leading) (Trivia.markupCount twin.leading) :=
  ⟨h.markupCount⟩

instance same_isMark (text : String) : SameValue (token.isMark text) (twin.isMark text) :=
  ⟨by rw [Token.isMark, Token.isMark, h.kind, h.text]⟩

instance same_isAnyMark (texts : List String) :
    SameValue (token.isAnyMark texts) (twin.isAnyMark texts) :=
  ⟨by rw [Token.isAnyMark, Token.isAnyMark, h.kind, h.text]⟩

instance same_isWord (text : String) : SameValue (token.isWord text) (twin.isWord text) :=
  ⟨by rw [Token.isWord, Token.isWord, h.kind, h.text]⟩

instance same_isAnyWord (texts : List String) :
    SameValue (token.isAnyWord texts) (twin.isAnyWord texts) :=
  ⟨by rw [Token.isAnyWord, Token.isAnyWord, h.kind, h.text]⟩

instance same_isWordBut (texts : List String) :
    SameValue (token.isWordBut texts) (twin.isWordBut texts) :=
  ⟨by rw [Token.isWordBut, Token.isWordBut, h.kind, h.text]⟩

instance same_markupTypes : SameValue (markupTypes token) (markupTypes twin) :=
  ⟨by rw [markupTypes, markupTypes, h.markupCount]⟩

instance same_markupMembers : SameValue (markupMembers token) (markupMembers twin) :=
  ⟨by rw [markupMembers, markupMembers, h.markupCount]⟩

instance same_markupStatements : SameValue (markupStatements token) (markupStatements twin) :=
  ⟨by rw [markupStatements, markupStatements, h.markupCount]⟩

instance same_startsParamName : SameValue (startsParamName token) (startsParamName twin) := by
  unfold startsParamName
  infer_instance

instance same_startsSignature : SameValue (startsSignature token) (startsSignature twin) := by
  unfold startsSignature
  infer_instance

instance same_startsName : SameValue (startsName token) (startsName twin) := by
  unfold startsName
  infer_instance

instance same_startsBlock : SameValue (startsBlock token) (startsBlock twin) := by
  unfold startsBlock
  infer_instance

instance same_headGoesOn : SameValue (headGoesOn token) (headGoesOn twin) := by
  unfold headGoesOn
  infer_instance

end Tokens

/-! ## Places -/

theorem markupTexts_of_isClean {gap : List Trivia} (h : Trivia.isClean gap) (kind : TokenKind)
    (text : String) :
    markupTexts ⟨gap, kind, text⟩ = [] := by
  unfold markupTexts
  induction gap with
  | nil => rfl
  | cons piece gap ih =>
    have hmore := ih (Cursor.isClean_tail h)
    cases piece with
    | markup text => cases h
    | _ => exact hmore

namespace Twin

variable {s : Spot} {place twin : Cursor} [h : Twin s place twin]

instance token : TokenTwin place.token twin.token where
  kind := h.kind_eq
  text := h.text_eq
  markup := by
    cases h with
    | ahead => rfl
    | here => rw [markupTexts_of_isClean s.clean, markupTexts_of_isClean s.cleanNote]
    | past => rfl

instance ite {c c' : Bool} [hc : SameValue c c'] {other other' : Cursor}
    [hother : Twin s other other'] :
    Twin s (if c then place else other) (if c' then twin else other') := by
  rw [hc.eq]
  cases c
  · exact hother
  · exact h

instance same_atEnd : SameValue place.atEnd twin.atEnd := ⟨h.atEnd_eq⟩

instance same_before : SameValue place.before twin.before := ⟨h.before_eq⟩

instance same_mayEnd (form : Form) : SameValue (place.mayEnd form) (twin.mayEnd form) :=
  ⟨h.mayEnd_eq form⟩

instance same_isChoice : SameValue place.isChoice twin.isChoice := ⟨h.isChoice_eq⟩

instance same_isAt (ending : Ending) : SameValue (ending.isAt place) (ending.isAt twin) := by
  cases ending with
  | line form => exact h.same_mayEnd form
  | _ => exact same_refl _

instance same_isOneToken {stop stop' : Cursor} [hstop : Twin s stop stop'] :
    SameValue (isOneToken place stop) (isOneToken twin stop') := ⟨h.isOneToken_eq hstop⟩

end Twin

/-! ## Marks that follow a mark -/

/-- The condition only holds where the token is one of these. -/
class MarkedBy (texts : outParam (List String)) (place : outParam Cursor) (c : Bool) : Prop where
  mem : c → place.token.text ∈ texts

/-- Two conditions are the same where the token is one of these. -/
class SameAfter (texts : List String) (place : Cursor) (c c' : Bool) : Prop where
  eq : place.token.text ∈ texts → c' = c

section Marked

variable {s : Spot} {texts : List String} {place twin : Cursor} {c c' d d' : Bool}

instance markedBy_isMark (text : String) : MarkedBy [text] place (place.token.isMark text) where
  mem h := by
    rw [Token.isMark, Bool.and_eq_true, beq_iff_eq, beq_iff_eq] at h
    rw [h.2]
    exact List.mem_cons_self ..

instance markedBy_isAnyMark : MarkedBy texts place (place.token.isAnyMark texts) where
  mem h := by
    rw [Token.isAnyMark, Bool.and_eq_true, List.contains_iff_mem] at h
    exact h.2

instance markedBy_and [h : MarkedBy texts place c] : MarkedBy texts place (c && d) where
  mem hand := h.mem (Bool.and_eq_true_iff.mp hand).1

instance (priority := low) markedBy_and_right [h : MarkedBy texts place d] :
    MarkedBy texts place (c && d) where
  mem hand := h.mem (Bool.and_eq_true_iff.mp hand).2

instance (priority := low) sameAfter_of_same [h : SameValue c c'] : SameAfter texts place c c' :=
  ⟨fun _ => h.eq⟩

instance sameAfter_touches [h : Twin s place twin] (text : String) [hjoins : JoinsAll texts text] :
    SameAfter texts place (place.touches text) (twin.touches text) where
  eq hmem := h.touches_eq (hjoins.joined _ hmem)

instance sameAfter_not [h : SameAfter texts place c c'] : SameAfter texts place (!c) (!c') where
  eq hmem := by rw [h.eq hmem]

instance sameAfter_and [h : SameAfter texts place c c'] [h' : SameAfter texts place d d'] :
    SameAfter texts place (c && d) (c' && d') where
  eq hmem := by rw [h.eq hmem, h'.eq hmem]

instance sameAfter_or [h : SameAfter texts place c c'] [h' : SameAfter texts place d d'] :
    SameAfter texts place (c || d) (c' || d') where
  eq hmem := by rw [h.eq hmem, h'.eq hmem]

instance (priority := 2000) same_and_marked [h : SameValue c c'] [hmarked : MarkedBy texts place c]
    [hafter : SameAfter texts place d d'] : SameValue (c && d) (c' && d') where
  eq := by
    rw [h.eq]
    cases hc : c with
    | false => rw [Bool.false_and, Bool.false_and]
    | true => rw [Bool.true_and, Bool.true_and, hafter.eq (hmarked.mem hc)]

end Marked

/-! ## Answers -/

/-- The second answer is like the first: it gives a value for a value and a twin for a place, and
rejects what the first rejects. Where nesting runs out for the first, nothing is said. -/
inductive Reply.Alike (s : Spot) {α : Type} (related : α → α → Prop) : Reply α → Reply α → Prop
  | exhausted (reply : Reply α) : Alike s related .exhausted reply
  | reject (failure failure' : Failure) : Alike s related (.reject failure) (.reject failure')
  | ok {value value' : α} {rest rest' : Cursor} (hvalue : related value value')
    (hrest : Twin s rest rest') :
      Alike s related (.ok value rest) (.ok value' rest')

/-- The second reader answers at the twin of a place like the first at the place. -/
class ReadsAlike (s : Spot) {α : Type} (related : α → α → Prop) (reader reader' : Reader α) :
    Prop where
  alike : ∀ {place twin : Cursor}, Twin s place twin →
    Reply.Alike s related (reader place) (reader' twin)

section Rules

variable {s : Spot} {α β σ : Type} {related : α → α → Prop} {relatedTo : β → β → Prop}

theorem Reply.Alike.bind {reader reader' : Reader α} {next next' : α → Reader β}
    {place twin : Cursor} (h : Reply.Alike s related (reader place) (reader' twin))
    (hnext : ∀ value value' rest rest', reader place = .ok value rest →
      reader' twin = .ok value' rest' → related value value' → Twin s rest rest' →
      Reply.Alike s relatedTo (next value rest) (next' value' rest')) :
    Reply.Alike s relatedTo ((reader >>= next) place) ((reader' >>= next') twin) := by
  rw [bind_apply, bind_apply]
  generalize reader place = reply at h hnext
  generalize reader' twin = reply' at h hnext
  cases h with
  | exhausted => exact .exhausted _
  | reject failure failure' => exact .reject failure failure'
  | ok hvalue hrest => exact hnext _ _ _ _ rfl rfl hvalue hrest

/-- Where both readers reject, nothing after them is read. -/
theorem Reply.Alike.of_rejects {reader reader' : Reader α} {place twin : Cursor}
    (h : ∃ failure, reader place = .reject failure) (h' : ∃ failure, reader' twin = .reject failure)
    (next next' : α → Reader β) :
    Reply.Alike s relatedTo ((reader >>= next) place) ((reader' >>= next') twin) := by
  obtain ⟨failure, h⟩ := h
  obtain ⟨failure', h'⟩ := h'
  rw [bind_apply, bind_apply, h, h']
  exact .reject failure failure'

/-- A reader after another, when what the first reads is related. -/
theorem ReadsAlike.bind {reader reader' : Reader α} {next next' : α → Reader β}
    (h : ReadsAlike s related reader reader')
    (hnext : ∀ value value', related value value' →
      ReadsAlike s relatedTo (next value) (next' value')) :
    ReadsAlike s relatedTo (reader >>= next) (reader' >>= next') :=
  ⟨fun htwin => (h.alike htwin).bind fun value value' _ _ _ _ hvalue hrest =>
    (hnext value value' hvalue).alike hrest⟩

theorem ReadsAlike.andThen {reader reader' : Reader α} {next next' : α → Reader β}
    [h : ReadsAlike s Eq reader reader']
    (hnext : ∀ value, ReadsAlike s relatedTo (next value) (next' value)) :
    ReadsAlike s relatedTo (reader >>= next) (reader' >>= next') :=
  h.bind fun value _ heq => heq ▸ hnext value

instance bind_alike {reader reader' : Reader α} {next next' : α → Reader β}
    [h : ReadsAlike s Eq reader reader']
    [hnext : ∀ value, ReadsAlike s relatedTo (next value) (next' value)] :
    ReadsAlike s relatedTo (reader >>= next) (reader' >>= next') := .andThen hnext

theorem ReadsAlike.ite {c c' : Bool} {first first' second second' : Reader α} [hc : SameValue c c']
    (hfirst : c → ReadsAlike s related first first')
    (hsecond : ReadsAlike s related second second') :
    ReadsAlike s related (if c then first else second) (if c' then first' else second') := by
  rw [hc.eq]
  cases c
  · exact hsecond
  · exact hfirst rfl

instance ite_alike {c c' : Bool} {first first' second second' : Reader α} [hc : SameValue c c']
    [hfirst : ReadsAlike s related first first'] [hsecond : ReadsAlike s related second second'] :
    ReadsAlike s related (if c then first else second) (if c' then first' else second') :=
  .ite (fun _ => hfirst) hsecond

instance pure_alike {value value' : α} [h : SameValue value value'] :
    ReadsAlike s Eq (pure value) (pure value') :=
  ⟨fun htwin => .ok h.eq.symm htwin⟩

instance fail_alike : ReadsAlike s related fail fail := ⟨fun _ => .reject _ _⟩

instance missing_alike (mark : String) : ReadsAlike s related (missing mark) (missing mark) :=
  ⟨fun _ => .reject _ _⟩

instance exhausted_alike (reader : Reader α) : ReadsAlike s related exhausted reader :=
  ⟨fun _ => .exhausted _⟩

instance require_alike {c c' : Bool} [hc : SameValue c c'] :
    ReadsAlike s Eq (require c) (require c') := by
  unfold require
  infer_instance

instance goTo_alike {place twin : Cursor} [h : Twin s place twin] :
    ReadsAlike s Eq (goTo place) (goTo twin) :=
  ⟨fun _ => .ok rfl h⟩

theorem Reply.Alike.orElse {first first' second second' : Reader α} {place twin : Cursor}
    (hfirst : Reply.Alike s related (first place) (first' twin))
    (hsecond : Reply.Alike s related (second place) (second' twin)) :
    Reply.Alike s related (Reader.orElse first second place)
      (Reader.orElse first' second' twin) := by
  unfold Reader.orElse
  generalize first place = reply at hfirst
  generalize first' twin = reply' at hfirst
  cases hfirst with
  | exhausted => exact .exhausted _
  | ok hvalue hrest => exact .ok hvalue hrest
  | reject failure failure' =>
    generalize second place = reply at hsecond
    generalize second' twin = reply' at hsecond
    cases hsecond with
    | exhausted => exact .exhausted _
    | ok hvalue hrest => exact .ok hvalue hrest
    | reject failure failure' => exact .reject _ _

instance orElse_alike {first first' second second' : Reader α}
    [hfirst : ReadsAlike s related first first'] [hsecond : ReadsAlike s related second second'] :
    ReadsAlike s related (orElse first second) (orElse first' second') :=
  ⟨fun htwin => (hfirst.alike htwin).orElse (hsecond.alike htwin)⟩

theorem Reply.Alike.look {next next' : Cursor → Reader β} {place twin : Cursor}
    (h : Reply.Alike s relatedTo (next place.withMarkup place.withMarkup)
      (next' twin.withMarkup twin.withMarkup)) :
    Reply.Alike s relatedTo ((Reader.look >>= next) place) ((Reader.look >>= next') twin) := h

theorem Reply.Alike.place {next next' : Cursor → Reader β} {place twin : Cursor}
    (h : Reply.Alike s relatedTo (next place place) (next' twin twin)) :
    Reply.Alike s relatedTo ((Reader.place >>= next) place) ((Reader.place >>= next') twin) := h

theorem Reply.Alike.goTo {next next' : Unit → Reader β} {target target' place twin : Cursor}
    (h : Reply.Alike s relatedTo (next () target) (next' () target')) :
    Reply.Alike s relatedTo ((Reader.goTo target >>= next) place)
      ((Reader.goTo target' >>= next') twin) := h

theorem Reply.Alike.peek {next next' : Token → Reader β} {place twin : Cursor}
    (h : Reply.Alike s relatedTo (next place.withMarkup.token place.withMarkup)
      (next' twin.withMarkup.token twin.withMarkup)) :
    Reply.Alike s relatedTo ((Reader.peek >>= next) place) ((Reader.peek >>= next') twin) := h

theorem Reply.Alike.require {c : Bool} {next next' : Unit → Reader β} {place twin : Cursor}
    (h : c → Reply.Alike s relatedTo (next () place) (next' () twin)) :
    Reply.Alike s relatedTo ((Reader.require c >>= next) place)
      ((Reader.require c >>= next') twin) := by
  cases c with
  | true => exact h rfl
  | false => exact .reject _ _

theorem Reply.Alike.ite {c c' : Bool} {first first' second second' : Reader α} {place twin : Cursor}
    [hc : SameValue c c'] (hfirst : c → Reply.Alike s related (first place) (first' twin))
    (hsecond : Reply.Alike s related (second place) (second' twin)) :
    Reply.Alike s related ((if c then first else second) place)
      ((if c' then first' else second') twin) := by
  rw [hc.eq]
  cases c with
  | true => exact hfirst rfl
  | false => exact hsecond

instance look_alike {next next' : Cursor → Reader β}
    [h : ∀ places : Twins s, ReadsAlike s relatedTo (next places.place) (next' places.twin)] :
    ReadsAlike s relatedTo (look >>= next) (look >>= next') :=
  ⟨fun htwin => (h ⟨_, _, htwin.withMarkup⟩).alike htwin.withMarkup⟩

instance place_alike {next next' : Cursor → Reader β}
    [h : ∀ places : Twins s, ReadsAlike s relatedTo (next places.place) (next' places.twin)] :
    ReadsAlike s relatedTo (Reader.place >>= next) (Reader.place >>= next') :=
  ⟨fun htwin => (h ⟨_, _, htwin⟩).alike htwin⟩

/-- What a round decides is related when the states and the values are. -/
def RelatedRounds (kept : σ → σ → Prop) (related : α → α → Prop) : Round σ α → Round σ α → Prop
  | .again state, .again state' => kept state state'
  | .done value, .done value' => related value value'
  | _, _ => False

/-- Rounds that are alike make loops that are alike. The twin has at least as many rounds. -/
theorem loopUpTo_alike {round round' : σ → Reader (Round σ α)} (kept : σ → σ → Prop)
    (h : ∀ state state', kept state state' →
      ReadsAlike s (RelatedRounds kept related) (round state) (round' state'))
    {fuel fuel' : Nat} (hfuel : fuel ≤ fuel') {state state' : σ} (hstate : kept state state')
    {place twin : Cursor} (htwin : Twin s place twin) :
    Reply.Alike s related (loopUpTo round fuel state place)
      (loopUpTo round' fuel' state' twin) := by
  induction fuel generalizing fuel' state state' place twin with
  | zero => exact .exhausted _
  | succ fuel ih =>
    obtain ⟨fuel', rfl⟩ := Nat.exists_eq_add_of_le hfuel
    rw [Nat.add_right_comm, loopUpTo, loopUpTo]
    refine ((h state state' hstate).alike htwin).bind
      fun found found' rest rest' _ _ hfound hrest => ?_
    match found, found', hfound with
    | .again next, .again next', hnext => exact ih (Nat.le_add_right _ _) hnext hrest
    | .done value, .done value', hvalue => exact .ok hvalue hrest

theorem ReadsAlike.loop {round round' : σ → Reader (Round σ α)} (kept : σ → σ → Prop)
    {state state' : σ}
    (h : ∀ state state', kept state state' →
      ReadsAlike s (RelatedRounds kept related) (round state) (round' state'))
    (hstate : kept state state') :
    ReadsAlike s related (Reader.loop round state) (Reader.loop round' state') := by
  refine ⟨fun {place twin} htwin => loopUpTo_alike kept h ?_ hstate htwin⟩
  have hleft := htwin.left_eq
  have hlength := s.length_lt
  omega

theorem Reply.Alike.imp {related' : α → α → Prop} {reply reply' : Reply α}
    (h : Reply.Alike s related reply reply')
    (himp : ∀ value value', related value value' → related' value value') :
    Reply.Alike s related' reply reply' := by
  cases h with
  | exhausted => exact .exhausted _
  | reject failure failure' => exact .reject failure failure'
  | ok hvalue hrest => exact .ok (himp _ _ hvalue) hrest

theorem ReadsAlike.imp {related' : α → α → Prop} {reader reader' : Reader α}
    (h : ReadsAlike s related reader reader')
    (himp : ∀ value value', related value value' → related' value value') :
    ReadsAlike s related' reader reader' := ⟨fun htwin => (h.alike htwin).imp himp⟩

/-- Behind the spot readers that read alike and agree give the same and stay behind it. -/
theorem Reply.Alike.bind_self [Known α] {reader reader' : Reader α} {next next' : α → Reader β}
    {place : Cursor} (h : ReadsAlike s related reader reader')
    (hagree : Agree s.rest reader reader') (hplace : Twin s place place)
    (hnext : ∀ value rest, Twin s rest rest →
      Reply.Alike s relatedTo (next value rest) (next' value rest)) :
    Reply.Alike s relatedTo ((reader >>= next) place) ((reader' >>= next') place) := by
  refine (h.alike hplace).bind fun value value' rest rest' hread hread' _ hrest => ?_
  have hsame := ((hagree place (hplace.in_of_eq rfl)).of_ok hread).1
  rw [hread'] at hsame
  cases hsame
  exact hnext value rest hrest

instance loop_alike {round round' : σ → Reader (Round σ α)} {state state' : σ}
    [hstate : SameValue state state'] [h : ∀ state, ReadsAlike s Eq (round state) (round' state)] :
    ReadsAlike s Eq (loop round state) (loop round' state') := by
  refine .loop Eq (fun state _ heq => heq ▸ (h state).imp fun found _ heq => heq ▸ ?_)
    hstate.eq.symm
  cases found <;> exact rfl

end Rules

/-! ## Tokens where nothing can go on -/

section Tokens

variable {s : Spot} {β : Type} {relatedTo : β → β → Prop}

instance peek_alike {next next' : Token → Reader β}
    [h : ∀ tokens : TokenTwins, ReadsAlike s relatedTo (next tokens.token) (next' tokens.twin)] :
    ReadsAlike s relatedTo (peek >>= next) (peek >>= next') :=
  ⟨fun htwin => (h ⟨_, _, htwin.withMarkup.token⟩).alike htwin.withMarkup⟩

instance pure_token_alike {token twin : Token} [h : TokenTwin token twin] :
    ReadsAlike s TokenTwin (pure token) (pure twin) := ⟨fun htwin => .ok h htwin⟩

variable {test : Token → Bool}
  [htest : ∀ tokens : TokenTwins, SameValue (test tokens.token) (test tokens.twin)]

local instance same_test {token twin : Token} [h : TokenTwin token twin] :
    SameValue (test token) (test twin) :=
  htest ⟨token, twin, h⟩

instance nextIs_alike : ReadsAlike s Eq (nextIs test) (nextIs test) := by
  unfold nextIs
  infer_instance

instance next_token_alike : ReadsAlike s TokenTwin Reader.next Reader.next := by
  unfold Reader.next
  infer_instance

instance next_alike {next next' : Token → Reader β}
    [h : ∀ tokens : TokenTwins, ReadsAlike s relatedTo (next tokens.token) (next' tokens.twin)] :
    ReadsAlike s relatedTo (Reader.next >>= next) (Reader.next >>= next') :=
  next_token_alike.bind fun token twin htwin => h ⟨token, twin, htwin⟩

instance accept_alike : ReadsAlike s Eq (accept test) (accept test) := by
  unfold accept
  infer_instance

instance take_token_alike : ReadsAlike s TokenTwin (take test) (take test) := by
  unfold take
  infer_instance

instance take_alike {next next' : Token → Reader β}
    [h : ∀ tokens : TokenTwins, ReadsAlike s relatedTo (next tokens.token) (next' tokens.twin)] :
    ReadsAlike s relatedTo (take test >>= next) (take test >>= next') :=
  take_token_alike.bind fun token twin htwin => h ⟨token, twin, htwin⟩

instance acceptMark_alike (text : String) :
    ReadsAlike s Eq (acceptMark text) (acceptMark text) := by
  unfold acceptMark
  infer_instance

instance acceptWord_alike (text : String) :
    ReadsAlike s Eq (acceptWord text) (acceptWord text) := by
  unfold acceptWord
  infer_instance

instance acceptEquals_alike : ReadsAlike s Eq acceptEquals acceptEquals := by
  unfold acceptEquals
  infer_instance

instance mark_alike (text : String) : ReadsAlike s Eq (mark text) (mark text) := by
  unfold mark
  infer_instance

instance keyword_alike (text : String) : ReadsAlike s Eq (keyword text) (keyword text) := by
  unfold keyword
  infer_instance

instance word_alike : ReadsAlike s Eq word word := by
  unfold word
  infer_instance

instance wordBut_alike (words : List String) : ReadsAlike s Eq (wordBut words) (wordBut words) := by
  unfold wordBut
  infer_instance

instance followsAs_alike : ReadsAlike s Eq (followsAs test) (followsAs test) := by
  unfold followsAs
  infer_instance

instance follow_alike : ReadsAlike s Eq (follow test) (follow test) := by
  unfold follow
  infer_instance

theorem leave_alike {before : Before} (hbefore : before ≠ .body) :
    ReadsAlike s Eq (leave before) (leave before) :=
  ⟨fun htwin => .ok rfl (htwin.withBefore hbefore)⟩

instance leave_start_alike : ReadsAlike s Eq (leave .start) (leave .start) := leave_alike nofun

instance leave_held_alike : ReadsAlike s Eq (leave .held) (leave .held) := leave_alike nofun

instance leave_before_alike (ending : Ending) :
    ReadsAlike s Eq (leave ending.before) (leave ending.before) := by
  cases ending with
  | enclosed => exact leave_start_alike
  | _ => exact leave_held_alike

/-! ## Ends -/

instance continuesWith_alike (ending : Ending) :
    ReadsAlike s Eq (continuesWith ending test) (continuesWith ending test) := by
  unfold continuesWith
  infer_instance

instance continueWith_alike (ending : Ending) :
    ReadsAlike s Eq (continueWith ending test) (continueWith ending test) := by
  unfold continueWith
  infer_instance

instance settle_alike (ending : Ending) : ReadsAlike s Eq (settle ending) (settle ending) := by
  unfold settle
  infer_instance

instance mayEnd_alike (form : Form) : ReadsAlike s Eq (mayEnd form) (mayEnd form) := by
  unfold mayEnd
  infer_instance

instance startNew_alike : ReadsAlike s Eq startNew startNew := by
  unfold startNew
  infer_instance

instance semicolon_alike (form : Form) : ReadsAlike s Eq (semicolon form) (semicolon form) := by
  unfold semicolon
  infer_instance

end Tokens

/-! ## Runs of tokens -/

section Runs

variable {s : Spot} {α : Type}

instance commaSeparated_alike (close : String) {item item' : Reader α}
    [h : ReadsAlike s Eq item item'] :
    ReadsAlike s Eq (commaSeparated close item) (commaSeparated close item') := by
  unfold commaSeparated
  dsimp only
  infer_instance

instance sparse_alike (close : String) {item item' : Reader Unit} [h : ReadsAlike s Eq item item'] :
    ReadsAlike s Eq (sparse close item) (sparse close item') := by
  unfold sparse
  infer_instance

instance commaSeparated1_alike {item item' : Reader α} [h : ReadsAlike s Eq item item'] :
    ReadsAlike s Eq (commaSeparated1 item) (commaSeparated1 item') := by
  unfold commaSeparated1
  dsimp only
  infer_instance

end Runs

/-! ## Nested forms -/

/-- Whether a type is named by more than words and dots. -/
def TypeExpr.isUnnamed : TypeExpr → Bool
  | .ref name _ => !name.toList.all isNameChar
  | _ => false

/-- Two classes are the same, but for the texts of bases that are no names. -/
class ClassDecl.Alike (first second : ClassDecl) : Prop where
  eq : second = { first with bases := second.bases }
  bases : second.bases = first.bases ∨ first.bases.any TypeExpr.isUnnamed
  unknown : typesHaveUnknown second.bases = typesHaveUnknown first.bases

mutual

/-- Two statements are the same, but for texts that a facade does not show and for the texts of
bases that are no names. -/
inductive Statement.Alike : Statement → Statement → Prop
  | same (statement : Statement) : Statement.Alike statement statement
  | classDecl {first second : ClassDecl} (h : first.Alike second) :
      Statement.Alike (.classDecl first) (.classDecl second)
  | exportAssignment {first second : ExportAssignment}
    (hname : second.isIdentifier = first.isIdentifier)
      (htext : first.isIdentifier → second.name = first.name) :
      Statement.Alike (.exportAssignment first) (.exportAssignment second)
  | importDecl (first second : String) : Statement.Alike (.importDecl first) (.importDecl second)
  | module (name : String) (quoted : Bool) {first second : List Statement}
      (h : Statement.AllAlike first second) :
      Statement.Alike (.module name quoted first) (.module name quoted second)

/-- Statements are the same in the same sense, one after the other. -/
inductive Statement.AllAlike : List Statement → List Statement → Prop
  | nil : Statement.AllAlike [] []
  | cons {first second : Statement} {more more' : List Statement} (h : Statement.Alike first second)
      (hmore : Statement.AllAlike more more') : Statement.AllAlike (first :: more) (second :: more')

end

attribute [class] Statement.Alike Statement.AllAlike

/-- Two values that are related. -/
structure Related {α : Type} (related : α → α → Prop) where
  first : α
  second : α
  alike : related first second

instance (pair : Related ClassDecl.Alike) : pair.first.Alike pair.second := pair.alike

instance (pair : Related Statement.Alike) : pair.first.Alike pair.second := pair.alike

instance (pair : Related Statement.AllAlike) : Statement.AllAlike pair.first pair.second :=
  pair.alike

/-- What readers give of this kind is alike in this sense, and need not be the same. -/
class Likeness (α : Type) (alike : outParam (α → α → Prop)) : Prop

instance : Likeness ClassDecl ClassDecl.Alike where

instance : Likeness Statement Statement.Alike where

instance : Likeness (List Statement) Statement.AllAlike where

section Likeness

variable {s : Spot} {β : Type} {relatedTo : β → β → Prop}

instance (priority := 2000) likeness_bind {α : Type} {alike : α → α → Prop} [Likeness α alike]
    {reader reader' : Reader α} {next next' : α → Reader β} [h : ReadsAlike s alike reader reader']
    [hnext : ∀ pair : Related alike, ReadsAlike s relatedTo (next pair.first) (next' pair.second)] :
    ReadsAlike s relatedTo (reader >>= next) (reader' >>= next') :=
  h.bind fun value value' hvalue => hnext ⟨value, value', hvalue⟩

instance alike_of_same {first second : Statement} [h : SameValue first second] :
    first.Alike second :=
  h.eq ▸ .same first

instance alike_importDecl (first second : String) :
    Statement.Alike (.importDecl first) (.importDecl second) :=
  .importDecl first second

instance alike_classDecl {first second : ClassDecl} [h : first.Alike second] :
    Statement.Alike (.classDecl first) (.classDecl second) := .classDecl h

instance alike_module (name : String) (quoted : Bool) {first second : List Statement}
    [h : Statement.AllAlike first second] :
    Statement.Alike (.module name quoted first) (.module name quoted second) :=
  .module name quoted h

instance alike_ite {c c' : Bool} {first first' second second' : Statement} [hc : SameValue c c']
    [hfirst : first.Alike first'] [hsecond : second.Alike second'] :
    Statement.Alike (if c then first else second) (if c' then first' else second') := by
  rw [hc.eq]
  cases c with
  | true => exact hfirst
  | false => exact hsecond

instance pure_statement_alike {first second : Statement} [h : first.Alike second] :
    ReadsAlike s Statement.Alike (pure first) (pure second) := ⟨fun htwin => .ok h htwin⟩

end Likeness

/-- The nested forms read alike. -/
class Productions.Alike (s : Spot) (g g' : Productions) : Prop where
  /-- Behind the spot the same is read. -/
  agree : g.Agree s.rest g'
  type (start : Start) (ending : Ending) :
    ReadsAlike s Eq (g.type start ending) (g'.type start ending)
  conjunction (ending : Ending) : ReadsAlike s Eq (g.conjunction ending) (g'.conjunction ending)
  operand (start : Start) (ending : Ending) :
    ReadsAlike s Eq (g.operand start ending) (g'.operand start ending)
  expression (ending : Ending) : ReadsAlike s Eq (g.expression ending) (g'.expression ending)
  unary (ending : Ending) : ReadsAlike s Eq (g.unary ending) (g'.unary ending)
  simpleValue (ending : Ending) : ReadsAlike s Eq (g.simpleValue ending) (g'.simpleValue ending)
  target (ending : Ending) : ReadsAlike s Eq (g.target ending) (g'.target ending)
  pattern (start : Start) : ReadsAlike s Eq (g.pattern start) (g'.pattern start)
  objectMembers (start : Start) : ReadsAlike s Eq (g.objectMembers start) (g'.objectMembers start)
  declaration : ReadsAlike s Statement.Alike g.declaration g'.declaration
  exportStatement : ReadsAlike s Statement.Alike g.exportStatement g'.exportStatement
  statement : ReadsAlike s Statement.Alike g.statement g'.statement
  block : ReadsAlike s Statement.AllAlike g.block g'.block

attribute [instance] Productions.Alike.type Productions.Alike.conjunction Productions.Alike.operand
  Productions.Alike.expression Productions.Alike.unary Productions.Alike.simpleValue
  Productions.Alike.target Productions.Alike.pattern Productions.Alike.objectMembers
  Productions.Alike.declaration Productions.Alike.exportStatement Productions.Alike.statement
  Productions.Alike.block

end Facade
