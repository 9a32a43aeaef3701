-- Readers at clear twins, in front of which the same blanks and comments stand. After the marks and
-- words that no comment follows, all twins are clear.
import Facade.Proofs.TwinReaders

namespace Facade

open Lexer Reader Grammar

set_option synthInstance.maxSize 4096

/-- The second reader answers at the twin of a place like the first at the place, where the same
blanks and comments stand in front of both. -/
class ReadsClear (s : Spot) {α : Type} (related : α → α → Prop) (reader reader' : Reader α) :
    Prop where
  alike : ∀ {place twin : Cursor}, Twin s place twin → twin.token = place.token →
    Reply.Alike s related (reader place) (reader' twin)

/-- A place and its twin with the same blanks and comments in front of them. -/
structure ClearTwins (s : Spot) extends Twins s where
  token : twin.token = place.token

instance {s : Spot} (places : ClearTwins s) : Twin s places.place places.twin := places.alike

section Clear

variable {s : Spot} {α β : Type} {related : α → α → Prop} {relatedTo : β → β → Prop}

instance (priority := low) clear_of_alike {reader reader' : Reader α}
    [h : ReadsAlike s related reader reader'] :
    ReadsClear s related reader reader' := ⟨fun htwin _ => h.alike htwin⟩

instance bind_clear {reader reader' : Reader α} {next next' : α → Reader β}
    [h : ReadsClear s Eq reader reader']
    [hnext : ∀ value, ReadsAlike s relatedTo (next value) (next' value)] :
    ReadsClear s relatedTo (reader >>= next) (reader' >>= next') :=
  ⟨fun htwin htoken => (h.alike htwin htoken).bind fun value _ _ _ _ _ heq hrest =>
    heq ▸ (hnext value).alike hrest⟩

instance ite_clear {c c' : Bool} {first first' second second' : Reader α} [hc : SameValue c c']
    [hfirst : ReadsClear s related first first'] [hsecond : ReadsClear s related second second'] :
    ReadsClear s related (if c then first else second) (if c' then first' else second') := by
  rw [hc.eq]
  cases c
  · exact hsecond
  · exact hfirst

instance orElse_clear {first first' second second' : Reader α}
    [hfirst : ReadsClear s related first first'] [hsecond : ReadsClear s related second second'] :
    ReadsClear s related (orElse first second) (orElse first' second') :=
  ⟨fun htwin htoken => (hfirst.alike htwin htoken).orElse (hsecond.alike htwin htoken)⟩

instance look_clear {next next' : Cursor → Reader β}
    [h : ∀ places : ClearTwins s, ReadsClear s relatedTo (next places.place) (next' places.twin)] :
    ReadsClear s relatedTo (look >>= next) (look >>= next') :=
  ⟨fun htwin htoken =>
    (h ⟨⟨_, _, htwin.withMarkup⟩, htwin.withMarkup_token htoken⟩).alike htwin.withMarkup
      (htwin.withMarkup_token htoken)⟩

instance place_clear {next next' : Cursor → Reader β}
    [h : ∀ places : ClearTwins s, ReadsClear s relatedTo (next places.place) (next' places.twin)] :
    ReadsClear s relatedTo (Reader.place >>= next) (Reader.place >>= next') :=
  ⟨fun htwin htoken => (h ⟨⟨_, _, htwin⟩, htoken⟩).alike htwin htoken⟩

instance peek_clear {next next' : Token → Reader β}
    [h : ∀ token, ReadsClear s relatedTo (next token) (next' token)] :
    ReadsClear s relatedTo (peek >>= next) (peek >>= next') := by
  refine ⟨fun {place twin} htwin htoken => ?_⟩
  have hmarkup := htwin.withMarkup_token htoken
  change Reply.Alike s relatedTo (next place.withMarkup.token place.withMarkup)
    (next' twin.withMarkup.token twin.withMarkup)
  rw [hmarkup]
  exact (h _).alike htwin.withMarkup hmarkup

instance require_clear {c c' : Bool} {next next' : Unit → Reader β} [hc : SameValue c c']
    [h : ReadsClear s relatedTo (next ()) (next' ())] :
    ReadsClear s relatedTo (require c >>= next) (require c' >>= next') := by
  rw [hc.eq]
  cases c
  · exact ⟨fun _ _ => .reject _ _⟩
  · exact h

instance nextIs_clear {test : Token → Bool}
    [htest : ∀ tokens : TokenTwins, SameValue (test tokens.token) (test tokens.twin)]
    {next next' : Bool → Reader β}
    [h : ∀ found, ReadsClear s relatedTo (next found) (next' found)] :
    ReadsClear s relatedTo (nextIs test >>= next) (nextIs test >>= next') := by
  refine ⟨fun {place twin} htwin htoken => ?_⟩
  have hsame := htest ⟨_, _, htwin.withMarkup.token⟩
  have hnext := (h (test place.withMarkup.token)).alike htwin.withMarkup
    (htwin.withMarkup_token htoken)
  change Reply.Alike s relatedTo (next (test place.withMarkup.token) place.withMarkup)
    (next' (test twin.withMarkup.token) twin.withMarkup)
  rwa [hsame.eq]

instance (priority := 2000) ite_true_alike {first first' second second' : Reader α}
    [h : ReadsAlike s related first first'] :
    ReadsAlike s related (if true then first else second) (if true then first' else second') := h

instance (priority := 2000) ite_false_alike {first first' second second' : Reader α}
    [h : ReadsAlike s related second second'] :
    ReadsAlike s related (if false then first else second) (if false then first' else second') := h

instance (priority := 2000) ite_true_clear {first first' second second' : Reader α}
    [h : ReadsClear s related first first'] :
    ReadsClear s related (if true then first else second) (if true then first' else second') := h

end Clear

/-! ## After marks and words that a comment does not follow -/

/-- A comment does not follow the text. -/
class Opener (text : String) : Prop where
  mem : text ∈ openers

instance : Opener "(" := ⟨by decide⟩

instance : Opener ":" := ⟨by decide⟩

instance : Opener "?" := ⟨by decide⟩

instance : Opener "..." := ⟨by decide⟩

instance : Opener "keyof" := ⟨by decide⟩

instance : Opener "readonly" := ⟨by decide⟩

instance : Opener "extends" := ⟨by decide⟩

/-- The tokens of the kind have such a text. -/
class OpenerTest (test : Token → Bool) : Prop where
  opens : ∀ token, test token → Opener token.text

instance openerTest_isMark (text : String) [h : Opener text] : OpenerTest (·.isMark text) where
  opens token htest := by
    have htext : token.text = text := by simpa using (Bool.and_eq_true_iff.1 htest).2
    rwa [htext]

instance openerTest_isWord (text : String) [h : Opener text] : OpenerTest (·.isWord text) where
  opens token htest := by
    have htext : token.text = text := by simpa using (Bool.and_eq_true_iff.1 htest).2
    rwa [htext]

instance openerTest_or {test test' : Token → Bool} [h : OpenerTest test] [h' : OpenerTest test'] :
    OpenerTest (fun token => test token || test' token) where
  opens token htest := (Bool.or_eq_true_iff.1 htest).elim (h.opens token) (h'.opens token)

section Openers

variable {s : Spot} {β : Type} {relatedTo : β → β → Prop} {test : Token → Bool}
  [hopen : OpenerTest test]

omit hopen in
theorem Twin.next_token {place twin : Cursor} (h : Twin s place twin) (hopen : OpenerTest test)
    (htest : test place.token) : twin.next.token = place.next.token :=
  h.next_and_token.2 (hopen.opens _ htest).mem

variable [htest : ∀ tokens : TokenTwins, SameValue (test tokens.token) (test tokens.twin)]

theorem Twin.view (ending : Ending) {place twin : Cursor} (h : Twin s place twin) :
    Twin s (ending.view place) (ending.view twin) := by
  unfold Ending.view
  split
  · exact h.withMarkup
  · exact h

omit hopen htest in
theorem continueWith_eq_true {ending : Ending} {place rest : Cursor}
    (h : continueWith ending test place = .ok true rest) :
    test (ending.view place).token ∧ rest = (ending.view place).next := by
  rw [continueWith_apply] at h
  split at h
  · next hfound =>
    cases h
    rw [Bool.and_eq_true_iff, Bool.and_eq_true_iff] at hfound
    exact ⟨hfound.1.2, rfl⟩
  · cases h

omit hopen htest in
theorem continueWith_eq_false {ending : Ending} {place rest : Cursor}
    (h : continueWith ending test place = .ok false rest) : rest = ending.view place := by
  rw [continueWith_apply] at h
  split at h
  · cases h
  · cases h
    rfl

theorem rest_of_acceptMark {text : String} {place rest : Cursor}
    (h : acceptMark text place = .ok false rest) :
    rest = place.withMarkup := by
  rw [acceptMark, accept_apply] at h
  split at h
  · cases h
  · cases h
    rfl

theorem acceptMark_eq_true {text : String} {place rest : Cursor}
    (h : acceptMark text place = .ok true rest) :
    place.withMarkup.token.isMark text ∧ rest = place.withMarkup.next := by
  rw [acceptMark, accept_apply] at h
  split at h
  · next hfound =>
    cases h
    exact ⟨(Bool.and_eq_true_iff.1 hfound).2, rfl⟩
  · cases h

theorem mark_eq_ok {text : String} {place rest : Cursor} (h : mark text place = .ok () rest) :
    place.withMarkup.token.isMark text ∧ rest = place.withMarkup.next := by
  rw [mark_apply] at h
  split at h
  · cases h
  · split at h
    · next hfound =>
      cases h
      exact ⟨hfound, rfl⟩
    · cases h

omit hopen htest in
theorem take_eq_ok {place rest : Cursor} {token : Token} (h : take test place = .ok token rest) :
    test place.withMarkup.token ∧ rest = place.withMarkup.next := by
  rw [take_apply] at h
  split at h
  · next hfound =>
    cases h
    exact ⟨(Bool.and_eq_true_iff.1 hfound).2, rfl⟩
  · cases h

theorem next_eq_ok {place rest : Cursor} {token : Token} (h : Reader.next place = .ok token rest) :
    rest = place.withMarkup.next := by
  obtain ⟨_, _, hlook, h⟩ := bind_eq_ok_iff.1 h
  cases hlook
  obtain ⟨_, _, -, h⟩ := bind_eq_ok_iff.1 h
  cases h
  rfl

theorem keyword_eq_ok {text : String} {place rest : Cursor} (h : keyword text place = .ok () rest) :
    place.withMarkup.token.isWord text ∧ rest = place.withMarkup.next := by
  obtain ⟨token, stop, hread, hstop⟩ := bind_eq_ok_iff.1 h
  cases hstop
  exact take_eq_ok hread

/-- Taking a token of such a kind leads to places with the same blanks and comments in front of
them. -/
instance (priority := 2000) continueWith_clear (ending : Ending) {next next' : Bool → Reader β}
    [htrue : ReadsClear s relatedTo (next true) (next' true)]
    [hfalse : ReadsAlike s relatedTo (next false) (next' false)] :
    ReadsAlike s relatedTo (continueWith ending test >>= next)
      (continueWith ending test >>= next') := by
  refine ⟨fun {place twin} htwin => ((continueWith_alike ending).alike htwin).bind
    fun found _ rest rest' hread hread' heq hrest => ?_⟩
  subst heq
  cases found with
  | false => exact hfalse.alike hrest
  | true =>
    obtain ⟨hfound, rfl⟩ := continueWith_eq_true hread
    obtain ⟨-, rfl⟩ := continueWith_eq_true hread'
    exact htrue.alike hrest ((htwin.view ending).next_token hopen hfound)

instance (priority := 2000) accept_clear {next next' : Bool → Reader β}
    [ReadsClear s relatedTo (next true) (next' true)]
    [ReadsAlike s relatedTo (next false) (next' false)] :
    ReadsAlike s relatedTo (accept test >>= next) (accept test >>= next') :=
  continueWith_clear .enclosed

instance (priority := 2000) acceptMark_clear (text : String) [Opener text]
    {next next' : Bool → Reader β} [ReadsClear s relatedTo (next true) (next' true)]
    [ReadsAlike s relatedTo (next false) (next' false)] :
    ReadsAlike s relatedTo (acceptMark text >>= next) (acceptMark text >>= next') :=
  accept_clear

instance (priority := 2000) mark_clear (text : String) [Opener text] {next next' : Unit → Reader β}
    [h : ReadsClear s relatedTo (next ()) (next' ())] :
    ReadsAlike s relatedTo (mark text >>= next) (mark text >>= next') := by
  refine ⟨fun {place twin} htwin => ((mark_alike text).alike htwin).bind
    fun _ _ rest rest' hread hread' _ hrest => ?_⟩
  obtain ⟨hfound, rfl⟩ := mark_eq_ok hread
  obtain ⟨-, rfl⟩ := mark_eq_ok hread'
  exact h.alike hrest (htwin.withMarkup.next_token (openerTest_isMark text) hfound)

instance (priority := 2000) keyword_clear (text : String) [Opener text]
    {next next' : Unit → Reader β} [h : ReadsClear s relatedTo (next ()) (next' ())] :
    ReadsAlike s relatedTo (keyword text >>= next) (keyword text >>= next') := by
  refine ⟨fun {place twin} htwin => ((keyword_alike text).alike htwin).bind
    fun _ _ rest rest' hread hread' _ hrest => ?_⟩
  obtain ⟨hfound, rfl⟩ := keyword_eq_ok hread
  obtain ⟨-, rfl⟩ := keyword_eq_ok hread'
  exact h.alike hrest (htwin.withMarkup.next_token (openerTest_isWord text) hfound)

end Openers

end Facade
