-- Places in front of known tokens. What a reader does there follows from the tokens alone: it gives a
-- value and leaves the tokens that it did not take.
import Facade.Proofs.Lexing

namespace Facade

open Reader

/-! ## Tokens of a kind -/

namespace Token

variable {token : Token}

theorem kind_of_isMark {text : String} (h : token.isMark text) : token.kind = .mark := by
  rw [isMark, Bool.and_eq_true, beq_iff_eq] at h
  exact h.1

theorem text_of_isMark {text : String} (h : token.isMark text) : token.text = text := by
  rw [isMark, Bool.and_eq_true, beq_iff_eq, beq_iff_eq] at h
  exact h.2

theorem isAnyMark_of_isMark {text : String} {texts : List String} (h : token.isMark text)
    (htext : text ∈ texts) : token.isAnyMark texts := by
  rw [isAnyMark, kind_of_isMark h, text_of_isMark h, Bool.and_eq_true, List.contains_iff_mem]
  exact ⟨rfl, htext⟩

theorem isMark_of_isMark {text other : String} (h : token.isMark text) (hne : text ≠ other) :
    token.isMark other = false := by
  rw [isMark, text_of_isMark h, beq_eq_false_iff_ne.mpr hne, Bool.and_false]

theorem isMark_of_isAnyMark {text : String} {texts : List String} (h : token.isAnyMark texts)
    (htext : text ∉ texts) : token.isMark text = false := by
  rw [isAnyMark, Bool.and_eq_true, List.contains_iff_mem] at h
  rw [isMark, Bool.and_eq_false_iff, beq_eq_false_iff_ne, beq_eq_false_iff_ne]
  right
  rintro rfl
  exact htext h.2

theorem isMark_of_kind {text : String} (h : token.kind ≠ .mark) : token.isMark text = false := by
  simp [isMark, h]

theorem isAnyMark_of_kind {texts : List String} (h : token.kind ≠ .mark) :
    token.isAnyMark texts = false := by
  simp [isAnyMark, h]

theorem kind_of_isWord {text : String} (h : token.isWord text) : token.kind = .word := by
  rw [isWord, Bool.and_eq_true, beq_iff_eq] at h
  exact h.1

theorem text_of_isWord {text : String} (h : token.isWord text) : token.text = text := by
  rw [isWord, Bool.and_eq_true, beq_iff_eq, beq_iff_eq] at h
  exact h.2

theorem kind_of_isAnyWord {texts : List String} (h : token.isAnyWord texts) : token.kind = .word := by
  rw [isAnyWord, Bool.and_eq_true, beq_iff_eq] at h
  exact h.1

theorem mem_of_isAnyWord {texts : List String} (h : token.isAnyWord texts) : token.text ∈ texts := by
  rw [isAnyWord, Bool.and_eq_true, List.contains_iff_mem] at h
  exact h.2

theorem isWord_of_kind {text : String} (h : token.kind ≠ .word) : token.isWord text = false := by
  simp [isWord, h]

end Token

/-! ## Places in front of tokens -/

/-- The place is in front of the token, on the same line as what was read before it. -/
structure Cursor.IsAt (place : Cursor) (token : Token) : Prop where
  token_eq : place.token = token
  left_eq : place.left = place.chars.length
  unmarked : place.markupNext = false
  goesOn : ∀ form, place.mayEnd form = false
  gap : Lexer.isGap token.leading
  written : token.text ≠ ""
  unfinished : token.kind ≠ .finish

/-- The tokens come next at the place, one after the other, and then the text ends. -/
def Cursor.Shows (place : Cursor) : List Token → Prop
  | [] => place.atEnd ∧ Lexer.isGap place.token.leading
  | token :: tokens => place.IsAt token ∧ place.next.Shows tokens

/-- The token starts like a name, a word or a parenthesis. -/
def Token.opensType (token : Token) : Bool :=
  token.text.toList.head?.any fun c => Lexer.isWordStart c || c == '('

theorem Token.isMark_of_opensType {token : Token} (h : token.opensType) {text : String}
    (htext : (text.toList.head?.any fun c => Lexer.isWordStart c || c == '(') = false) :
    token.isMark text = false := by
  by_contra hmark
  rw [opensType, text_of_isMark (by simpa using hmark), htext] at h
  cases h

namespace Cursor

variable {place : Cursor} {token : Token} {tokens : List Token}

theorem IsAt.withMarkup_eq (h : place.IsAt token) : place.withMarkup = place := by
  unfold Cursor.withMarkup
  split
  · exact withMarkupUpTo_eq_self h.unmarked _
  · rfl

theorem IsAt.atEnd_eq (h : place.IsAt token) : place.atEnd = false := by
  rw [atEnd, h.token_eq, beq_eq_false_iff_ne]
  exact h.unfinished

theorem IsAt.view_eq (h : place.IsAt token) (ending : Ending) : ending.view place = place := by
  unfold Ending.view
  split
  · exact h.withMarkup_eq
  · rfl

theorem IsAt.isAt_eq (h : place.IsAt token) (ending : Ending) : ending.isAt place = false := by
  cases ending with
  | line form => exact h.goesOn form
  | _ => rfl

/-- What was read before the place does not matter. -/
theorem IsAt.withBefore (h : place.IsAt token) (before : Before) :
    ({ place with before } : Cursor).IsAt token where
  token_eq := h.token_eq
  left_eq := h.left_eq
  unmarked := h.unmarked
  goesOn := h.goesOn
  gap := h.gap
  written := h.written
  unfinished := h.unfinished

theorem Shows.withBefore (h : place.Shows tokens) (before : Before) :
    ({ place with before } : Cursor).Shows tokens := by
  cases tokens with
  | nil => exact h
  | cons token tokens => exact ⟨h.1.withBefore before, h.2⟩

/-- After a token come what stands in front of the next and that token. -/
theorem after_eq (place : Cursor) :
    place.after = Trivia.chars place.next.token.leading ++ place.next.chars := by
  rw [next, chars_ofChars]
  exact (Lexer.chars_trivia _ _).symm

/-- How much is left at a place, by what comes before the next one. -/
theorem IsAt.left_eq_next (h : place.IsAt token) :
    place.left = place.next.left + place.next.gap + token.text.length := by
  have hnext : place.next.left = place.next.chars.length := by
    have hin : place.In place.chars := ⟨List.suffix_refl _, h.left_eq⟩
    exact hin.next.left
  have hafter := congrArg List.length place.after_eq
  have hleft := h.left_eq
  rw [chars, h.token_eq, List.length_append, String.length_toList] at hleft
  rw [List.length_append] at hafter
  unfold Cursor.gap Trivia.size
  omega

/-- Each token takes a character or more. -/
theorem Shows.length_le (h : place.Shows tokens) : tokens.length ≤ place.left := by
  induction tokens generalizing place with
  | nil => exact Nat.zero_le _
  | cons token tokens ih =>
    have htail := ih h.2
    have hleft := h.1.left_eq_next
    have hpos : token.text.length ≠ 0 := by simpa using h.1.written
    rw [List.length_cons]
    omega

/-- The text up to the next place is the token's. -/
theorem IsAt.textUpTo_next (h : place.IsAt token) : place.textUpTo place.next 0 = token.text := by
  have hleft := h.left_eq_next
  have hsize : place.left - (place.next.left + place.next.gap) + 0 = token.text.toList.length := by
    rw [String.length_toList]
    omega
  rw [textUpTo, hsize, chars, h.token_eq, List.take_left, String.ofList_toList]

/-- After a token in front of a type come blanks, comments and the type. -/
theorem IsAt.touches_eq {next : Token} (hnext : place.next.IsAt next) (hopens : next.opensType)
    {text : String} {c : Char} (htext : text.toList = [c])
    (hc : (Lexer.isSpace c || c == '/' || Lexer.isWordStart c || c == '(') = false) :
    place.touches text = false := by
  rw [touches, htext, place.after_eq, hnext.token_eq, chars, hnext.token_eq, ← List.append_assoc]
  by_contra htouches
  have hhead : (Trivia.chars next.leading ++ next.text.toList ++ place.next.after).head? = some c := by
    cases hchars : Trivia.chars next.leading ++ next.text.toList ++ place.next.after with
    | nil => simp [hchars] at htouches
    | cons d rest =>
      simp only [hchars, List.isPrefixOf, Bool.and_true, Bool.not_eq_false, beq_iff_eq] at htouches
      rw [htouches, List.head?_cons]
  cases hfirst : next.text.toList with
  | nil => exact absurd (String.toList_eq_nil_iff.mp hfirst) hnext.written
  | cons d rest =>
    rw [List.append_assoc, hfirst] at hhead
    rw [Token.opensType, hfirst] at hopens
    have hcases := Lexer.head?_chars_gap hnext.gap hhead
    simp only [List.cons_append, List.head?_cons, Option.any_some] at hcases hopens
    simp only [Bool.or_eq_false_iff, beq_eq_false_iff_ne] at hc
    rcases hcases with hspace | rfl | hsame
    · simp [hspace] at hc
    · simp at hc
    · cases hsame
      simp [hc] at hopens

end Cursor

/-! ## What a reader gives and leaves -/

namespace Reader

variable {α β σ : Type} {place : Cursor} {token : Token} {tokens rest : List Token}

/-- The reader gives the value and leaves the tokens. -/
def Gets (reader : Reader α) (place : Cursor) (value : α) (rest : List Token) : Prop :=
  ∃ stop, reader place = .ok value stop ∧ stop.Shows rest

theorem gets_pure (h : place.Shows rest) (value : α) : Gets (pure value) place value rest :=
  ⟨place, rfl, h⟩

theorem gets_bind {reader : Reader α} {next : α → Reader β} {value : α} {found : β}
    (h : Gets reader place value tokens)
    (hnext : ∀ middle : Cursor, middle.Shows tokens → Gets (next value) middle found rest) :
    Gets (reader >>= next) place found rest := by
  obtain ⟨middle, hread, hmiddle⟩ := h
  obtain ⟨stop, hrest, hstop⟩ := hnext middle hmiddle
  exact ⟨stop, bind_eq_ok_iff.mpr ⟨value, middle, hread, hrest⟩, hstop⟩

theorem gets_of_eq {reader other : Reader α} {target : Cursor} {value : α}
    (heq : reader place = other target) (h : Gets other target value rest) :
    Gets reader place value rest := by
  obtain ⟨stop, hread, hstop⟩ := h
  exact ⟨stop, heq.trans hread, hstop⟩

theorem bind_bind {γ : Type} (reader : Reader α) (next : α → Reader β) (last : β → Reader γ)
    (place : Cursor) :
    (reader >>= fun value => next value >>= last) place = ((reader >>= next) >>= last) place := by
  rw [bind_apply, bind_apply, bind_apply]
  cases reader place <;> rfl

theorem gets_again {round : σ → Reader (Round σ α)} {fuel : Nat} {state next : σ} {value : α}
    (h : Gets (round state) place (.again next) tokens)
    (hnext : ∀ middle : Cursor, middle.Shows tokens → Gets (loopUpTo round fuel next) middle value rest) :
    Gets (loopUpTo round (fuel + 1) state) place value rest :=
  gets_bind h hnext

theorem gets_done {round : σ → Reader (Round σ α)} {fuel : Nat} {state : σ} {value : α}
    (h : Gets (round state) place (.done value) rest) :
    Gets (loopUpTo round (fuel + 1) state) place value rest :=
  gets_bind h fun _ hmiddle => gets_pure hmiddle value

/-- A loop with no more rounds than there are tokens. -/
theorem gets_loop {round : σ → Reader (Round σ α)} {state : σ} {value : α} {rounds : Nat}
    (hplace : place.Shows tokens) (hrounds : rounds ≤ tokens.length)
    (h : ∀ fuel, Gets (loopUpTo round (fuel + rounds + 1) state) place value rest) :
    Gets (loop round state) place value rest := by
  have hlength := hplace.length_le
  obtain ⟨fuel, hfuel⟩ : ∃ fuel, place.left + 2 = fuel + rounds + 1 :=
    ⟨place.left + 1 - rounds, by omega⟩
  change Gets (loopUpTo round (place.left + 2) state) place value rest
  rw [hfuel]
  exact h fuel

theorem look_gets (h : place.Shows (token :: tokens)) : Gets look place place (token :: tokens) := by
  refine ⟨place, ?_, h⟩
  rw [look, h.1.withMarkup_eq]

theorem place_gets (h : place.Shows tokens) : Gets Reader.place place place tokens := ⟨place, rfl, h⟩

theorem goTo_gets {target : Cursor} (h : target.Shows tokens) : Gets (goTo target) place () tokens :=
  ⟨target, rfl, h⟩

theorem require_gets (h : place.Shows tokens) {condition : Bool} (hcondition : condition) :
    Gets (require condition) place () tokens := by
  rw [hcondition]
  exact gets_pure h ()

theorem settle_gets (h : place.Shows tokens) (ending : Ending) :
    Gets (settle ending) place () tokens := by
  refine ⟨_, settle_apply ending place, ?_⟩
  split
  · exact h.withBefore _
  · exact h

theorem peek_gets (h : place.Shows (token :: tokens)) : Gets peek place token (token :: tokens) := by
  refine gets_bind (look_gets h) fun middle hmiddle => ?_
  rw [h.1.token_eq]
  exact gets_pure hmiddle token

theorem nextIs_gets (h : place.Shows (token :: tokens)) (test : Token → Bool) :
    Gets (nextIs test) place (test token) (token :: tokens) :=
  gets_bind (peek_gets h) fun _ hmiddle => gets_pure hmiddle _

theorem next_gets (h : place.Shows (token :: tokens)) : Gets Reader.next place token tokens := by
  refine ⟨place.next, ?_, h.2⟩
  simp [Reader.next, bind_apply, look, h.1.withMarkup_eq, h.1.atEnd_eq, require, goTo, pure_apply,
    h.1.token_eq]

theorem accept_gets (h : place.Shows (token :: tokens)) {test : Token → Bool} (htest : test token) :
    Gets (accept test) place true tokens := by
  refine ⟨place.next, ?_, h.2⟩
  rw [accept_apply, h.1.withMarkup_eq, h.1.atEnd_eq, h.1.token_eq, htest]
  rfl

theorem accept_misses (h : place.Shows (token :: tokens)) {test : Token → Bool}
    (htest : test token = false) : Gets (accept test) place false (token :: tokens) := by
  refine ⟨place, ?_, h⟩
  rw [accept_apply, h.1.withMarkup_eq, h.1.token_eq, htest, Bool.and_false]
  rfl

theorem take_gets (h : place.Shows (token :: tokens)) {test : Token → Bool} (htest : test token) :
    Gets (take test) place token tokens := by
  refine ⟨place.next, ?_, h.2⟩
  rw [take_apply, h.1.withMarkup_eq, h.1.atEnd_eq, h.1.token_eq, htest]
  rfl

theorem mark_gets (h : place.Shows (token :: tokens)) {text : String} (hmark : token.isMark text) :
    Gets (mark text) place () tokens := by
  refine ⟨place.next, ?_, h.2⟩
  rw [mark_apply, h.1.withMarkup_eq, h.1.atEnd_eq, h.1.token_eq, hmark]
  rfl

theorem keyword_gets (h : place.Shows (token :: tokens)) {text : String} (hword : token.isWord text) :
    Gets (keyword text) place () tokens :=
  gets_bind (take_gets h hword) fun _ hmiddle => gets_pure hmiddle ()

theorem word_gets (h : place.Shows (token :: tokens)) (hword : token.kind = .word) :
    Gets word place token.text tokens :=
  gets_bind (take_gets h (by simp [hword])) fun _ hmiddle => gets_pure hmiddle _

/-! ## Tokens of the same form -/

theorem continueWith_gets (h : place.Shows (token :: tokens)) (ending : Ending)
    {test : Token → Bool} (htest : test token) :
    Gets (continueWith ending test) place true tokens := by
  refine ⟨place.next, ?_, h.2⟩
  rw [continueWith_apply, h.1.view_eq, h.1.atEnd_eq, h.1.isAt_eq, h.1.token_eq, htest]
  rfl

theorem continueWith_misses (h : place.Shows (token :: tokens)) {ending : Ending}
    {test : Token → Bool} (htest : test token = false) :
    Gets (continueWith ending test) place false (token :: tokens) := by
  refine ⟨place, ?_, h⟩
  rw [continueWith_apply, h.1.view_eq, h.1.token_eq, htest, Bool.and_false, Bool.false_and]
  rfl

end Reader

end Facade
