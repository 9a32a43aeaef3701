-- What twins have in common: where a form may end, the text between them, and what comes after the
-- bracket that closes one.
import Facade.Proofs.CommentTwins
import Facade.Grammar.Pattern

namespace Facade

open Lexer

/-! ## What starts something new -/

namespace Spot

variable {s : Spot} {token : Token} {more : List Char}

theorem not_isLetter_of_ascii {c : Char} (h : c = '/' ∨ isBreakable c ∧ c.toNat < 0x80) :
    Cursor.isLetter c = false := by
  rcases h with rfl | ⟨hbreak, hcode⟩
  · rfl
  · have hword := not_isWordChar_of_isSpace (isSpace_of_isBreakable hbreak)
    simp only [isWordChar, isWordStart, Bool.or_eq_false_iff] at hword
    rw [Cursor.isLetter, hword.1.1.1.1, Bool.false_or, decide_eq_false_iff_not]
    omega

/-- No letter comes first in the other text. -/
theorem not_isLetter_noted (s : Spot) : s.noted.head?.any Cursor.isLetter = false := by
  obtain ⟨c, more, hnoted, hstop⟩ := s.exists_noted
  have hlonger := s.longer
  rw [hnoted, List.head?_cons, Option.any_some]
  refine not_isLetter_of_ascii ?_
  cases hnote : Trivia.chars s.note with
  | nil =>
    rw [hnote, List.length_nil] at hlonger
    omega
  | cons d note =>
    rw [Spot.noted, hnote] at hnoted
    obtain rfl : d = c := (List.cons.inj hnoted).1
    have hhead : (Trivia.chars s.note ++ []).head? = some d := by
      rw [hnote]
      rfl
    rcases Trivia.head?_of_isClean s.cleanNote hhead with hblank | hslash | hnil
    · exact .inr hblank
    · exact .inl hslash
    · cases hnil

/-- No letter follows a word right in front of the spot. -/
theorem not_isLetter_rest {c : Char} (hlast : s.last.toList.getLast? = some c) (hc : isWordChar c) :
    s.rest.head?.any Cursor.isLetter = false := by
  rw [Option.any_eq_false]
  intro d hd
  rcases Trivia.head?_of_isClean s.clean hd with hblank | hslash | hhead
  · exact not_isLetter_of_ascii (.inr hblank)
  · exact not_isLetter_of_ascii (.inl hslash)
  · have happart := s.apart_rest hlast hd
    have hname : isWordChar d = false := by
      rw [joins, Bool.or_eq_false_iff, isNameChar, hc, Bool.true_or, Bool.true_and, isNameChar,
        Bool.or_eq_false_iff] at happart
      exact happart.1.1
    rw [Spot.head?_chars] at hhead
    have hspace := s.lexes.not_isSpace hhead
    simp only [isWordChar, isWordStart, hspace, Bool.or_eq_false_iff, Bool.not_false,
      Bool.and_true] at hname
    have hcode := of_decide_eq_false hname.1.2
    rw [Cursor.isLetter, hname.1.1.1.1, Bool.false_or, decide_eq_false_iff_not]
    omega

/-- Whether a letter follows a word is the same in both texts. -/
theorem isLetter_drop_eq (h : s.Piece token more) (hmore : s.Front more) {text : List Char}
    (hjoined : isJoined text) {c : Char} (hlast : text.getLast? = some c) (hc : isWordChar c)
    (hstart : text.isPrefixOf (token.text.toList ++ (more ++ s.rest))) :
    ((token.text.toList ++ (more ++ s.noted)).drop text.length).head?.any Cursor.isLetter =
      ((token.text.toList ++ (more ++ s.rest)).drop text.length).head?.any Cursor.isLetter := by
  rw [(s.isPrefixOf_eq h hmore hjoined).2, List.isPrefixOf_iff_prefix] at hstart
  obtain ⟨rest, hrest⟩ := hstart
  have hdrop (tail : List Char) :
      (token.text.toList ++ (more ++ tail)).drop text.length = rest ++ tail := by
    rw [← List.append_assoc, ← hrest, List.append_assoc, List.drop_left]
  rw [hdrop, hdrop]
  cases rest with
  | nil =>
    rw [List.append_nil] at hrest
    rw [hrest, s.getLast?_front h hmore] at hlast
    rw [List.nil_append, List.nil_append, s.not_isLetter_noted, not_isLetter_rest hlast hc]
  | cons d rest => rfl

theorem operatorWordNext_eq (h : s.Piece token more) (hmore : s.Front more) :
    Cursor.operatorWordNext (token.text.toList ++ (more ++ s.noted)) =
      Cursor.operatorWordNext (token.text.toList ++ (more ++ s.rest)) := by
  have hlong : isJoined "instanceof".toList := by decide
  have hshort : isJoined "in".toList := by decide
  rw [Cursor.operatorWordNext_eq, Cursor.operatorWordNext_eq, (s.isPrefixOf_eq h hmore hlong).1,
    (s.isPrefixOf_eq h hmore hshort).1]
  split
  · rename_i hstart
    exact congrArg _ (isLetter_drop_eq h hmore hlong rfl (by decide) hstart)
  · cases hstart : "in".toList.isPrefixOf (token.text.toList ++ (more ++ s.rest)) with
    | false => rw [Bool.false_and, Bool.false_and]
    | true => exact congrArg _ (congrArg _ (isLetter_drop_eq h hmore hshort rfl (by decide) hstart))

/-- Whether a character follows the first one, with which it belongs together, is the same in both
texts. -/
theorem head?_tail_eq (h : s.Piece token more) (hmore : s.Front more) {c d : Char}
    {text : List Char} (htext : token.text.toList = c :: text) (hjoins : joins c d) :
    ((text ++ (more ++ s.noted)).head? == some d) =
    ((text ++ (more ++ s.rest)).head? == some d) := by
  have hjoined : isJoined [c, d] := by
    rw [isJoined, hjoins]
    rfl
  have hprefix := (s.isPrefixOf_eq h hmore hjoined).1
  have hhead (chars : List Char) : [c, d].isPrefixOf (c :: chars) = (chars.head? == some d) := by
    cases chars with
    | nil => simp [List.isPrefixOf]
    | cons e chars => simp [List.isPrefixOf, eq_comm]
  rw [htext, List.cons_append, List.cons_append, hhead, hhead] at hprefix
  exact hprefix

theorem startsNew_eq (h : s.Piece token more) (hmore : s.Front more) (form : Form) :
    Cursor.startsNew form (token.text.toList ++ (more ++ s.noted)) =
      Cursor.startsNew form (token.text.toList ++ (more ++ s.rest)) := by
  obtain ⟨c, text, htext⟩ := List.exists_cons_of_ne_nil h.text_ne
  have hword := operatorWordNext_eq h hmore
  rw [htext, List.cons_append, List.cons_append] at hword ⊢
  rw [Cursor.startsNew, Cursor.startsNew, hword]
  split
  · rfl
  · split
    · rfl
    · split
      · rfl
      · split
        · rename_i hsign
          refine head?_tail_eq h hmore htext ?_
          rw [Bool.or_eq_true, beq_iff_eq, beq_iff_eq] at hsign
          rcases hsign with rfl | rfl <;> decide
        · split
          · rename_i hbang
            rw [beq_iff_eq] at hbang
            subst hbang
            rw [bne, bne, head?_tail_eq h hmore htext (by decide)]
          · rfl

theorem begins_eq (h : s.Piece token more) (hmore : s.Front more) (form : Form) :
    Cursor.begins form (token.text.toList ++ (more ++ s.noted)) =
      Cursor.begins form (token.text.toList ++ (more ++ s.rest)) := by
  have hstarts := startsNew_eq h hmore form
  obtain ⟨c, text, htext⟩ := List.exists_cons_of_ne_nil h.text_ne
  have hstop := h.head_not_isStop (c := c) (by rw [htext, List.head?_cons])
  rw [isStop, Bool.or_eq_false_iff, beq_eq_false_iff_ne] at hstop
  have hbreak : isBreakable c = false := by
    by_contra hbreak
    rw [isSpace_of_isBreakable ((Bool.not_eq_false _).mp hbreak)] at hstop
    cases hstop.1
  rw [htext, List.cons_append, List.cons_append] at hstarts ⊢
  rw [Cursor.begins_cons hbreak hstop.2, Cursor.begins_cons hbreak hstop.2, hstarts]

/-! ## What ends something -/

/-- After plain blanks and comments the first character is that of the token, or a slash. -/
theorem head?_dropWhile_of_isClean {gap : List Trivia} (h : Trivia.isClean gap) {chars : List Char}
    {d : Char}
    (hspace : ∀ c, chars.head? = some c → isSpace c = false) (hhead : chars.head? ≠ some d)
    (hslash : d ≠ '/') :
    ((Trivia.chars gap ++ chars).dropWhile isBreakable).head? ≠ some d := by
  induction gap with
  | nil =>
    change (chars.dropWhile isBreakable).head? ≠ some d
    cases chars with
    | nil => exact hhead
    | cons c rest =>
      rw [List.dropWhile_cons_of_neg ?_]
      · exact hhead
      · intro hbreak
        have hfalse := hspace c rfl
        rw [isSpace_of_isBreakable hbreak] at hfalse
        cases hfalse
  | cons piece gap ih =>
    cases piece with
    | blank text =>
      rw [Trivia.isClean, Bool.and_eq_true] at h
      rw [Trivia.chars_cons, List.append_assoc, Trivia.text,
        List.dropWhile_append_of_pos (List.all_eq_true.mp (Trivia.all_isBreakable_of_all h.1))]
      exact ih h.2
    | comment text =>
      rw [Trivia.isClean, Bool.and_eq_true, Bool.and_eq_true] at h
      obtain ⟨rest, hrest⟩ := List.head?_eq_some_iff.mp (Cursor.head?_of_comment h.1.1)
      rw [Trivia.chars_cons, List.append_assoc, Trivia.text, hrest, List.cons_append,
        List.dropWhile_cons_of_neg (by decide), List.head?_cons]
      intro heq
      cases heq
      exact hslash rfl
    | markup text => cases h

theorem Front.exists_not_isSpace (h : s.Front more) (hne : more ≠ []) :
    ∃ c ∈ more, isSpace c = false := by
  cases h with
  | nil => exact absurd rfl hne
  | @cons token more h hmore =>
    obtain ⟨c, text, htext⟩ := List.exists_cons_of_ne_nil h.text_ne
    refine ⟨c, ?_, h.lexes.not_isSpace (by rw [htext, List.head?_cons])⟩
    rw [Token.chars, htext]
    simp

/-- What comes first after breakable blanks is known, unless nothing else is left. -/
theorem head?_dropWhile_append {chars : List Char} (h : chars.all isBreakable = false)
    (more : List Char) :
    ((chars ++ more).dropWhile isBreakable).head? = (chars.dropWhile isBreakable).head? := by
  induction chars with
  | nil => cases h
  | cons c chars ih =>
    rw [List.cons_append, List.dropWhile_cons, List.dropWhile_cons]
    split
    · rename_i hbreak
      rw [List.all_cons, hbreak, Bool.true_and] at h
      exact ih h
    · rfl

theorem Front.not_all_isBreakable (h : s.Front more) (hne : more ≠ []) :
    more.all isBreakable = false := by
  obtain ⟨c, hc, hspace⟩ := h.exists_not_isSpace hne
  rw [List.all_eq_false]
  refine ⟨c, hc, fun hbreak => ?_⟩
  rw [isSpace_of_isBreakable hbreak] at hspace
  cases hspace

/-- Whether a colon follows a brace is the same in both texts. -/
theorem colon_eq (h : s.Piece token more) (hmore : s.Front more) (hbrace : token.text = "\x7d") :
    (((more ++ s.noted).dropWhile isBreakable).head? == some ':') =
      (((more ++ s.rest).dropWhile isBreakable).head? == some ':') := by
  by_cases hnil : more = []
  · have hlast : s.last = "\x7d" := by
      rcases h.last hnil with heq | ⟨heq, -⟩
      · exact heq.symm.trans hbrace
      · rw [hbrace] at heq
        exact absurd heq (by decide)
    subst hnil
    have hspace (c : Char) (hc : s.chars.head? = some c) : isSpace c = false := by
      rw [Spot.head?_chars] at hc
      exact s.lexes.not_isSpace hc
    have hlabel : s.chars.head? ≠ some ':' := by
      rw [Spot.head?_chars]
      exact s.noLabel hlast
    rw [List.nil_append, List.nil_append, Spot.noted, Spot.rest,
      beq_eq_false_iff_ne.mpr (head?_dropWhile_of_isClean s.clean hspace hlabel (by decide)),
      beq_eq_false_iff_ne.mpr (head?_dropWhile_of_isClean s.cleanNote hspace hlabel (by decide))]
  · have hbreak := hmore.not_all_isBreakable hnil
    rw [head?_dropWhile_append hbreak, head?_dropWhile_append hbreak]

theorem endsBefore_eq (h : s.Piece token more) (hmore : s.Front more) (form : Form) :
    Cursor.endsBefore form (token.text.toList ++ (more ++ s.noted)) =
      Cursor.endsBefore form (token.text.toList ++ (more ++ s.rest)) := by
  obtain ⟨c, text, htext⟩ := List.exists_cons_of_ne_nil h.text_ne
  have hspace := h.lexes.not_isSpace (c := c) (by rw [htext, List.head?_cons])
  have hbreak : isBreakable c = false := by
    by_contra hbreak
    rw [isSpace_of_isBreakable ((Bool.not_eq_false _).mp hbreak)] at hspace
    cases hspace
  by_cases hzero : c.toNat = 0
  · rw [htext]
    simp [Cursor.endsBefore, hzero]
  · by_cases hbrace : c = '}'
    · subst hbrace
      have htoken := h.lexes.token
      rw [htext, List.cons_append, token_operatorChar (by decide),
        markToken_other (by decide) (by decide) (by decide), ← String.length_toList,
          htext] at htoken
      have hnil : text = [] :=
        List.eq_nil_of_length_eq_zero (by simpa using (congrArg Prod.snd htoken).symm)
      subst hnil
      have hcolon := colon_eq h hmore (String.toList_inj.mp (by rw [htext]; rfl))
      rw [htext, List.singleton_append, List.singleton_append, Cursor.endsBefore_brace,
        Cursor.endsBefore_brace,
        bne, bne, hcolon]
    · rw [htext, List.cons_append, List.cons_append,
        Cursor.endsBefore_of_not_isBreakable hzero hbrace hbreak,
        Cursor.endsBefore_of_not_isBreakable hzero hbrace hbreak]

end Spot

namespace Twin

variable {s : Spot} {place twin : Cursor}

/-! ## Ends -/

theorem end?_eq_of_ahead {token : Token} {more : List Char} (h : s.Piece token more)
    (hmore : s.Front more) (form : Form) (left left' : Nat) (before : Before) :
    Cursor.end? ⟨token, more ++ s.noted, left', before⟩ form =
      Cursor.end? ⟨token, more ++ s.rest, left, before⟩ form :=
  Cursor.endAfter?_of_settles h.settles (Spot.endsBefore_eq h hmore form)
    (Spot.begins_eq h hmore form) 0

/-- A form may end at a place and at its twin. -/
theorem mayEnd_eq (h : Twin s place twin) (form : Form) : twin.mayEnd form = place.mayEnd form := by
  cases h with
  | ahead h hmore => rw [Cursor.mayEnd, Cursor.mayEnd, end?_eq_of_ahead h hmore]
  | here =>
    simp only [Cursor.mayEnd, Cursor.end?, Cursor.isSome_endAfter?]
    rw [Cursor.endsAmong_of_isClean s.clean, Cursor.endsAmong_of_isClean s.cleanNote,
      Cursor.endsAfter,
      Cursor.endsAfter, s.breaks]
    rfl
  | past => rfl

/-! ## Choices -/

/-- Whether these characters after a question mark leave it a choice. -/
def leavesChoice : List Char → Bool
  | ':' :: _ => false
  | ')' :: _ => false
  | ',' :: _ => false
  | '.' :: c :: _ => c.isDigit
  | ['.'] => false
  | _ => true

theorem isChoice_eq_leavesChoice (place : Cursor) :
    place.isChoice = (place.token.isMark "?" && place.afterBreakable &&
      !place.after.head?.any (fun c => c == '?' || c == '.') &&
      leavesChoice (place.after.dropWhile isBreakable)) := by
  rw [Cursor.isChoice]
  congr 1

theorem leavesChoice_cons_cons (c d : Char) (rest : List Char) :
    leavesChoice (c :: d :: rest) =
      (c != ':' && c != ')' && c != ',' && (c != '.' || d.isDigit)) := by
  unfold leavesChoice
  split <;> simp_all

/-- What follows a question mark in front of the spot decides whether there is a choice. -/
theorem leavesChoice_eq {more : List Char} (h : s.Front more) (hne : more ≠ []) :
    leavesChoice ((more ++ s.noted).dropWhile isBreakable) =
      leavesChoice ((more ++ s.rest).dropWhile isBreakable) := by
  obtain ⟨c, rest, hdrop⟩ : ∃ c rest, more.dropWhile isBreakable = c :: rest := by
    refine List.exists_cons_of_ne_nil fun hnil => ?_
    have hbreak := h.not_all_isBreakable hne
    rw [List.all_eq_false] at hbreak
    obtain ⟨c, hc, hfalse⟩ := hbreak
    exact hfalse (List.dropWhile_eq_nil_iff.mp hnil c hc)
  have hpass (tail : List Char) : (more ++ tail).dropWhile isBreakable = c :: rest ++ tail := by
    rw [List.dropWhile_append, hdrop]
    rfl
  rw [hpass, hpass]
  cases rest with
  | nil =>
    obtain ⟨d, tail, hnoted, -⟩ := s.exists_noted
    obtain ⟨e, tail', hrest⟩ : ∃ e tail', s.rest = e :: tail' :=
      List.exists_cons_of_ne_nil (by rw [Spot.rest]; simp [s.chars_ne])
    -- the front does not end with a dot
    have hpoint : c ≠ '.' := by
      rintro rfl
      have hsuffix : ['.'] <:+ more := hdrop ▸ List.dropWhile_suffix isBreakable
      obtain ⟨front, rfl⟩ := hsuffix
      exact s.noPoint (by rw [← h.getLast? hne, List.getLast?_concat])
    rw [hnoted, hrest, List.singleton_append, List.singleton_append, leavesChoice_cons_cons,
      leavesChoice_cons_cons, bne_iff_ne.mpr hpoint, Bool.true_or, Bool.true_or]
  | cons d rest => rw [List.cons_append, List.cons_append, List.cons_append, List.cons_append,
      leavesChoice_cons_cons, leavesChoice_cons_cons]

theorem afterBreakable_of_isClean {gap : List Trivia} (h : Trivia.isClean gap) (kind : TokenKind)
    (text : String) (after : List Char) (left : Nat) (before : Before) :
    Cursor.afterBreakable ⟨⟨gap, kind, text⟩, after, left, before⟩ = true := by
  unfold Cursor.afterBreakable
  split
  · rename_i blank hlast
    obtain ⟨front, hfront⟩ := List.getLast?_eq_some_iff.mp hlast
    dsimp only at hfront
    subst hfront
    induction front with
    | nil =>
      rw [List.nil_append, Trivia.isClean, Bool.and_eq_true] at h
      exact Trivia.all_isBreakable_of_all h.1
    | cons piece front ih =>
      exact ih (Cursor.isClean_tail h) List.getLast?_concat
  · rfl

theorem isChoice_eq (h : Twin s place twin) : twin.isChoice = place.isChoice := by
  rw [isChoice_eq_leavesChoice, isChoice_eq_leavesChoice]
  cases h with
  | @ahead token more before h hmore =>
    cases hmark : token.isMark "?" with
    | false => simp only [Bool.false_and]
    | true =>
      have hne : more ≠ [] := by
        intro hnil
        rw [Token.isMark, Bool.and_eq_true, beq_iff_eq, beq_iff_eq] at hmark
        rcases h.last hnil with heq | ⟨heq, -⟩
        · exact s.noOpener (heq ▸ hmark.2 ▸ by decide)
        · rw [hmark.2] at heq
          exact absurd heq (by decide)
      have hhead (tail : List Char) : (more ++ tail).head? = more.head? := by
        rw [List.head?_append, List.head?_eq_some_head hne, Option.some_or]
      have hbreakable (tail : List Char) (left : Nat) :
          Cursor.afterBreakable ⟨token, more ++ tail, left, before⟩ =
            Cursor.afterBreakable ⟨token, [], 0, before⟩ := rfl
      dsimp only
      rw [hbreakable, hbreakable, hhead, hhead, leavesChoice_eq hmore hne]
  | here =>
    rw [afterBreakable_of_isClean s.clean, afterBreakable_of_isClean s.cleanNote]
    rfl
  | past => rfl

end Twin

/-! ## Points after a question mark -/

namespace Lexer

theorem token_point (rest : List Char) : token ('.' :: rest) = markToken '.' rest := by
  have hword : startsWord ('.' :: rest) = false := by
    rw [startsWord, wordEscapeSize?_cons (by decide)]
    rfl
  rw [token, hword]
  rfl

theorem token_digit {c : Char} (h : c.isDigit) (rest : List Char) :
    token (c :: rest) = (.number, numberSize (c :: rest)) := by
  have hescape : c ≠ '\\' := by
    rintro rfl
    cases h
  have hstart : isWordStart c = false := by
    simp only [Char.isDigit, Bool.and_eq_true, decide_eq_true_eq, ge_iff_le,
      UInt32.le_iff_toNat_le] at h
    unfold isWordStart Char.isAlpha Char.isUpper Char.isLower
    simp only [Bool.or_eq_false_iff, Bool.and_eq_false_iff, decide_eq_false_iff_not, ge_iff_le,
      UInt32.le_iff_toNat_le, Char.toNat, beq_eq_false_iff_ne]
    refine ⟨⟨⟨?_, ?_⟩, ?_⟩, ?_⟩
    · simp at h ⊢
      omega
    · rintro rfl
      simp at h
    · rintro rfl
      simp at h
    · simp at h ⊢
      omega
  have hword : startsWord (c :: rest) = false := by
    rw [startsWord, wordEscapeSize?_cons hescape, List.head?_cons, Option.any_some, hstart]
    rfl
  rw [token, hword, h]
  rfl

end Lexer

/-- The token is a number, or a mark that starts with a point. -/
structure Cursor.IsPointed (place : Cursor) : Prop where
  settled : place.withMarkup = place
  pointed : place.token.kind = .number ∨ place.token.kind = .mark ∧
    place.token.text.toList.head? = some '.'

theorem Cursor.isPointed_ofChars {c : Char} (hc : c = '.' ∨ c.isDigit) (rest : List Char)
    (left : Nat) :
    (ofChars [] left (c :: rest)).IsPointed := by
  have hspace : isSpace c = false := by
    rcases hc with rfl | hdigit
    · rfl
    · exact not_isSpace_of_isDigit hdigit
  have hslash : c ≠ '/' := by
    rintro rfl
    revert hc
    decide
  have htrivia := trivia_of_startsToken (startsToken_cons hspace hslash rest) left
  have hmarkup : markupSize? (c :: rest) = none := by
    have hother : c ≠ '<' ∧ c ≠ '-' := by
      constructor
      all_goals
        rintro rfl
        revert hc
        decide
    rw [markupSize?, if_neg]
    simp [List.isPrefixOf, hother.1.symm, hother.2.symm]
  refine ⟨withMarkup_of_markupSize? (by rw [chars_ofChars, htrivia]; exact hmarkup), ?_⟩
  rcases hc with rfl | hdigit
  · simp only [ofChars, htrivia, token_point, markToken_point]
    split
    · simp
    · split <;> simp
  · simp [ofChars, htrivia, token_digit hdigit]

theorem Cursor.IsPointed.isMark {place : Cursor} (h : place.IsPointed) {text : String}
    (htext : text.toList.head? ≠ some '.') : place.token.isMark text = false := by
  rw [Token.isMark, Bool.and_eq_false_iff, beq_eq_false_iff_ne, beq_eq_false_iff_ne]
  rcases h.pointed with hnumber | ⟨-, hpoint⟩
  · exact .inl (by simp [hnumber])
  · refine .inr fun heq => htext ?_
    rw [← heq, hpoint]

namespace Twin

variable {s : Spot} {place twin : Cursor}

/-- After a question mark a point is passed alike, or it starts a longer token at both places. -/
theorem skip_point (h : Twin s place twin) (hmark : place.token.isMark "?")
    (htouches : place.touches ".") :
    Twin s (place.skip 2) (twin.skip 2) ∨
      (place.skip 2).IsPointed ∧ (twin.skip 2).IsPointed := by
  have htext : place.token.text = "?" := by simpa using (Bool.and_eq_true_iff.1 hmark).2
  cases h with
  | @ahead token more before h hmore =>
    dsimp only at htext
    cases more with
    | nil =>
      rcases h.last rfl with heq | ⟨heq, -⟩
      · exact absurd (heq ▸ htext ▸ by decide) s.noOpener
      · rw [htext] at heq
        exact absurd heq (by decide)
    | cons c more =>
      have hc : c = '.' := by
        have htouches : ['.'].isPrefixOf (c :: more ++ s.rest) := htouches
        rw [List.cons_append, List.isPrefixOf, Bool.and_eq_true, beq_iff_eq] at htouches
        exact htouches.1.symm
      subst hc
      have hskip (tail : List Char) :
          Cursor.skip ⟨token, '.' :: more ++ tail,
            (token.text.toList ++ ('.' :: more ++ tail)).length, before⟩ 2 =
            .ofChars [] (more ++ tail).length (more ++ tail) := by
        rw [Cursor.skip, Cursor.chars]
        dsimp only
        rw [htext]
        rfl
      rw [hskip, hskip]
      obtain ⟨point, text, rest, -, rfl, -, hrest, hpoint⟩ := hmore.uncons rfl
      cases text with
      | nil => exact .inl (of_front hrest).1
      | cons d text =>
        have hd : d = '.' ∨ d.isDigit := by
          by_contra hd
          rw [not_or] at hd
          have hhead : (d :: text ++ rest ++ s.rest).head? = some d := rfl
          rw [token_point, markToken_point, hhead, if_neg (by simp [hd.1]),
            if_neg (by simp [hd.2])] at hpoint
          have hsize := congrArg Prod.snd hpoint
          simp at hsize
        exact .inr ⟨Cursor.isPointed_ofChars hd _ _, Cursor.isPointed_ofChars hd _ _⟩
  | here =>
    exact .inl (past_skip (s.in_here s.gap _) (Cursor.chars_ne_of_text s.text_ne_empty)
      Nat.zero_lt_two)
  | past hin =>
    refine .inl (past_skip hin (Cursor.chars_ne_of_text ?_) Nat.zero_lt_two)
    rw [htext]
    decide

/-! ## Text between places -/

/-- How much of the text is left at twins. -/
theorem left_eq (h : Twin s place twin) :
    (twin.left + s.rest.length = place.left + s.noted.length ∧
        s.rest.length + place.token.text.length ≤ place.left) ∨
      (twin.left = place.left ∧ place.left ≤ s.rest.length) := by
  have hlength := s.length_rest
  cases h with
  | @ahead token more before h hmore =>
    refine .inl ?_
    simp only [List.length_append, String.length_toList]
    omega
  | here =>
    refine .inr ⟨rfl, ?_⟩
    dsimp only
    omega
  | past hin hleft => exact .inr ⟨rfl, by omega⟩

/-- How much of the text is left after the token before twins. -/
theorem stop_eq (h : Twin s place twin) :
    (twin.left + twin.gap + s.rest.length = place.left + place.gap + s.noted.length ∧
        s.rest.length ≤ place.left + place.gap) ∨
      (twin = place ∧ place.left + place.gap < s.rest.length) := by
  have hlength := s.length_rest
  have hlength' := s.length_noted
  cases h with
  | @ahead token more before h hmore =>
    refine .inl ?_
    simp only [Cursor.gap, List.length_append, String.length_toList]
    omega
  | here =>
    refine .inl ?_
    simp only [Cursor.gap, Trivia.size]
    omega
  | past hin hleft => exact .inr ⟨rfl, hleft⟩

variable {start stop start' stop' : Cursor}

/-- Whether one token stands between places is the same for their twins. -/
theorem isOneToken_eq (hstart : Twin s start start') (hstop : Twin s stop stop') :
    Grammar.isOneToken start' stop' = Grammar.isOneToken start stop := by
  have hlt := s.length_lt
  have hfrom := hstop.stop_eq
  unfold Grammar.isOneToken
  rw [hstart.text_eq, Bool.eq_iff_iff, beq_iff_eq, beq_iff_eq]
  rcases hstart.left_eq with hleft | hleft
  · rcases hfrom with hfrom | ⟨rfl, hfrom⟩ <;> omega
  · rcases hfrom with hfrom | ⟨rfl, hfrom⟩
    · -- the place is not in front of the other one, so that nothing stands between them
      have hpos : 0 < start.token.text.length ∨ start.left < s.rest.length := by
        cases hstart with
        | ahead h => exact .inl (length_pos_of_ne_empty h.text_ne_empty)
        | here => exact .inl (length_pos_of_ne_empty s.text_ne_empty)
        | past hin hpast => exact .inr (by omega)
      omega
    · omega

/-- The text between places is that between their twins, unless the spot is in it. -/
theorem textUpTo_eq (hstart : Twin s start start') (hstop : Twin s stop stop')
    (hsame : start.left ≤ s.rest.length ∨ s.rest.length ≤ stop.left + stop.gap) :
    start'.textUpTo stop' 0 = start.textUpTo stop 0 := by
  have hlength := s.length_lt
  unfold Cursor.textUpTo
  rcases hstop.stop_eq with ⟨hfrom, hle⟩ | ⟨rfl, hlt⟩
  · cases hstart with
    | @ahead token more before h hmore =>
      have hcount : (token.text.toList ++ (more ++ s.rest)).length - (stop.left + stop.gap) + 0 ≤
          (token.text.toList ++ more).length := by
        simp only [List.length_append]
        omega
      have hcount' : (token.text.toList ++ (more ++ s.noted)).length - (stop'.left + stop'.gap) +
        0 =
          (token.text.toList ++ (more ++ s.rest)).length - (stop.left + stop.gap) + 0 := by
        simp only [List.length_append]
        omega
      have htake {count : Nat} (hcount : count ≤ (token.text.toList ++ more).length)
        (tail : List Char) :
          (token.text.toList ++ (more ++ tail)).take count =
            (token.text.toList ++ more).take count := by
        rw [← List.append_assoc, List.take_append_of_le_length hcount]
      simp only [hcount', Cursor.chars]
      rw [htake hcount, htake hcount]
    | here =>
      have hrest := s.length_rest
      dsimp only
      rw [Nat.sub_eq_zero_of_le (by omega), Nat.sub_eq_zero_of_le (by omega)]
      rfl
    | past hin hpast => rw [Nat.sub_eq_zero_of_le (by omega), Nat.sub_eq_zero_of_le (by omega)]
  · cases hstart with
    | @ahead token more before h hmore =>
      have hpos := length_pos_of_ne_empty h.text_ne_empty
      simp only [List.length_append, String.length_toList] at hsame
      omega
    | here => rfl
    | past => rfl

/-! ## Places in front of the spot -/

theorem next_eq_ofChars (token : Token) (after : List Char) (before : Before) :
    Cursor.next ⟨token, after, (token.text.toList ++ after).length, before⟩ =
      .ofChars [] after.length after := by
  rw [Cursor.next]
  dsimp only
  rw [List.length_append, String.length_toList, Nat.add_sub_cancel_left]

theorem isLoneConst_iff (h : Twin s place twin) :
    isLoneConst place.token.text place.after ↔
      loneConsts.contains [place.token.text, place.next.withMarkup.token.text,
        place.next.withMarkup.next.withMarkup.token.text] := by
  have hnext : place.next = .ofChars [] place.after.length place.after := by
    cases h with
    | ahead => exact next_eq_ofChars ..
    | here => exact next_eq_ofChars ..
    | past hin => rw [Cursor.next, hin.left_after]
  rw [hnext]
  rfl

theorem withMarkup_eq_or (h : Twin s place twin) :
    place.withMarkup = place ∨ place.In s.rest ∧ place.left + place.gap < s.rest.length := by
  cases h with
  | ahead h hmore => exact .inl (withMarkup_ahead h hmore _ _).1
  | here => exact .inl (withMarkup_here _ _)
  | past hin hleft => exact .inr ⟨hin, hleft⟩

theorem withMarkup_eq (h : Twin s place twin) (hahead : s.rest.length ≤ place.left + place.gap) :
    place.withMarkup = place := by
  rcases h.withMarkup_eq_or with heq | ⟨-, hpast⟩
  · exact heq
  · omega

theorem withMarkup_withMarkup (h : Twin s place twin) :
    place.withMarkup.withMarkup = place.withMarkup := by
  rcases h.withMarkup_eq_or with heq | ⟨hin, -⟩
  · rw [heq, heq]
  · exact hin.withMarkup_withMarkup

theorem twin_withMarkup_withMarkup (h : Twin s place twin) :
    twin.withMarkup.withMarkup = twin.withMarkup := by
  cases h with
  | ahead h hmore => rw [(withMarkup_ahead h hmore _ _).2, (withMarkup_ahead h hmore _ _).2]
  | here => rw [withMarkup_here, withMarkup_here]
  | past hin => exact hin.withMarkup_withMarkup

/-- After a token in front of the spot the spot is not passed. -/
theorem next_ahead (h : Twin s place twin) (hfront : s.rest.length < place.left) :
    s.rest.length ≤ place.next.left + place.next.gap := by
  cases h with
  | @ahead token more before h hmore =>
    have hlength : (token.text.toList ++ (more ++ s.rest)).length - token.text.length =
        (more ++ s.rest).length := by
      rw [List.length_append, String.length_toList]
      omega
    simp only [Cursor.next, hlength]
    rw [Cursor.left_add_gap_ofChars, List.length_append]
    omega
  | here =>
    have hlength := s.length_rest
    dsimp only at hfront
    omega
  | past hin hleft => omega

/-- After a token that the spot does not follow, the next token stands in front of the spot too. -/
theorem next_front (h : Twin s place twin) (hfront : s.rest.length < place.left)
    (hopen : place.token.text ∈ openers) : s.rest.length < place.next.left := by
  have hahead := h.next_ahead hfront
  obtain ⟨hnext, htoken⟩ := h.next_and_token
  have htoken := htoken hopen
  generalize place.next = next at hahead hnext htoken ⊢
  generalize twin.next = next' at hnext htoken
  cases hnext with
  | @ahead token more before h hmore =>
    have hpos := length_pos_of_ne_empty h.text_ne_empty
    simp only [List.length_append, String.length_toList]
    omega
  | here =>
    have hleading := congrArg (fun token => (Trivia.chars token.leading).length) htoken
    have hlonger := s.longer
    dsimp only at hleading
    omega
  | past hin hleft => omega

/-- The token after the spot is no dot. -/
theorem front_of_dot (h : Twin s place twin) (hahead : s.rest.length ≤ place.left + place.gap)
    (hdot : place.token.text = ".") : s.rest.length < place.left := by
  cases h with
  | @ahead token more before h hmore =>
    have hpos := length_pos_of_ne_empty h.text_ne_empty
    simp only [List.length_append, String.length_toList]
    omega
  | here =>
    dsimp only at hdot
    exact absurd (by rw [hdot]; rfl) s.noDot
  | past hin hleft => omega

/-! ## Behind the spot -/

/-- A template or a pattern stands behind the spot. -/
theorem after_eq (h : Twin s place twin) {c : Char} (hhead : place.token.text.toList.head? = some c)
    (hc : c = '/' ∨ isBacktick c) : twin.after = place.after := by
  cases h with
  | @ahead token more before h hmore =>
    have hfalse := h.noTemplate
    dsimp only at hhead
    rw [hhead, Option.any_some, Bool.or_eq_false_iff, beq_eq_false_iff_ne] at hfalse
    rcases hc with heq | htick
    · exact absurd heq hfalse.1
    · rw [htick] at hfalse
      cases hfalse.2
  | here => rfl
  | past => rfl

theorem after_ne {more : List Char} : more ++ s.noted ≠ more ++ s.rest := by
  intro heq
  have hlength := congrArg List.length heq
  have hlt := s.length_lt
  simp only [List.length_append] at hlength
  omega

/-- A place that is its own twin is behind the spot. -/
theorem in_of_eq (h : Twin s place twin) (heq : twin = place) : place.In s.rest := by
  cases h with
  | ahead => exact absurd (congrArg Cursor.after heq) after_ne
  | here =>
    have hleading := congrArg (fun place => (Trivia.chars place.token.leading).length) heq
    have hlonger := s.longer
    dsimp only at hleading
    omega
  | past hin => exact hin

/-- Behind the spot the same follows a place and its twin. -/
theorem next_eq (h : Twin s place twin) (hafter : twin.after = place.after) :
    twin.next = place.next := by
  cases h with
  | ahead => exact absurd hafter after_ne
  | here => rfl
  | past => rfl

theorem skip_eq (h : Twin s place twin) (hafter : twin.after = place.after) (count : Nat) :
    twin.skip count = place.skip count := by
  cases h with
  | ahead => exact absurd hafter after_ne
  | here => rfl
  | past => rfl

theorem skip_self (h : Twin s place twin) (hafter : twin.after = place.after)
    (hne : place.token.text ≠ "") {count : Nat} (hpos : 0 < count) :
    Twin s (place.skip count) (place.skip count) := by
  cases h with
  | ahead => exact absurd hafter after_ne
  | here => exact past_skip (s.in_here s.gap _) (Cursor.chars_ne_of_text s.text_ne_empty) hpos
  | past hin => exact past_skip hin (Cursor.chars_ne_of_text hne) hpos

/-- The text of a template goes on in the same way. -/
theorem templateStop?_eq (h : Twin s place twin) (hafter : twin.after = place.after)
    (escapes : Bool) :
    twin.templateStop? escapes = place.templateStop? escapes := by
  unfold Cursor.templateStop?
  rw [hafter, h.text_eq]
  congr 1
  funext ⟨stop, size⟩
  dsimp only
  rw [h.skip_eq hafter]

theorem left_pos (h : Twin s place twin) (hne : place.token.text ≠ "") :
    0 < place.left ∧ 0 < twin.left := by
  have hpos := length_pos_of_ne_empty hne
  cases h with
  | ahead =>
    simp only [List.length_append, String.length_toList] at hpos ⊢
    omega
  | here =>
    have hleft := List.length_pos_iff.mpr s.chars_ne
    exact ⟨hleft, hleft⟩
  | past hin =>
    have hleft : 0 < place.left := by
      rw [hin.left]
      exact List.length_pos_iff.mpr (Cursor.chars_ne_of_text hne)
    exact ⟨hleft, hleft⟩

theorem left_ofChars_le (leading : List Trivia) (left : Nat) (chars : List Char) :
    (Cursor.ofChars leading left chars).left ≤ left := Nat.sub_le _ _

theorem left_skip_lt {count : Nat} (hleft : 0 < place.left) (hpos : 0 < count) :
    (place.skip count).left < place.left := by
  have hle := left_ofChars_le [] (place.left - count) (place.chars.drop count)
  rw [Cursor.skip]
  omega

theorem templateStop?_self (h : Twin s place twin) (hafter : twin.after = place.after)
    (hne : place.token.text ≠ "") {escapes : Bool} {stop : TemplateStop} {rest : Cursor}
    (hstop : place.templateStop? escapes = some (stop, rest)) :
    Twin s rest rest ∧ rest.left < place.left := by
  unfold Cursor.templateStop? at hstop
  obtain ⟨⟨_, size⟩, -, hrest⟩ := Option.map_eq_some_iff.mp hstop
  cases hrest
  have hpos := length_pos_of_ne_empty hne
  exact ⟨h.skip_self hafter hne (by omega), left_skip_lt (h.left_pos hne).1 (by omega)⟩

/-! ## Looking ahead -/

theorem left_next_lt (h : Twin s place twin) (hne : place.token.text ≠ "") :
    place.next.left < place.left ∧ twin.next.left < twin.left := by
  have hpos := length_pos_of_ne_empty hne
  have hleft := h.left_pos hne
  rw [Cursor.next_eq_skip, Cursor.next_eq_skip]
  exact ⟨left_skip_lt hleft.1 hpos, left_skip_lt hleft.2 (by rw [h.text_eq]; exact hpos)⟩

theorem left_withMarkup_le (place : Cursor) : place.withMarkup.left ≤ place.left := by
  have hupTo (fuel : Nat) (place : Cursor) : (place.withMarkupUpTo fuel).left ≤ place.left := by
    induction fuel generalizing place with
    | zero => exact Nat.le_refl _
    | succ fuel ih =>
      unfold Cursor.withMarkupUpTo
      split
      · split
        · exact (ih _).trans ((left_ofChars_le _ _ _).trans (Nat.sub_le _ _))
        · exact Nat.le_refl _
      · exact Nat.le_refl _
  unfold Cursor.withMarkup
  split
  · exact hupTo _ _
  · exact Nat.le_refl _

theorem atEnd_eq (h : Twin s place twin) : twin.atEnd = place.atEnd := by
  rw [Cursor.atEnd, Cursor.atEnd, h.kind_eq]

theorem isAnyMark_eq (h : Twin s place twin) (marks : List String) :
    twin.token.isAnyMark marks = place.token.isAnyMark marks := by
  rw [Token.isAnyMark, Token.isAnyMark, h.kind_eq, h.text_eq]

theorem isMark_eq (h : Twin s place twin) (mark : String) :
    twin.token.isMark mark = place.token.isMark mark := by
  rw [Token.isMark, Token.isMark, h.kind_eq, h.text_eq]

theorem withMarkup_after (h : Twin s place twin) (hafter : twin.after = place.after) :
    twin.withMarkup.after = place.withMarkup.after := by
  cases h with
  | ahead => exact absurd hafter after_ne
  | here => rw [withMarkup_here, withMarkup_here]
  | past => rfl

theorem withMarkup_token (h : Twin s place twin) (htoken : twin.token = place.token) :
    twin.withMarkup.token = place.withMarkup.token := by
  cases h with
  | ahead h hmore => rw [(withMarkup_ahead h hmore _ _).1, (withMarkup_ahead h hmore _ _).2]
  | here =>
    rw [withMarkup_here, withMarkup_here]
    exact htoken
  | past => rfl

/-- What is open after the text of a template, and where. -/
theorem afterTemplateText?_eq (h : Twin s place twin) (hafter : twin.after = place.after)
    (opened : List Cursor.Opening) :
    Cursor.afterTemplateText? opened twin = Cursor.afterTemplateText? opened place := by
  rw [Cursor.afterTemplateText?, Cursor.afterTemplateText?, h.templateStop?_eq hafter]

theorem afterTemplateText?_self (h : Twin s place twin) (hafter : twin.after = place.after)
    (hne : place.token.text ≠ "") {opened opened' : List Cursor.Opening} {rest : Cursor}
    (hstop : Cursor.afterTemplateText? opened place = some (opened', rest)) :
    Twin s rest rest ∧ rest.left < place.left := by
  unfold Cursor.afterTemplateText? at hstop
  obtain ⟨⟨stop, found⟩, hfound, hrest⟩ := Option.map_eq_some_iff.mp hstop
  cases stop <;> cases hrest <;> exact h.templateStop?_self hafter hne hfound

/-- The bracket that closes the open ones is found at a place and at its twin, when there is fuel
for each token. -/
theorem afterClosing?_rel {fuel fuel' : Nat} {opened : List Cursor.Opening} (h : Twin s place twin)
    (hcode : .code ∈ opened → twin.after = place.after) (hfuel : place.left < fuel)
    (hfuel' : twin.left < fuel') :
    Option.Rel (Twin s) (Cursor.afterClosing? fuel opened place)
      (Cursor.afterClosing? fuel' opened twin) := by
  induction fuel generalizing fuel' opened place twin with
  | zero => exact absurd hfuel (Nat.not_lt_zero _)
  | succ fuel ih =>
    obtain ⟨fuel', rfl⟩ := Nat.exists_eq_add_of_lt (Nat.lt_of_le_of_lt (Nat.zero_le _) hfuel')
    rw [Nat.zero_add] at hfuel' ⊢
    have hmarkup : Twin s place.withMarkup twin.withMarkup := h.withMarkup
    have hcode : .code ∈ opened → twin.withMarkup.after = place.withMarkup.after :=
      fun hmem => h.withMarkup_after (hcode hmem)
    have hle := left_withMarkup_le place
    have hle' := left_withMarkup_le twin
    unfold Cursor.afterClosing?
    dsimp only
    generalize place.withMarkup = here at *
    generalize twin.withMarkup = there at *
    rw [hmarkup.atEnd_eq, hmarkup.isAnyMark_eq, hmarkup.isAnyMark_eq, hmarkup.isMark_eq]
    cases hend : here.atEnd with
    | true => exact .none
    | false =>
      have hne := hmarkup.text_ne hend
      obtain ⟨hlt, hlt'⟩ := hmarkup.left_next_lt hne
      have hnext {opened : List Cursor.Opening}
          (hcode : .code ∈ opened → there.after = here.after) :
          Option.Rel (Twin s) (Cursor.afterClosing? fuel opened here.next)
            (Cursor.afterClosing? fuel' opened there.next) :=
        ih hmarkup.next (fun hmem => by rw [hmarkup.next_eq (hcode hmem)]) (by omega) (by omega)
      have htemplate {opened opened' : List Cursor.Opening} {rest : Cursor}
          (hafter : there.after = here.after)
          (hstop : Cursor.afterTemplateText? opened here = some (opened', rest)) :
          Option.Rel (Twin s) (Cursor.afterClosing? fuel opened' rest)
            (Cursor.afterClosing? fuel' opened' rest) := by
        obtain ⟨hrest, hless⟩ := hmarkup.afterTemplateText?_self hafter hne hstop
        have hleft := hmarkup.left_eq
        have hlength := s.length_lt
        exact ih hrest (fun _ => rfl) (by omega) (by omega)
      simp only [Bool.false_eq_true, if_false]
      split
      · exact hnext (by simpa using hcode)
      · split
        · rename_i htick
          rw [Token.isMark, Bool.and_eq_true, beq_iff_eq, beq_iff_eq] at htick
          have hafter := hmarkup.after_eq (by rw [htick.2]; rfl) (.inr rfl)
          rw [hmarkup.afterTemplateText?_eq hafter]
          cases hstop : Cursor.afterTemplateText? opened here with
          | none => exact .none
          | some found => exact htemplate hafter hstop
        · split
          · cases opened with
            | nil => exact .none
            | cons last opened =>
              cases last with
              | code =>
                have hafter := hcode (List.mem_cons_self ..)
                dsimp only
                rw [hmarkup.afterTemplateText?_eq hafter]
                cases hstop : Cursor.afterTemplateText? opened here with
                | none => exact .none
                | some found => exact htemplate hafter hstop
              | bracket =>
                cases opened with
                | nil => exact .some hmarkup.next
                | cons next opened => exact hnext fun hmem => hcode (List.mem_cons_of_mem _ hmem)
          · exact hnext hcode

/-- The bracket that closes the one at the place. -/
theorem closing?_rel (h : Twin s place twin) :
    Option.Rel (Twin s) place.closing? twin.closing? := by
  by_cases hne : place.token.text = ""
  · cases h with
    | ahead h => exact absurd hne h.text_ne_empty
    | here => exact absurd hne s.text_ne_empty
    | past hin hleft hcut =>
      have hchars : place.chars = [] := (hcut.resolve_left (by simp [hne])).2
      have hleft : place.left = 0 := by rw [hin.left, hchars, List.length_nil]
      rw [Cursor.closing?, hleft]
      exact .none
  · obtain ⟨hlt, hlt'⟩ := h.left_next_lt hne
    exact afterClosing?_rel h.next (by simp) hlt hlt'

end Twin

end Facade
