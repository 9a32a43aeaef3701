-- Two texts that differ in the blanks and comments between two tokens. A place in the one has a
-- twin in the other, and going on from twins leads to twins.
import Facade.Proofs.LineEnds
import Mathlib.Data.List.TakeWhile

namespace Facade

open Lexer

/-! ## Characters that belong together -/

/-- Neighbours in the operators that are made of several marks. -/
def joints : List String :=
  ["==", "<=", "<<", "+=", "-=", "!=", "/=", "?.", "|\x7d", "|=", "||", "&\x7d", "&=", "&&", "**",
    "*=", "\x7b|", "<\x7d", ">>", ">=", "++", "--", "??", "?=", "%=", "^=", "-?", "+?", "?:", "<!",
    "!-", "->"]

/-- Whether a name may go on with the character. -/
def isNameChar (c : Char) : Bool := isWordChar c || c == '.'

/-- Whether two characters next to each other may belong to one name or operator. -/
def joins (c d : Char) : Bool :=
  isNameChar c && isNameChar d || joints.any (·.toList == [c, d])

/-- Whether each character may belong together with the next. -/
def isJoined : List Char → Bool
  | c :: d :: rest => joins c d && isJoined (d :: rest)
  | _ => true

theorem not_joins_of_isStop {d : Char} (h : isStop d) (c : Char) : joins c d = false := by
  have hjoints : joints.any (·.toList == [c, d]) = false := by
    have hall : joints.all fun text => text.toList.getLast?.all fun d => !isStop d := by decide
    rw [List.any_eq_false]
    intro text hmem heq
    have hlast := List.all_eq_true.mp hall text hmem
    rw [beq_iff_eq.mp heq] at hlast
    simp [h] at hlast
  have hname : isNameChar d = false := by
    rw [isNameChar, not_isWordChar_of_isStop h, Bool.false_or, beq_eq_false_iff_ne]
    exact ne_of_isStop h (by decide)
  rw [joins, hjoints, hname, Bool.and_false, Bool.or_self]

/-- Characters that belong together do not reach past two that do not. -/
theorem isPrefixOf_append {text front : List Char} (htext : isJoined text) (hne : front ≠ [])
    {rest : List Char}
    (h : ∀ c d, front.getLast? = some c → rest.head? = some d → joins c d = false) :
    text.isPrefixOf (front ++ rest) = text.isPrefixOf front := by
  induction front generalizing text with
  | nil => exact absurd rfl hne
  | cons c front ih =>
    match text with
    | [] => rfl
    | [d] => simp [List.isPrefixOf]
    | d :: e :: text =>
      rw [isJoined, Bool.and_eq_true] at htext
      rw [List.cons_append, List.isPrefixOf, List.isPrefixOf]
      cases hd : d == c with
      | false => rw [Bool.false_and, Bool.false_and]
      | true =>
        rw [beq_iff_eq] at hd
        subst hd
        rw [Bool.true_and, Bool.true_and]
        cases front with
        | nil =>
          cases rest with
          | nil => rfl
          | cons f rest =>
            have hjoins := h d f rfl rfl
            have hne : e ≠ f := by
              rintro rfl
              rw [htext.1] at hjoins
              cases hjoins
            simp [List.isPrefixOf, hne]
        | cons f front => exact ih htext.2 (List.cons_ne_nil _ _) h

theorem getLast?_append_of_ne_nil {front back : List Char} (h : back ≠ []) :
    (front ++ back).getLast? = back.getLast? := by
  rw [List.getLast?_append, List.getLast?_eq_some_getLast h, Option.some_or]

/-! ## Where the texts differ -/

/-- What a comment must not follow: it would take the place of a type or a value, or be a part of a
text that is kept as it is written. -/
def openers : List String :=
  ["(", ":", "?", ".", "...", "+", "-", "keyof", "readonly", "extends", "unique"]

/-- What is written where the word `const` stands alone in brackets or in front of them. -/
def loneConsts : List (List String) := [["(", "const", ")"], ["const", "[", "]"]]

/-- Whether a token and the two after it are the word `const`, alone in brackets or in front of
them. The first comment after the word would take its place. -/
def isLoneConst (text : String) (after : List Char) : Bool :=
  let second := (Cursor.ofChars [] after.length after).withMarkup
  loneConsts.contains [text, second.token.text, second.next.withMarkup.token.text]

/-- A place between two tokens with other blanks and comments in one text than in the other. -/
structure Spot where
  /-- What stands there in the one text. -/
  gap : List Trivia
  /-- What stands there in the other. -/
  note : List Trivia
  /-- The kind of the token that follows. -/
  kind : TokenKind
  /-- The token that follows. -/
  text : String
  /-- What follows the token. -/
  after : List Char
  /-- The token in front. -/
  last : String
  lexes : Token.LexesBefore ⟨gap, kind, text⟩ after
  lexesNoted : Token.LexesBefore ⟨note, kind, text⟩ after
  clean : Trivia.isClean gap
  cleanNote : Trivia.isClean note
  breaks : Trivia.breaksLine note = Trivia.breaksLine gap
  remarked : note.any Trivia.isRemark
  longer : (Trivia.chars gap).length < (Trivia.chars note).length
  goesOn : kind ≠ .finish
  noMarkup : Cursor.markupSize? (text.toList ++ after) = none
  noDot : text.toList.head? ≠ some '.'
  noOpener : last ∉ openers
  noColon : last.toList.getLast? ≠ some ':'
  noPoint : last.toList.getLast? ≠ some '.'
  apart : ∀ c d, last.toList.getLast? = some c → (Trivia.chars gap ++ text.toList).head? = some d →
    joins c d = false
  noLabel : last = "\x7d" → text.toList.head? ≠ some ':'

namespace Lexer

/-- After all blanks and comments a token starts. -/
theorem startsToken_trivia {fuel : Nat} {chars : List Char} (h : chars.length ≤ fuel) :
    startsToken (trivia fuel chars).2 := by
  induction fuel generalizing chars with
  | zero =>
    rw [List.eq_nil_of_length_eq_zero (Nat.le_zero.mp h)]
    rfl
  | succ fuel ih =>
    rw [trivia]
    dsimp only
    split
    · rename_i hblank
      rw [bne_iff_ne] at hblank
      refine ih ?_
      rw [List.length_drop]
      omega
    · rename_i hblank
      split
      · rename_i size hsize
        have hbounds := bounds_of_commentSize? hsize
        refine ih ?_
        rw [List.length_drop]
        omega
      · rename_i hcomment
        have hzero : blankSize 0 chars = 0 := by simpa using hblank
        rw [startsToken, hcomment, Option.isNone_none, Bool.and_true, Bool.not_eq_true']
        cases chars with
        | nil => rfl
        | cons c rest =>
          by_contra hspace
          rw [blankSize, if_pos (by simpa using hspace)] at hzero
          have := le_blankSize (0 + 1) rest
          omega

end Lexer

namespace Token.LexesBefore

variable {token : Token} {rest : List Char}

theorem startsToken (h : token.LexesBefore rest) :
    Lexer.startsToken (token.text.toList ++ rest) := by
  have hstarts := startsToken_trivia (Nat.le_refl (token.chars ++ rest).length)
  rwa [h.trivia] at hstarts

theorem not_isSpace (h : token.LexesBefore rest) {c : Char}
    (hhead : token.text.toList.head? = some c) :
    isSpace c = false := by
  have hstarts := h.startsToken
  rw [Lexer.startsToken, Bool.and_eq_true, List.head?_append, hhead] at hstarts
  simpa using hstarts.1

theorem text_ne (h : token.LexesBefore rest) (hkind : token.kind ≠ .finish) :
    token.text.toList ≠ [] := by
  intro hnil
  have htoken := h.token
  rw [hnil, List.nil_append, ← String.length_toList, hnil] at htoken
  cases rest with
  | nil => exact hkind (congrArg Prod.fst htoken).symm
  | cons c rest =>
    have hpos := token_pos c rest
    rw [htoken] at hpos
    exact absurd hpos (Nat.lt_irrefl 0)

end Token.LexesBefore

namespace Spot

variable (s : Spot)

/-- The characters from the token after the spot on. -/
def chars : List Char := s.text.toList ++ s.after

/-- The characters from the spot on in the one text. -/
def rest : List Char := Trivia.chars s.gap ++ s.chars

/-- The characters from the spot on in the other text. -/
def noted : List Char := Trivia.chars s.note ++ s.chars

theorem length_rest : s.rest.length = (Trivia.chars s.gap).length + s.chars.length :=
  List.length_append

theorem length_noted : s.noted.length = (Trivia.chars s.note).length + s.chars.length :=
  List.length_append

theorem length_lt : s.rest.length < s.noted.length := by
  have := s.longer
  rw [length_rest, length_noted]
  omega

theorem text_ne : s.text.toList ≠ [] := s.lexes.text_ne s.goesOn

theorem chars_ne : s.chars ≠ [] := by
  rw [chars, ne_eq, List.append_eq_nil_iff]
  exact fun h => s.text_ne h.1

theorem head?_chars : s.chars.head? = s.text.toList.head? := by
  rw [chars, List.head?_append]
  cases h : s.text.toList with
  | nil => exact absurd h s.text_ne
  | cons c more => rfl

end Spot

/-- Plain blanks and comments and what follows them start with a blank, with a slash or like what
follows. -/
theorem Trivia.head?_of_isClean {gap : List Trivia} (h : isClean gap) {chars : List Char} {c : Char}
    (hhead : (Trivia.chars gap ++ chars).head? = some c) :
    (isBreakable c ∧ c.toNat < 0x80) ∨ c = '/' ∨ chars.head? = some c := by
  induction gap with
  | nil => exact .inr (.inr hhead)
  | cons piece gap ih =>
    cases piece with
    | blank text =>
      rw [isClean, Bool.and_eq_true] at h
      rw [chars_cons, List.append_assoc] at hhead
      cases htext : text.toList with
      | nil =>
        rw [Trivia.text, htext] at hhead
        exact ih h.2 hhead
      | cons d more =>
        rw [Trivia.text, htext] at hhead
        cases hhead
        rw [htext, List.all_cons, Bool.and_eq_true, Bool.and_eq_true, decide_eq_true_eq] at h
        exact .inl h.1.1
    | comment text =>
      rw [isClean, Bool.and_eq_true, Bool.and_eq_true] at h
      rw [chars_cons, List.append_assoc, Trivia.text, List.head?_append,
        Cursor.head?_of_comment h.1.1] at hhead
      cases hhead
      exact .inr (.inl rfl)
    | markup text => cases h

namespace Spot

variable (s : Spot)

/-- The other text goes on with a blank or a comment. -/
theorem exists_noted : ∃ c more, s.noted = c :: more ∧ isStop c := by
  have hlonger := s.longer
  cases hnote : Trivia.chars s.note with
  | nil =>
    rw [hnote, List.length_nil] at hlonger
    omega
  | cons c more =>
    refine ⟨c, more ++ s.chars, by rw [noted, hnote, List.cons_append], ?_⟩
    have hhead : (Trivia.chars s.note ++ []).head? = some c := by
      rw [hnote]
      rfl
    rw [isStop, Bool.or_eq_true, beq_iff_eq]
    rcases Trivia.head?_of_isClean s.cleanNote hhead with hblank | hslash | hnil
    · exact .inl (isSpace_of_isBreakable hblank.1)
    · exact .inr hslash
    · cases hnil

theorem apart_rest {c d : Char} (hlast : s.last.toList.getLast? = some c)
    (hhead : s.rest.head? = some d) :
    joins c d = false := by
  refine s.apart c d hlast ?_
  rw [← hhead, rest, List.head?_append, List.head?_append, head?_chars]

theorem apart_noted {c d : Char} (hhead : s.noted.head? = some d) : joins c d = false := by
  obtain ⟨e, more, hnoted, hstop⟩ := s.exists_noted
  rw [hnoted] at hhead
  cases hhead
  exact not_joins_of_isStop hstop c

/-! ## Tokens in front of the spot -/

/-- A token in front of the spot, with the characters up to the spot after it. -/
structure Piece (token : Token) (more : List Char) : Prop where
  lexes : token.LexesBefore (more ++ s.rest)
  solid : isSolid token.kind
  noTemplate : token.text.toList.head?.any (fun c => c == '/' || isBacktick c) = false
  noMarkup : Cursor.markupSize? (token.text.toList ++ (more ++ s.rest)) = none
  settles : Trivia.settles token.leading
  /-- The last token is the one in front of the spot, or the end of it. -/
  last : more = [] → token.text = s.last ∨ token.text = ">" ∧ s.last = "=>"
  /-- A comment does not follow the mark after this word. -/
  noExport : token.text = "export" → ∀ equals : Token, equals.LexesBefore s.rest →
    equals.text = "=" → more ≠ equals.chars
  /-- A comment follows the word `const` that stands alone only if another one does. -/
  lone : isLoneConst token.text (more ++ s.rest) →
    (more = [] ∨ ∃ second : Token, second.LexesBefore s.rest ∧ more = second.chars) →
    s.gap.any Trivia.isRemark

/-- The characters up to the spot, token by token. -/
inductive Front : List Char → Prop
  | nil : Front []
  | cons {token : Token} {more : List Char} (h : s.Piece token more) (hmore : Front more) :
      Front (token.chars ++ more)

namespace Piece

variable {s} {token : Token} {more : List Char}

theorem text_ne (h : s.Piece token more) : token.text.toList ≠ [] := by
  refine h.lexes.text_ne fun hkind => ?_
  have hsolid := h.solid
  rw [hkind] at hsolid
  cases hsolid

theorem head_not_isStop (h : s.Piece token more) {c : Char}
    (hhead : token.text.toList.head? = some c) :
    isStop c = false := by
  have hslash := h.noTemplate
  rw [hhead, Option.any_some, Bool.or_eq_false_iff] at hslash
  rw [isStop, h.lexes.not_isSpace hhead, hslash.1, Bool.or_self]

/-- The token comes first in the other text too. -/
theorem lexesNoted (h : s.Piece token more) : token.LexesBefore (more ++ s.noted) := by
  obtain ⟨c, rest, hnoted, hstop⟩ := s.exists_noted
  obtain ⟨d, text, htext⟩ := List.exists_cons_of_ne_nil h.text_ne
  have hhead : token.text.toList.head? = some d := by rw [htext, List.head?_cons]
  have hlength := s.length_lt
  rw [hnoted] at hlength ⊢
  exact h.lexes.cut h.solid hhead (h.head_not_isStop hhead) hstop (Nat.le_of_lt hlength)

theorem getLast?_of_nil (h : s.Piece token []) :
    token.text.toList.getLast? = s.last.toList.getLast? := by
  rcases h.last rfl with heq | ⟨heq, hlast⟩
  · rw [heq]
  · rw [heq, hlast]
    rfl

end Piece

namespace Front

variable {s} {more : List Char}

theorem getLast? (h : s.Front more) (hne : more ≠ []) : more.getLast? = s.last.toList.getLast? := by
  induction h with
  | nil => exact absurd rfl hne
  | @cons token more h hmore ih =>
    by_cases hnil : more = []
    · subst hnil
      rw [List.append_nil, Token.chars, getLast?_append_of_ne_nil h.text_ne, h.getLast?_of_nil]
    · rw [getLast?_append_of_ne_nil hnil, ih hnil]

end Front

theorem getLast?_front {token : Token} {more : List Char} (h : s.Piece token more)
    (hmore : s.Front more) :
    (token.text.toList ++ more).getLast? = s.last.toList.getLast? := by
  by_cases hnil : more = []
  · subst hnil
    rw [List.append_nil, h.getLast?_of_nil]
  · rw [getLast?_append_of_ne_nil hnil, hmore.getLast? hnil]

/-- Characters that belong together come first in both texts. -/
theorem isPrefixOf_eq {token : Token} {more : List Char} (h : s.Piece token more)
    (hmore : s.Front more) {text : List Char} (htext : isJoined text) :
    text.isPrefixOf (token.text.toList ++ (more ++ s.noted)) =
        text.isPrefixOf (token.text.toList ++ (more ++ s.rest)) ∧
      text.isPrefixOf (token.text.toList ++ (more ++ s.rest)) =
        text.isPrefixOf (token.text.toList ++ more) := by
  have hne : token.text.toList ++ more ≠ [] := by
    rw [ne_eq, List.append_eq_nil_iff]
    exact fun hnil => h.text_ne hnil.1
  have hlast := s.getLast?_front h hmore
  have hrest := @isPrefixOf_append _ _ htext hne s.rest fun c d hc hd =>
    s.apart_rest (hlast ▸ hc) hd
  have hnoted := @isPrefixOf_append _ _ htext hne s.noted fun c d _ hd => s.apart_noted hd
  rw [List.append_assoc] at hrest hnoted
  exact ⟨by rw [hnoted, hrest], hrest⟩

end Spot

/-! ## Operators in front of the spot -/

/-- The characters of operators that are marks of their own. -/
def operatorChars : List Char := "=<>|&?*+-\x7d\x7b!:%^".toList

theorem Lexer.token_operatorChar {c : Char} (h : c ∈ operatorChars) (rest : List Char) :
    token (c :: rest) = markToken c rest := by
  have hall : operatorChars.all fun c => !isWordStart c && c != '\\' && !c.isDigit && c != '"' &&
    c != '\''
      && c != '#' && markChars.contains c := by decide
  have hc := List.all_eq_true.mp hall c h
  simp only [Bool.and_eq_true, Bool.not_eq_true', bne_iff_ne] at hc
  obtain ⟨⟨⟨⟨⟨⟨hstart, hescape⟩, hdigit⟩, hdouble⟩, hsingle⟩, hsign⟩, hmark⟩ := hc
  have hword : startsWord (c :: rest) = false := by
    rw [startsWord, wordEscapeSize?_cons hescape, List.head?_cons, Option.any_some, hstart]
    rfl
  rw [token, hword, hdigit, beq_eq_false_iff_ne.mpr hdouble, beq_eq_false_iff_ne.mpr hsingle,
    beq_eq_false_iff_ne.mpr hsign, hmark]
  rfl

theorem Lexer.not_isStop_of_mem_operatorChars {c : Char} (h : c ∈ operatorChars) :
    isStop c = false := by
  have hall : operatorChars.all fun c => !isStop c := by decide
  simpa using List.all_eq_true.mp hall c h

namespace Spot

variable {s : Spot} {more : List Char}

/-- The second half of an arrow is a mark too. -/
theorem piece_arrow {token : Token} (h : s.Piece token more) (htext : token.text = "=>") :
    s.Piece ⟨[], .mark, ">"⟩ more where
  lexes := by
    have hchars : Token.chars ⟨[], .mark, ">"⟩ ++ (more ++ s.rest) = '>' :: (more ++ s.rest) := rfl
    refine ⟨?_, ?_⟩
    · rw [hchars]
      exact trivia_of_startsToken (startsToken_cons (by decide) (by decide) _) _
    · change Lexer.token ('>' :: (more ++ s.rest)) = _
      rw [token_operatorChar (by decide), markToken_other (by decide) (by decide) (by decide)]
      rfl
  solid := rfl
  noTemplate := by decide
  noMarkup := rfl
  settles := rfl
  last hnil := by
    rcases h.last hnil with heq | ⟨heq, -⟩
    · exact .inr ⟨rfl, heq.symm.trans htext⟩
    · rw [htext] at heq
      exact absurd heq (by decide)
  noExport hexport := absurd hexport (by decide)
  lone hlone := by simp [isLoneConst, loneConsts] at hlone

/-- A front that does not start with a blank or a comment starts with a token. -/
theorem Front.uncons {c : Char} (h : s.Front (c :: more)) (hc : isStop c = false) :
    ∃ token text rest, token.text.toList = c :: text ∧ more = text ++ rest ∧ s.Piece token rest ∧
      s.Front rest ∧
      Lexer.token (c :: (more ++ s.rest)) = (token.kind, text.length + 1) := by
  generalize hchars : c :: more = chars at h
  cases h with
  | nil => cases hchars
  | @cons token rest h hrest =>
    have hall : token.chars ++ (rest ++ s.rest) = c :: (more ++ s.rest) := by
      rw [← List.append_assoc, ← hchars, List.cons_append]
    have htrivia := h.lexes.trivia
    rw [hall] at htrivia
    rw [isStop, Bool.or_eq_false_iff, beq_eq_false_iff_ne] at hc
    rw [trivia_of_startsToken (startsToken_cons hc.1 hc.2 _)] at htrivia
    obtain ⟨hleading, htext⟩ := Prod.mk.inj htrivia
    have htoken := h.lexes.token
    rw [← htext, ← String.length_toList] at htoken
    have hfront : token.text.toList ++ rest = c :: more := by
      rw [hchars, Token.chars, ← hleading]
      rfl
    cases hlist : token.text.toList with
    | nil => exact absurd hlist h.text_ne
    | cons d text =>
      rw [hlist, List.cons_append, List.cons.injEq] at hfront
      rw [hlist] at htoken
      obtain ⟨rfl, hmore⟩ := hfront
      exact ⟨token, text, rest, hlist, hmore.symm, h, hrest, htoken⟩

/-- A mark of an operator is a token of its own, or the first half of an arrow. -/
theorem Front.tail {c : Char} (h : s.Front (c :: more)) (hc : c ∈ operatorChars) :
    s.Front more := by
  have hstop := not_isStop_of_mem_operatorChars hc
  obtain ⟨token, text, rest, hlist, rfl, hpiece, hrest, htoken⟩ := h.uncons hstop
  rw [token_operatorChar hc] at htoken
  have hlength := congrArg Prod.snd htoken
  by_cases hequals : c = '='
  · subst hequals
    rw [markToken_equals] at hlength
    split at hlength
    · rename_i hhead
      match text, hlength with
      | [d], _ =>
        have hd : d = '>' := by simpa using hhead
        subst hd
        have harrow : token.text = "=>" := String.toList_inj.mp (by rw [hlist]; rfl)
        exact Front.cons (piece_arrow hpiece harrow) hrest
    · have hnil : text = [] := List.eq_nil_of_length_eq_zero (by dsimp only at hlength; omega)
      subst hnil
      exact hrest
  · have hpoint : c ≠ '.' := by
      rintro rfl
      revert hc
      decide
    have hslash : c ≠ '/' := by
      rintro rfl
      cases hstop
    rw [markToken_other hpoint hequals hslash] at hlength
    have hnil : text = [] := List.eq_nil_of_length_eq_zero (by dsimp only at hlength; omega)
    subst hnil
    exact hrest

theorem Front.drop {text : List Char} (htext : text.all fun c => operatorChars.contains c)
    (h : s.Front (text ++ more)) : s.Front more := by
  induction text with
  | nil => exact h
  | cons c text ih =>
    rw [List.all_cons, Bool.and_eq_true, List.contains_iff_mem] at htext
    exact ih htext.2 (h.tail htext.1)

end Spot

/-! ## Twins -/

/-- The token has characters, or it is the end of the text. -/
def Cursor.IsCut (place : Cursor) : Prop :=
  place.token.text ≠ "" ∨ place.atEnd = true ∧ place.chars = []

namespace Spot

variable (s : Spot)

/-- The place at the spot in the one text. -/
theorem ofChars_rest : Cursor.ofChars [] s.rest.length s.rest =
    ⟨⟨s.gap, s.kind, s.text⟩, s.after, s.chars.length, .start⟩ := by
  have hrest : Token.chars ⟨s.gap, s.kind, s.text⟩ ++ s.after = s.rest := List.append_assoc ..
  rw [← hrest, s.lexes.ofChars_eq]
  rfl

/-- The place at the spot in the other text. -/
theorem ofChars_noted : Cursor.ofChars [] s.noted.length s.noted =
    ⟨⟨s.note, s.kind, s.text⟩, s.after, s.chars.length, .start⟩ := by
  have hnoted : Token.chars ⟨s.note, s.kind, s.text⟩ ++ s.after = s.noted := List.append_assoc ..
  rw [← hnoted, s.lexesNoted.ofChars_eq]
  rfl

end Spot

/-- Places that match: in front of the spot, at the token after it, and behind that. -/
class inductive Twin (s : outParam Spot) : Cursor → Cursor → Prop
  /-- The spot is still to come. -/
  | ahead {token : Token} {more : List Char} {before : Before} (h : s.Piece token more)
    (hmore : s.Front more) :
      Twin s ⟨token, more ++ s.rest, (token.text.toList ++ (more ++ s.rest)).length, before⟩
        ⟨token, more ++ s.noted, (token.text.toList ++ (more ++ s.noted)).length, before⟩
  /-- The spot is right in front of the token. -/
  | here {before : Before} (hbody : before = .body → s.last = "\x7d") :
      Twin s ⟨⟨s.gap, s.kind, s.text⟩, s.after, s.chars.length, before⟩
        ⟨⟨s.note, s.kind, s.text⟩, s.after, s.chars.length, before⟩
  /-- The spot has been passed. -/
  | past {place : Cursor} (hin : place.In s.rest) (hleft : place.left + place.gap < s.rest.length)
      (hcut : place.IsCut) : Twin s place place

namespace Twin

variable {s : Spot} {place twin : Cursor}

theorem of_front {more : List Char} (h : s.Front more) :
    Twin s (.ofChars [] (more ++ s.rest).length (more ++ s.rest))
        (.ofChars [] (more ++ s.noted).length (more ++ s.noted)) ∧
      (more ≠ [] → (Cursor.ofChars [] (more ++ s.noted).length (more ++ s.noted)).token =
        (Cursor.ofChars [] (more ++ s.rest).length (more ++ s.rest)).token) := by
  cases h with
  | nil =>
    rw [List.nil_append, List.nil_append, s.ofChars_rest, s.ofChars_noted]
    exact ⟨.here nofun, fun hne => absurd rfl hne⟩
  | cons h hmore =>
    rw [List.append_assoc, List.append_assoc, h.lexes.ofChars_eq, h.lexesNoted.ofChars_eq]
    exact ⟨.ahead h hmore, fun _ => rfl⟩

end Twin

/-! ## Places and their tokens -/

namespace Cursor

theorem withMarkup_of_markupSize? {place : Cursor} (h : markupSize? place.chars = none) :
    place.withMarkup = place := by
  unfold withMarkup
  split
  · exact withMarkupUpTo_eq_self (by simp [markupNext, h]) _
  · rfl

theorem isCut_ofChars (leading : List Trivia) (left : Nat) (chars : List Char) :
    (ofChars leading left chars).IsCut := by
  cases hrest : (trivia left chars).2 with
  | nil =>
    right
    refine ⟨?_, by rw [chars_ofChars, hrest]⟩
    simp only [ofChars, hrest]
    rfl
  | cons c rest =>
    left
    have hpos := token_pos c rest
    intro hnil
    have hlength := congrArg String.length hnil
    simp only [ofChars, hrest, String.length_ofList, List.length_take, String.length_empty,
      List.length_cons] at hlength
    omega

theorem IsCut.text_ne {place : Cursor} (h : place.IsCut) (hend : place.atEnd = false) :
    place.token.text ≠ "" := by
  rcases h with hne | ⟨htrue, -⟩
  · exact hne
  · rw [hend] at htrue
    cases htrue

theorem left_add_gap_ofChars (leading : List Trivia) (chars : List Char) :
    (ofChars leading chars.length chars).left + (ofChars leading chars.length chars).gap =
      chars.length + Trivia.size leading := by
  have hchars := congrArg List.length (chars_trivia chars.length chars)
  rw [List.length_append] at hchars
  simp only [ofChars, gap, Trivia.size, Trivia.chars_append, List.length_append]
  omega

theorem next_eq_skip (place : Cursor) : place.next = place.skip place.token.text.length := by
  rw [next, skip, chars, ← String.length_toList, List.drop_left]

theorem chars_ne_of_text {place : Cursor} (h : place.token.text ≠ "") : place.chars ≠ [] := by
  intro hnil
  rw [chars, List.append_eq_nil_iff, String.toList_eq_nil_iff] at hnil
  exact h hnil.1

end Cursor

theorem length_pos_of_ne_empty {text : String} (h : text ≠ "") : 0 < text.length := by
  rw [← String.length_toList, List.length_pos_iff, ne_eq, String.toList_eq_nil_iff]
  exact h

namespace Spot

variable (s : Spot)

theorem text_ne_empty : s.text ≠ "" := fun h => s.text_ne (String.toList_eq_nil_iff.mpr h)

theorem in_here (leading : List Trivia) (before : Before) :
    Cursor.In s.rest ⟨⟨leading, s.kind, s.text⟩, s.after, s.chars.length, before⟩ :=
  ⟨List.suffix_append _ _, rfl⟩

end Spot

theorem Spot.Piece.text_ne_empty {s : Spot} {token : Token} {more : List Char}
    (h : s.Piece token more) :
    token.text ≠ "" := fun hnil => h.text_ne (String.toList_eq_nil_iff.mpr hnil)

namespace Twin

variable {s : Spot} {place twin : Cursor}

/-! ## Going on -/

theorem past_ofChars {chars : List Char} (hchars : chars <:+ s.rest)
    (hlt : chars.length < s.rest.length) :
    Twin s (.ofChars [] chars.length chars) (.ofChars [] chars.length chars) := by
  refine .past (Cursor.in_ofChars [] rfl hchars) ?_ (Cursor.isCut_ofChars ..)
  rw [Cursor.left_add_gap_ofChars]
  exact hlt

theorem past_skip (hin : place.In s.rest) (hne : place.chars ≠ []) {count : Nat}
    (hpos : 0 < count) :
    Twin s (place.skip count) (place.skip count) := by
  have hlength : place.left - count = (place.chars.drop count).length := by
    rw [hin.left, List.length_drop]
  have hle := hin.suffix.length_le
  have hlt := List.length_pos_iff.mpr hne
  rw [Cursor.skip, hlength]
  refine past_ofChars ((List.drop_suffix _ _).trans hin.suffix) ?_
  rw [List.length_drop]
  omega

/-- The next places are twins. After a token that the spot does not follow, the same blanks and
comments come next. -/
theorem next_and_token (h : Twin s place twin) :
    Twin s place.next twin.next ∧
      (place.token.text ∈ openers → twin.next.token = place.next.token) := by
  cases h with
  | @ahead token more before h hmore =>
    have hlength (rest : List Char) :
        (token.text.toList ++ (more ++ rest)).length - token.text.length =
          (more ++ rest).length := by
      rw [List.length_append, String.length_toList]
      omega
    simp only [Cursor.next, hlength]
    refine ⟨(of_front hmore).1, fun hopen => (of_front hmore).2 fun hnil => ?_⟩
    rcases h.last hnil with heq | ⟨heq, -⟩
    · exact s.noOpener (heq ▸ hopen)
    · rw [heq] at hopen
      revert hopen
      decide
  | @here before hbody =>
    have hskip := past_skip (s.in_here s.gap before) (Cursor.chars_ne_of_text s.text_ne_empty)
      (length_pos_of_ne_empty s.text_ne_empty)
    rw [← Cursor.next_eq_skip] at hskip
    exact ⟨hskip, fun _ => rfl⟩
  | past hin hleft hcut =>
    have hlt : place.after.length < s.rest.length := by
      rw [← hin.left_after]
      omega
    rw [Cursor.next, hin.left_after]
    exact ⟨past_ofChars hin.after_suffix hlt, fun _ => rfl⟩

instance next [h : Twin s place twin] : Twin s place.next twin.next := h.next_and_token.1

/-- A place behind the spot is its own twin. -/
theorem past_withMarkupUpTo (hin : place.In s.rest) (hleft : place.left + place.gap < s.rest.length)
    (hcut : place.IsCut) (fuel : Nat) :
    Twin s (place.withMarkupUpTo fuel) (place.withMarkupUpTo fuel) := by
  induction fuel generalizing place with
  | zero => exact .past hin hleft hcut
  | succ fuel ih =>
    cases hnext : place.markupNext with
    | false =>
      rw [Cursor.withMarkupUpTo_eq_self hnext]
      exact .past hin hleft hcut
    | true =>
      obtain ⟨size, hsize⟩ := Cursor.exists_markupSize? hnext
      rw [Cursor.withMarkupUpTo_succ hnext hsize]
      refine ih (hin.drop _ _) ?_ (Cursor.isCut_ofChars ..)
      have hlength : place.left - size = (place.chars.drop size).length := by
        rw [hin.left, List.length_drop]
      have hbound := Cursor.three_le_of_markupSize? hsize
      have htake : (place.chars.take size).length = size := by
        rw [List.length_take]
        omega
      have hsnoc : Trivia.size
        (place.token.leading ++ [.markup (String.ofList (place.chars.take size))]) =
          place.gap + size := by
        rw [Trivia.size, Trivia.chars_append, List.length_append, Trivia.chars_cons, Trivia.text,
          String.toList_ofList, List.length_append, htake]
        rfl
      rw [hlength, Cursor.left_add_gap_ofChars, hsnoc, List.length_drop, ← hin.left]
      have hchars := hin.left
      omega

theorem markupSize?_eq {token : Token} {more : List Char} (h : s.Piece token more)
    (hmore : s.Front more) :
    Cursor.markupSize? (token.text.toList ++ (more ++ s.noted)) = none := by
  have hnone := h.noMarkup
  rw [Cursor.markupSize?, ite_eq_right_iff] at hnone ⊢
  intro hstart
  rw [(s.isPrefixOf_eq h hmore (by decide)).1, (s.isPrefixOf_eq h hmore (by decide)).1] at hstart
  cases hnone hstart

theorem withMarkup_ahead {token : Token} {more : List Char} (h : s.Piece token more)
    (hmore : s.Front more) (left : Nat) (before : Before) :
    Cursor.withMarkup ⟨token, more ++ s.rest, left, before⟩ =
      ⟨token, more ++ s.rest, left, before⟩ ∧
      Cursor.withMarkup ⟨token, more ++ s.noted, left, before⟩ =
        ⟨token, more ++ s.noted, left, before⟩ :=
  ⟨Cursor.withMarkup_of_markupSize? h.noMarkup, Cursor.withMarkup_of_markupSize?
    (markupSize?_eq h hmore)⟩

theorem withMarkup_here (leading : List Trivia) (before : Before) :
    Cursor.withMarkup ⟨⟨leading, s.kind, s.text⟩, s.after, s.chars.length, before⟩ =
      ⟨⟨leading, s.kind, s.text⟩, s.after, s.chars.length, before⟩ :=
  Cursor.withMarkup_of_markupSize? s.noMarkup

instance withMarkup [h : Twin s place twin] : Twin s place.withMarkup twin.withMarkup := by
  cases h with
  | ahead h hmore =>
    rw [(withMarkup_ahead h hmore _ _).1, (withMarkup_ahead h hmore _ _).2]
    exact .ahead h hmore
  | here hbody =>
    rw [withMarkup_here, withMarkup_here]
    exact .here hbody
  | past hin hleft hcut =>
    unfold Cursor.withMarkup
    split
    · exact past_withMarkupUpTo hin hleft hcut _
    · exact .past hin hleft hcut

theorem withBefore (h : Twin s place twin) {before : Before} (hbefore : before ≠ .body) :
    Twin s { place with before } { twin with before } := by
  cases h with
  | ahead h hmore => exact .ahead h hmore
  | here => exact .here fun hbody => absurd hbody hbefore
  | past hin hleft hcut => exact .past (hin.withBefore before) hleft hcut

/-! ## What twins share -/

theorem before_eq (h : Twin s place twin) : twin.before = place.before := by
  cases h <;> rfl

theorem kind_eq (h : Twin s place twin) : twin.token.kind = place.token.kind := by
  cases h <;> rfl

theorem text_eq (h : Twin s place twin) : twin.token.text = place.token.text := by
  cases h <;> rfl

theorem text_ne (h : Twin s place twin) (hend : place.atEnd = false) : place.token.text ≠ "" := by
  cases h with
  | ahead h => exact h.text_ne_empty
  | here => exact s.text_ne_empty
  | past hin hleft hcut => exact hcut.text_ne hend

theorem isPrefixOf_eq (h : Twin s place twin) {text : List Char} (htext : isJoined text) :
    text.isPrefixOf twin.chars = text.isPrefixOf place.chars := by
  cases h with
  | ahead h hmore => exact (s.isPrefixOf_eq h hmore htext).1
  | here => rfl
  | past => rfl

/-- Whether marks follow a mark is the same at twins. -/
theorem touches_eq (h : Twin s place twin) {text : String}
    (htext : isJoined (place.token.text.toList ++ text.toList)) :
    twin.touches text = place.touches text := by
  have hprefix := h.isPrefixOf_eq htext
  have hcancel (here : Cursor) (heq : here.token.text = place.token.text) :
      (place.token.text.toList ++ text.toList).isPrefixOf here.chars = here.touches text := by
    rw [Cursor.chars, heq, Cursor.touches, Bool.eq_iff_iff, List.isPrefixOf_iff_prefix,
      List.isPrefixOf_iff_prefix, List.prefix_append_right_inj]
  rwa [hcancel twin h.text_eq, hcancel place rfl] at hprefix

/-- An operator that comes first is passed alike. -/
theorem skip (h : Twin s place twin) {text : String} (hne : text ≠ "")
    (hjoined : isJoined text.toList) (hchars : text.toList.all fun c => operatorChars.contains c)
    (hstart : text.toList.isPrefixOf place.chars) :
    Twin s (place.skip text.length) (twin.skip text.length) ∧
      (text.toList.getLast? = some ':' →
        (twin.skip text.length).token = (place.skip text.length).token) := by
  have hplace : place.chars ≠ [] := by
    intro hnil
    rw [hnil] at hstart
    cases hlist : text.toList with
    | nil => exact hne (String.toList_eq_nil_iff.mp hlist)
    | cons c more =>
      rw [hlist] at hstart
      cases hstart
  cases h with
  | @ahead token more before h hmore =>
    obtain ⟨rest, hrest⟩ : text.toList <+: token.text.toList ++ more := by
      rw [← List.isPrefixOf_iff_prefix, ← (s.isPrefixOf_eq h hmore hjoined).2]
      exact hstart
    -- nothing stands in front of the token but an operator, so the front may start with it
    have hfront : s.Front rest := by
      have hpiece : s.Piece ⟨[], token.kind, token.text⟩ more :=
        { lexes := ⟨trivia_of_startsToken h.lexes.startsToken _, h.lexes.token⟩
          solid := h.solid
          noTemplate := h.noTemplate
          noMarkup := h.noMarkup
          settles := rfl
          last := h.last
          noExport := h.noExport
          lone := h.lone }
      have hall := Spot.Front.cons hpiece hmore
      rw [Token.chars, Trivia.chars, List.flatMap_nil, List.nil_append, ← hrest] at hall
      exact hall.drop hchars
    have hskip (tail : List Char) :
        Cursor.skip ⟨token, more ++ tail, (token.text.toList ++ (more ++ tail)).length, before⟩
          text.length =
          .ofChars [] (rest ++ tail).length (rest ++ tail) := by
      have hdrop : (token.text.toList ++ (more ++ tail)).drop text.length = rest ++ tail := by
        rw [← List.append_assoc, ← hrest, List.append_assoc, ← String.length_toList, List.drop_left]
      rw [Cursor.skip, Cursor.chars]
      dsimp only
      rw [hdrop, ← List.length_drop, hdrop]
    rw [hskip, hskip]
    refine ⟨(of_front hfront).1, fun hcolon => (of_front hfront).2 ?_⟩
    rintro rfl
    rw [List.append_nil] at hrest
    rw [hrest, s.getLast?_front h hmore] at hcolon
    exact s.noColon hcolon
  | here =>
    exact ⟨past_skip (s.in_here s.gap _) (Cursor.chars_ne_of_text s.text_ne_empty)
      (length_pos_of_ne_empty hne),
      fun _ => rfl⟩
  | past hin => exact ⟨past_skip hin hplace (length_pos_of_ne_empty hne), fun _ => rfl⟩

/-- Two marks without a gap are passed alike. -/
theorem skip_marks (h : Twin s place twin) {first second : String} (hne : first ++ second ≠ "")
    (hjoined : isJoined (first ++ second).toList)
    (hchars : (first ++ second).toList.all fun c => operatorChars.contains c)
    (hmark : place.token.isMark first) (htouches : place.touches second) {size : Nat}
    (hsize : (first ++ second).length = size) : Twin s (place.skip size) (twin.skip size) := by
  have htext : place.token.text = first := by simpa using (Bool.and_eq_true_iff.1 hmark).2
  subst hsize
  refine (h.skip hne hjoined hchars ?_).1
  rw [Cursor.chars, htext, String.toList_append, List.isPrefixOf_iff_prefix,
    List.prefix_append_right_inj]
  exact List.isPrefixOf_iff_prefix.mp htouches

end Twin

end Facade
