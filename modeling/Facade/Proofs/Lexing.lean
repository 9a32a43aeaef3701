-- How characters become tokens: a word is taken whole, blanks and comments go in front of the token
-- that follows them, and what stands in front of a token changes nothing after it.
import Facade.Proofs.Reading

namespace Facade

namespace Lexer

/-! ## Words -/

/-- No word goes on with these characters. -/
def endsWord (rest : List Char) : Bool :=
  rest.head?.all fun c => !isWordChar c && c != '\\'

theorem wordEscapeSize?_cons {c : Char} (h : c ≠ '\\') (rest : List Char) :
    wordEscapeSize? (c :: rest) = none := by
  unfold wordEscapeSize?
  split
  · rename_i heq
    exact absurd (List.cons.inj heq).1 h
  · rfl

theorem wordSize_of_endsWord {rest : List Char} (h : endsWord rest) : wordSize 0 rest = 0 := by
  cases rest with
  | nil => rfl
  | cons c rest =>
    simp only [endsWord, List.head?_cons, Option.all_some, Bool.and_eq_true, Bool.not_eq_true',
      bne_iff_ne] at h
    rw [wordSize, if_neg (by simp [h.1]), wordEscapeSize?_cons h.2]

theorem wordSize_append {word rest : List Char} (hword : word.all isWordChar)
    (hrest : endsWord rest) : wordSize 0 (word ++ rest) = word.length := by
  induction word with
  | nil => exact wordSize_of_endsWord hrest
  | cons c word ih =>
    rw [List.all_cons, Bool.and_eq_true] at hword
    rw [List.cons_append, wordSize, if_pos hword.1, ih hword.2, List.length_cons]

/-- The characters are those of a word. -/
def isWord (word : List Char) : Bool :=
  word.head?.any isWordStart && word.all isWordChar

theorem token_word {word rest : List Char} (hword : isWord word) (hrest : endsWord rest) :
    token (word ++ rest) = (.word, word.length) := by
  rw [isWord, Bool.and_eq_true] at hword
  obtain ⟨hstart, hall⟩ := hword
  cases word with
  | nil => simp at hstart
  | cons c word =>
    have hsize := wordSize_append hall hrest
    have hstarts : startsWord (c :: (word ++ rest)) = true := by
      simp only [List.head?_cons, Option.any_some] at hstart
      simp [startsWord, hstart]
    rw [List.cons_append] at hsize ⊢
    rw [token, if_pos hstarts, hsize]

/-! ## Blanks and comments -/

/-- A token comes first, and no blank or comment. -/
def startsToken (chars : List Char) : Bool :=
  !chars.head?.any isSpace && (commentSize? chars).isNone

theorem blankSize_of_head {chars : List Char} (h : chars.head?.any isSpace = false) (count : Nat) :
    blankSize count chars = count := by
  cases chars with
  | nil => rfl
  | cons c rest =>
    rw [List.head?_cons, Option.any_some] at h
    rw [blankSize, if_neg (by simp [h])]

theorem blankSize_append {blank rest : List Char} (hblank : blank.all isSpace)
    (hrest : rest.head?.any isSpace = false) (count : Nat) :
    blankSize count (blank ++ rest) = count + blank.length := by
  induction blank generalizing count with
  | nil => exact blankSize_of_head hrest count
  | cons c blank ih =>
    rw [List.all_cons, Bool.and_eq_true] at hblank
    rw [List.cons_append, blankSize, if_pos hblank.1, ih hblank.2, List.length_cons]
    omega

theorem trivia_of_startsToken {chars : List Char} (h : startsToken chars) (fuel : Nat) :
    trivia fuel chars = ([], chars) := by
  simp only [startsToken, Bool.and_eq_true, Bool.not_eq_true', Option.isNone_iff_eq_none] at h
  cases fuel with
  | zero => rfl
  | succ fuel =>
    rw [trivia, blankSize_of_head h.1, h.2]
    rfl

theorem trivia_blank {blank rest : List Char} (hne : blank ≠ []) (hblank : blank.all isSpace)
    (hrest : rest.head?.any isSpace = false) (fuel : Nat) :
    trivia (fuel + 1) (blank ++ rest) =
      (.blank (String.ofList blank) :: (trivia fuel rest).1, (trivia fuel rest).2) := by
  have hsize := blankSize_append hblank hrest 0
  have hpos : blank.length ≠ 0 := by simpa using hne
  rw [trivia, hsize]
  simp [hpos]

theorem not_isSpace_of_isWordStart {c : Char} (h : isWordStart c) : isSpace c = false := by
  simp only [isWordStart, Bool.or_eq_true, Bool.and_eq_true, Bool.not_eq_true', beq_iff_eq] at h
  rcases h with ((halpha | rfl) | rfl) | ⟨-, hspace⟩
  · unfold Char.isAlpha Char.isUpper Char.isLower at halpha
    simp only [Bool.or_eq_true, Bool.and_eq_true, decide_eq_true_eq, ge_iff_le,
      UInt32.le_iff_toNat_le] at halpha
    simp only [isSpace, Char.toNat]
    simp at *
    omega
  · decide
  · decide
  · exact hspace

theorem isSpace_of_isBreakable {c : Char} (h : isBreakable c) : isSpace c := by
  simp only [isBreakable, isSpace, Bool.or_eq_true, Bool.and_eq_true, decide_eq_true_eq,
    beq_iff_eq] at h ⊢
  omega

theorem commentSize?_cons {c : Char} (h : c ≠ '/') (rest : List Char) :
    commentSize? (c :: rest) = none := by
  unfold commentSize?
  split
  · rename_i heq
    exact absurd (List.cons.inj heq).1 h
  · rename_i heq
    exact absurd (List.cons.inj heq).1 h
  · rfl

theorem startsToken_cons {c : Char} (hspace : isSpace c = false) (hslash : c ≠ '/') (rest : List Char) :
    startsToken (c :: rest) := by
  simp [startsToken, hspace, commentSize?_cons hslash]

theorem startsToken_word {word rest : List Char} (hword : isWord word) :
    startsToken (word ++ rest) := by
  cases word with
  | nil => simp [isWord] at hword
  | cons c word =>
    have hstart : isWordStart c := by
      simp only [isWord, List.head?_cons, Option.any_some, Bool.and_eq_true] at hword
      exact hword.1
    refine startsToken_cons (not_isSpace_of_isWordStart hstart) ?_ _
    rintro rfl
    revert hstart
    decide

/-! ## Marks -/

/-- The marks that are tokens whatever follows them. -/
def loneMarks : List Char := ['(', ')', '[', ']', '<', '>', ',', ':', ';', '|', '&']

theorem token_loneMark {c : Char} (h : c ∈ loneMarks) (rest : List Char) :
    token (c :: rest) = (.mark, 1) := by
  simp only [loneMarks, List.mem_cons, List.not_mem_nil, or_false] at h
  rcases h with rfl | rfl | rfl | rfl | rfl | rfl | rfl | rfl | rfl | rfl | rfl <;> rfl

theorem token_arrow (rest : List Char) : token ('=' :: '>' :: rest) = (.mark, 2) := rfl

theorem token_equals {rest : List Char} (h : rest.head? ≠ some '>') :
    token ('=' :: rest) = (.mark, 1) := by
  have hmark : markToken '=' rest = (.mark, 1) := by
    unfold markToken
    split <;> simp_all
  exact hmark

/-! ## Gaps -/

/-- The characters are a comment that ends where they end. -/
def isBlockComment : List Char → Bool
  | '/' :: '*' :: body => blockCommentSize? 2 body == some (body.length + 2)
  | _ => false

theorem blockCommentSize?_append {count size : Nat} {body : List Char}
    (h : blockCommentSize? count body = some size) (rest : List Char) :
    blockCommentSize? count (body ++ rest) = some size := by
  induction body generalizing count with
  | nil => cases h
  | cons c body ih =>
    unfold blockCommentSize? at h
    split at h
    · cases h
    · rename_i heq
      cases heq
      exact h
    · rename_i hne heq
      cases heq
      rw [List.cons_append, blockCommentSize?]
      · exact ih h
      · rintro more rfl hmore
        cases body with
        | nil => cases h
        | cons d body =>
          cases hmore
          exact hne body rfl rfl

theorem commentSize?_of_isBlockComment {comment : List Char} (h : isBlockComment comment)
    (rest : List Char) : commentSize? (comment ++ rest) = some comment.length := by
  unfold isBlockComment at h
  split at h
  · rename_i body
    rw [beq_iff_eq] at h
    exact blockCommentSize?_append h rest
  · cases h

theorem head?_of_isBlockComment {comment : List Char} (h : isBlockComment comment) :
    comment.head? = some '/' := by
  unfold isBlockComment at h
  split at h
  · rfl
  · cases h

/-- What may stand between two tokens of a line: blanks and comments, as they are cut off. -/
def isGap : List Trivia → Bool
  | [] => true
  | .blank text :: more =>
    !text.toList.isEmpty && text.toList.all (fun c => isSpace c && c != '\n')
      && more.head?.all Trivia.isRemark && isGap more
  | .comment text :: more => isBlockComment text.toList && isGap more
  | .markup _ :: _ => false

/-- What comes first in a gap and the token after it is no blank when the gap starts with none. -/
theorem head?_of_gap {gap : List Trivia} {rest : List Char} (hgap : isGap gap)
    (hremark : gap.head?.all Trivia.isRemark) (hrest : startsToken rest) :
    (Trivia.chars gap ++ rest).head?.any isSpace = false := by
  match gap with
  | [] =>
    simp only [startsToken, Bool.and_eq_true, Bool.not_eq_true'] at hrest
    exact hrest.1
  | .blank text :: more => simp [Trivia.isRemark] at hremark
  | .comment text :: more =>
    rw [isGap, Bool.and_eq_true] at hgap
    have hhead : (Trivia.chars (.comment text :: more) ++ rest).head? = some '/' := by
      simp only [Trivia.chars, List.flatMap_cons, Trivia.text, List.append_assoc, List.head?_append,
        head?_of_isBlockComment hgap.1, Option.some_or]
    rw [hhead]
    decide
  | .markup text :: more => cases hgap

/-- A gap and a token after it start with a blank, with a slash or like the token. -/
theorem head?_chars_gap {gap : List Trivia} {text : List Char} {c : Char} (hgap : isGap gap)
    (h : (Trivia.chars gap ++ text).head? = some c) :
    isSpace c ∨ c = '/' ∨ text.head? = some c := by
  match gap with
  | [] => exact .inr (.inr h)
  | .blank blank :: more =>
    simp only [isGap, Bool.and_eq_true, Bool.not_eq_true', List.isEmpty_eq_false_iff] at hgap
    obtain ⟨⟨⟨hne, hall⟩, -⟩, -⟩ := hgap
    left
    cases hblank : blank.toList with
    | nil => exact absurd hblank hne
    | cons d rest => simp_all [Trivia.chars, Trivia.text]
  | .comment comment :: more =>
    rw [isGap, Bool.and_eq_true] at hgap
    right
    left
    have hhead := head?_of_isBlockComment hgap.1
    rw [Trivia.chars, List.flatMap_cons, List.append_assoc, Trivia.text, List.head?_append, hhead,
      Option.some_or, Option.some.injEq] at h
    exact h.symm

theorem trivia_gap {gap : List Trivia} {rest : List Char} (hgap : isGap gap)
    (hrest : startsToken rest) {fuel : Nat} (hfuel : gap.length ≤ fuel) :
    trivia fuel (Trivia.chars gap ++ rest) = (gap, rest) := by
  induction gap generalizing fuel with
  | nil => exact trivia_of_startsToken hrest fuel
  | cons piece more ih =>
    obtain ⟨fuel, rfl⟩ := Nat.exists_eq_add_of_le' (Nat.zero_lt_of_lt hfuel)
    have hmore := Nat.le_of_succ_le_succ hfuel
    cases piece with
    | blank text =>
      simp only [isGap, Bool.and_eq_true, Bool.not_eq_true', List.isEmpty_eq_false_iff] at hgap
      obtain ⟨⟨⟨hne, hall⟩, hremark⟩, hgap⟩ := hgap
      have hspace : text.toList.all isSpace := by
        rw [List.all_eq_true] at hall ⊢
        exact fun c hc => (Bool.and_eq_true _ _ ▸ hall c hc).1
      have hchars : Trivia.chars (.blank text :: more) ++ rest =
          text.toList ++ (Trivia.chars more ++ rest) := by
        simp [Trivia.chars, Trivia.text]
      rw [hchars, trivia_blank hne hspace (head?_of_gap hgap hremark hrest), ih hgap hmore,
        String.ofList_toList]
    | comment text =>
      rw [isGap, Bool.and_eq_true] at hgap
      have hchars : Trivia.chars (.comment text :: more) ++ rest =
          text.toList ++ (Trivia.chars more ++ rest) := by
        simp [Trivia.chars, Trivia.text]
      have hblank : blankSize 0 (text.toList ++ (Trivia.chars more ++ rest)) = 0 := by
        refine blankSize_of_head ?_ 0
        rw [List.head?_append, head?_of_isBlockComment hgap.1, Option.some_or]
        decide
      rw [hchars, trivia, hblank]
      simp only [bne_self_eq_false, Bool.false_eq_true, if_false,
        commentSize?_of_isBlockComment hgap.1, List.drop_left, List.take_left, ih hgap.2 hmore,
        String.ofList_toList]
    | markup text => cases hgap

theorem markupCount_of_isGap {gap : List Trivia} (h : isGap gap) : Trivia.markupCount gap = 0 := by
  induction gap with
  | nil => rfl
  | cons piece more ih =>
    cases piece with
    | blank text =>
      rw [isGap, Bool.and_eq_true] at h
      exact ih h.2
    | comment text =>
      rw [isGap, Bool.and_eq_true] at h
      exact ih h.2
    | markup text => cases h

end Lexer

/-! ## Places -/

namespace Cursor

variable {place : Cursor}

theorem withMarkup_eq_self (h : place.token.kind ≠ .mark) : place.withMarkup = place := by
  unfold withMarkup
  split
  · exact withMarkupUpTo_eq_self (by simp [markupNext, h]) _
  · rfl

theorem markupSize?_cons {c : Char} (hless : c ≠ '<') (hminus : c ≠ '-') (rest : List Char) :
    markupSize? (c :: rest) = none := by
  rw [markupSize?, if_neg]
  simp [List.isPrefixOf, hless.symm, hminus.symm]

/-- Only what starts with a less-than sign or a minus sign can be a line of markup. -/
theorem withMarkup_of_chars {c : Char} {rest : List Char} (h : place.chars = c :: rest)
    (hless : c ≠ '<') (hminus : c ≠ '-') : place.withMarkup = place := by
  unfold withMarkup
  split
  · exact withMarkupUpTo_eq_self (by simp [markupNext, h, markupSize?_cons hless hminus]) _
  · rfl

theorem withMarkup_of_mark {mark : String} (h : place.token.isMark mark)
    (hmark : mark.toList.head?.any fun c => c != '<' && c != '-') : place.withMarkup = place := by
  rw [Token.isMark, Bool.and_eq_true, beq_iff_eq, beq_iff_eq] at h
  cases hchars : mark.toList with
  | nil => simp [hchars] at hmark
  | cons c rest =>
    simp only [hchars, List.head?_cons, Option.any_some, Bool.and_eq_true, bne_iff_ne] at hmark
    have hplace : place.chars = c :: (rest ++ place.after) := by
      rw [chars, h.2, hchars, List.cons_append]
    exact withMarkup_of_chars hplace hmark.1 hmark.2

theorem withMarkup_of_atEnd (h : place.atEnd) : place.withMarkup = place := by
  rw [atEnd, beq_iff_eq] at h
  exact withMarkup_eq_self (by simp [h])

theorem withMarkup_of_word (h : place.token.kind = .word) : place.withMarkup = place :=
  withMarkup_eq_self (by simp [h])

theorem atEnd_of_word (h : place.token.kind = .word) : place.atEnd = false := by
  simp [atEnd, h]

/-- The same place, with something else in front of the token. -/
def withLeading (place : Cursor) (leading : List Trivia) : Cursor :=
  { place with token := { place.token with leading } }

@[simp]
theorem withLeading_next {leading : List Trivia} : (place.withLeading leading).next = place.next := rfl

@[simp]
theorem withLeading_kind {leading : List Trivia} :
    (place.withLeading leading).token.kind = place.token.kind := rfl

@[simp]
theorem withLeading_text {leading : List Trivia} :
    (place.withLeading leading).token.text = place.token.text := rfl

theorem ofChars_word {word rest : List Char} (hword : Lexer.isWord word)
    (hrest : Lexer.endsWord rest) (leading : List Trivia) (left : Nat) :
    ofChars leading left (word ++ rest) =
      ⟨⟨leading, .word, String.ofList word⟩, rest, left, .start⟩ := by
  simp [ofChars, Lexer.trivia_of_startsToken (Lexer.startsToken_word hword),
    Lexer.token_word hword hrest, Trivia.size, Trivia.chars]

theorem ofChars_space {chars : List Char} (h : Lexer.startsToken chars) (leading : List Trivia)
    (left : Nat) :
    ofChars leading (left + 1) (' ' :: chars) =
      (ofChars leading left chars).withLeading (leading ++ [.blank " "]) := by
  have hhead : chars.head?.any Lexer.isSpace = false := by
    simp only [Lexer.startsToken, Bool.and_eq_true, Bool.not_eq_true'] at h
    exact h.1
  have htrivia : Lexer.trivia (left + 1) (' ' :: chars) = ([.blank " "], chars) := by
    have hblank := Lexer.trivia_blank (List.cons_ne_nil ' ' []) (by decide) hhead left
    rw [Lexer.trivia_of_startsToken h] at hblank
    exact hblank
  simp [ofChars, htrivia, Lexer.trivia_of_startsToken h, withLeading, Trivia.size, Trivia.chars,
    Trivia.text]

/-- A word in front of a text, with a blank between them. -/
theorem ofText_word {words word text : String} (hwords : words = word ++ " ")
    (hword : Lexer.isWord word.toList) (htext : Lexer.startsToken text.toList) :
    (ofText (words ++ text)).token = ⟨[], .word, word⟩ ∧
      (ofText (words ++ text)).next = (ofText text).withLeading [.blank " "] := by
  subst hwords
  have hchars : (word ++ " " ++ text).toList = word.toList ++ ' ' :: text.toList := by simp
  have hplace : ofText (word ++ " " ++ text) =
      ⟨⟨[], .word, word⟩, ' ' :: text.toList, (word ++ " " ++ text).length, .start⟩ := by
    have hrest : Lexer.endsWord (' ' :: text.toList) := by
      simp [Lexer.endsWord]
      decide
    rw [ofText, hchars, ofChars_word hword hrest, String.ofList_toList]
  have hleft : (word ++ " " ++ text).length - word.length = text.length + 1 := by
    have hblank : " ".length = 1 := by decide
    simp only [String.length_append]
    omega
  constructor
  · rw [hplace]
  · rw [hplace, next, hleft, ofChars_space htext]
    rfl

/-! ## Ends of lines -/

theorem endsBefore_space (form : Form) (chars : List Char) :
    endsBefore form (' ' :: chars) = endsBefore form chars := by
  simp [endsBefore, Lexer.isBreakable]

theorem endsBefore_word {c : Char} (h : Lexer.isWordStart c) (form : Form) (rest : List Char) :
    endsBefore form (c :: rest) = false := by
  have hbreak : Lexer.isBreakable c = false := by
    by_contra hbreak
    have hspace := Lexer.isSpace_of_isBreakable (by simpa using hbreak)
    rw [Lexer.not_isSpace_of_isWordStart h] at hspace
    cases hspace
  have hnul : (c.toNat == 0) = false := by
    rw [beq_eq_false_iff_ne]
    intro hzero
    rw [show c = Char.ofNat 0 by rw [← hzero, Char.ofNat_toNat]] at h
    revert h
    decide
  have hbrace : c ≠ '}' := by
    rintro rfl
    revert h
    decide
  have hline : c ≠ '\n' := by
    rintro rfl
    revert h
    decide
  simp [endsBefore, hnul, hbrace, hline, hbreak]

end Cursor

/-! ## Readers at a token -/

theorem Ending.view_line (form : Form) (place : Cursor) : (Ending.line form).view place = place := rfl

namespace Reader

variable {place : Cursor}

theorem look_of_word (hword : place.token.kind = .word) : look place = .ok place place := by
  rw [look, Cursor.withMarkup_of_word hword]

theorem take_of_word (hword : place.token.kind = .word) (test : Token → Bool) :
    take test place = if test place.token then .ok place.token place.next else fail place := by
  rw [take_apply, Cursor.withMarkup_of_word hword, Cursor.atEnd_of_word hword, Bool.not_false,
    Bool.true_and]

theorem keyword_of_word (hword : place.token.kind = .word) (text : String) :
    keyword text place = if place.token.text == text then .ok () place.next else fail place := by
  rw [keyword, bind_apply, take_of_word hword, Token.isWord, hword]
  cases place.token.text == text <;> rfl

theorem word_of_word (hword : place.token.kind = .word) :
    word place = .ok place.token.text place.next := by
  rw [word, bind_apply, take_of_word hword, hword]
  rfl

theorem acceptWord_of_word (hword : place.token.kind = .word) (text : String) :
    acceptWord text place =
      if place.token.text == text then .ok true place.next else .ok false place := by
  simp [acceptWord, accept_apply, Cursor.withMarkup_of_word hword, Cursor.atEnd_of_word hword,
    Token.isWord, hword]

theorem mark_of_mark {text : String} (h : place.token.isMark text)
    (htext : text.toList.head?.any fun c => c != '<' && c != '-') :
    mark text place = .ok () place.next := by
  have hend : place.atEnd = false := by
    rw [Token.isMark, Bool.and_eq_true, beq_iff_eq] at h
    simp [Cursor.atEnd, h]
  rw [mark_apply, Cursor.withMarkup_of_mark h htext, hend, h]
  rfl

theorem continuesWith_apply (ending : Ending) (test : Token → Bool) (place : Cursor) :
    continuesWith ending test place =
      .ok (test (ending.view place).token && !ending.isAt (ending.view place))
        (ending.view place) := by
  unfold continuesWith Ending.view
  split
  · rename_i hending
    rw [beq_iff_eq] at hending
    subst hending
    simp [nextIs, peek, look, bind_apply, pure_apply, Ending.isAt]
  · simp [bind_apply, Reader.place, pure_apply]

end Reader

end Facade
