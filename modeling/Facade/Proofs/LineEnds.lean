-- Where something may end without a mark: blanks and comments in front of a token are passed on the
-- way to it, or decide by themselves.
import Facade.Proofs.LexedTokens

namespace Facade

open Lexer

namespace Trivia

theorem chars_cons (first : Trivia) (more : List Trivia) :
    chars (first :: more) = first.text.toList ++ chars more := List.flatMap_cons

theorem chars_append (first second : List Trivia) :
    chars (first ++ second) = chars first ++ chars second := List.flatMap_append

/-- Whether the characters are a comment up to the end of its line. -/
def isLineComment : List Char → Bool
  | '/' :: '/' :: body => body.all (!endsLine ·)
  | _ => false

/-- Whether a line ends here. A carriage return alone does not end it everywhere. -/
def startsLine : List Char → Bool
  | '\r' :: rest => rest.head? == some '\n'
  | c :: _ => endsLine c
  | [] => false

/-- Blanks and comments as they stand in front of a token, each line comment up to the end of its
line. -/
def settles : List Trivia → Bool
  | [] => true
  | .blank text :: more => text.toList.all isSpace && settles more
  | .comment text :: more =>
    (isBlockComment text.toList || isLineComment text.toList && startsLine (chars more)) &&
    settles more
  | .markup _ :: _ => false

theorem settles_of_suffix {first second : List Trivia} (h : settles second)
    (hsuffix : first <:+ second) :
    settles first := by
  induction second with
  | nil =>
    rw [List.suffix_nil.mp hsuffix]
    rfl
  | cons piece second ih =>
    rcases List.suffix_cons_iff.mp hsuffix with rfl | hsuffix
    · exact h
    · refine ih ?_ hsuffix
      cases piece <;> simp_all [settles]

end Trivia

/-! ## What starts something new -/

namespace Cursor

theorem operatorWordNext_eq (chars : List Char) :
    operatorWordNext chars =
      if "instanceof".toList.isPrefixOf chars then !(chars.drop 10).head?.any isLetter
      else "in".toList.isPrefixOf chars && !(chars.drop 2).head?.any isLetter := by
  unfold operatorWordNext
  split
  · simp
  · rename_i rest hlong
    have hnot : ¬ "instanceof".toList.isPrefixOf ('i' :: 'n' :: rest) := by
      intro hstart
      obtain ⟨more, hmore⟩ := List.isPrefixOf_iff_prefix.mp hstart
      refine hlong more ?_
      simpa using hmore.symm
    rw [if_neg hnot]
    simp
  · rename_i hlong hshort
    have hnot : ¬ "in".toList.isPrefixOf chars := by
      intro hstart
      obtain ⟨more, hmore⟩ := List.isPrefixOf_iff_prefix.mp hstart
      refine hshort more ?_
      simpa using hmore.symm
    have hlonger : ¬ "instanceof".toList.isPrefixOf chars := by
      intro hstart
      obtain ⟨more, hmore⟩ := List.isPrefixOf_iff_prefix.mp hstart
      refine hlong more ?_
      simpa using hmore.symm
    rw [if_neg hlonger, (Bool.not_eq_true _).mp hnot]
    rfl

/-- The characters that something new may start with, but not always. -/
def doubtfulStarts : List Char := ['{', '(', '[', '+', '-', '!', 'i'] ++ joiningMarks

theorem startsNew_of_not_mem {c : Char} (h : c ∉ doubtfulStarts) (form : Form) (rest : List Char) :
    startsNew form (c :: rest) = true := by
  simp only [doubtfulStarts, List.cons_append, List.nil_append, List.mem_cons, not_or] at h
  obtain ⟨hbrace, hparen, hbracket, hplus, hminus, hbang, hletter, hjoins⟩ := h
  have hword : operatorWordNext (c :: rest) = false := by
    rw [operatorWordNext_eq]
    simp [List.isPrefixOf, Ne.symm hletter]
  rw [startsNew, if_neg (by simpa using hjoins), if_neg (by simpa using hbrace),
    if_neg (by simp [hparen, hbracket]), if_neg (by simp [hplus, hminus]),
      if_neg (by simpa using hbang),
    hword]
  rfl

theorem startsNew_of_isSpace {c : Char} (h : isSpace c) (form : Form) (rest : List Char) :
    startsNew form (c :: rest) = true := by
  refine startsNew_of_not_mem (fun hmem => ?_) form rest
  have hall : doubtfulStarts.all fun d => !isSpace d := by decide
  have hspace := List.all_eq_true.mp hall c hmem
  simp [h] at hspace

theorem startsNew_of_toNat {c : Char} (h : c.toNat = 0) (form : Form) (rest : List Char) :
    startsNew form (c :: rest) = true := by
  refine startsNew_of_not_mem (fun hmem => ?_) form rest
  have hall : doubtfulStarts.all fun d => d.toNat != 0 := by decide
  have hpos := List.all_eq_true.mp hall c hmem
  simp [h] at hpos

/-- Whether something new starts after these blanks and comments. -/
def begins (form : Form) (chars : List Char) : Bool :=
  (significant? .code chars).any (startsNew form)

theorem begins_cons {c : Char} (hbreak : isBreakable c = false) (hslash : c ≠ '/') (form : Form)
    (rest : List Char) : begins form (c :: rest) = startsNew form (c :: rest) := by
  simp [begins, significant?, hbreak, hslash]

theorem begins_run {blank : List Char} (h : blank.all isBreakable) (form : Form)
    (rest : List Char) :
    begins form (blank ++ rest) = begins form rest := by
  induction blank with
  | nil => rfl
  | cons c blank ih =>
    rw [List.all_cons, Bool.and_eq_true] at h
    rw [← ih h.2, List.cons_append, begins, significant?, if_pos h.1]
    rfl

theorem begins_of_isSpace {c : Char} (hspace : isSpace c) (hbreak : isBreakable c = false)
    (form : Form) (rest : List Char) : begins form (c :: rest) = true := by
  have hslash : c ≠ '/' := by
    rintro rfl
    cases hspace
  rw [begins_cons hbreak hslash, startsNew_of_isSpace hspace]

/-- Blanks are passed, unless one of them is no place to break a line. -/
theorem begins_blank {blank : List Char} (h : blank.all isSpace) (form : Form) :
    (∀ rest, begins form (blank ++ rest) = begins form rest) ∨
      ∀ rest, begins form (blank ++ rest) = true := by
  induction blank with
  | nil => exact .inl fun _ => rfl
  | cons c blank ih =>
    rw [List.all_cons, Bool.and_eq_true] at h
    by_cases hbreak : isBreakable c
    · have hpass (rest : List Char) :
          begins form (c :: (blank ++ rest)) = begins form (blank ++ rest) :=
        @begins_run [c] (by simp [hbreak]) form (blank ++ rest)
      refine (ih h.2).imp (fun ih rest => ?_) fun ih rest => ?_
      · rw [List.cons_append, hpass, ih]
      · rw [List.cons_append, hpass, ih]
    · exact .inr fun rest => begins_of_isSpace h.1 ((Bool.not_eq_true _).mp hbreak) form _

/-! ## Comments -/

/-- Whether a character is no character at all. -/
def isNull (c : Char) : Bool := c.toNat == 0

theorem significant?_blockComment {body : List Char} {count : Nat} (rest : List Char)
    (hsize : blockCommentSize? count (body ++ rest) = some (count + body.length))
    (hnull : body.any isNull = false) :
    significant? .blockComment (body ++ rest) = significant? .code rest := by
  induction body generalizing count with
  | nil =>
    have hle := (bounds_of_blockCommentSize? hsize).1
    rw [List.length_nil] at hle
    omega
  | cons c body ih =>
    rw [List.any_cons, Bool.or_eq_false_iff] at hnull
    have hzero : (c.toNat == 0) = false := hnull.1
    rw [List.cons_append, significant?, hzero]
    by_cases hstar : c = '*' ∧ (body ++ rest).head? = some '/'
    · obtain ⟨rfl, hhead⟩ := hstar
      obtain ⟨more, hmore⟩ := List.head?_eq_some_iff.mp hhead
      rw [List.cons_append, hmore, blockCommentSize?, Option.some.injEq, List.length_cons] at hsize
      cases body with
      | nil => simp at hsize
      | cons d body =>
        rw [List.length_cons] at hsize
        have hnil : body = [] := List.eq_nil_of_length_eq_zero (by omega)
        subst hnil
        cases hmore
        simp [significant?]
    · have hcond : (c == '*' && (body ++ rest).head? == some '/') = false := by
        rw [Bool.and_eq_false_iff, beq_eq_false_iff_ne, beq_eq_false_iff_ne]
        exact not_and_or.mp hstar
      rw [hcond]
      simp only [Bool.false_eq_true, if_false]
      refine @ih (count + 1) ?_ hnull.2
      rw [List.cons_append, blockCommentSize?] at hsize
      · rw [hsize, List.length_cons, Nat.add_assoc, Nat.add_comm 1]
      · rintro more rfl hmore
        exact hstar ⟨rfl, by rw [hmore]; rfl⟩

theorem isBreakable_of_endsLine {c : Char} (h : endsLine c) : isBreakable c := by
  simp only [endsLine, Bool.or_eq_true, beq_iff_eq] at h
  rcases h with ((rfl | rfl) | hcode) | hcode
  · rfl
  · rfl
  · simp [isBreakable, hcode]
  · simp [isBreakable, hcode]

theorem endsLine_of_startsLine {c : Char} {rest : List Char} (h : Trivia.startsLine (c :: rest)) :
    endsLine c := by
  unfold Trivia.startsLine at h
  split at h
  · rename_i heq
    cases heq
    rfl
  · rename_i heq
    cases heq
    exact h
  · rename_i heq
    cases heq

theorem not_isNull_of_endsLine {c : Char} (h : endsLine c) : isNull c = false := by
  simp only [endsLine, Bool.or_eq_true, beq_iff_eq] at h
  rw [isNull, beq_eq_false_iff_ne]
  rcases h with ((rfl | rfl) | hcode) | hcode
  · decide
  · decide
  · omega
  · omega

theorem significant?_lineComment {body rest : List Char} (hbody : body.all (!endsLine ·))
    (hline : Trivia.startsLine rest) (hnull : body.any isNull = false) :
    significant? .lineComment (body ++ rest) = significant? .code rest := by
  induction body with
  | nil =>
    cases rest with
    | nil => cases hline
    | cons c rest =>
      have hends := endsLine_of_startsLine hline
      have hzero : (c.toNat == 0) = false := not_isNull_of_endsLine hends
      rw [List.nil_append]
      simp only [significant?, hzero, isBreakable_of_endsLine hends, if_true]
      by_cases hreturn : c = '\r'
      · subst hreturn
        obtain ⟨more, rfl⟩ : ∃ more, rest = '\n' :: more := by
          simp only [Trivia.startsLine, beq_iff_eq] at hline
          exact List.head?_eq_some_iff.mp hline
        rfl
      · simp [hreturn, hends]
  | cons c body ih =>
    rw [List.any_cons, Bool.or_eq_false_iff] at hnull
    rw [List.all_cons, Bool.and_eq_true, Bool.not_eq_true'] at hbody
    have hzero : (c.toNat == 0) = false := hnull.1
    rw [List.cons_append, significant?, hzero, hbody.1, Bool.and_false]
    exact ih hbody.2 hnull.2

/-- In a block comment the first null ends the search. -/
theorem begins_blockComment_of_null {body : List Char} {count : Nat} (rest : List Char)
    (form : Form) (hsize : blockCommentSize? count (body ++ rest) = some (count + body.length))
    (hnull : body.any isNull) :
    (significant? .blockComment (body ++ rest)).any (startsNew form) = true := by
  induction body generalizing count with
  | nil => cases hnull
  | cons c body ih =>
    rw [List.cons_append, significant?]
    by_cases hzero : c.toNat = 0
    · simp [hzero, startsNew_of_toNat hzero]
    · have hbody : body.any isNull := by simpa [isNull, hzero] using hnull
      by_cases hstar : c = '*' ∧ (body ++ rest).head? = some '/'
      · obtain ⟨rfl, hhead⟩ := hstar
        obtain ⟨more, hmore⟩ := List.head?_eq_some_iff.mp hhead
        rw [List.cons_append, hmore, blockCommentSize?, Option.some.injEq,
          List.length_cons] at hsize
        cases body with
        | nil => cases hbody
        | cons d body =>
          rw [List.length_cons] at hsize
          have hnil : body = [] := List.eq_nil_of_length_eq_zero (by omega)
          subst hnil
          cases hmore
          cases hbody
      · have hcond : (c == '*' && (body ++ rest).head? == some '/') = false := by
          rw [Bool.and_eq_false_iff, beq_eq_false_iff_ne, beq_eq_false_iff_ne]
          exact not_and_or.mp hstar
        simp only [beq_eq_false_iff_ne.mpr hzero, hcond, Bool.false_eq_true, if_false]
        refine @ih (count + 1) ?_ hbody
        rw [List.cons_append, blockCommentSize?] at hsize
        · rw [hsize, List.length_cons, Nat.add_assoc, Nat.add_comm 1]
        · rintro more rfl hmore
          exact hstar ⟨rfl, by rw [hmore]; rfl⟩

/-- In a line comment the first null ends the search. -/
theorem begins_lineComment_of_null {body : List Char} (rest : List Char) (form : Form)
    (hbody : body.all (!endsLine ·)) (hnull : body.any isNull) :
    (significant? .lineComment (body ++ rest)).any (startsNew form) = true := by
  induction body with
  | nil => cases hnull
  | cons c body ih =>
    rw [List.all_cons, Bool.and_eq_true, Bool.not_eq_true'] at hbody
    rw [List.cons_append, significant?]
    by_cases hzero : c.toNat = 0
    · simp [hzero, startsNew_of_toNat hzero]
    · have hrest : body.any isNull := by simpa [isNull, hzero] using hnull
      simp only [beq_eq_false_iff_ne.mpr hzero, hbody.1, Bool.and_false, Bool.false_eq_true,
        if_false]
      exact ih hbody.2 hrest

theorem startsLine_append {chars : List Char} (h : Trivia.startsLine chars) (more : List Char) :
    Trivia.startsLine (chars ++ more) := by
  match chars with
  | [] => cases h
  | [c] =>
    unfold Trivia.startsLine at h ⊢
    split at h <;> simp_all
  | c :: d :: chars =>
    unfold Trivia.startsLine at h ⊢
    split at h <;> simp_all

/-- A comment is passed, unless it has a null in it. -/
theorem begins_comment {comment chars : List Char}
    (h : isBlockComment comment || Trivia.isLineComment comment && Trivia.startsLine chars)
    (form : Form) (more : List Char) :
    begins form (comment ++ (chars ++ more)) =
      (comment.any isNull || begins form (chars ++ more)) := by
  rw [Bool.or_eq_true, Bool.and_eq_true] at h
  rcases h with hblock | ⟨hcomment, hline⟩
  · unfold isBlockComment at hblock
    split at hblock
    · rename_i body
      rw [beq_iff_eq, Nat.add_comm] at hblock
      have hsize := blockCommentSize?_append hblock (chars ++ more)
      have hopen : begins form ('/' :: '*' :: body ++ (chars ++ more)) =
          (significant? .blockComment (body ++ (chars ++ more))).any (startsNew form) := rfl
      have hany : ('/' :: '*' :: body).any isNull = body.any isNull := rfl
      rw [hopen, hany]
      cases hnull : body.any isNull with
      | true => rw [begins_blockComment_of_null _ form hsize hnull, Bool.true_or]
      | false => rw [significant?_blockComment _ hsize hnull, Bool.false_or, begins]
    · cases hblock
  · unfold Trivia.isLineComment at hcomment
    split at hcomment
    · rename_i body
      have hopen : begins form ('/' :: '/' :: body ++ (chars ++ more)) =
          (significant? .lineComment (body ++ (chars ++ more))).any (startsNew form) := rfl
      have hany : ('/' :: '/' :: body).any isNull = body.any isNull := rfl
      rw [hopen, hany]
      cases hnull : body.any isNull with
      | true => rw [begins_lineComment_of_null _ form hcomment hnull, Bool.true_or]
      | false =>
        rw [significant?_lineComment hcomment (startsLine_append hline more) hnull, Bool.false_or,
          begins]
    · cases hcomment

theorem head?_of_comment {comment chars : List Char}
    (h : isBlockComment comment || Trivia.isLineComment comment && Trivia.startsLine chars) :
    comment.head? = some '/' := by
  rw [Bool.or_eq_true, Bool.and_eq_true] at h
  rcases h with hblock | ⟨hline, -⟩
  · exact head?_of_isBlockComment hblock
  · unfold Trivia.isLineComment at hline
    split at hline
    · rfl
    · cases hline

/-- Blanks and comments are passed on the way to what follows them, or decide by themselves. -/
theorem begins_trivia {gap : List Trivia} (h : Trivia.settles gap) (form : Form) :
    (∀ more, begins form (Trivia.chars gap ++ more) = begins form more) ∨
      ∀ more, begins form (Trivia.chars gap ++ more) = true := by
  induction gap with
  | nil => exact .inl fun _ => rfl
  | cons piece gap ih =>
    cases piece with
    | blank text =>
      rw [Trivia.settles, Bool.and_eq_true] at h
      simp only [Trivia.chars_cons, Trivia.text, List.append_assoc]
      rcases begins_blank h.1 form with hpass | hall
      · exact (ih h.2).imp (fun ih more => by rw [hpass, ih]) fun ih more => by rw [hpass, ih]
      · exact .inr fun more => hall _
    | comment text =>
      rw [Trivia.settles, Bool.and_eq_true] at h
      simp only [Trivia.chars_cons, Trivia.text, List.append_assoc, begins_comment h.1]
      cases text.toList.any isNull with
      | true => exact .inr fun _ => rfl
      | false =>
        simp only [Bool.false_or]
        exact ih h.2
    | markup text => cases h

/-! ## Ends -/

theorem endsBefore_of_not_isBreakable {c : Char} (hzero : c.toNat ≠ 0) (hbrace : c ≠ '}')
    (hbreak : isBreakable c = false) (form : Form) (rest : List Char) :
    endsBefore form (c :: rest) = false := by
  have hline : c ≠ '\n' := by
    rintro rfl
    cases hbreak
  simp [endsBefore, hzero, hbrace, hbreak, hline]

theorem endsBefore_of_isBreakable {c : Char} (hbreak : isBreakable c) (form : Form)
    (rest : List Char) :
    endsBefore form (c :: rest) = if c = '\n' then begins form rest else endsBefore form rest := by
  have hzero : c.toNat ≠ 0 := by
    intro hzero
    simp [isBreakable, hzero] at hbreak
  have hbrace : c ≠ '}' := by
    rintro rfl
    cases hbreak
  simp [endsBefore, hzero, hbrace, hbreak, begins]

theorem endsBefore_brace (form : Form) (rest : List Char) :
    endsBefore form ('}' :: rest) =
      (form == .value || (rest.dropWhile isBreakable).head? != some ':') := rfl

theorem endsBefore_run {blank : List Char} (h : blank.all isBreakable) (form : Form)
    (rest : List Char) :
    endsBefore form (blank ++ rest) =
      if '\n' ∈ blank then begins form rest else endsBefore form rest := by
  induction blank with
  | nil => rfl
  | cons c blank ih =>
    rw [List.all_cons, Bool.and_eq_true] at h
    rw [List.cons_append, endsBefore_of_isBreakable h.1, ih h.2, begins_run h.2]
    by_cases hline : c = '\n'
    · simp [hline]
    · simp [hline, Ne.symm hline]

/-- Where something ends, something new starts. -/
theorem begins_of_endsBefore {form : Form} {chars : List Char} (h : endsBefore form chars) :
    begins form chars = true := by
  induction chars with
  | nil => rfl
  | cons c rest ih =>
    by_cases hbreak : isBreakable c
    · have hpass := @begins_run [c] (by simp [hbreak]) form rest
      rw [List.singleton_append] at hpass
      rw [hpass]
      rw [endsBefore_of_isBreakable hbreak] at h
      split at h
      · exact h
      · exact ih h
    · have hbreak := (Bool.not_eq_true _).mp hbreak
      by_cases hzero : c.toNat = 0
      · have hslash : c ≠ '/' := by
          rintro rfl
          cases hzero
        rw [begins_cons hbreak hslash, startsNew_of_toNat hzero]
      · by_cases hbrace : c = '}'
        · subst hbrace
          rw [begins_cons hbreak (by decide), startsNew_of_not_mem (by decide)]
        · rw [endsBefore_of_not_isBreakable hzero hbrace hbreak] at h
          cases h

/-- How blanks are passed: all of them, up to a line break, or not at all. -/
theorem endsBefore_blank {blank : List Char} (h : blank.all isSpace) (form : Form) :
    (∀ rest, endsBefore form (blank ++ rest) = endsBefore form rest) ∨
      (∃ after, after <:+ blank ∧
        ∀ rest, endsBefore form (blank ++ rest) = begins form (after ++ rest)) ∨
      ∀ rest, endsBefore form (blank ++ rest) = false := by
  induction blank with
  | nil => exact .inl fun _ => rfl
  | cons c blank ih =>
    rw [List.all_cons, Bool.and_eq_true] at h
    by_cases hbreak : isBreakable c
    · by_cases hline : c = '\n'
      · refine .inr (.inl ⟨blank, List.suffix_cons _ _, fun rest => ?_⟩)
        rw [List.cons_append, endsBefore_of_isBreakable hbreak, if_pos hline]
      · have hpass (rest : List Char) :
            endsBefore form (c :: blank ++ rest) = endsBefore form (blank ++ rest) := by
          rw [List.cons_append, endsBefore_of_isBreakable hbreak, if_neg hline]
        rcases ih h.2 with hall | ⟨after, hafter, hline⟩ | hnone
        · exact .inl fun rest => by rw [hpass, hall]
        · exact .inr (.inl ⟨after, hafter.trans (List.suffix_cons _ _),
            fun rest => by rw [hpass, hline]⟩)
        · exact .inr (.inr fun rest => by rw [hpass, hnone])
    · refine .inr (.inr fun rest => ?_)
      refine endsBefore_of_not_isBreakable ?_ ?_ ((Bool.not_eq_true _).mp hbreak) form _
      · intro hzero
        simp [isSpace, hzero] at h
      · rintro rfl
        cases h.1

theorem endsBefore_comment {comment chars : List Char}
    (h : isBlockComment comment || Trivia.isLineComment comment && Trivia.startsLine chars)
    (form : Form) (more : List Char) : endsBefore form (comment ++ more) = false := by
  obtain ⟨rest, rfl⟩ := List.head?_eq_some_iff.mp (head?_of_comment h)
  exact endsBefore_of_not_isBreakable (by decide) (by decide) rfl form _

/-- How blanks and comments are passed: all of them, up to a line break, or not at all. -/
theorem endsBefore_trivia {gap : List Trivia} (h : Trivia.settles gap) (form : Form) :
    (∀ more, endsBefore form (Trivia.chars gap ++ more) = endsBefore form more) ∨
      (∀ more, endsBefore form (Trivia.chars gap ++ more) = begins form more) ∨
      ∃ ends, ∀ more, endsBefore form (Trivia.chars gap ++ more) = ends := by
  induction gap with
  | nil => exact .inl fun _ => rfl
  | cons piece gap ih =>
    cases piece with
    | blank text =>
      rw [Trivia.settles, Bool.and_eq_true] at h
      simp only [Trivia.chars_cons, Trivia.text, List.append_assoc]
      rcases endsBefore_blank h.1 form with hall | ⟨after, hafter, hline⟩ | hnone
      · rcases ih h.2 with ih | ih | ⟨ends, ih⟩
        · exact .inl fun more => by rw [hall, ih]
        · exact .inr (.inl fun more => by rw [hall, ih])
        · exact .inr (.inr ⟨ends, fun more => by rw [hall, ih]⟩)
      · have hspace : after.all isSpace :=
          List.all_eq_true.mpr fun c hc => List.all_eq_true.mp h.1 c (hafter.subset hc)
        right
        rcases begins_blank hspace form with hpass | hall
        · rcases begins_trivia h.2 form with hgap | hgap
          · exact .inl fun more => by rw [hline, hpass, hgap]
          · exact .inr ⟨true, fun more => by rw [hline, hpass, hgap]⟩
        · exact .inr ⟨true, fun more => by rw [hline, hall]⟩
      · exact .inr (.inr ⟨false, fun more => hnone _⟩)
    | comment text =>
      rw [Trivia.settles, Bool.and_eq_true] at h
      refine .inr (.inr ⟨false, fun more => ?_⟩)
      rw [Trivia.chars_cons, List.append_assoc]
      exact endsBefore_comment h.1 form _
    | markup text => cases h

/-! ## Ends among blanks and comments -/

/-- Whether something ends in front of the token, at one of the places where it can. -/
def endsAmong (form : Form) (chars : List Char) : List Trivia → Bool
  | [] => endsBefore form chars
  | [.blank text] => endsBefore form (text.toList ++ chars)
  | .blank text :: remark :: more =>
    endsBefore form (Trivia.chars (.blank text :: remark :: more) ++ chars) ||
      endsAmong form chars more
  | remark :: more =>
    endsBefore form (Trivia.chars (remark :: more) ++ chars) || endsAmong form chars more

theorem isSome_endAfter? (form : Form) (size : Nat) (chars : List Char) (leading : List Trivia) :
    (endAfter? form size chars leading).isSome = endsAmong form chars leading := by
  fun_induction endAfter? form size chars leading <;> simp_all [endsAmong]

theorem endAfter?_congr {form : Form} {first second : List Char} {leading : List Trivia}
    (h : ∀ lead, lead <:+ leading →
      endsBefore form (Trivia.chars lead ++ first) = endsBefore form (Trivia.chars lead ++ second))
    (size : Nat) : endAfter? form size first leading = endAfter? form size second leading := by
  induction leading using endsAmong.induct generalizing size with
  | case1 =>
    have hnil := h [] (List.suffix_refl _)
    simp only [Trivia.chars, List.flatMap_nil, List.nil_append] at hnil
    rw [endAfter?, endAfter?, hnil]
  | case2 text =>
    have hone := h [.blank text] (List.suffix_refl _)
    simp only [Trivia.chars, List.flatMap_cons, List.flatMap_nil, List.append_nil,
      Trivia.text] at hone
    rw [endAfter?, endAfter?, hone]
  | case3 text remark more ih =>
    have hsuffix : more <:+ .blank text :: remark :: more := ⟨[.blank text, remark], rfl⟩
    rw [endAfter?, endAfter?, h _ (List.suffix_refl _), ih fun lead hlead =>
      h lead (hlead.trans hsuffix)]
  | case4 remark more hsingle hblank ih =>
    rw [endAfter?, endAfter?, h _ (List.suffix_refl _),
      ih fun lead hlead => h lead (hlead.trans (List.suffix_cons _ _))]
    · exact hsingle
    · exact hblank
    · exact hsingle
    · exact hblank

/-- Where the same ends and starts without what stands in front, the same ends with it. -/
theorem endAfter?_of_settles {form : Form} {first second : List Char} {leading : List Trivia}
    (h : Trivia.settles leading) (hends : endsBefore form first = endsBefore form second)
    (hbegins : begins form first = begins form second) (size : Nat) :
    endAfter? form size first leading = endAfter? form size second leading := by
  refine endAfter?_congr (fun lead hlead => ?_) size
  rcases endsBefore_trivia (Trivia.settles_of_suffix h hlead) form with hall | hline | ⟨ends, hnone⟩
  · rw [hall, hall, hends]
  · rw [hline, hline, hbegins]
  · rw [hnone, hnone]

end Cursor

/-! ## Ends in front of a token after plain blanks and comments -/

namespace Trivia

/-- Blanks and comments without rare characters: a line may break at each blank, and no comment has
a null in it. -/
def isClean : List Trivia → Bool
  | [] => true
  | .blank text :: more => text.toList.all (fun c => isBreakable c && c.toNat < 0x80) &&
    isClean more
  | .comment text :: more =>
    (isBlockComment text.toList || isLineComment text.toList && startsLine (chars more))
      && !text.toList.any Cursor.isNull && isClean more
  | .markup _ :: _ => false

/-- Whether a line breaks in the blanks. -/
def breaksLine (gap : List Trivia) : Bool :=
  gap.any fun
    | .blank text => text.toList.contains '\n'
    | _ => false

theorem breaksLine_blank (text : String) (more : List Trivia) :
    breaksLine (.blank text :: more) = (text.toList.contains '\n' || breaksLine more) :=
  List.any_cons

theorem breaksLine_comment (text : String) (more : List Trivia) :
    breaksLine (.comment text :: more) = breaksLine more := List.any_cons

theorem all_isBreakable_of_all {chars : List Char}
    (h : chars.all fun c => isBreakable c && c.toNat < 0x80) :
    chars.all isBreakable := by
  rw [List.all_eq_true] at h ⊢
  exact fun c hc => (Bool.and_eq_true_iff.mp (h c hc)).1

end Trivia

namespace Cursor

theorem begins_of_isClean {gap : List Trivia} (h : Trivia.isClean gap) (form : Form)
    (chars : List Char) :
    begins form (Trivia.chars gap ++ chars) = begins form chars := by
  induction gap with
  | nil => rfl
  | cons piece gap ih =>
    cases piece with
    | blank text =>
      rw [Trivia.isClean, Bool.and_eq_true] at h
      rw [Trivia.chars_cons, List.append_assoc, Trivia.text,
        begins_run (Trivia.all_isBreakable_of_all h.1),
        ih h.2]
    | comment text =>
      rw [Trivia.isClean, Bool.and_eq_true, Bool.and_eq_true, Bool.not_eq_true'] at h
      rw [Trivia.chars_cons, List.append_assoc, Trivia.text, begins_comment h.1.1, h.1.2,
        Bool.false_or, ih h.2]
    | markup text => cases h

/-- Whether something ends in front of a token after plain blanks and comments: right there, or at
the end of a line before it. -/
def endsAfter (form : Form) (chars : List Char) (gap : List Trivia) : Bool :=
  endsBefore form chars || Trivia.breaksLine gap && begins form chars

theorem endsAfter_of_endsBefore {gap : List Trivia} (h : Trivia.isClean gap) {form : Form}
    {chars : List Char}
    (hends : endsBefore form (Trivia.chars gap ++ chars)) : endsAfter form chars gap := by
  induction gap with
  | nil =>
    rw [endsAfter, Bool.or_eq_true]
    exact .inl hends
  | cons piece gap ih =>
    cases piece with
    | blank text =>
      rw [Trivia.isClean, Bool.and_eq_true] at h
      rw [Trivia.chars_cons, List.append_assoc, Trivia.text,
        endsBefore_run (Trivia.all_isBreakable_of_all h.1),
        begins_of_isClean h.2] at hends
      rw [endsAfter, Trivia.breaksLine_blank]
      split at hends
      · rename_i hline
        simp [hline, hends]
      · have ih := ih h.2 hends
        rw [endsAfter, Bool.or_eq_true, Bool.and_eq_true] at ih
        rcases ih with hhere | ⟨hline, hbegins⟩
        · simp [hhere]
        · simp [hline, hbegins]
    | comment text =>
      rw [Trivia.isClean, Bool.and_eq_true, Bool.and_eq_true] at h
      rw [Trivia.chars_cons, List.append_assoc, Trivia.text, endsBefore_comment h.1.1] at hends
      cases hends
    | markup text => cases h

theorem endsAfter_of_more {form : Form} {chars : List Char} {piece : Trivia} {gap : List Trivia}
    (h : endsAfter form chars gap) : endsAfter form chars (piece :: gap) := by
  rw [endsAfter, Bool.or_eq_true, Bool.and_eq_true] at h ⊢
  refine h.imp_right fun h => ⟨?_, h.2⟩
  rw [Trivia.breaksLine, List.any_cons, Bool.or_eq_true]
  exact .inr h.1

/-- A blank with the end of a line in it decides. -/
theorem endsBefore_of_breaksLine {text : String} {gap : List Trivia}
    (h : Trivia.isClean (.blank text :: gap))
    (hline : text.toList.contains '\n') (form : Form) (chars : List Char) :
    endsBefore form (Trivia.chars (.blank text :: gap) ++ chars) = begins form chars := by
  rw [Trivia.isClean, Bool.and_eq_true] at h
  rw [Trivia.chars_cons, List.append_assoc, Trivia.text,
    endsBefore_run (Trivia.all_isBreakable_of_all h.1),
    if_pos (by simpa using hline), begins_of_isClean h.2]

theorem isClean_tail {piece : Trivia} {gap : List Trivia} (h : Trivia.isClean (piece :: gap)) :
    Trivia.isClean gap := by
  cases piece <;> simp_all [Trivia.isClean]

theorem endsAmong_of_isClean {gap : List Trivia} (h : Trivia.isClean gap) (form : Form)
    (chars : List Char) :
    endsAmong form chars gap = endsAfter form chars gap := by
  induction gap using endsAmong.induct with
  | case1 => simp [endsAmong, endsAfter, Trivia.breaksLine]
  | case2 text =>
    rw [Bool.eq_iff_iff]
    refine ⟨fun hends => endsAfter_of_endsBefore h ?_, fun hafter => ?_⟩
    · rwa [endsAmong, ← List.append_nil text.toList] at hends
    · rw [endsAfter, Trivia.breaksLine_blank, Bool.or_eq_true, Bool.and_eq_true] at hafter
      rw [Trivia.isClean, Bool.and_eq_true] at h
      rw [endsAmong, endsBefore_run (Trivia.all_isBreakable_of_all h.1)]
      split
      · exact hafter.elim begins_of_endsBefore And.right
      · rename_i hline
        refine hafter.elim id fun hline' => ?_
        simp [Trivia.breaksLine] at hline'
        exact absurd hline'.1 hline
  | case3 text remark more ih =>
    have hmore := isClean_tail (isClean_tail h)
    rw [endsAmong, ih hmore, Bool.eq_iff_iff, Bool.or_eq_true]
    refine ⟨fun hends => ?_, fun hafter => ?_⟩
    · exact hends.elim (endsAfter_of_endsBefore h) fun hends =>
        endsAfter_of_more (endsAfter_of_more hends)
    · by_cases hline : text.toList.contains '\n'
      · left
        rw [endsBefore_of_breaksLine h hline]
        rw [endsAfter, Bool.or_eq_true, Bool.and_eq_true] at hafter
        exact hafter.elim begins_of_endsBefore And.right
      · have hafter' : endsAfter form chars (remark :: more) := by
          rwa [endsAfter, Trivia.breaksLine_blank, (Bool.not_eq_true _).mp hline,
            Bool.false_or] at hafter
        cases remark with
        | blank other =>
          by_cases hline' : other.toList.contains '\n'
          · left
            have hblank := h
            rw [Trivia.isClean, Bool.and_eq_true] at hblank
            rw [Trivia.chars_cons, List.append_assoc, Trivia.text,
              endsBefore_run (Trivia.all_isBreakable_of_all hblank.1),
                if_neg (by simpa using hline),
              endsBefore_of_breaksLine hblank.2 hline']
            rw [endsAfter, Bool.or_eq_true, Bool.and_eq_true] at hafter
            exact hafter.elim begins_of_endsBefore And.right
          · right
            rwa [endsAfter, Trivia.breaksLine_blank, (Bool.not_eq_true _).mp hline',
              Bool.false_or] at hafter'
        | comment other =>
          right
          rwa [endsAfter, Trivia.breaksLine_comment] at hafter'
        | markup other => cases isClean_tail h
  | case4 remark more hsingle hblank ih =>
    rw [endsAmong, ih (isClean_tail h), Bool.eq_iff_iff, Bool.or_eq_true]
    · refine ⟨fun hends => hends.elim (endsAfter_of_endsBefore h) endsAfter_of_more, fun hafter =>
        .inr ?_⟩
      cases remark with
      | blank text =>
        cases more with
        | nil => exact absurd rfl (hsingle text rfl)
        | cons other more => exact absurd rfl (hblank text other more rfl)
      | comment text => rwa [endsAfter, Trivia.breaksLine_comment] at hafter
      | markup text => cases h
    · exact hsingle
    · exact hblank

end Cursor

end Facade
