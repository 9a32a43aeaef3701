-- Where tokens end: characters that come after a token change nothing about it, as long as a blank
-- or a comment stands where the text is cut.
import Facade.Proofs.Lexing

namespace Facade.Lexer

/-! ## Cut texts -/

/-- The text with other characters after so many of its own. -/
def cut (count : Nat) (tail chars : List Char) : List Char := chars.take count ++ tail

@[simp]
theorem cut_zero (tail chars : List Char) : cut 0 tail chars = tail := rfl

@[simp]
theorem cut_nil (count : Nat) (tail : List Char) : cut count tail [] = tail := by
  rw [cut, List.take_nil, List.nil_append]

@[simp]
theorem cut_cons (count : Nat) (tail : List Char) (c : Char) (chars : List Char) :
    cut (count + 1) tail (c :: chars) = c :: cut count tail chars := rfl

theorem drop_cut {count size : Nat} {chars : List Char} (h : size ≤ count)
    (hsize : size ≤ chars.length) (tail : List Char) :
    (cut count tail chars).drop size = cut (count - size) tail (chars.drop size) := by
  rw [cut, List.drop_append_of_le_length (by rw [List.length_take]; omega), List.drop_take]
  rfl

theorem take_cut {count size : Nat} {chars : List Char} (h : size ≤ count)
    (hsize : size ≤ chars.length)
    (tail : List Char) : (cut count tail chars).take size = chars.take size := by
  rw [cut, List.take_append_of_le_length (by rw [List.length_take]; omega), List.take_take,
    Nat.min_eq_left h]

theorem head?_cut {count : Nat} {tail chars : List Char} (hcount : 0 < count) (hne : chars ≠ []) :
    (cut count tail chars).head? = chars.head? := by
  obtain ⟨count, rfl⟩ := Nat.exists_eq_add_of_le' hcount
  obtain ⟨c, rest, rfl⟩ := List.exists_cons_of_ne_nil hne
  rfl

/-! ## Characters that end a token -/

/-- A blank, or what starts a comment. -/
def isStop (c : Char) : Bool := isSpace c || c == '/'

theorem ne_of_isStop {c d : Char} (h : isStop c) (hd : isStop d = false) : c ≠ d := by
  rintro rfl
  rw [h] at hd
  cases hd

theorem not_isSpace_of_isDigit {c : Char} (h : c.isDigit) : isSpace c = false := by
  simp only [Char.isDigit, Bool.and_eq_true, decide_eq_true_eq, ge_iff_le,
    UInt32.le_iff_toNat_le] at h
  simp only [isSpace, Char.toNat]
  simp at *
  omega

theorem not_isWordChar_of_isSpace {c : Char} (h : isSpace c) : isWordChar c = false := by
  by_contra hword
  rw [Bool.not_eq_false, isWordChar, Bool.or_eq_true] at hword
  rcases hword with hstart | hdigit
  · rw [not_isSpace_of_isWordStart hstart] at h
    cases h
  · rw [not_isSpace_of_isDigit hdigit] at h
    cases h

theorem not_isWordChar_of_isStop {c : Char} (h : isStop c) : isWordChar c = false := by
  rw [isStop, Bool.or_eq_true, beq_iff_eq] at h
  rcases h with hspace | rfl
  · exact not_isWordChar_of_isSpace hspace
  · decide

theorem not_isDigit_of_isStop (c : Char) (h : isStop c) : c.isDigit = false := by
  have hword := not_isWordChar_of_isStop h
  rw [isWordChar, Bool.or_eq_false_iff] at hword
  exact hword.2

theorem not_isHexDigit_of_isStop (c : Char) (h : isStop c) : isHexDigit c = false := by
  have hword := not_isWordChar_of_isStop h
  by_contra hhex
  simp only [Bool.not_eq_false, isHexDigit, Bool.or_eq_true, Bool.and_eq_true, decide_eq_true_eq,
    Char.le_def, UInt32.le_iff_toNat_le, Char.isDigit, ge_iff_le] at hhex
  unfold isWordChar isWordStart Char.isAlpha Char.isUpper Char.isLower Char.isDigit at hword
  simp only [Bool.or_eq_false_iff, Bool.and_eq_false_iff, decide_eq_false_iff_not, ge_iff_le,
    UInt32.le_iff_toNat_le] at hword
  simp at hhex hword
  omega

/-! ## Sizes -/

theorem moreDigits_le (digit : Char → Bool) (chars : List Char) :
    moreDigits digit chars ≤ chars.length := by
  fun_induction moreDigits digit chars <;> simp_all

theorem digitsSize_le (digit : Char → Bool) (chars : List Char) :
    digitsSize digit chars ≤ chars.length := by
  cases chars with
  | nil => exact Nat.le_refl 0
  | cons c rest =>
    rw [digitsSize]
    split
    · exact Nat.succ_le_succ (moreDigits_le digit rest)
    · exact Nat.zero_le _

theorem le_of_after_le {first size bound : Nat} (h : after first size ≤ bound + first) :
    size ≤ bound := by
  rw [after] at h
  split at h
  · rename_i hzero
    rw [beq_iff_eq] at hzero
    omega
  · omega

/-- Digits that have to be there come after a character at least. -/
theorem after_eq_zero {first size : Nat} (hfirst : 0 < first) (h : after first size ≤ 1) :
    after first size = 0 := by
  rw [after] at h ⊢
  split
  · rfl
  · rename_i hzero
    rw [if_neg hzero] at h
    rw [beq_iff_eq] at hzero
    omega

/-- The length of what follows the first digits of a decimal number. -/
def decimalTail (fraction : Bool) (rest : List Char) : Nat :=
  if rest.head? == some 'n' then 1
  else if !fraction then 0
  else if rest.head? == some '.' then 1 + fractionSize rest.tail
  else exponentSize rest

theorem decimalTail_cons (fraction : Bool) (c : Char) (rest : List Char) :
    decimalTail fraction (c :: rest) =
      if c = 'n' then 1
      else if !fraction then 0
      else if c = '.' then 1 + fractionSize rest
      else exponentSize (c :: rest) := by
  simp [decimalTail]

theorem decimalSize_eq (chars : List Char) :
    decimalSize chars = digitsSize Char.isDigit chars +
      decimalTail (mayHaveFraction (chars.take (digitsSize Char.isDigit chars)))
        (chars.drop (digitsSize Char.isDigit chars)) := by
  unfold decimalSize decimalTail
  dsimp only
  generalize chars.drop (digitsSize Char.isDigit chars) = rest
  split
  · rfl
  · rename_i hbig
    have hbig : rest.head? ≠ some 'n' := by
      intro hhead
      obtain ⟨more, rfl⟩ := List.head?_eq_some_iff.mp hhead
      exact hbig more rfl
    rw [beq_eq_false_iff_ne.mpr hbig]
    split
    · rename_i hfraction
      split
      · simp [hfraction, Nat.add_assoc]
      · rename_i hpoint
        have hpoint : rest.head? ≠ some '.' := by
          intro hhead
          obtain ⟨more, rfl⟩ := List.head?_eq_some_iff.mp hhead
          exact hpoint more rfl
        simp [hfraction, hpoint]
    · rename_i hfraction
      simp [hfraction]

theorem not_digit_of_radixDigit? {letter : Char} {digit : Char → Bool}
    (h : radixDigit? letter = some digit) :
    (∀ c, isStop c → digit c = false) ∧ digit '_' = false := by
  unfold radixDigit? at h
  split at h
  · cases h
    exact ⟨not_isHexDigit_of_isStop, by decide⟩
  · split at h
    · cases h
      refine ⟨fun c hc => ?_, by decide⟩
      have hzero : c ≠ '0' := ne_of_isStop hc (by decide)
      have hone : c ≠ '1' := ne_of_isStop hc (by decide)
      simp [hzero, hone]
    · split at h
      · cases h
        refine ⟨fun c hc => ?_, by decide⟩
        have hhex := not_isHexDigit_of_isStop c hc
        simp only [isHexDigit, Bool.or_eq_false_iff, Char.isDigit, Bool.and_eq_false_iff,
          decide_eq_false_iff_not, ge_iff_le, UInt32.le_iff_toNat_le] at hhex
        simp only [isOctalDigit, Bool.and_eq_false_iff, decide_eq_false_iff_not, Char.le_def,
          UInt32.le_iff_toNat_le]
        simp at hhex ⊢
        omega
      · cases h

theorem drop_length_takeWhile (test : Char → Bool) (chars : List Char) :
    chars.drop (chars.takeWhile test).length = chars.dropWhile test := by
  induction chars with
  | nil => rfl
  | cons c chars ih =>
    rw [List.takeWhile_cons, List.dropWhile_cons]
    split
    · exact ih
    · rfl

theorem takeWhile_cut {test : Char → Bool} {c : Char} (htest : test c = false) (more : List Char)
    (count : Nat) (chars : List Char) :
    (cut count (c :: more) chars).takeWhile test = (chars.takeWhile test).take count := by
  induction chars generalizing count with
  | nil => simp [htest]
  | cons d chars ih =>
    cases count with
    | zero => simp [htest]
    | succ count =>
      rw [cut_cons, List.takeWhile_cons, List.takeWhile_cons]
      split
      · rw [ih, List.take_succ_cons]
      · rfl

theorem dropWhile_cut {test : Char → Bool} {c : Char} (htest : test c = false) (more : List Char)
    (count : Nat) (chars : List Char) :
    (cut count (c :: more) chars).dropWhile test =
      cut (count - (chars.takeWhile test).length) (c :: more) (chars.dropWhile test) := by
  induction chars generalizing count with
  | nil => simp [htest]
  | cons d chars ih =>
    cases count with
    | zero => simp [htest]
    | succ count =>
      rw [cut_cons, List.dropWhile_cons, List.dropWhile_cons, List.takeWhile_cons]
      split
      · rw [ih, List.length_cons, Nat.add_sub_add_right]
      · rfl

theorem bracedHexSize?_eq (chars : List Char) :
    bracedHexSize? chars =
      if (chars.takeWhile isHexDigit).length ≠ 0 ∧
        (chars.dropWhile isHexDigit).head? = some '}' then
        some ((chars.takeWhile isHexDigit).length + 1)
      else none := by
  simp [bracedHexSize?, drop_length_takeWhile]

theorem startsWithHex_cut {digits count : Nat} {chars : List Char} (h : startsWithHex digits chars)
    (hle : digits ≤ count) (tail : List Char) : startsWithHex digits (cut count tail chars) := by
  induction digits generalizing count chars with
  | zero => rfl
  | succ digits ih =>
    obtain ⟨count, rfl⟩ := Nat.exists_eq_add_of_le' (Nat.zero_lt_of_lt hle)
    cases chars with
    | nil => cases h
    | cons d chars =>
      rw [startsWithHex, Bool.and_eq_true] at h
      rw [cut_cons, startsWithHex, h.1, ih h.2 (by omega)]
      rfl

theorem codeSize?_cons {c : Char} (h : c ≠ '{') (rest : List Char) :
    codeSize? (c :: rest) = if startsWithHex 4 (c :: rest) then some 4 else none := by
  unfold codeSize?
  split
  · rename_i heq
    exact absurd (List.cons.inj heq).1 h
  · rfl

theorem codeSize?_pos {chars : List Char} {size : Nat} (h : codeSize? chars = some size) :
    0 < size := by
  unfold codeSize? at h
  split at h
  · obtain ⟨digits, -, rfl⟩ := Option.map_eq_some_iff.mp h
    exact Nat.succ_pos _
  · split at h
    · cases h
      exact Nat.succ_pos _
    · cases h

theorem wordEscapeSize?_eq (c d : Char) (rest : List Char) :
    wordEscapeSize? (c :: d :: rest) =
      if c = '\\' ∧ d = 'u' then (codeSize? rest).map (· + 2) else none := by
  unfold wordEscapeSize?
  split <;> simp_all

theorem bracedHexSize?_le {chars : List Char} {size : Nat} (h : bracedHexSize? chars = some size) :
    size ≤ chars.length := by
  rw [bracedHexSize?_eq] at h
  split at h
  · rename_i hfound
    cases h
    have hlength := congrArg List.length
      (List.takeWhile_append_dropWhile (p := isHexDigit) (l := chars))
    obtain ⟨rest, hrest⟩ := List.head?_eq_some_iff.mp hfound.2
    rw [hrest, List.length_append, List.length_cons] at hlength
    omega
  · cases h

theorem startsWithHex_le {digits : Nat} {chars : List Char} (h : startsWithHex digits chars) :
    digits ≤ chars.length := by
  induction digits generalizing chars with
  | zero => exact Nat.zero_le _
  | succ digits ih =>
    cases chars with
    | nil => cases h
    | cons c chars =>
      rw [startsWithHex, Bool.and_eq_true] at h
      exact Nat.succ_le_succ (ih h.2)

theorem codeSize?_le {chars : List Char} {size : Nat} (h : codeSize? chars = some size) :
    size ≤ chars.length := by
  unfold codeSize? at h
  split at h
  · obtain ⟨digits, hdigits, rfl⟩ := Option.map_eq_some_iff.mp h
    exact Nat.succ_le_succ (bracedHexSize?_le hdigits)
  · split at h
    · rename_i hhex
      cases h
      exact startsWithHex_le hhex
    · cases h

theorem wordEscapeSize?_le {chars : List Char} {size : Nat}
    (h : wordEscapeSize? chars = some size) :
    size ≤ chars.length := by
  unfold wordEscapeSize? at h
  split at h
  · obtain ⟨code, hcode, rfl⟩ := Option.map_eq_some_iff.mp h
    have hle := codeSize?_le hcode
    simp only [List.length_cons]
    omega
  · cases h

theorem wordEscapeSize?_pos {chars : List Char} {size : Nat}
    (h : wordEscapeSize? chars = some size) :
    2 ≤ size := by
  unfold wordEscapeSize? at h
  split at h
  · obtain ⟨code, -, rfl⟩ := Option.map_eq_some_iff.mp h
    exact Nat.le_add_left 2 code
  · cases h

theorem le_wordSize {skip : Nat} {chars : List Char} (h : skip ≤ chars.length) :
    skip ≤ wordSize skip chars := by
  induction chars generalizing skip with
  | nil => exact h
  | cons c chars ih =>
    cases skip with
    | zero => exact Nat.zero_le _
    | succ skip => exact Nat.succ_le_succ (ih (Nat.le_of_succ_le_succ h))

theorem bounds_of_stringSize? {quote : Char} {mode : StringMode} {skip count size : Nat}
    {chars : List Char} (h : stringSize? quote mode skip count chars = some size) :
    count < size ∧ size ≤ count + chars.length := by
  induction chars generalizing mode skip count with
  | nil => cases h
  | cons c chars ih =>
    have hstep {mode : StringMode} {skip : Nat}
        (h : stringSize? quote mode skip (count + 1) chars = some size) :
        count < size ∧ size ≤ count + (chars.length + 1) := by
      have := ih h
      omega
    cases skip with
    | succ skip => exact hstep h
    | zero => cases mode <;> grind [stringSize?]

/-- What belongs to a string in any case does not end it. -/
theorem lt_of_stringSize? {quote : Char} {mode : StringMode} {skip count size : Nat}
    {chars : List Char} (h : stringSize? quote mode skip count chars = some size) :
    skip < chars.length ∧ count + skip < size := by
  induction chars generalizing skip count with
  | nil => cases h
  | cons c chars ih =>
    cases skip with
    | zero => exact ⟨Nat.succ_pos _, (bounds_of_stringSize? h).1⟩
    | succ skip =>
      have := ih h
      simp only [List.length_cons]
      omega

theorem markToken_point (rest : List Char) :
    markToken '.' rest =
      if rest.head? == some '.' && rest.tail.head? == some '.' then (.mark, 3)
      else if rest.head?.any Char.isDigit then (.number, 1 + fractionSize rest)
      else (.mark, 1) := by
  match rest with
  | [] => rfl
  | [c] =>
    by_cases hdigit : c.isDigit <;> simp [markToken, hdigit]
  | c :: d :: rest =>
    by_cases hpoint : c = '.'
    · subst hpoint
      by_cases hmore : d = '.'
      · simp [hmore, markToken]
      · have hone : markToken '.' ('.' :: d :: rest) = (.mark, 1) := by
          rw [markToken]
          · rfl
          · rintro tail - heq
            exact hmore (List.cons.inj heq).1
        simp [hone, hmore]
    · unfold markToken
      split <;> simp_all

theorem markToken_equals (rest : List Char) :
    markToken '=' rest = if rest.head? == some '>' then (.mark, 2) else (.mark, 1) := by
  cases rest with
  | nil => rfl
  | cons c rest =>
    by_cases hc : c = '>'
    · subst hc
      rfl
    · unfold markToken
      split <;> simp_all

theorem markToken_other {c : Char} (hpoint : c ≠ '.') (hequals : c ≠ '=') (hslash : c ≠ '/')
    (rest : List Char) :
    markToken c rest = (.mark, 1) := by
  unfold markToken
  split <;> simp_all

theorem wordEscapeSize?_le_wordSize {chars : List Char} {size : Nat}
    (h : wordEscapeSize? chars = some size) :
    size ≤ wordSize 0 chars := by
  have hpos := wordEscapeSize?_pos h
  have hle := wordEscapeSize?_le h
  cases chars with
  | nil => exact absurd (Nat.le_trans hpos hle) (by decide)
  | cons c rest =>
    obtain ⟨size, rfl⟩ := Nat.exists_eq_add_of_le' (Nat.le_of_succ_le hpos)
    have hslash : c = '\\' := by
      by_contra hne
      rw [wordEscapeSize?_cons hne] at h
      cases h
    rw [wordSize, if_neg (by rw [hslash]; decide), h]
    exact Nat.succ_le_succ (le_wordSize (Nat.le_of_succ_le_succ hle))

theorem wordSize_pos {c : Char} {rest : List Char} (h : startsWord (c :: rest)) :
    0 < wordSize 0 (c :: rest) := by
  rw [wordSize]
  split
  · exact Nat.succ_pos _
  · rename_i hword
    rw [startsWord, Bool.or_eq_true, List.head?_cons, Option.any_some,
      Option.isSome_iff_exists] at h
    rcases h with hstart | ⟨size, hsize⟩
    · rw [isWordChar, hstart] at hword
      exact absurd rfl hword
    · rw [hsize]
      have hpos := wordEscapeSize?_pos hsize
      cases size with
      | zero => omega
      | succ size => exact Nat.succ_pos _

theorem numberSize_pos {c : Char} {rest : List Char} (h : c.isDigit) :
    0 < numberSize (c :: rest) := by
  have hdecimal : 0 < decimalSize (c :: rest) := by
    rw [decimalSize_eq, digitsSize, if_pos h]
    omega
  unfold numberSize
  split
  · split
    · dsimp only
      split
      · exact hdecimal
      · split <;> omega
    · exact hdecimal
  · exact hdecimal

theorem token_pos (c : Char) (rest : List Char) : 0 < (token (c :: rest)).2 := by
  rw [token]
  split
  · exact wordSize_pos ‹_›
  · split
    · exact numberSize_pos ‹_›
    · split
      · split
        · rename_i size hsize
          exact Nat.lt_trans Nat.zero_lt_one (bounds_of_stringSize? hsize).1
        · exact Nat.zero_lt_one
      · split
        · rw [numberSignToken]
          split
          · exact Nat.lt_of_lt_of_le Nat.zero_lt_one (Nat.le_add_right _ _)
          · split
            · exact Nat.lt_of_lt_of_le Nat.zero_lt_one (Nat.le_add_right _ _)
            · exact Nat.zero_lt_one
        · split
          · unfold markToken
            split
            · exact Nat.succ_pos _
            · split
              · exact Nat.lt_of_lt_of_le Nat.zero_lt_one (Nat.le_add_right _ _)
              · exact Nat.zero_lt_one
            · exact Nat.succ_pos _
            · exact Nat.lt_of_lt_of_le Nat.zero_lt_one (Nat.le_add_right _ _)
            · exact Nat.zero_lt_one
          · exact Nat.zero_lt_one

theorem wordSize_le (skip : Nat) (chars : List Char) : wordSize skip chars ≤ chars.length := by
  fun_induction wordSize skip chars with
  | case1 => exact Nat.le_refl _
  | case5 => exact Nat.zero_le _
  | _ => rw [List.length_cons]; omega

theorem after_le {count size bound : Nat} (h : size ≤ bound) :
    after count size ≤ count + bound := by
  rw [after]
  split <;> omega

theorem exponentSize_le (chars : List Char) : exponentSize chars ≤ chars.length := by
  unfold exponentSize
  split
  · split
    · split
      · rename_i sign digits
        have hdigits := digitsSize_le Char.isDigit digits
        have hall := digitsSize_le Char.isDigit (sign :: digits)
        split
        · exact Nat.le_trans (after_le hdigits) (by simp only [List.length_cons]; omega)
        · exact Nat.le_trans (after_le hall) (by simp only [List.length_cons]; omega)
      · exact Nat.zero_le _
    · exact Nat.zero_le _
  · exact Nat.zero_le _

theorem fractionSize_le (chars : List Char) : fractionSize chars ≤ chars.length := by
  have hdigits := digitsSize_le Char.isDigit chars
  have hexponent := exponentSize_le (chars.drop (digitsSize Char.isDigit chars))
  rw [List.length_drop] at hexponent
  rw [fractionSize]
  omega

theorem decimalTail_le (fraction : Bool) (rest : List Char) :
    decimalTail fraction rest ≤ rest.length := by
  cases rest with
  | nil => cases fraction <;> exact Nat.le_refl _
  | cons c rest =>
    have hfraction := fractionSize_le rest
    rw [decimalTail_cons]
    split
    · exact Nat.succ_pos _
    · split
      · exact Nat.zero_le _
      · split
        · rw [List.length_cons]
          omega
        · exact exponentSize_le _

theorem decimalSize_le (chars : List Char) : decimalSize chars ≤ chars.length := by
  have hdigits := digitsSize_le Char.isDigit chars
  rw [decimalSize_eq]
  have htail := decimalTail_le (mayHaveFraction (chars.take (digitsSize Char.isDigit chars)))
    (chars.drop (digitsSize Char.isDigit chars))
  rw [List.length_drop] at htail
  omega

theorem numberSize_le (chars : List Char) : numberSize chars ≤ chars.length := by
  have hdecimal := decimalSize_le chars
  unfold numberSize
  split
  · rename_i letter rest
    split
    · rename_i digit _
      have hdigits := digitsSize_le digit rest
      dsimp only
      split
      · exact hdecimal
      · split
        · rename_i hbig
          have hlt : digitsSize digit rest < rest.length := by
            by_contra hle
            rw [List.drop_eq_nil_of_le (Nat.le_of_not_lt hle)] at hbig
            cases hbig
          simp only [List.length_cons]
          omega
        · simp only [List.length_cons]
          omega
    · exact hdecimal
  · exact hdecimal

theorem markToken_le (c : Char) (rest : List Char) : (markToken c rest).2 ≤ rest.length + 1 := by
  unfold markToken
  split
  · simp only [List.length_cons]
    omega
  · rename_i d more _
    have hfraction := fractionSize_le (d :: more)
    split
    · dsimp only
      omega
    · exact Nat.succ_le_succ (Nat.zero_le _)
  · simp only [List.length_cons]
    omega
  · rename_i more
    have hline := (List.takeWhile_prefix (l := '*' :: more) (· != '\n')).length_le
    dsimp only
    omega
  · exact Nat.succ_le_succ (Nat.zero_le _)

theorem numberSignToken_le (rest : List Char) : (numberSignToken rest).2 ≤ rest.length + 1 := by
  have hline := (List.takeWhile_prefix (l := rest) (· != '\n')).length_le
  have hword := wordSize_le 0 rest
  unfold numberSignToken
  split
  · dsimp only
    omega
  · split
    · dsimp only
      omega
    · exact Nat.succ_le_succ (Nat.zero_le _)

/-- A token is a part of the text. -/
theorem token_le (chars : List Char) : (token chars).2 ≤ chars.length := by
  cases chars with
  | nil => exact Nat.le_refl _
  | cons c rest =>
    rw [token]
    split
    · exact wordSize_le 0 _
    · split
      · exact numberSize_le _
      · split
        · split
          · rename_i size hsize
            have hbounds := bounds_of_stringSize? hsize
            rw [List.length_cons]
            dsimp only
            omega
          · exact Nat.succ_le_succ (Nat.zero_le _)
        · split
          · exact numberSignToken_le rest
          · split
            · exact markToken_le c rest
            · exact Nat.succ_le_succ (Nat.zero_le _)

/-- The kinds of tokens that end by themselves. -/
def isSolid : TokenKind → Bool
  | .word | .privateName | .string | .number | .mark => true
  | _ => false

section Cuts

variable {c : Char} (hc : isStop c) (more : List Char)

include hc

/-! ## Numbers -/

section Digits

variable {digit : Char → Bool} (hdigit : ∀ c, isStop c → digit c = false)

include hdigit

theorem moreDigits_stop : moreDigits digit (c :: more) = 0 := by
  have hne : c ≠ '_' := ne_of_isStop hc (by decide)
  unfold moreDigits
  split
  · rename_i heq
    exact absurd (List.cons.inj heq).1 hne
  · rename_i heq
    cases heq
    rw [hdigit c hc]
    rfl
  · rfl

theorem digitsSize_stop : digitsSize digit (c :: more) = 0 := by
  rw [digitsSize, if_neg (by simp [hdigit c hc])]

variable (hunder : digit '_' = false)

include hunder

theorem moreDigits_cut {count : Nat} {chars : List Char} (h : moreDigits digit chars ≤ count) :
    moreDigits digit (cut count (c :: more) chars) = moreDigits digit chars := by
  fun_induction moreDigits digit chars generalizing count with
  | case1 d rest hd ih =>
    obtain ⟨count, rfl⟩ := Nat.exists_eq_add_of_le' (Nat.le_of_add_left_le h)
    rw [cut_cons, cut_cons, moreDigits, if_pos hd, ih (by omega)]
  | case2 d rest hd =>
    match count with
    | 0 => exact moreDigits_stop hc more hdigit
    | 1 =>
      rw [cut_cons, cut_zero, moreDigits, if_neg (by simp [hdigit c hc])]
    | count + 2 => rw [cut_cons, cut_cons, moreDigits, if_neg hd]
  | case3 d rest hpair hd ih =>
    obtain ⟨count, rfl⟩ := Nat.exists_eq_add_of_le' (Nat.le_of_add_left_le h)
    have hne : d ≠ '_' := by
      rintro rfl
      rw [hunder] at hd
      cases hd
    rw [cut_cons, moreDigits, if_pos hd, ih (by omega)]
    exact fun _ _ heq => absurd heq hne
  | case4 d rest hpair hd =>
    cases count with
    | zero => exact moreDigits_stop hc more hdigit
    | succ count =>
      rw [cut_cons]
      unfold moreDigits
      split
      · rename_i e tail heq
        obtain ⟨rfl, htail⟩ := List.cons.inj heq
        -- only the character where the text is cut can follow the underscore
        cases rest with
        | nil =>
          rw [cut_nil] at htail
          cases htail
          rw [hdigit c hc]
          rfl
        | cons e rest => exact absurd rfl (hpair e rest rfl)
      · rename_i heq
        cases heq
        rw [if_neg hd]
      · rfl
  | case5 =>
    rw [cut_nil]
    exact moreDigits_stop hc more hdigit

theorem digitsSize_cut {count : Nat} {chars : List Char} (h : digitsSize digit chars ≤ count) :
    digitsSize digit (cut count (c :: more) chars) = digitsSize digit chars := by
  cases chars with
  | nil =>
    rw [cut_nil]
    exact digitsSize_stop hc more hdigit
  | cons d rest =>
    rw [digitsSize] at h ⊢
    split at h
    · rename_i hd
      obtain ⟨count, rfl⟩ := Nat.exists_eq_add_of_le' (Nat.le_of_add_left_le h)
      rw [cut_cons, digitsSize, if_pos hd, if_pos hd, moreDigits_cut hc more hdigit hunder
        (by omega)]
    · rename_i hd
      rw [if_neg hd]
      cases count with
      | zero => exact digitsSize_stop hc more hdigit
      | succ count => rw [cut_cons, digitsSize, if_neg hd]

end Digits

theorem exponentSize_stop : exponentSize (c :: more) = 0 := by
  have hsmall : c ≠ 'e' := ne_of_isStop hc (by decide)
  have hlarge : c ≠ 'E' := ne_of_isStop hc (by decide)
  simp [exponentSize, hsmall, hlarge]

theorem digits_cut {count : Nat} {chars : List Char} (h : digitsSize Char.isDigit chars ≤ count) :
    digitsSize Char.isDigit (cut count (c :: more) chars) = digitsSize Char.isDigit chars :=
  digitsSize_cut hc more not_isDigit_of_isStop (by decide) h

theorem exponentSize_cut {count : Nat} {chars : List Char} (h : exponentSize chars ≤ count) :
    exponentSize (cut count (c :: more) chars) = exponentSize chars := by
  have hplus : c ≠ '+' := ne_of_isStop hc (by decide)
  have hminus : c ≠ '-' := ne_of_isStop hc (by decide)
  have hdigits : digitsSize Char.isDigit (c :: more) = 0 :=
    digitsSize_stop hc more not_isDigit_of_isStop
  have hlast (e : Char) : exponentSize (e :: c :: more) = 0 := by
    simp [exponentSize, hplus, hminus, hdigits, after]
  match count, chars with
  | 0, chars =>
    rw [cut_zero, exponentSize_stop hc more]
    omega
  | count + 1, [] => rw [cut_nil, exponentSize_stop hc more, exponentSize]
  | count + 1, [e] =>
    rw [cut_cons, cut_nil, hlast]
    simp [exponentSize]
  | 1, e :: sign :: digits =>
    rw [cut_cons, cut_zero, hlast]
    simp only [exponentSize] at h ⊢
    split
    · rename_i he
      rw [if_pos he] at h
      split
      · rename_i hsign
        rw [if_pos hsign] at h
        exact (after_eq_zero Nat.two_pos h).symm
      · rename_i hsign
        rw [if_neg hsign] at h
        exact (after_eq_zero Nat.one_pos h).symm
    · rfl
  | count + 2, e :: sign :: digits =>
    rw [cut_cons, cut_cons]
    simp only [exponentSize] at h ⊢
    split
    · rename_i he
      rw [if_pos he] at h
      split
      · rename_i hsign
        rw [if_pos hsign] at h
        rw [digits_cut hc more (le_of_after_le h)]
      · rename_i hsign
        rw [if_neg hsign] at h
        rw [← cut_cons, digits_cut hc more (le_of_after_le h)]
    · rfl

theorem fractionSize_cut {count : Nat} {chars : List Char} (h : fractionSize chars ≤ count) :
    fractionSize (cut count (c :: more) chars) = fractionSize chars := by
  simp only [fractionSize] at h ⊢
  rw [digits_cut hc more (by omega), drop_cut (by omega) (digitsSize_le _ chars),
    exponentSize_cut hc more (by omega)]

theorem decimalTail_cut {fraction : Bool} {count : Nat} {rest : List Char}
    (h : decimalTail fraction rest ≤ count) :
    decimalTail fraction (cut count (c :: more) rest) = decimalTail fraction rest := by
  have hbig : c ≠ 'n' := ne_of_isStop hc (by decide)
  have hpoint : c ≠ '.' := ne_of_isStop hc (by decide)
  have hstop : decimalTail fraction (c :: more) = 0 := by
    simp [decimalTail, hbig, hpoint, exponentSize_stop hc more]
  match count, rest with
  | 0, rest =>
    rw [cut_zero, hstop]
    omega
  | count + 1, [] =>
    rw [cut_nil, hstop]
    simp [decimalTail, exponentSize]
  | count + 1, d :: rest =>
    rw [decimalTail_cons] at h
    rw [cut_cons, decimalTail_cons, decimalTail_cons]
    split
    · rfl
    · rename_i hd
      rw [if_neg hd] at h
      split
      · rfl
      · rename_i hfraction
        rw [if_neg hfraction] at h
        split
        · rename_i hdot
          rw [if_pos hdot] at h
          rw [fractionSize_cut hc more (by omega)]
        · rename_i hdot
          rw [if_neg hdot] at h
          rw [← cut_cons, exponentSize_cut hc more h]

theorem decimalSize_cut {count : Nat} {chars : List Char} (h : decimalSize chars ≤ count) :
    decimalSize (cut count (c :: more) chars) = decimalSize chars := by
  have hlength := digitsSize_le Char.isDigit chars
  rw [decimalSize_eq] at h ⊢
  rw [digits_cut hc more (by omega), take_cut (by omega) hlength, drop_cut (by omega) hlength,
    decimalTail_cut hc more (by omega), ← decimalSize_eq]

theorem radixDigit?_stop : radixDigit? c = none := by
  have hne {d : Char} (hd : isStop d = false) : c ≠ d := ne_of_isStop hc hd
  simp [radixDigit?, hne (d := 'x') (by decide), hne (d := 'X') (by decide),
    hne (d := 'b') (by decide), hne (d := 'B') (by decide), hne (d := 'o') (by decide),
    hne (d := 'O') (by decide)]

theorem numberSize_cut {count : Nat} {chars : List Char} (h : numberSize chars ≤ count)
    (hpos : 0 < count) :
    numberSize (cut count (c :: more) chars) = numberSize chars := by
  have hdecimal (hle : decimalSize chars ≤ count) := decimalSize_cut hc more hle
  obtain ⟨count, rfl⟩ := Nat.exists_eq_add_of_le' hpos
  unfold numberSize at h
  split at h
  · rename_i letter rest
    have hradix : radixDigit? c = none := radixDigit?_stop hc
    split at h
    · rename_i digit hdigit
      have hstops := not_digit_of_radixDigit? hdigit
      dsimp only at h
      split at h
      · rename_i hzero
        have hsize : numberSize ('0' :: letter :: rest) = decimalSize ('0' :: letter :: rest) := by
          simp only [numberSize, hdigit, hzero, if_true]
        rw [hsize, ← hdecimal h]
        cases count with
        | zero => simp only [cut_cons, cut_zero, numberSize, hradix]
        | succ count =>
          rw [beq_iff_eq] at hzero
          simp only [cut_cons, numberSize, hdigit]
          rw [digitsSize_cut hc more hstops.1 hstops.2 (by omega), hzero]
          rfl
      · rename_i hzero
        have hlength := digitsSize_le digit rest
        have hbig : c ≠ 'n' := ne_of_isStop hc (by decide)
        cases count with
        | zero =>
          split at h <;> omega
        | succ count =>
          have hle : digitsSize digit rest ≤ count := by split at h <;> omega
          simp only [cut_cons, numberSize, hdigit]
          rw [digitsSize_cut hc more hstops.1 hstops.2 hle, if_neg hzero, if_neg hzero,
            drop_cut hle hlength]
          cases hcount : count - digitsSize digit rest with
          | zero =>
            split at h
            · omega
            · rename_i hn
              rw [cut_zero, List.head?_cons, if_neg hn, if_neg (by simpa using hbig)]
          | succ left =>
            cases rest.drop (digitsSize digit rest) with
            | nil => simp [hbig]
            | cons d rest => rfl
    · rename_i hnone
      have hsize : numberSize ('0' :: letter :: rest) = decimalSize ('0' :: letter :: rest) := by
        simp only [numberSize, hnone]
      rw [hsize, ← hdecimal h]
      cases count with
      | zero => simp only [cut_cons, cut_zero, numberSize, hradix]
      | succ count => simp only [cut_cons, numberSize, hnone]
  · rename_i hother
    have hplain {d : Char} (hd : d ≠ '0') (rest : List Char) :
        numberSize (d :: rest) = decimalSize (d :: rest) := by
      unfold numberSize
      split
      · rename_i heq
        exact absurd (List.cons.inj heq).1 hd
      · rfl
    have hsize : numberSize chars = decimalSize chars := by
      unfold numberSize
      split
      · exact absurd rfl (hother _ _)
      · rfl
    rw [hsize, ← hdecimal h]
    match chars with
    | [] =>
      rw [cut_nil]
      exact hplain (ne_of_isStop hc (by decide)) more
    | [d] =>
      rw [cut_cons, cut_nil]
      by_cases hd : d = '0'
      · rw [hd, numberSize, radixDigit?_stop hc]
      · exact hplain hd _
    | d :: e :: rest =>
      rw [cut_cons]
      refine hplain ?_ _
      rintro rfl
      exact hother e rest rfl

/-! ## Words -/

theorem not_startsWithHex_cut {digits : Nat} {chars : List Char}
    (h : startsWithHex digits chars = false)
    (count : Nat) : startsWithHex digits (cut count (c :: more) chars) = false := by
  induction digits generalizing count chars with
  | zero => cases h
  | succ digits ih =>
    have hstop : startsWithHex (digits + 1) (c :: more) = false := by
      rw [startsWithHex, not_isHexDigit_of_isStop c hc]
      rfl
    match count, chars with
    | 0, chars => exact hstop
    | count + 1, [] =>
      rw [cut_nil]
      exact hstop
    | count + 1, d :: chars =>
      rw [startsWithHex, Bool.and_eq_false_iff] at h
      rw [cut_cons, startsWithHex, Bool.and_eq_false_iff]
      exact h.imp_right fun hmore => ih hmore count

theorem bracedHexSize?_cut {count : Nat} {chars : List Char}
    (h : ∀ size, bracedHexSize? chars = some size → size ≤ count) :
    bracedHexSize? (cut count (c :: more) chars) = bracedHexSize? chars := by
  have hhex := not_isHexDigit_of_isStop c hc
  have hbrace : c ≠ '}' := ne_of_isStop hc (by decide)
  rw [bracedHexSize?_eq, bracedHexSize?_eq, takeWhile_cut hhex, dropWhile_cut hhex] at *
  by_cases hfound : (chars.takeWhile isHexDigit).length ≠ 0 ∧
    (chars.dropWhile isHexDigit).head? = some '}'
  · rw [if_pos hfound] at h ⊢
    have hle := h _ rfl
    obtain ⟨rest, hrest⟩ := List.head?_eq_some_iff.mp hfound.2
    obtain ⟨left, hleft⟩ : ∃ left, count - (chars.takeWhile isHexDigit).length = left + 1 :=
      ⟨count - (chars.takeWhile isHexDigit).length - 1, by omega⟩
    rw [List.take_of_length_le (by omega), hrest, hleft, cut_cons, if_pos ⟨hfound.1, rfl⟩]
  · rw [if_neg hfound, if_neg]
    rintro ⟨hdigits, hhead⟩
    refine hfound ⟨fun hzero => hdigits (by simp [hzero]), ?_⟩
    cases hleft : count - (chars.takeWhile isHexDigit).length with
    | zero =>
      rw [hleft, cut_zero, List.head?_cons, Option.some.injEq] at hhead
      exact absurd hhead hbrace
    | succ left =>
      rw [hleft] at hhead
      cases hrest : chars.dropWhile isHexDigit with
      | nil =>
        rw [hrest, cut_nil, List.head?_cons, Option.some.injEq] at hhead
        exact absurd hhead hbrace
      | cons d rest =>
        rw [hrest, cut_cons] at hhead
        exact hhead

theorem codeSize?_stop : codeSize? (c :: more) = none := by
  rw [codeSize?_cons (ne_of_isStop hc (by decide)), startsWithHex, not_isHexDigit_of_isStop c hc]
  rfl

theorem codeSize?_cut {count : Nat} {chars : List Char}
    (h : ∀ size, codeSize? chars = some size → size ≤ count) :
    codeSize? (cut count (c :: more) chars) = codeSize? chars := by
  match count, chars with
  | 0, chars =>
    rw [cut_zero, codeSize?_stop hc]
    cases hsize : codeSize? chars with
    | none => rfl
    | some size =>
      have hzero := h size hsize
      have hpos := codeSize?_pos hsize
      omega
  | count + 1, [] =>
    rw [cut_nil, codeSize?_stop hc]
    rfl
  | count + 1, d :: rest =>
    rw [cut_cons]
    by_cases hd : d = '{'
    · subst hd
      simp only [codeSize?] at h ⊢
      rw [bracedHexSize?_cut hc]
      intro size hsize
      have hle := h (size + 1) (by rw [hsize]; rfl)
      omega
    · rw [codeSize?_cons hd, codeSize?_cons hd] at *
      cases hhex : startsWithHex 4 (d :: rest) with
      | true =>
        rw [hhex, if_pos rfl] at h
        have hle := h 4 rfl
        rw [← cut_cons, startsWithHex_cut hhex hle]
      | false => rw [← cut_cons, not_startsWithHex_cut hc more hhex]

theorem wordEscapeSize?_cut {count : Nat} {chars : List Char}
    (h : ∀ size, wordEscapeSize? chars = some size → size ≤ count) :
    wordEscapeSize? (cut count (c :: more) chars) = wordEscapeSize? chars := by
  have hslash : c ≠ '\\' := ne_of_isStop hc (by decide)
  have hletter : c ≠ 'u' := ne_of_isStop hc (by decide)
  have hnone (hcount : count < 2) : wordEscapeSize? chars = none := by
    cases hsize : wordEscapeSize? chars with
    | none => rfl
    | some size =>
      have hle := h size hsize
      have hpos := wordEscapeSize?_pos hsize
      omega
  match count, chars with
  | 0, chars => rw [cut_zero, wordEscapeSize?_cons hslash, hnone (by decide)]
  | count + 1, [] =>
    rw [cut_nil, wordEscapeSize?_cons hslash]
    rfl
  | 1, d :: rest =>
    rw [cut_cons, cut_zero, wordEscapeSize?_eq, if_neg (by simp [hletter]), hnone (by decide)]
  | count + 2, [d] =>
    rw [cut_cons, cut_nil, wordEscapeSize?_eq, if_neg (by simp [hletter])]
    simp [wordEscapeSize?]
  | count + 2, d :: e :: rest =>
    rw [cut_cons, cut_cons, wordEscapeSize?_eq, wordEscapeSize?_eq] at *
    split
    · rename_i hstart
      rw [if_pos hstart] at h
      rw [codeSize?_cut hc]
      intro size hsize
      have hle := h (size + 2) (by rw [hsize]; rfl)
      omega
    · rfl

theorem wordSize_cut {skip count : Nat} {chars : List Char} (hskip : skip ≤ chars.length)
    (h : wordSize skip chars ≤ count) :
    wordSize skip (cut count (c :: more) chars) = wordSize skip chars := by
  induction chars generalizing skip count with
  | nil =>
    have hzero : skip = 0 := Nat.le_zero.mp hskip
    subst hzero
    rw [cut_nil]
    have hescape : c ≠ '\\' := ne_of_isStop hc (by decide)
    exact wordSize_of_endsWord (by simp [endsWord, not_isWordChar_of_isStop hc, hescape])
  | cons d chars ih =>
    cases skip with
    | succ skip =>
      rw [wordSize] at h
      obtain ⟨count, rfl⟩ := Nat.exists_eq_add_of_le' (Nat.le_of_add_left_le h)
      rw [cut_cons, wordSize, wordSize, ih (Nat.le_of_succ_le_succ hskip) (by omega)]
    | zero =>
      have hstop : wordSize 0 (c :: more) = 0 := by
        simp [wordSize, not_isWordChar_of_isStop hc,
          wordEscapeSize?_cons (ne_of_isStop hc (d := '\\') (by decide))]
      by_cases hword : isWordChar d
      · rw [wordSize, if_pos hword] at h
        obtain ⟨count, rfl⟩ := Nat.exists_eq_add_of_le' (Nat.le_of_add_left_le h)
        rw [cut_cons, wordSize, wordSize, if_pos hword, if_pos hword, ih (Nat.zero_le _) (by omega)]
      · have hescape (hsize : ∀ size, wordEscapeSize? (d :: chars) = some size → size ≤ count) :=
          wordEscapeSize?_cut hc more hsize
        cases hsize : wordEscapeSize? (d :: chars) with
        | none =>
          have hsame := hescape (by simp [hsize])
          cases count with
          | zero =>
            rw [cut_zero, hstop]
            omega
          | succ count =>
            rw [cut_cons] at hsame ⊢
            simp [wordSize, hword, hsame, hsize]
        | some size =>
          obtain ⟨size, rfl⟩ := Nat.exists_eq_add_of_le' (wordEscapeSize?_pos hsize)
          have hlength := wordEscapeSize?_le hsize
          rw [wordSize, if_neg hword, hsize] at h
          dsimp only at h
          have hle := le_wordSize (Nat.le_of_succ_le_succ hlength)
          have hsame := hescape (by rintro _ heq; rw [hsize] at heq; cases heq; omega)
          obtain ⟨count, rfl⟩ := Nat.exists_eq_add_of_le' (Nat.le_of_add_left_le h)
          rw [cut_cons] at hsame ⊢
          rw [wordSize, wordSize, if_neg hword, if_neg hword, hsame, hsize]
          dsimp only
          rw [ih (Nat.le_of_succ_le_succ hlength) (by omega)]

/-! ## Strings -/

theorem escapeSize?_cut {size count : Nat} {chars : List Char} (h : escapeSize? chars = some size)
    (hlt : size < count) (hlength : size < chars.length) :
    escapeSize? (cut count (c :: more) chars) = some size := by
  obtain ⟨count, rfl⟩ := Nat.exists_eq_add_of_le' (Nat.zero_lt_of_lt hlt)
  unfold escapeSize? at h
  split at h
  · cases h
  · split at h
    · rename_i hhex
      cases h
      rw [cut_cons, escapeSize?, if_pos (startsWithHex_cut hhex (by omega) _)]
    · cases h
  · rename_i rest
    obtain ⟨code, hcode, rfl⟩ := Option.map_eq_some_iff.mp h
    have hsame : codeSize? (cut count (c :: more) rest) = codeSize? rest :=
      codeSize?_cut hc more (by rintro _ heq; rw [hcode] at heq; cases heq; omega)
    rw [cut_cons, escapeSize?, hsame, hcode]
    rfl
  · rename_i d rest hx hu
    -- the escape ends before the characters do, so one character of them at least comes after it
    have hpos : 1 ≤ size := by
      split at h
      · cases h
        exact Nat.le_add_right 1 _
      · split at h <;> cases h <;> decide
    obtain ⟨count, rfl⟩ := Nat.exists_eq_add_of_le' (show 1 ≤ count by omega)
    cases rest with
    | nil =>
      simp only [List.length_cons, List.length_nil] at hlength
      omega
    | cons e rest =>
      rw [cut_cons, cut_cons, escapeSize?, ← h]
      rotate_left
      · exact hx
      · exact hu
      split
      · rename_i hoctal
        rw [if_pos hoctal, Option.some.injEq] at h
        by_cases he : isOctalDigit e
        · cases rest with
          | nil => simp [← h, he] at hlength
          | cons f rest =>
            obtain ⟨count, rfl⟩ : ∃ left, count = left + 1 := by
              refine ⟨count - 1, ?_⟩
              simp [he, List.takeWhile_cons] at h
              omega
            rfl
        · simp [he]
      · rfl

theorem stringSize?_cut {quote : Char} {mode : StringMode} {skip size count first : Nat}
    {chars : List Char}
    (h : stringSize? quote mode skip first chars = some size) (hle : size ≤ first + count) :
    stringSize? quote mode skip first (cut count (c :: more) chars) = some size := by
  induction chars generalizing mode skip count first with
  | nil => cases h
  | cons d chars ih =>
    have hbounds := bounds_of_stringSize? h
    obtain ⟨count, rfl⟩ := Nat.exists_eq_add_of_le' (show 1 ≤ count by omega)
    have hmore {mode : StringMode} {skip : Nat}
      (h : stringSize? quote mode skip (first + 1) chars = some size) :
        stringSize? quote mode skip (first + 1) (cut count (c :: more) chars) = some size :=
      ih h (by omega)
    have hhead {mode : StringMode} {skip : Nat}
      (h : stringSize? quote mode skip (first + 1) chars = some size) :
        (cut count (c :: more) chars).head? = chars.head? := by
      have hlt := (bounds_of_stringSize? h).1
      refine head?_cut (by omega) ?_
      rintro rfl
      cases h
    rw [cut_cons]
    cases skip with
    | succ skip => exact hmore h
    | zero =>
      cases mode with
      | text =>
        simp only [stringSize?] at h ⊢
        split
        · rename_i hquote
          rwa [if_pos hquote] at h
        · rename_i hquote
          rw [if_neg hquote] at h
          split
          · rename_i hslash
            rw [if_pos hslash] at h
            cases hescape : escapeSize? chars with
            | none =>
              rw [hescape] at h
              cases h
            | some skip =>
              rw [hescape] at h
              have hlt := lt_of_stringSize? h
              rw [escapeSize?_cut hc more hescape (by omega) hlt.1]
              exact hmore h
          · rename_i hslash
            rw [if_neg hslash] at h
            split
            · rename_i hline
              rw [if_pos hline] at h
              exact hmore h
            · rename_i hline
              rw [if_neg hline] at h
              exact hmore h
      | gap =>
        simp only [stringSize?] at h ⊢
        split
        · rename_i hquote
          rwa [if_pos hquote] at h
        · rename_i hquote
          rw [if_neg hquote] at h
          split
          · rename_i hspace
            rw [if_pos hspace] at h
            exact hmore h
          · rename_i hspace
            rw [if_neg hspace] at h
            split at h
            · rename_i hline
              rw [hhead h, if_pos hline]
              exact hmore h
            · rename_i hline
              split at h
              · rename_i hblock
                rw [hhead h, if_neg hline, if_pos hblock]
                exact hmore h
              · cases h
      | lineComment => grind [stringSize?]
      | blockComment =>
        simp only [stringSize?] at h ⊢
        split at h
        · rename_i hclose
          rw [hhead h, if_pos hclose]
          exact hmore h
        · rename_i hclose
          rw [hhead h, if_neg hclose]
          exact hmore h

/-! ## Tokens -/

theorem twoPoints_cut {count : Nat} {rest : List Char}
    (h : (rest.head? == some '.' && rest.tail.head? == some '.') → 2 ≤ count) :
    ((cut count (c :: more) rest).head? == some '.' &&
      (cut count (c :: more) rest).tail.head? == some '.') =
      (rest.head? == some '.' && rest.tail.head? == some '.') := by
  have hpoint : c ≠ '.' := ne_of_isStop hc (by decide)
  have hnone (hcount : count < 2) :
      (rest.head? == some '.' && rest.tail.head? == some '.') = false := by
    rw [← Bool.not_eq_true]
    exact fun hall => absurd (h hall) (by omega)
  match count, rest with
  | 0, rest =>
    rw [hnone (by decide)]
    simp [hpoint]
  | count + 1, [] => simp [hpoint]
  | 1, e :: rest =>
    rw [hnone (by decide)]
    simp [hpoint]
  | count + 2, [e] => simp [hpoint]
  | count + 2, e :: f :: rest => rfl

theorem digitNext_cut {count : Nat} {rest : List Char}
    (h : rest.head?.any Char.isDigit → 1 ≤ count) :
    (cut count (c :: more) rest).head?.any Char.isDigit = rest.head?.any Char.isDigit := by
  have hdigit := not_isDigit_of_isStop c hc
  match count, rest with
  | 0, rest =>
    cases hany : rest.head?.any Char.isDigit with
    | true => exact absurd (h hany) (by decide)
    | false => simpa using hdigit
  | count + 1, [] => simpa using hdigit
  | count + 1, e :: rest => rfl

theorem markToken_cut {d : Char} {rest : List Char} {count : Nat} (hslash : d ≠ '/')
    (h : (markToken d rest).2 ≤ count + 1) :
    markToken d (cut count (c :: more) rest) = markToken d rest := by
  by_cases hpoint : d = '.'
  · subst hpoint
    rw [markToken_point] at h
    rw [markToken_point, markToken_point]
    cases hpoints : rest.head? == some '.' && rest.tail.head? == some '.' with
    | true =>
      rw [if_pos hpoints] at h
      rw [twoPoints_cut hc more (fun _ => Nat.le_of_succ_le_succ h), hpoints]
      rfl
    | false =>
      rw [twoPoints_cut hc more (by rw [hpoints]; exact nofun), hpoints]
      rw [hpoints, if_neg (by decide)] at h
      cases hdigit : rest.head?.any Char.isDigit with
      | true =>
        rw [if_pos hdigit] at h
        dsimp only at h
        have hpos : 1 ≤ fractionSize rest := by
          cases rest with
          | nil => cases hdigit
          | cons e rest =>
            rw [List.head?_cons, Option.any_some] at hdigit
            simp only [fractionSize, digitsSize, hdigit, if_true]
            omega
        rw [digitNext_cut hc more (fun _ => by omega), hdigit, fractionSize_cut hc more (by omega)]
      | false =>
        rw [digitNext_cut hc more (by rw [hdigit]; exact nofun), hdigit]
        rfl
  · by_cases hequals : d = '='
    · subst hequals
      have harrow : c ≠ '>' := ne_of_isStop hc (by decide)
      rw [markToken_equals] at h ⊢
      rw [markToken_equals]
      match count, rest with
      | 0, rest =>
        have hnone : (rest.head? == some '>') = false := by
          by_contra hall
          rw [Bool.not_eq_false] at hall
          rw [if_pos hall] at h
          exact absurd h (by decide)
        simp [harrow, hnone]
      | count + 1, [] => simp [harrow]
      | count + 1, e :: rest => rfl
    · rw [markToken_other hpoint hequals hslash, markToken_other hpoint hequals hslash]

theorem startsWord_cut {count : Nat} {chars : List Char} (hne : chars ≠ []) (hpos : 0 < count)
    (h : ∀ size, wordEscapeSize? chars = some size → size ≤ count) :
    startsWord (cut count (c :: more) chars) = startsWord chars := by
  rw [startsWord, startsWord, head?_cut hpos hne, wordEscapeSize?_cut hc more h]

theorem numberSignToken_cut {count : Nat} {rest : List Char}
    (h : (numberSignToken rest).2 ≤ count + 1) (hsolid : isSolid (numberSignToken rest).1) :
    numberSignToken (cut count (c :: more) rest) = numberSignToken rest := by
  rw [numberSignToken] at h hsolid
  split at h
  · rename_i hline
    rw [if_pos hline] at hsolid
    cases hsolid
  · rename_i hline
    rw [if_neg hline] at hsolid
    split at h
    · rename_i hword
      dsimp only at h
      have hne : rest ≠ [] := by
        rintro rfl
        cases hword
      have hpos : 0 < wordSize 0 rest := by
        obtain ⟨d, rest, rfl⟩ := List.exists_cons_of_ne_nil hne
        exact wordSize_pos hword
      have hstarts : startsWord (cut count (c :: more) rest) = startsWord rest :=
        startsWord_cut hc more hne (by omega) fun size hsize =>
          Nat.le_trans (wordEscapeSize?_le_wordSize hsize) (by omega)
      rw [numberSignToken, numberSignToken, head?_cut (by omega) hne, if_neg hline, if_neg hline,
        hstarts,
        if_pos hword, if_pos hword, wordSize_cut hc more (Nat.zero_le _) (by omega)]
    · rename_i hword
      rw [if_neg hword] at hsolid
      cases hsolid

/-- A token stays whatever follows it, when a blank or a comment comes before that. -/
theorem token_cut {count : Nat} {chars : List Char} (h : (token chars).2 ≤ count)
    (hsolid : isSolid (token chars).1) (hslash : chars.head? ≠ some '/') :
    token (cut count (c :: more) chars) = token chars := by
  cases chars with
  | nil => cases hsolid
  | cons d rest =>
    have hpos := token_pos d rest
    obtain ⟨count, rfl⟩ := Nat.exists_eq_add_of_le' (Nat.le_trans hpos h)
    have hne : d :: rest ≠ [] := List.cons_ne_nil d rest
    by_cases hword : startsWord (d :: rest)
    · rw [token, if_pos hword] at h
      have hstarts := startsWord_cut hc more hne (Nat.succ_pos count)
        fun size hsize => Nat.le_trans (wordEscapeSize?_le_wordSize hsize) h
      have hsize := wordSize_cut hc more (Nat.zero_le _) h
      rw [cut_cons] at hstarts hsize ⊢
      rw [token, token, if_pos hword, if_pos (hstarts.trans hword), hsize]
    · have hescape : wordEscapeSize? (d :: rest) = none := by
        rw [startsWord, Bool.or_eq_true, not_or] at hword
        simpa using hword.2
      have hstarts := startsWord_cut hc more hne (Nat.succ_pos count) (by simp [hescape])
      rw [Bool.not_eq_true] at hword
      rw [token, hword, if_neg Bool.false_ne_true] at h hsolid
      rw [cut_cons] at hstarts ⊢
      rw [token, token, hstarts, hword, if_neg Bool.false_ne_true, if_neg Bool.false_ne_true]
      split
      · rename_i hdigit
        rw [if_pos hdigit] at h
        rw [← cut_cons, numberSize_cut hc more h (Nat.succ_pos count)]
      · rename_i hdigit
        rw [if_neg hdigit] at h hsolid
        split
        · rename_i hquote
          rw [if_pos hquote] at h hsolid
          cases hsize : stringSize? d .text 0 1 rest with
          | none =>
            rw [hsize] at hsolid
            cases hsolid
          | some size =>
            rw [hsize] at h
            rw [stringSize?_cut hc more hsize (by dsimp only at h; omega)]
        · rename_i hquote
          rw [if_neg hquote] at h hsolid
          split
          · rename_i hsign
            rw [if_pos hsign] at h hsolid
            exact numberSignToken_cut hc more h hsolid
          · rename_i hsign
            rw [if_neg hsign] at h hsolid
            split
            · rename_i hmark
              rw [if_pos hmark] at h
              exact markToken_cut hc more (by simpa using hslash) h
            · rfl

end Cuts

end Facade.Lexer
