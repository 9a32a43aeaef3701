-- Tokens as they are cut off a text, and why other characters after a blank or a comment leave them
-- as they are.
import Facade.Proofs.TokenCuts
import Facade.Proofs.WrittenTokens

namespace Facade

namespace Lexer

/-! ## Blanks and comments -/

theorem le_lineSize (count : Nat) (chars : List Char) : count ≤ lineSize count chars := by
  induction chars generalizing count with
  | nil => exact Nat.le_refl _
  | cons c chars ih =>
    rw [lineSize]
    split
    · exact Nat.le_refl _
    · exact Nat.le_trans (Nat.le_succ _) (ih _)

theorem bounds_of_blockCommentSize? {count size : Nat} {chars : List Char}
    (h : blockCommentSize? count chars = some size) :
    count + 2 ≤ size ∧ size ≤ count + chars.length := by
  induction chars generalizing count with
  | nil => cases h
  | cons c chars ih =>
    unfold blockCommentSize? at h
    split at h
    · cases h
    · rename_i heq
      cases heq
      cases h
      simp only [List.length_cons]
      omega
    · rename_i heq
      cases heq
      have := ih h
      simp only [List.length_cons]
      omega

theorem lineSize_le (count : Nat) (chars : List Char) :
    lineSize count chars ≤ count + chars.length := by
  induction chars generalizing count with
  | nil => exact Nat.le_refl _
  | cons c chars ih =>
    rw [lineSize]
    split
    · exact Nat.le_add_right _ _
    · have := ih (count + 1)
      simp only [List.length_cons]
      omega

/-- A comment starts with a slash and has two characters at least. -/
theorem bounds_of_commentSize? {chars : List Char} {size : Nat}
    (h : commentSize? chars = some size) :
    chars.head? = some '/' ∧ 2 ≤ size ∧ size ≤ chars.length := by
  unfold commentSize? at h
  split at h
  · rename_i rest
    cases h
    have hle := lineSize_le 2 rest
    refine ⟨rfl, le_lineSize 2 _, ?_⟩
    simp only [List.length_cons]
    omega
  · rename_i rest
    have hbounds := bounds_of_blockCommentSize? h
    refine ⟨rfl, by omega, ?_⟩
    simp only [List.length_cons]
    omega
  · cases h

theorem lineSize_cut {first count : Nat} {chars : List Char}
    (h : lineSize first chars < first + count)
    (hlength : lineSize first chars < first + chars.length) (tail : List Char) :
    lineSize first (cut count tail chars) = lineSize first chars := by
  induction chars generalizing first count with
  | nil => simp [lineSize] at hlength
  | cons d chars ih =>
    have hle := le_lineSize first (d :: chars)
    obtain ⟨count, rfl⟩ := Nat.exists_eq_add_of_le' (show 1 ≤ count by omega)
    rw [lineSize] at h hlength ⊢
    rw [cut_cons, lineSize]
    split
    · rfl
    · rename_i hends
      rw [if_neg hends] at h hlength
      rw [List.length_cons] at hlength
      exact ih (by omega) (by omega)

theorem blockCommentSize?_cut {first count size : Nat} {chars : List Char}
    (h : blockCommentSize? first chars = some size) (hle : size ≤ first + count)
    (tail : List Char) :
    blockCommentSize? first (cut count tail chars) = some size := by
  fun_induction blockCommentSize? first chars generalizing count with
  | case1 => cases h
  | case2 first rest =>
    cases h
    obtain ⟨count, rfl⟩ := Nat.exists_eq_add_of_le' (show 2 ≤ count by omega)
    rfl
  | case3 first c rest hopen ih =>
    have hbounds := bounds_of_blockCommentSize? h
    obtain ⟨count, rfl⟩ := Nat.exists_eq_add_of_le' (show 1 ≤ count by omega)
    have hhead : (cut count tail rest).head? = rest.head? := by
      refine head?_cut (by omega) ?_
      rintro rfl
      cases h
    rw [cut_cons, blockCommentSize?, ih h (by omega)]
    rintro more rfl hmore
    rw [hmore] at hhead
    obtain ⟨body, rfl⟩ := List.head?_eq_some_iff.mp hhead.symm
    exact hopen body rfl rfl

/-- A comment is the same whatever follows the character after it. -/
theorem commentSize?_cut {count size : Nat} {chars : List Char} (h : commentSize? chars = some size)
    (hlt : size < count) (hlength : size < chars.length) (tail : List Char) :
    commentSize? (cut count tail chars) = some size := by
  unfold commentSize? at h
  split at h
  · rename_i rest
    cases h
    have hle := le_lineSize 2 rest
    obtain ⟨count, rfl⟩ := Nat.exists_eq_add_of_le' (show 2 ≤ count by omega)
    simp only [List.length_cons] at hlength
    rw [cut_cons, cut_cons, commentSize?, lineSize_cut (by omega) (by omega)]
  · rename_i rest
    have hbounds := bounds_of_blockCommentSize? h
    obtain ⟨count, rfl⟩ := Nat.exists_eq_add_of_le' (show 2 ≤ count by omega)
    rw [cut_cons, cut_cons, commentSize?, blockCommentSize?_cut h (by omega)]
  · cases h

/-- More fuel than characters changes nothing. -/
theorem trivia_of_le {fuel more : Nat} {chars : List Char} (h : chars.length ≤ fuel)
    (hmore : chars.length ≤ more) : trivia fuel chars = trivia more chars := by
  induction fuel generalizing more chars with
  | zero =>
    have hnil : chars = [] := List.eq_nil_of_length_eq_zero (Nat.le_zero.mp h)
    subst hnil
    cases more <;> rfl
  | succ fuel ih =>
    cases chars with
    | nil => cases more <;> rfl
    | cons c rest =>
      obtain ⟨more, rfl⟩ := Nat.exists_eq_add_of_lt (Nat.lt_of_lt_of_le (Nat.succ_pos _) hmore)
      rw [Nat.zero_add]
      rw [List.length_cons] at h hmore
      have hdrop {size : Nat} (hsize : 0 < size) :
          trivia fuel ((c :: rest).drop size) = trivia more ((c :: rest).drop size) := by
        apply ih <;> rw [List.length_drop, List.length_cons] <;> omega
      rw [trivia, trivia]
      dsimp only
      split
      · rename_i hblank
        rw [bne_iff_ne] at hblank
        rw [hdrop (Nat.pos_of_ne_zero hblank)]
      · split
        · rename_i size hsize
          have htwo := (bounds_of_commentSize? hsize).2.1
          rw [hdrop (by omega)]
        · rfl

theorem blankSize_le (count : Nat) (chars : List Char) :
    blankSize count chars ≤ count + chars.length := by
  induction chars generalizing count with
  | nil => exact Nat.le_refl _
  | cons c chars ih =>
    rw [blankSize]
    split
    · have := ih (count + 1)
      simp only [List.length_cons]
      omega
    · exact Nat.le_add_right _ _

theorem le_blankSize (count : Nat) (chars : List Char) : count ≤ blankSize count chars := by
  induction chars generalizing count with
  | nil => exact Nat.le_refl _
  | cons c chars ih =>
    rw [blankSize]
    split
    · exact Nat.le_trans (Nat.le_succ _) (ih _)
    · exact Nat.le_refl _

theorem blankSize_cut {first count : Nat} {chars : List Char}
    (h : blankSize first chars < first + count)
    (hlength : blankSize first chars < first + chars.length) (tail : List Char) :
    blankSize first (cut count tail chars) = blankSize first chars := by
  induction chars generalizing first count with
  | nil => simp [blankSize] at hlength
  | cons d chars ih =>
    rw [blankSize] at h hlength ⊢
    split at h
    · rename_i hspace
      rw [if_pos hspace, List.length_cons] at hlength
      have hle := le_blankSize (first + 1) chars
      obtain ⟨count, rfl⟩ := Nat.exists_eq_add_of_le' (show 1 ≤ count by omega)
      rw [cut_cons, blankSize, if_pos hspace, if_pos hspace, ih (by omega) (by omega)]
    · rename_i hspace
      obtain ⟨count, rfl⟩ := Nat.exists_eq_add_of_le' (show 1 ≤ count by omega)
      rw [cut_cons, blankSize, if_neg hspace, if_neg hspace]

/-- The blanks and comments in front of a token stay whatever follows the token. -/
theorem trivia_cut {fuel count : Nat} {chars rest : List Char} {gap : List Trivia}
    (h : trivia fuel chars = (gap, rest)) (hcount : (Trivia.chars gap).length < count) {d : Char}
    (hrest : rest.head? = some d) (hd : isStop d = false) (tail : List Char) :
    trivia fuel (cut count tail chars) =
      (gap, cut (count - (Trivia.chars gap).length) tail rest) := by
  induction fuel generalizing chars gap count with
  | zero =>
    cases h
    rfl
  | succ fuel ih =>
    have hne : rest ≠ [] := by
      rintro rfl
      cases hrest
    -- a blank or a comment comes first, and then more of the text
    have hpiece {size : Nat} {piece : Trivia} (hsize : size ≤ chars.length)
        (htext : piece.text = String.ofList (chars.take size))
        (h : (piece :: (trivia fuel (chars.drop size)).1, (trivia fuel (chars.drop size)).2) =
          (gap, rest)) :
        size < count ∧ size < chars.length ∧
          (piece :: (trivia fuel ((cut count tail chars).drop size)).1,
            (trivia fuel ((cut count tail chars).drop size)).2) =
            (gap, cut (count - (Trivia.chars gap).length) tail rest) := by
      obtain ⟨rfl, hmore⟩ := Prod.mk.inj h
      have hlength : (Trivia.chars (piece :: (trivia fuel (chars.drop size)).1)).length =
          size + (Trivia.chars (trivia fuel (chars.drop size)).1).length := by
        rw [Trivia.chars, List.flatMap_cons, List.length_append, htext, String.toList_ofList,
          List.length_take, Nat.min_eq_left hsize]
        rfl
      rw [hlength] at hcount ⊢
      have hlt : size < chars.length := by
        by_contra hle
        have hsuffix := trivia_suffix fuel (chars.drop size)
        rw [hmore, List.drop_eq_nil_of_le (Nat.le_of_not_lt hle), List.suffix_nil] at hsuffix
        exact hne hsuffix
      have hinner : (Trivia.chars (trivia fuel (chars.drop size)).1).length <
        count - size := by omega
      refine ⟨by omega, hlt, ?_⟩
      rw [drop_cut (by omega) hsize, ih (Prod.ext rfl hmore) hinner, Nat.sub_sub]
    rw [trivia] at h ⊢
    dsimp only at h ⊢
    split at h
    · rename_i hblank
      have hle := blankSize_le 0 chars
      obtain ⟨hlt, hlength, hmore⟩ := hpiece (by omega) (by rfl) h
      rw [blankSize_cut (by omega) (by omega), if_pos hblank, take_cut (by omega) (by omega)]
      exact hmore
    · rename_i hblank
      split at h
      · rename_i size hsize
        have hbounds := bounds_of_commentSize? hsize
        obtain ⟨hlt, hlength, hmore⟩ := hpiece hbounds.2.2 (by rfl) h
        rw [blankSize_cut (by simp at hblank; omega) (by simp at hblank; omega), if_neg hblank,
          commentSize?_cut hsize hlt hlength]
        dsimp only
        rw [take_cut (by omega) (by omega)]
        exact hmore
      · rename_i hcomment
        cases h
        obtain ⟨left, rfl⟩ := Nat.exists_eq_add_of_le' (Nat.zero_lt_of_lt hcount)
        obtain ⟨more, rfl⟩ := List.head?_eq_some_iff.mp hrest
        rw [isStop, Bool.or_eq_false_iff, beq_eq_false_iff_ne] at hd
        have hstarts := trivia_of_startsToken (startsToken_cons hd.1 hd.2 (cut left tail more))
          (fuel + 1)
        rw [trivia] at hstarts
        exact hstarts

end Lexer

/-! ## Tokens as they are cut off -/

/-- The token comes first in its text with the characters after it. -/
structure Token.LexesBefore (token : Token) (rest : List Char) : Prop where
  trivia : Lexer.trivia (token.chars ++ rest).length (token.chars ++ rest) =
    (token.leading, token.text.toList ++ rest)
  token : Lexer.token (token.text.toList ++ rest) = (token.kind, token.text.length)

namespace Token.LexesBefore

variable {token : Token} {rest : List Char}

theorem ofChars_eq (h : token.LexesBefore rest) :
    Cursor.ofChars [] (token.chars ++ rest).length (token.chars ++ rest) =
      ⟨token, rest, (token.text.toList ++ rest).length, .start⟩ := by
  have hleft : (token.chars ++ rest).length - Trivia.size token.leading =
      (token.text.toList ++ rest).length := by
    simp only [Token.chars, Trivia.size, List.length_append]
    omega
  simp only [Cursor.ofChars, h.trivia, h.token, ← String.length_toList, List.take_left,
    List.drop_left,
    String.ofList_toList, List.nil_append, hleft]

/-- Other characters after a blank or a comment leave the token as it is. -/
theorem cut {front tail : List Char} {c : Char} {more : List Char}
    (h : token.LexesBefore (front ++ tail))
    (hsolid : Lexer.isSolid token.kind) {d : Char} (hhead : token.text.toList.head? = some d)
    (hd : Lexer.isStop d = false) (hc : Lexer.isStop c)
    (hlonger : tail.length ≤ (c :: more).length) :
    token.LexesBefore (front ++ c :: more) := by
  have hchars : token.chars ++ (front ++ c :: more) =
      Lexer.cut (token.chars ++ front).length (c :: more) (token.chars ++ (front ++ tail)) := by
    rw [Lexer.cut, ← List.append_assoc, ← List.append_assoc, List.take_left]
  have htext : token.text.toList ++ (front ++ c :: more) =
      Lexer.cut (token.text.toList ++ front).length (c :: more)
        (token.text.toList ++ (front ++ tail)) := by
    rw [Lexer.cut, ← List.append_assoc, ← List.append_assoc, List.take_left]
  have hpos : 0 < token.text.toList.length := by
    rw [List.length_pos_iff]
    intro hnil
    rw [hnil] at hhead
    cases hhead
  have hstart : (token.text.toList ++ (front ++ tail)).head? = some d := by
    rw [List.head?_append, hhead, Option.some_or]
  refine ⟨?_, ?_⟩
  · have hlength : (token.chars ++ (front ++ tail)).length ≤
        (token.chars ++ (front ++ c :: more)).length := by
      simp only [List.length_append] at hlonger ⊢
      omega
    have hfuel := h.trivia
    rw [Lexer.trivia_of_le (Nat.le_refl _) hlength] at hfuel
    have hcount : (Trivia.chars token.leading).length < (token.chars ++ front).length := by
      rw [Token.chars, List.length_append, List.length_append]
      omega
    have hleft : (token.chars ++ front).length - (Trivia.chars token.leading).length =
        (token.text.toList ++ front).length := by
      simp only [Token.chars, List.length_append]
      omega
    have hcut := Lexer.trivia_cut hfuel hcount hstart hd (c :: more)
    rwa [← hchars, hleft, ← htext] at hcut
  · have hle : (Lexer.token (token.text.toList ++ (front ++ tail))).2 ≤
        (token.text.toList ++ front).length := by
      rw [h.token, ← String.length_toList, List.length_append]
      exact Nat.le_add_right _ _
    rw [htext, Lexer.token_cut hc more hle (by rwa [h.token]) ?_, h.token]
    rw [hstart]
    rintro heq
    cases heq
    cases hd

end Token.LexesBefore

end Facade
