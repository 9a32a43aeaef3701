-- Texts that are written token by token. Where each token stays whole in front of what follows it,
-- the text is read as those tokens, with the same blanks and comments in front of them.
import Facade.Proofs.TokenRuns

namespace Facade

/-! ## Tokens as characters -/

/-- The characters of a token with what stands in front of it. -/
def Token.chars (token : Token) : List Char := Trivia.chars token.leading ++ token.text.toList

/-- The characters of tokens, one after the other. -/
def writtenTokens (tokens : List Token) : List Char := tokens.flatMap Token.chars

/-- Whether the token ends where its text ends, when these characters follow. -/
def Token.isWholeBefore (token : Token) (rest : List Char) : Bool :=
  match token.kind with
  | .word => Lexer.isWord token.text.toList && Lexer.endsWord rest
  | .mark =>
    match token.text.toList with
    | ['='] => rest.head? != some '>'
    | ['=', '>'] => true
    | ['<'] => rest.head? != some '!'
    | [c] => Lexer.loneMarks.contains c
    | _ => false
  | _ => false

/-- Each of the tokens ends where its text ends, with nothing but blanks and comments of a line in
front of it. -/
def AreWhole : List Token → List Char → Prop
  | [], _ => True
  | token :: tokens, rest =>
    Lexer.isGap token.leading ∧ token.isWholeBefore (writtenTokens tokens ++ rest) ∧
      AreWhole tokens rest

instance AreWhole.decidable : (tokens : List Token) → (rest : List Char) →
    Decidable (AreWhole tokens rest)
  | [], _ => .isTrue trivial
  | token :: tokens, rest =>
    have := AreWhole.decidable tokens rest
    inferInstanceAs (Decidable (Lexer.isGap token.leading ∧
      token.isWholeBefore (writtenTokens tokens ++ rest) ∧ AreWhole tokens rest))

theorem writtenTokens_cons (token : Token) (tokens : List Token) :
    writtenTokens (token :: tokens) = token.chars ++ writtenTokens tokens := rfl

theorem writtenTokens_append (first second : List Token) :
    writtenTokens (first ++ second) = writtenTokens first ++ writtenTokens second :=
  List.flatMap_append

theorem areWhole_append {first second : List Token} {rest : List Char} :
    AreWhole (first ++ second) rest ↔
      AreWhole first (writtenTokens second ++ rest) ∧ AreWhole second rest := by
  induction first with
  | nil => simp [AreWhole]
  | cons token first ih =>
    simp only [List.cons_append, AreWhole, ih, writtenTokens_append, List.append_assoc, and_assoc]

/-! ## One token -/

/-- How a token that stays whole starts. -/
inductive StartsWhole : List Char → Prop
  | word {c : Char} {rest : List Char} (h : Lexer.isWordStart c) : StartsWhole (c :: rest)
  | mark {c : Char} {rest : List Char} (h : c ∈ '=' :: Lexer.loneMarks) : StartsWhole (c :: rest)

section Whole

variable {token : Token} {rest : List Char} (h : token.isWholeBefore rest)

include h

/-- The token is a word, or a mark of the few that types have. -/
theorem Token.isWholeBefore_cases :
    (token.kind = .word ∧ Lexer.isWord token.text.toList ∧ Lexer.endsWord rest) ∨
    (token.kind = .mark ∧ token.text.toList = ['='] ∧ rest.head? ≠ some '>') ∨
    (token.kind = .mark ∧ token.text.toList = ['=', '>']) ∨
    (token.kind = .mark ∧ ∃ c ∈ Lexer.loneMarks, token.text.toList = [c] ∧
      (c = '<' → rest.head? ≠ some '!')) := by
  unfold Token.isWholeBefore at h
  split at h
  · rename_i hkind
    exact .inl ⟨hkind, by simpa using h⟩
  · rename_i hkind
    split at h
    · rename_i htext
      exact .inr (.inl ⟨hkind, htext, by simpa using h⟩)
    · rename_i htext
      exact .inr (.inr (.inl ⟨hkind, htext⟩))
    · rename_i htext
      exact .inr (.inr (.inr ⟨hkind, '<', by decide, htext, fun _ => by simpa using h⟩))
    · rename_i c _ hless htext
      refine .inr (.inr (.inr ⟨hkind, c, by simpa using h, htext, ?_⟩))
      exact fun heq => absurd heq hless
    · cases h
  · cases h

theorem Token.lexed_of_isWholeBefore :
    Lexer.token (token.text.toList ++ rest) = (token.kind, token.text.toList.length) := by
  rcases Token.isWholeBefore_cases h with
    ⟨hkind, hword, hends⟩ | ⟨hkind, htext, hnext⟩ | ⟨hkind, htext⟩ | ⟨hkind, c, hc, htext, -⟩
  · rw [hkind]
    exact Lexer.token_word hword hends
  · rw [hkind, htext]
    exact Lexer.token_equals hnext
  · rw [hkind, htext]
    exact Lexer.token_arrow rest
  · rw [hkind, htext]
    exact Lexer.token_loneMark hc rest

theorem Token.startsWhole_of_isWholeBefore : StartsWhole (token.text.toList ++ rest) := by
  rcases Token.isWholeBefore_cases h with
    ⟨-, hword, -⟩ | ⟨-, htext, -⟩ | ⟨-, htext⟩ | ⟨-, c, hc, htext, -⟩
  · rw [Lexer.isWord, Bool.and_eq_true] at hword
    cases hchars : token.text.toList with
    | nil => simp [hchars] at hword
    | cons c more =>
      rw [hchars, List.head?_cons, Option.any_some] at hword
      exact .word hword.1
  · rw [htext]
    exact .mark List.mem_cons_self
  · rw [htext]
    exact .mark List.mem_cons_self
  · rw [htext]
    exact .mark (List.mem_cons_of_mem _ hc)

theorem Token.text_ne_of_isWholeBefore : token.text ≠ "" := by
  intro hempty
  have hkind : token.kind = .word ∨ token.kind = .mark := by
    rcases Token.isWholeBefore_cases h with ⟨hkind, -⟩ | ⟨hkind, -⟩ | ⟨hkind, -⟩ | ⟨hkind, -⟩ <;>
      simp [hkind]
  rcases hkind with hkind | hkind <;> simp [Token.isWholeBefore, hkind, hempty, Lexer.isWord] at h

/-- No line of markup starts with the token. -/
theorem Token.markup_of_isWholeBefore :
    token.kind = .mark → Cursor.markupSize? (token.text.toList ++ rest) = none := by
  intro hmark
  rcases Token.isWholeBefore_cases h with
    ⟨hkind, -⟩ | ⟨-, htext, -⟩ | ⟨-, htext⟩ | ⟨-, c, hc, htext, hless⟩
  · rw [hmark] at hkind
    cases hkind
  · rw [htext]
    exact Cursor.markupSize?_cons (by decide) (by decide) _
  · rw [htext]
    exact Cursor.markupSize?_cons (by decide) (by decide) _
  · rw [htext]
    by_cases heq : c = '<'
    · subst heq
      have hnext := hless rfl
      cases rest with
      | nil => rfl
      | cons d rest =>
        have hd : '!' ≠ d := by
          rintro rfl
          exact hnext rfl
        rw [Cursor.markupSize?, if_neg]
        simp [List.isPrefixOf, hd]
    · refine Cursor.markupSize?_cons heq ?_ _
      rintro rfl
      revert hc
      decide

end Whole

theorem StartsWhole.startsToken {chars : List Char} (h : StartsWhole chars) :
    Lexer.startsToken chars := by
  cases h with
  | @word c rest hstart =>
    refine Lexer.startsToken_cons (Lexer.not_isSpace_of_isWordStart hstart) ?_ rest
    rintro rfl
    revert hstart
    decide
  | @mark c rest hmark =>
    have hall : ('=' :: Lexer.loneMarks).all fun c => !Lexer.isSpace c && c != '/' := by decide
    have hmark := List.all_eq_true.mp hall c hmark
    rw [Bool.and_eq_true, Bool.not_eq_true', bne_iff_ne] at hmark
    exact Lexer.startsToken_cons hmark.1 hmark.2 rest

theorem StartsWhole.endsBefore {chars : List Char} (h : StartsWhole chars) (form : Form) :
    Cursor.endsBefore form chars = false := by
  cases h with
  | word hstart => exact Cursor.endsBefore_word hstart form _
  | @mark c rest hmark =>
    have hall : ('=' :: Lexer.loneMarks).all fun c =>
        c.toNat != 0 && c != '}' && c != '\n' && !Lexer.isBreakable c := by decide
    have hmark := List.all_eq_true.mp hall c hmark
    simp only [Bool.and_eq_true, bne_iff_ne, Bool.not_eq_true'] at hmark
    obtain ⟨⟨⟨hnul, hbrace⟩, hline⟩, hbreak⟩ := hmark
    simp [Cursor.endsBefore, hnul, hbrace, hline, hbreak]

/-! ## Gaps -/

namespace Lexer

variable {gap : List Trivia}

theorem length_le_of_isGap (h : isGap gap) : gap.length ≤ (Trivia.chars gap).length := by
  induction gap with
  | nil => exact Nat.le_refl 0
  | cons piece more ih =>
    have hpiece : piece.text.toList ≠ [] ∧ isGap more := by
      cases piece with
      | blank text =>
        simp only [isGap, Bool.and_eq_true, Bool.not_eq_true', List.isEmpty_eq_false_iff] at h
        exact ⟨h.1.1.1, h.2⟩
      | comment text =>
        rw [isGap, Bool.and_eq_true] at h
        refine ⟨fun hempty => ?_, h.2⟩
        have hhead := head?_of_isBlockComment h.1
        rw [Trivia.text] at hempty
        rw [hempty] at hhead
        cases hhead
      | markup text => cases h
    have hpos := List.length_pos_iff.mpr hpiece.1
    have hmore := ih hpiece.2
    rw [Trivia.chars, List.flatMap_cons, List.length_append, List.length_cons]
    rw [Trivia.chars] at hmore
    omega

theorem endsBefore_blank {blank rest : List Char} {form : Form}
    (hblank : blank.all fun c => isSpace c && c != '\n')
    (hrest : Cursor.endsBefore form rest = false) : Cursor.endsBefore form (blank ++ rest) = false := by
  induction blank with
  | nil => exact hrest
  | cons c blank ih =>
    rw [List.all_cons, Bool.and_eq_true, Bool.and_eq_true, bne_iff_ne] at hblank
    obtain ⟨⟨hspace, hline⟩, hmore⟩ := hblank
    have hnul : c.toNat ≠ 0 := by
      intro hzero
      simp [isSpace, hzero] at hspace
    have hbrace : c ≠ '}' := by
      rintro rfl
      revert hspace
      decide
    simp [Cursor.endsBefore, hnul, hbrace, hline, ih hmore]

/-- In blanks and comments of a line nothing ends. -/
theorem endsBefore_gap {rest : List Char} {form : Form} (h : isGap gap)
    (hrest : Cursor.endsBefore form rest = false) :
    Cursor.endsBefore form (Trivia.chars gap ++ rest) = false := by
  induction gap with
  | nil => exact hrest
  | cons piece more ih =>
    rw [Trivia.chars, List.flatMap_cons, List.append_assoc]
    cases piece with
    | blank text =>
      simp only [isGap, Bool.and_eq_true] at h
      exact endsBefore_blank h.1.1.2 (ih h.2)
    | comment text =>
      rw [isGap, Bool.and_eq_true] at h
      have hhead := head?_of_isBlockComment h.1
      cases hchars : text.toList with
      | nil => simp [hchars] at hhead
      | cons c body =>
        rw [hchars, List.head?_cons, Option.some.injEq] at hhead
        subst hhead
        simp [Trivia.text, hchars, Cursor.endsBefore, isBreakable]
    | markup text => cases h

theorem endAfter?_gap {rest : List Char} {form : Form} (h : isGap gap)
    (hrest : Cursor.endsBefore form rest = false) (size : Nat) :
    Cursor.endAfter? form size rest gap = none := by
  fun_induction Cursor.endAfter? form size rest gap with
  | case1 size hends => simp [hrest] at hends
  | case2 => rfl
  | case3 size text hends =>
    have hgap := endsBefore_gap h hrest
    simp [Trivia.chars, Trivia.text, hends] at hgap
  | case4 => rfl
  | case5 size text remark more hends =>
    rw [endsBefore_gap h hrest] at hends
    cases hends
  | case6 size text remark more hends ih =>
    simp only [isGap, Bool.and_eq_true] at h
    refine ih ?_
    cases remark <;> simp_all [isGap]
  | case7 size remark more _ _ hends =>
    rw [endsBefore_gap h hrest] at hends
    cases hends
  | case8 size remark more _ _ _ ih =>
    refine ih ?_
    cases remark <;> simp_all [isGap]

end Lexer

/-! ## Places -/

namespace Cursor

variable {token : Token} {tokens : List Token} {rest : List Char}

/-- Where a token stays whole, the place is in front of it. -/
theorem ofChars_token (hgap : Lexer.isGap token.leading) (hwhole : token.isWholeBefore rest) :
    ofChars [] (token.chars ++ rest).length (token.chars ++ rest) =
      ⟨token, rest, (token.text.toList ++ rest).length, .start⟩ := by
  have hfuel : token.leading.length ≤ (token.chars ++ rest).length := by
    have hlength := Lexer.length_le_of_isGap hgap
    rw [Token.chars, List.length_append, List.length_append]
    omega
  have htrivia := Lexer.trivia_gap hgap (Token.startsWhole_of_isWholeBefore hwhole).startsToken hfuel
  rw [← List.append_assoc, ← Token.chars] at htrivia
  have hlexed := Token.lexed_of_isWholeBefore hwhole
  have hleft : (token.chars ++ rest).length - Trivia.size token.leading =
      (token.text.toList ++ rest).length := by
    simp only [Token.chars, Trivia.size, List.length_append]
    omega
  simp only [ofChars, htrivia, hlexed, List.take_left, List.drop_left, String.ofList_toList,
    List.nil_append, hleft]

theorem isAt_ofChars (hgap : Lexer.isGap token.leading) (hwhole : token.isWholeBefore rest) :
    (ofChars [] (token.chars ++ rest).length (token.chars ++ rest)).IsAt token := by
  rw [ofChars_token hgap hwhole]
  have hstarts := Token.startsWhole_of_isWholeBefore hwhole
  refine ⟨rfl, rfl, ?_, fun form => ?_, hgap, Token.text_ne_of_isWholeBefore hwhole, ?_⟩
  · by_cases hkind : token.kind = .mark
    · have hnone : markupSize? (token.text.toList ++ rest) = none :=
        Token.markup_of_isWholeBefore hwhole hkind
      simp [markupNext, chars, hnone]
    · simp [markupNext, hkind]
  · have hend : endAfter? form 0 (token.text.toList ++ rest) token.leading = none :=
      Lexer.endAfter?_gap hgap (hstarts.endsBefore form) 0
    rw [mayEnd, end?, chars, hend]
    rfl
  · intro hfinish
    rw [Token.isWholeBefore, hfinish] at hwhole
    cases hwhole

theorem next_ofChars (hgap : Lexer.isGap token.leading) (hwhole : token.isWholeBefore rest) :
    (ofChars [] (token.chars ++ rest).length (token.chars ++ rest)).next =
      ofChars [] rest.length rest := by
  have hleft : (token.text.toList ++ rest).length - token.text.length = rest.length := by
    rw [List.length_append, String.length_toList, Nat.add_sub_cancel_left]
  rw [ofChars_token hgap hwhole, next, hleft]

/-- A text of whole tokens shows them. -/
theorem shows_ofChars {trailing : List Trivia} (hgap : Lexer.isGap trailing)
    (hwhole : AreWhole tokens (Trivia.chars trailing)) :
    (ofChars [] (writtenTokens tokens ++ Trivia.chars trailing).length
      (writtenTokens tokens ++ Trivia.chars trailing)).Shows tokens := by
  induction tokens with
  | nil =>
    have htrivia : Lexer.trivia (Trivia.chars trailing).length (Trivia.chars trailing ++ []) =
        (trailing, []) := Lexer.trivia_gap hgap rfl (Lexer.length_le_of_isGap hgap)
    rw [List.append_nil] at htrivia
    have hplace : ofChars [] (Trivia.chars trailing).length (Trivia.chars trailing) =
        ⟨⟨trailing, .finish, ""⟩, [], 0, .start⟩ := by
      simp [ofChars, htrivia, Lexer.token, Trivia.size]
    change Shows (ofChars [] (Trivia.chars trailing).length (Trivia.chars trailing)) []
    rw [hplace]
    exact ⟨rfl, hgap⟩
  | cons token tokens ih =>
    obtain ⟨hleading, htoken, htokens⟩ := hwhole
    rw [writtenTokens_cons, List.append_assoc]
    refine ⟨isAt_ofChars hleading htoken, ?_⟩
    rw [next_ofChars hleading htoken]
    exact ih htokens

theorem shows_ofText {text : String} {trailing : List Trivia}
    (htext : text.toList = writtenTokens tokens ++ Trivia.chars trailing)
    (hgap : Lexer.isGap trailing) (hwhole : AreWhole tokens (Trivia.chars trailing)) :
    (ofText text).Shows tokens := by
  have hshows := shows_ofChars hgap hwhole
  rwa [← htext, String.length_toList] at hshows

end Cursor

end Facade
