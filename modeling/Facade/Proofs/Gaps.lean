-- Gaps between the tokens of a text, cut where a comment can be put in.
import Facade.Proofs.CommentTwins

namespace Facade

open Lexer

/-! ## Blanks and comments that are put together -/

namespace Trivia

theorem isClean_append {first second : List Trivia} (h : isClean first) (h' : isClean second) :
    isClean (first ++ second) := by
  induction first with
  | nil => exact h'
  | cons piece first ih =>
    cases piece with
    | blank text =>
      rw [isClean, Bool.and_eq_true] at h
      rw [List.cons_append, isClean, Bool.and_eq_true]
      exact ⟨h.1, ih h.2⟩
    | comment text =>
      rw [isClean, Bool.and_eq_true, Bool.and_eq_true] at h
      rw [List.cons_append, isClean, ih h.2, h.1.2, Bool.and_true, Bool.and_true, chars_append]
      have hcomment := h.1.1
      rw [Bool.or_eq_true, Bool.and_eq_true] at hcomment ⊢
      refine hcomment.imp_right (And.imp_right fun hline => Cursor.startsLine_append hline _)
    | markup text => cases h

theorem breaksLine_append (first second : List Trivia) :
    breaksLine (first ++ second) = (breaksLine first || breaksLine second) := List.any_append

end Trivia

/-- A line comment ends with its line. -/
theorem commentSize?_of_isLineComment {comment chars : List Char} (h : Trivia.isLineComment comment)
    (hline : Trivia.startsLine chars) (rest : List Char) :
    commentSize? (comment ++ (chars ++ rest)) = some comment.length := by
  have hsize {body : List Char} (hbody : body.all (!endsLine ·)) (count : Nat) :
      lineSize count (body ++ (chars ++ rest)) = count + body.length := by
    induction body generalizing count with
    | nil =>
      cases chars with
      | nil => cases hline
      | cons c chars =>
        have hends : endsLine c := by
          by_cases hreturn : c = '\r'
          · subst hreturn
            rfl
          · rwa [Trivia.startsLine] at hline
            exact hreturn
        rw [List.nil_append, List.cons_append, lineSize, if_pos hends]
        rfl
    | cons c body ih =>
      rw [List.all_cons, Bool.and_eq_true, Bool.not_eq_true'] at hbody
      rw [List.cons_append, lineSize, if_neg (by simp [hbody.1]), ih hbody.2, List.length_cons]
      omega
  unfold Trivia.isLineComment at h
  split at h
  · rename_i body
    rw [List.cons_append, List.cons_append, commentSize?, hsize h, List.length_cons,
      List.length_cons]
    congr 1
    omega
  · cases h

theorem trivia_comment {comment rest : List Char}
    (h : commentSize? (comment ++ rest) = some comment.length) (fuel : Nat) :
    trivia (fuel + 1) (comment ++ rest) =
      (.comment (String.ofList comment) :: (trivia fuel rest).1, (trivia fuel rest).2) := by
  have hblank : blankSize 0 (comment ++ rest) = 0 := by
    refine blankSize_of_head ?_ 0
    rw [(bounds_of_commentSize? h).1]
    rfl
  rw [trivia, hblank, h]
  simp

/-- Blanks in front of a text are cut off together with those that come first in it. -/
theorem exists_merged_blank {text : String} (htext : text.toList.all fun c =>
      isBreakable c && c.toNat < 0x80)
    {chars rest : List Char} {merged : List Trivia} (hclean : Trivia.isClean merged)
    (hmerged : ∀ fuel, chars.length ≤ fuel → trivia fuel chars = (merged, rest)) :
    ∃ longer, Trivia.isClean longer ∧
      Trivia.breaksLine longer = (text.toList.contains '\n' || Trivia.breaksLine merged) ∧
      longer.any Trivia.isRemark = merged.any Trivia.isRemark ∧
      Trivia.chars longer = text.toList ++ Trivia.chars merged ∧
      ∀ fuel, (text.toList ++ chars).length ≤ fuel →
        trivia fuel (text.toList ++ chars) = (longer, rest) := by
  have hspace : text.toList.all isSpace := by
    rw [List.all_eq_true]
    intro c hc
    exact isSpace_of_isBreakable (Bool.and_eq_true_iff.mp (List.all_eq_true.mp htext c hc)).1
  by_cases hempty : text.toList = []
  · rw [hempty]
    exact ⟨merged, hclean, rfl, rfl, rfl, hmerged⟩
  have hpos := List.length_pos_iff.mpr hempty
  cases hhead : chars.head?.any isSpace with
  | false =>
    refine ⟨.blank text :: merged, ?_, Trivia.breaksLine_blank .., rfl, Trivia.chars_cons ..,
      fun fuel hfuel => ?_⟩
    · rw [Trivia.isClean, htext, hclean]
      rfl
    · rw [List.length_append] at hfuel
      obtain ⟨fuel, rfl⟩ := Nat.exists_eq_add_of_le' (show 1 ≤ fuel by omega)
      rw [trivia_blank hempty hspace hhead, hmerged fuel (by omega), String.ofList_toList]
  | true =>
    -- the first of the merged pieces is a blank, which grows
    obtain ⟨blank, after, rfl, hblank, hne, hafter⟩ :
      ∃ blank after, chars = blank ++ after ∧ blank.all isSpace ∧
        blank ≠ [] ∧ after.head?.any isSpace = false := by
      refine ⟨chars.takeWhile isSpace, chars.dropWhile isSpace,
        List.takeWhile_append_dropWhile.symm,
        List.all_takeWhile, ?_, ?_⟩
      · cases chars with
        | nil => cases hhead
        | cons c chars =>
          have hc : isSpace c := hhead
          rw [List.takeWhile_cons_of_pos hc]
          exact List.cons_ne_nil _ _
      · have hdrop := List.head?_dropWhile_not isSpace chars
        generalize (chars.dropWhile isSpace).head? = first at hdrop
        cases first with
        | none => rfl
        | some c => exact hdrop
    have hfirst := hmerged ((blank ++ after).length + 1) (Nat.le_succ _)
    rw [trivia_blank hne hblank hafter] at hfirst
    obtain ⟨rfl, hrest⟩ := Prod.mk.inj hfirst
    rw [Trivia.isClean, String.toList_ofList, Bool.and_eq_true] at hclean
    refine ⟨.blank (String.ofList (text.toList ++ blank)) ::
      (trivia (blank ++ after).length after).1, ?_, ?_, rfl, ?_, fun fuel hfuel => ?_⟩
    · rw [Trivia.isClean, String.toList_ofList, List.all_append, htext, hclean.1, hclean.2]
      rfl
    · rw [Trivia.breaksLine_blank, Trivia.breaksLine_blank, String.toList_ofList,
        String.toList_ofList,
        List.contains_append, Bool.or_assoc]
    · rw [Trivia.chars_cons, Trivia.chars_cons, Trivia.text, Trivia.text, String.toList_ofList,
        String.toList_ofList,
        List.append_assoc]
    · rw [List.length_append, List.length_append] at hfuel
      obtain ⟨fuel, rfl⟩ := Nat.exists_eq_add_of_le' (show 1 ≤ fuel by omega)
      have hlonger : text.toList ++ blank ≠ [] :=
        fun hnil => hempty (List.append_eq_nil_iff.mp hnil).1
      have hsame : trivia fuel after = trivia (blank ++ after).length after :=
        trivia_of_le (by omega) (by rw [List.length_append]; omega)
      have hall : (text.toList ++ blank).all isSpace := by
        rw [List.all_append, hspace, hblank]
        rfl
      rw [← List.append_assoc, trivia_blank hlonger hall hafter, hsame, hrest]

/-- Blanks and comments are cut off together with those they are put next to. -/
theorem exists_merged {pieces : List Trivia} (h : Trivia.isClean pieces) {rest : List Char}
    (hrest : startsToken rest) :
    ∃ merged, Trivia.isClean merged ∧ Trivia.breaksLine merged = Trivia.breaksLine pieces ∧
      merged.any Trivia.isRemark = pieces.any Trivia.isRemark ∧
      Trivia.chars merged = Trivia.chars pieces ∧
      ∀ fuel, (Trivia.chars pieces ++ rest).length ≤ fuel →
        trivia fuel (Trivia.chars pieces ++ rest) = (merged, rest) := by
  induction pieces with
  | nil => exact ⟨[], rfl, rfl, rfl, rfl, fun fuel _ => trivia_of_startsToken hrest fuel⟩
  | cons piece pieces ih =>
    obtain ⟨merged, hclean, hbreaks, hremark, hchars, hmerged⟩ := ih (Cursor.isClean_tail h)
    cases piece with
    | blank text =>
      rw [Trivia.isClean, Bool.and_eq_true] at h
      obtain ⟨longer, hlonger, hbreaks', hremark', hchars', htrivia⟩ :=
        exists_merged_blank h.1 hclean hmerged
      rw [hbreaks] at hbreaks'
      rw [hremark] at hremark'
      rw [hchars] at hchars'
      rw [← List.append_assoc] at htrivia
      exact ⟨longer, hlonger, hbreaks', hremark', hchars', htrivia⟩
    | comment text =>
      rw [Trivia.isClean, Bool.and_eq_true, Bool.and_eq_true] at h
      refine ⟨.comment text :: merged, ?_, hbreaks, rfl, ?_, fun fuel hfuel => ?_⟩
      · rw [Trivia.isClean, hclean, h.1.2, hchars, h.1.1]
        rfl
      · rw [Trivia.chars_cons, Trivia.chars_cons, hchars]
      · have hsize : commentSize? (text.toList ++ (Trivia.chars pieces ++ rest)) =
            some text.toList.length := by
          rcases Bool.or_eq_true_iff.mp h.1.1 with hblock | hline
          · exact commentSize?_of_isBlockComment hblock _
          · rw [Bool.and_eq_true] at hline
            exact commentSize?_of_isLineComment hline.1 hline.2 rest
        have hpos := (bounds_of_commentSize? hsize).2.1
        rw [Trivia.chars_cons, Trivia.text, List.append_assoc] at hfuel ⊢
        rw [List.length_append] at hfuel
        obtain ⟨fuel, rfl⟩ := Nat.exists_eq_add_of_le' (show 1 ≤ fuel by omega)
        rw [trivia_comment hsize, hmerged fuel (by omega), String.ofList_toList]
    | markup text => cases h

/-! ## Comments that are put in -/

/-- A comment with this text and a blank on each side. -/
def noteOf (text : String) : List Trivia :=
  [.blank " ", .comment ("/*" ++ text ++ "*/"), .blank " "]

/-- A comment ends where it is closed. -/
theorem blockCommentSize?_note {text : List Char} (h : ¬['*', '/'] <:+: text) (count : Nat) :
    blockCommentSize? count (text ++ ['*', '/']) = some (count + text.length + 2) := by
  induction text generalizing count with
  | nil => rfl
  | cons c text ih =>
    have hmore : ¬['*', '/'] <:+: text := fun hinfix => h (List.infix_cons hinfix)
    rw [List.cons_append, blockCommentSize?, ih hmore, List.length_cons]
    · congr 1
      omega
    · rintro more rfl hclose
      cases text with
      | nil => cases hclose
      | cons d text =>
        cases hclose
        exact h ⟨[], text, rfl⟩

theorem isClean_noteOf {text : String} (h : ¬['*', '/'] <:+: text.toList)
    (hnull : !text.toList.any Cursor.isNull) :
    Trivia.isClean (noteOf text) := by
  have hchars : ("/*" ++ text ++ "*/").toList = '/' :: '*' :: (text.toList ++ ['*', '/']) := by
    rw [String.toList_append, String.toList_append]
    rfl
  have hblock : isBlockComment ("/*" ++ text ++ "*/").toList := by
    rw [hchars, isBlockComment, blockCommentSize?_note h, beq_iff_eq, List.length_append]
    congr 1
    rw [List.length_cons, List.length_cons, List.length_nil]
    omega
  have hany : ("/*" ++ text ++ "*/").toList.any Cursor.isNull = false := by
    rw [Bool.not_eq_true'] at hnull
    rw [hchars, List.any_cons, List.any_cons, List.any_append, hnull]
    rfl
  simp only [noteOf, Trivia.isClean, hblock, hany, Bool.true_or]
  decide

theorem breaksLine_noteOf (text : String) : Trivia.breaksLine (noteOf text) = false := rfl

theorem any_isRemark_noteOf (text : String) : (noteOf text).any Trivia.isRemark := rfl

/-! ## Tokens of a text -/

/-- The place of a token of a text, by the number of tokens before it. -/
def tokenPlace (text : String) : Nat → Cursor
  | 0 => .ofText text
  | count + 1 => (tokenPlace text count).next

/-- A place is where characters start. -/
structure Cursor.Starts (place : Cursor) (chars : List Char) : Prop where
  eq : place = .ofChars [] chars.length chars
  lexes : place.token.LexesBefore place.after
  chars_eq : place.token.chars ++ place.after = chars

theorem Cursor.starts_ofChars (chars : List Char) :
    (ofChars [] chars.length chars).Starts chars := by
  have hchars := chars_trivia chars.length chars
  have hle := token_le (trivia chars.length chars).2
  have htext : ((trivia chars.length chars).2.take
    (Lexer.token (trivia chars.length chars).2).2).length =
      (Lexer.token (trivia chars.length chars).2).2 := List.length_take_of_le hle
  have hall : (ofChars [] chars.length chars).token.chars ++ (ofChars [] chars.length chars).after =
      chars := by
    simp only [ofChars, Token.chars, List.nil_append, String.toList_ofList, List.append_assoc,
      List.take_append_drop]
    exact hchars
  refine ⟨rfl, ⟨?_, ?_⟩, hall⟩
  · rw [hall]
    simp only [ofChars, List.nil_append, String.toList_ofList, List.take_append_drop]
  · simp only [ofChars, String.toList_ofList, List.take_append_drop, String.length_ofList, htext]

theorem Cursor.Starts.next {place : Cursor} {chars : List Char} (h : place.Starts chars) :
    place.next.Starts place.after := by
  have hnext : place.next = .ofChars [] place.after.length place.after := by
    have hplace := h.eq
    rw [← h.chars_eq, h.lexes.ofChars_eq] at hplace
    rw [hplace, Cursor.next]
    dsimp only
    rw [List.length_append, String.length_toList, Nat.add_sub_cancel_left]
  rw [hnext]
  exact starts_ofChars _

theorem exists_starts (text : String) (count : Nat) :
    ∃ chars, (tokenPlace text count).Starts chars := by
  induction count with
  | zero =>
    refine ⟨text.toList, ?_⟩
    rw [tokenPlace, Cursor.ofText, ← String.length_toList]
    exact Cursor.starts_ofChars _
  | succ count ih =>
    obtain ⟨chars, h⟩ := ih
    exact ⟨_, h.next⟩

/-- Whether the token at a place is read in the same way wherever it stands: it is no part of a
template, no slash and no line of markup, and only blanks and comments stand in front of it. -/
def Cursor.isPlain (place : Cursor) : Bool :=
  isSolid place.token.kind && !place.token.text.toList.head?.any
    (fun c => c == '/' || isBacktick c) &&
    (markupSize? place.chars).isNone && Trivia.settles place.token.leading

/-- Whether a comment may be put between the token at a place and the next one. It may not follow a
mark or a word that a type or a part of a name follows, stand in front of a point or a colon that
belongs to what is in front of it, or take apart what is written together. -/
def Cursor.admitsNote (place : Cursor) : Bool :=
  let next := place.next
  !openers.contains place.token.text && !place.token.text.toList.getLast?.any
    (fun c => c == ':' || c == '.')
    && !next.atEnd && next.token.text.toList.head? != some '.' && (markupSize? next.chars).isNone
    && !(place.token.text == "\x7d" && next.token.text.toList.head? == some ':')
    && !place.token.text.toList.getLast?.any fun c => place.after.head?.any (joins c)

/-- A gap between two adjacent tokens of a text, cut in two. -/
structure Gap (text : String) where
  /-- How many tokens stand in front of the one before the gap. -/
  count : Nat
  /-- What stands in the gap before the cut. -/
  before : List Trivia
  /-- What stands in the gap after the cut. -/
  after : List Trivia
  chars_eq : Trivia.chars before ++ Trivia.chars after =
    Trivia.chars (tokenPlace text (count + 1)).token.leading
  clean_before : Trivia.isClean before
  clean_after : Trivia.isClean after
  plain : ∀ j ≤ count, (tokenPlace text j).isPlain
  admits : (tokenPlace text count).admitsNote
  noExport : ∀ j < count, (tokenPlace text j).token.text = "export" →
    (tokenPlace text (j + 1)).token.text = "=" →
    j + 1 ≠ count
  /-- Where the word `const` stands alone, another comment is there already. -/
  lone : ∀ j ≤ count, count ≤ j + 1 →
    isLoneConst (tokenPlace text j).token.text (tokenPlace text j).after →
    (tokenPlace text (count + 1)).token.leading.any Trivia.isRemark

namespace Gap

variable {text : String} (gap : Gap text)

/-- The place of the token before the gap. -/
def front : Cursor := tokenPlace text gap.count

/-- The place of the token after the gap. -/
def next : Cursor := tokenPlace text (gap.count + 1)

/-- How many characters of the text stand before the cut. -/
def offset : Nat := text.length - gap.front.after.length + (Trivia.chars gap.before).length

/-- The text with a comment at the cut. -/
def noted (note : String) : String :=
  String.ofList (text.toList.take gap.offset ++ Trivia.chars (noteOf note) ++
    text.toList.drop gap.offset)

/-! ## The spot of a gap -/

theorem starts_next : gap.next.Starts gap.front.after := by
  obtain ⟨_, h⟩ := exists_starts text gap.count
  exact h.next

theorem chars_gap :
    Trivia.chars gap.before ++ Trivia.chars gap.after = Trivia.chars gap.next.token.leading :=
  gap.chars_eq

theorem clean_leading : Trivia.isClean gap.next.token.leading ∧
    Trivia.breaksLine gap.next.token.leading =
      (Trivia.breaksLine gap.before || Trivia.breaksLine gap.after) := by
  have hlexes := gap.starts_next.lexes
  obtain ⟨merged, hclean, hbreaks, -, -, htrivia⟩ :=
    exists_merged (Trivia.isClean_append gap.clean_before gap.clean_after) hlexes.startsToken
  rw [Trivia.chars_append, gap.chars_gap] at htrivia
  rw [Trivia.breaksLine_append] at hbreaks
  have hcut := hlexes.trivia
  rw [Token.chars, List.append_assoc, htrivia _ (Nat.le_refl _)] at hcut
  obtain rfl : merged = gap.next.token.leading := congrArg Prod.fst hcut
  exact ⟨hclean, hbreaks⟩

/-- With a comment at the cut, all that stands in the gap is cut off together. -/
theorem exists_noted_leading {note : String} (hnote : ¬['*', '/'] <:+: note.toList)
    (hnull : !note.toList.any Cursor.isNull) :
    ∃ leading, Trivia.isClean leading ∧
      Trivia.breaksLine leading = Trivia.breaksLine gap.next.token.leading ∧
      leading.any Trivia.isRemark ∧
      Trivia.chars leading = Trivia.chars gap.before ++ Trivia.chars (noteOf note) ++
        Trivia.chars gap.after ∧
      Token.LexesBefore ⟨leading, gap.next.token.kind, gap.next.token.text⟩ gap.next.after := by
  have hlexes := gap.starts_next.lexes
  have hall := Trivia.isClean_append
    (Trivia.isClean_append gap.clean_before (isClean_noteOf hnote hnull))
    gap.clean_after
  obtain ⟨leading, hclean, hbreaks, hremark, hchars, htrivia⟩ :=
    exists_merged hall hlexes.startsToken
  rw [Trivia.chars_append, Trivia.chars_append] at hchars htrivia
  rw [Trivia.breaksLine_append, Trivia.breaksLine_append, breaksLine_noteOf, Bool.or_false,
    ← gap.clean_leading.2] at hbreaks
  refine ⟨leading, hclean, hbreaks, ?_, hchars, ?_, hlexes.token⟩
  · rw [hremark, List.any_append, List.any_append, any_isRemark_noteOf, Bool.or_true,
      Bool.true_or]
  · rw [Token.chars, List.append_assoc, hchars]
    exact htrivia _ (Nat.le_refl _)

/-- A comment at the cut makes a spot, where the two texts differ. -/
theorem exists_spot {note : String} (hnote : ¬['*', '/'] <:+: note.toList)
    (hnull : !note.toList.any Cursor.isNull) :
    ∃ s : Spot, s.last = gap.front.token.text ∧ s.gap = gap.next.token.leading ∧
      s.rest = gap.front.after ∧
      s.noted = Trivia.chars gap.before ++ Trivia.chars (noteOf note) ++ Trivia.chars gap.after ++
        gap.next.chars := by
  have hnext := gap.starts_next
  obtain ⟨leading, hclean, hbreaks, hremark, hchars, hlexes⟩ := gap.exists_noted_leading hnote hnull
  have hadmits : gap.front.admitsNote := gap.admits
  have hfollows : gap.front.next = gap.next := rfl
  rw [Cursor.admitsNote] at hadmits
  simp only [hfollows] at hadmits
  simp only [Bool.and_eq_true, Bool.not_eq_true', bne_iff_ne, Option.isNone_iff_eq_none] at hadmits
  obtain ⟨⟨⟨⟨⟨⟨hopener, hlast⟩, hend⟩, hdot⟩, hmarkup⟩, hlabel⟩, hapart⟩ := hadmits
  refine ⟨{
    gap := gap.next.token.leading
    note := leading
    kind := gap.next.token.kind
    text := gap.next.token.text
    after := gap.next.after
    last := gap.front.token.text
    lexes := hnext.lexes
    lexesNoted := hlexes
    clean := gap.clean_leading.1
    cleanNote := hclean
    breaks := hbreaks
    remarked := hremark
    longer := ?longer
    goesOn := ?goesOn
    noMarkup := hmarkup
    noDot := hdot
    noOpener := ?noOpener
    noColon := ?noColon
    noPoint := ?noPoint
    apart := ?apart
    noLabel := ?noLabel }, rfl, rfl, (List.append_assoc ..).symm.trans hnext.chars_eq, ?noted⟩
  case longer =>
    rw [hchars, ← gap.chars_gap]
    simp only [List.length_append, Trivia.chars, noteOf, List.flatMap_cons, Trivia.text]
    have hblank : (" " : String).toList.length = 1 := rfl
    omega
  case goesOn =>
    intro hfinish
    rw [Cursor.atEnd, hfinish] at hend
    cases hend
  case noOpener => simpa using hopener
  case noColon =>
    intro hcolon
    rw [hcolon] at hlast
    cases hlast
  case noPoint =>
    intro hpoint
    rw [hpoint] at hlast
    cases hlast
  case apart =>
    intro c d hc hd
    have hhead : gap.front.after.head? = some d := by
      rw [← hnext.chars_eq, Token.chars, List.head?_append, hd]
      rfl
    rw [hc, Option.any_some, hhead, Option.any_some] at hapart
    exact hapart
  case noLabel =>
    intro hbrace hcolon
    rw [hbrace, hcolon] at hlabel
    cases hlabel
  case noted =>
    exact congrArg (· ++ gap.next.chars) hchars

/-! ## The tokens in front of a gap -/

theorem text_ne {j : Nat} (hle : j ≤ gap.count) : (tokenPlace text j).token.text.toList ≠ [] := by
  obtain ⟨_, h⟩ := exists_starts text j
  refine h.lexes.text_ne fun hkind => ?_
  have hplain := gap.plain j hle
  rw [Cursor.isPlain, hkind] at hplain
  cases hplain

/-- Each token takes at least one character. -/
theorem length_after_le {j : Nat} (hle : j ≤ gap.count) :
    gap.front.after.length + (gap.count - j) ≤ (tokenPlace text j).after.length := by
  induction hle using Nat.decreasingInduction with
  | self =>
    rw [Nat.sub_self]
    exact Nat.le_refl _
  | of_succ j hlt ih =>
    obtain ⟨_, h⟩ := exists_starts text j
    have hchars := congrArg List.length h.next.chars_eq
    have hpos := List.length_pos_iff.mpr (gap.text_ne hlt)
    rw [Token.chars, List.length_append, List.length_append] at hchars
    rw [tokenPlace] at hpos ih
    omega

theorem eq_count {j : Nat} (hle : j ≤ gap.count) (h : (tokenPlace text j).after = gap.front.after) :
    j = gap.count := by
  have hlength := gap.length_after_le hle
  rw [h] at hlength
  omega

section Spots

variable {gap} {s : Spot} (hlast : s.last = gap.front.token.text)
  (hleading : s.gap = gap.next.token.leading) (hrest : s.rest = gap.front.after)

include hrest in
/-- A token with only one other token between it and the gap. -/
theorem succ_eq_count {j : Nat} (hlt : j < gap.count) {second : Token}
    (hsecond : second.LexesBefore s.rest)
    (hafter : (tokenPlace text j).after = second.chars ++ s.rest) :
    j + 1 = gap.count ∧ (tokenPlace text (j + 1)).token = second := by
  obtain ⟨_, h⟩ := exists_starts text j
  have hnext := h.next.eq
  rw [hafter, hsecond.ofChars_eq] at hnext
  refine ⟨gap.eq_count hlt ?_, by rw [tokenPlace, hnext]⟩
  rw [tokenPlace, hnext, ← hrest]

include hlast hleading hrest

/-- A token in front of the gap is read in the same way with and without a comment there. -/
theorem piece {j : Nat} (hle : j ≤ gap.count) {front : List Char}
    (hafter : (tokenPlace text j).after = front ++ s.rest) :
    s.Piece (tokenPlace text j).token front := by
  obtain ⟨_, h⟩ := exists_starts text j
  have hplain := gap.plain j hle
  simp only [Cursor.isPlain, Bool.and_eq_true, Bool.not_eq_true',
    Option.isNone_iff_eq_none] at hplain
  obtain ⟨⟨⟨hsolid, htemplate⟩, hmarkup⟩, hsettles⟩ := hplain
  refine ⟨?_, hsolid, htemplate, ?_, hsettles, ?_, ?_, ?_⟩
  · rw [← hafter]
    exact h.lexes
  · rw [← hafter]
    exact hmarkup
  · rintro rfl
    rw [List.nil_append, hrest] at hafter
    obtain rfl := gap.eq_count hle hafter
    exact .inl hlast.symm
  · intro hexport equals hequals htext hfront
    have hlt : j < gap.count := by
      refine Nat.lt_of_le_of_ne hle ?_
      rintro rfl
      rw [← Gap.front, ← hrest, hfront, List.self_eq_append_left, Token.chars, htext] at hafter
      exact List.append_ne_nil_of_right_ne_nil _ (by decide) hafter
    obtain ⟨hcount, htoken⟩ := succ_eq_count hrest hlt hequals (hfront ▸ hafter)
    exact gap.noExport j hlt hexport (by rw [htoken, htext]) hcount
  · intro hlone hfront
    rw [hleading]
    refine gap.lone j hle ?_ (hafter ▸ hlone)
    rcases Nat.lt_or_eq_of_le hle with hlt | heq
    · rcases hfront with rfl | ⟨second, hsecond, rfl⟩
      · rw [List.nil_append, hrest] at hafter
        rw [gap.eq_count hle hafter]
        exact Nat.le_succ _
      · exact Nat.le_of_eq (succ_eq_count hrest hlt hsecond hafter).1.symm
    · omega

/-- The text up to the gap, token by token. -/
theorem exists_front {j : Nat} (hle : j ≤ gap.count) {chars : List Char}
    (h : (tokenPlace text j).Starts chars) :
    ∃ front, chars = front ++ s.rest ∧ s.Front front := by
  induction hle using Nat.decreasingInduction generalizing chars with
  | self =>
    refine ⟨gap.front.token.chars ++ [], ?_,
      .cons (piece hlast hleading hrest (Nat.le_refl _) hrest.symm) .nil⟩
    rw [List.append_nil, hrest]
    exact h.chars_eq.symm
  | of_succ j hlt ih =>
    obtain ⟨front, hfront, hmore⟩ := ih h.next
    have hpiece := piece hlast hleading hrest (Nat.le_of_lt hlt) hfront
    refine ⟨(tokenPlace text j).token.chars ++ front, ?_, .cons hpiece hmore⟩
    rw [List.append_assoc, ← hfront]
    exact h.chars_eq.symm

end Spots

/-- The texts with and without a comment differ in one spot. -/
theorem exists_twins {note : String} (hnote : ¬['*', '/'] <:+: note.toList)
    (hnull : !note.toList.any Cursor.isNull) :
    ∃ (s : Spot) (front : List Char), s.Front front ∧ text.toList = front ++ s.rest ∧
      (gap.noted note).toList = front ++ s.noted := by
  obtain ⟨s, hlast, hleading, hrest, hnoted⟩ := gap.exists_spot hnote hnull
  have hstart : (tokenPlace text 0).Starts text.toList := by
    rw [tokenPlace, Cursor.ofText, ← String.length_toList]
    exact Cursor.starts_ofChars _
  obtain ⟨front, htext, hfront⟩ := exists_front hlast hleading hrest (Nat.zero_le _) hstart
  refine ⟨s, front, hfront, htext, ?_⟩
  have hcut : text.toList = front ++ Trivia.chars gap.before ++
      (Trivia.chars gap.after ++ gap.next.chars) := by
    rw [htext, hrest, ← gap.starts_next.chars_eq, Token.chars, ← gap.chars_gap]
    simp only [List.append_assoc, Cursor.chars]
  have hoffset : gap.offset = (front ++ Trivia.chars gap.before).length := by
    rw [offset, ← String.length_toList, htext, hrest, List.length_append, List.length_append,
      Nat.add_sub_cancel]
  rw [noted, String.toList_ofList, hoffset, hcut, List.take_left, List.drop_left, hnoted]
  simp only [List.append_assoc]

end Gap

end Facade
