-- What pieces look like as lines. A writer adds the same lines wherever it stands: only the
-- margin in front of them, and an empty line right at the start, come from what is there
-- already.
import Facade.Layout
import Mathlib.Tactic.Common

namespace Facade

/-! ## Margins -/

namespace Writer

/-- A line moved to the right by some levels. An empty line stays empty. -/
def shifted (levels : Nat) (text : String) : String :=
  if text.isEmpty then "" else margin levels ++ text

theorem margin_add (j k : Nat) : margin (j + k) = margin j ++ margin k := by
  unfold margin
  rw [Nat.mul_add, ← List.replicate_append_replicate, String.ofList_append]

theorem toList_margin_append (k : Nat) (text : String) :
    (margin k ++ text).toList = List.replicate (2 * k) ' ' ++ text.toList := by
  rw [String.toList_append, margin, String.toList_ofList]

theorem shifted_of_ne {text : String} (h : text ≠ "") (k : Nat) :
    shifted k text = margin k ++ text := by
  unfold shifted
  rw [if_neg (by simpa using h)]

@[simp] theorem shifted_empty (k : Nat) : shifted k "" = "" := by
  simp [shifted]

@[simp] theorem shifted_eq_empty {k : Nat} {text : String} : shifted k text = "" ↔ text = "" := by
  constructor
  · intro h
    by_contra hne
    rw [shifted_of_ne hne] at h
    exact hne (String.append_eq_empty_iff.mp h).2
  · rintro rfl
    exact shifted_empty k

@[simp] theorem shifted_zero (text : String) : shifted 0 text = text := by
  by_cases h : text = ""
  · subst h
    exact shifted_empty 0
  · rw [shifted_of_ne h]
    simp [margin]

theorem shifted_shifted (j k : Nat) (text : String) :
    shifted j (shifted k text) = shifted (j + k) text := by
  by_cases h : text = ""
  · subst h
    simp
  · have hk : shifted k text ≠ "" := fun he => h (shifted_eq_empty.mp he)
    rw [shifted_of_ne hk, shifted_of_ne h, shifted_of_ne h, margin_add, String.append_assoc]

/-- Behind its margin a line is what it was. -/
theorem dropWhile_shifted (k : Nat) (text : String) :
    (shifted k text).toList.dropWhile (· == ' ') = text.toList.dropWhile (· == ' ') := by
  by_cases h : text = ""
  · rw [h, shifted_empty]
  · have hspaces : ∀ c ∈ List.replicate (2 * k) ' ', (c == ' ') = true := by
      intro c hc
      rw [List.eq_of_mem_replicate hc]
      rfl
    rw [shifted_of_ne h, toList_margin_append, List.dropWhile_append_of_pos hspaces]

theorem map_shifted_shifted (j k : Nat) (lines : List String) :
    (lines.map (shifted k)).map (shifted j) = lines.map (shifted (j + k)) := by
  rw [List.map_map]
  apply List.map_congr_left
  intro text _
  exact shifted_shifted j k text

theorem map_shifted_zero (lines : List String) : lines.map (shifted 0) = lines := by
  rw [List.map_congr_left (fun text _ => shifted_zero text), List.map_id']

end Writer

/-! ## The end of a text -/

/-- Whether a text ends with an empty line, when it did or did not before these lines. -/
def endsBlank (before : Bool) (lines : List String) : Bool :=
  (lines.getLast?.map (· == "")).getD before

@[simp] theorem endsBlank_concat (before : Bool) (lines : List String) (line : String) :
    endsBlank before (lines ++ [line]) = (line == "") := by
  simp [endsBlank]

theorem endsBlank_append (before : Bool) (xs ys : List String) :
    endsBlank before (xs ++ ys) = endsBlank (endsBlank before xs) ys := by
  unfold endsBlank
  rw [List.getLast?_append]
  cases ys.getLast? <;> simp

theorem endsBlank_map_shifted (before : Bool) (k : Nat) (lines : List String) :
    endsBlank before (lines.map (Writer.shifted k)) = endsBlank before lines := by
  unfold endsBlank
  rw [List.getLast?_map]
  cases lines.getLast? with
  | none => rfl
  | some line =>
    rw [Bool.eq_iff_iff]
    simp

namespace Writer

/-- Whether the last line is empty. -/
def atBlank (writer : Writer) : Bool :=
  writer.lines.back? == some ""

/-- The writer with more lines, as they are. -/
def extended (writer : Writer) (lines : List String) : Writer :=
  { writer with lines := writer.lines ++ lines.toArray }

@[simp] theorem extended_indent (writer : Writer) (lines : List String) :
    (writer.extended lines).indent = writer.indent := rfl

@[simp] theorem extended_lines (writer : Writer) (lines : List String) :
    (writer.extended lines).lines.toList = writer.lines.toList ++ lines := by
  simp [extended]

@[simp] theorem extended_nil (writer : Writer) : writer.extended [] = writer := by
  simp [extended]

theorem extended_extended (writer : Writer) (xs ys : List String) :
    (writer.extended xs).extended ys = writer.extended (xs ++ ys) := by
  simp [extended]

theorem extended_eq_self {writer : Writer} {lines : List String} :
    writer.extended lines = writer ↔ lines = [] := by
  constructor
  · intro h
    have hl := congrArg (fun w : Writer => w.lines.toList.length) h
    simp only [extended_lines, List.length_append] at hl
    exact List.eq_nil_of_length_eq_zero (by omega)
  · rintro rfl
    exact extended_nil writer

theorem atBlank_extended (writer : Writer) (lines : List String) :
    (writer.extended lines).atBlank = endsBlank writer.atBlank lines := by
  unfold atBlank endsBlank extended
  rw [Array.back?_append, List.back?_toArray]
  cases lines.getLast? <;> simp

/-! ## The steps of a writer -/

theorem line_eq (writer : Writer) (text : String) :
    writer.line text = writer.extended [shifted writer.indent text] := by
  unfold line extended shifted
  simp

theorem blank_eq (writer : Writer) :
    writer.blank = writer.extended (if writer.atBlank then [] else [""]) := by
  unfold blank atBlank
  split
  · rw [extended_nil]
  · simp [extended]

/-- The lines of the head of a block, and the level of its body. -/
theorem openBlock_eq (writer : Writer) (header : String) (indented : Bool) :
    writer.openBlock header indented =
      { writer.extended [shifted writer.indent (header ++ " \x7b")] with
        indent := writer.indent + indented.toNat } := by
  unfold openBlock
  rw [line_eq]
  cases indented <;> rfl

theorem closeBlock_eq (writer : Writer) (indent : Nat) :
    writer.closeBlock indent =
      { writer with indent := indent }.extended [shifted indent "\x7d"] := by
  unfold closeBlock
  rw [line_eq]

end Writer

/-! ## The lines of pieces -/

mutual

/-- The lines of a piece at the left edge. `blank` says whether an empty line comes before. -/
def Piece.layout (blank : Bool) : Piece → List String
  | .line text => [text]
  | .gap => if blank then [] else [""]
  | .block header indented body =>
    (header ++ " \x7b") :: (layoutAll false body).map (Writer.shifted indented.toNat) ++ ["\x7d"]

/-- The lines of pieces in order. -/
def layoutAll (blank : Bool) : List Piece → List String
  | [] => []
  | piece :: rest =>
    piece.layout blank ++ layoutAll (endsBlank blank (piece.layout blank)) rest

end

theorem layoutAll_append (blank : Bool) (xs ys : List Piece) :
    layoutAll blank (xs ++ ys) =
      layoutAll blank xs ++ layoutAll (endsBlank blank (layoutAll blank xs)) ys := by
  induction xs generalizing blank with
  | nil => rfl
  | cons x xs ih =>
    simp only [List.cons_append, layoutAll]
    rw [ih, List.append_assoc, endsBlank_append]

theorem layoutAll_ofLines (blank : Bool) (lines : List String) :
    layoutAll blank (Piece.ofLines lines) = lines := by
  induction lines generalizing blank with
  | nil => rfl
  | cons line lines ih =>
    have hl : layoutAll (endsBlank blank [line]) (lines.map Piece.line) = lines := ih _
    simp only [Piece.ofLines, List.map_cons, layoutAll, Piece.layout, hl, List.singleton_append]

/-- A block ends with a line that is not empty. -/
theorem endsBlank_block (blank before : Bool) (header : String) (indented : Bool)
    (body : List Piece) :
    endsBlank before ((Piece.block header indented body).layout blank) = false := by
  rw [Piece.layout, endsBlank_concat]
  rfl

theorem block_header_ne_empty (header : String) : header ++ " \x7b" ≠ "" := by
  intro h
  exact absurd (String.append_eq_empty_iff.mp h).2 (by decide)

mutual

/-- A writer adds the lines of a piece, moved to its own depth. -/
theorem Writer.put_eq (writer : Writer) (piece : Piece) :
    writer.put piece =
      writer.extended ((piece.layout writer.atBlank).map (shifted writer.indent)) := by
  match piece with
  | .line text =>
    rw [put, line_eq]
    rfl
  | .gap =>
    rw [put, blank_eq, Piece.layout]
    split <;> simp
  | .block header indented body =>
    have hopen : (writer.openBlock header indented).atBlank = false := by
      rw [openBlock_eq]
      change (writer.extended _).atBlank = false
      rw [atBlank_extended]
      simp [endsBlank, shifted_of_ne (block_header_ne_empty header)]
    have hbody := putAll_eq (writer.openBlock header indented) body
    rw [hopen, openBlock_eq] at hbody
    rw [put, openBlock_eq, hbody, closeBlock_eq, Piece.layout]
    simp only [List.map_append, List.map_cons, List.map_nil, map_shifted_shifted]
    simp [extended]

/-- A writer adds the lines of pieces, moved to its own depth. -/
theorem Writer.putAll_eq (writer : Writer) (pieces : List Piece) :
    writer.putAll pieces =
      writer.extended ((layoutAll writer.atBlank pieces).map (shifted writer.indent)) := by
  match pieces with
  | [] => simp [putAll, layoutAll]
  | piece :: rest =>
    rw [putAll, put_eq writer piece, putAll_eq _ rest, atBlank_extended, endsBlank_map_shifted,
      extended_indent, extended_extended, layoutAll, List.map_append]

end

theorem Writer.putAll_append (writer : Writer) (xs ys : List Piece) :
    writer.putAll (xs ++ ys) = (writer.putAll xs).putAll ys := by
  induction xs generalizing writer with
  | nil => rfl
  | cons x xs ih => exact ih (writer.put x)

/-- On a writer that has written nothing, pieces are the lines they are. -/
theorem Writer.empty_putAll_lines (pieces : List Piece) :
    (Writer.empty.putAll pieces).lines.toList = layoutAll false pieces := by
  have hb : Writer.empty.atBlank = false := rfl
  have hi : Writer.empty.indent = 0 := rfl
  rw [putAll_eq, hb, hi, map_shifted_zero, extended_lines]
  rfl

end Facade
