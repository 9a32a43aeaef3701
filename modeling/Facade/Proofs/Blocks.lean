-- Blocks as a reader of the lines finds them. A line that ends with an opening brace heads a
-- block, and a closing brace on a line of its own ends the innermost block that is open.
import Facade.Proofs.TidyPieces
import Mathlib.Algebra.Ring.Int.Defs

namespace Facade

/-! ## Reading lines -/

/-- Whether a line opens a block. -/
def opensBlock (line : String) : Bool :=
  [' ', '\x7b'].isSuffixOf line.toList

/-- Whether a line closes a block. -/
def closesBlock (line : String) : Bool :=
  Text.trim line.toList == ['\x7d']

/-- How many spaces a line starts with. -/
def indentOf (line : String) : Nat :=
  (line.toList.takeWhile (· == ' ')).length

/-- Whether a line, from its first character that is no space, starts as the head of a package. -/
def headsPackage (line : String) : Bool :=
  "package ".toList.isPrefixOf (line.toList.dropWhile (· == ' '))

/-- The heads of the open blocks after one line more, the innermost first. -/
def readLine (heads : List String) (line : String) : List String :=
  if opensBlock line then line :: heads else if closesBlock line then heads.tail else heads

/-- The heads of the blocks that are open after these lines. -/
def openHeads (lines : List String) : List String :=
  lines.foldl readLine []

/-- What a line adds to the depth. -/
def depthChange (line : String) : Int :=
  if opensBlock line then 1 else if closesBlock line then -1 else 0

/-- The depth after these lines: each line that opens a block adds one to it and each that closes
one takes one away. -/
def depth (lines : List String) : Int :=
  (lines.map depthChange).sum

/-- The levels of indentation inside blocks with these heads. Packages have none of their own. -/
def level (heads : List String) : Nat :=
  heads.countP (!headsPackage ·)

/-- A line fits where it stands, inside the blocks with these heads. -/
structure Fits (heads : List String) (line : String) : Prop where
  /-- Two spaces for each level around the line; its own block is not around a closing line. -/
  indented : line ≠ "" →
    indentOf line = 2 * level (if closesBlock line then heads.tail else heads)
  /-- A closing line closes a block, and stands right below its head. -/
  closing : closesBlock line = true →
    ∃ head, heads.head? = some head ∧ indentOf line = indentOf head
  /-- There is no opening brace but the one that opens a block. -/
  openingBraces : line.toList.count '\x7b' = (opensBlock line).toNat
  /-- There is no closing brace but the one that closes a block. -/
  closingBraces : line.toList.count '\x7d' = (closesBlock line).toNat
  /-- The line is one line. -/
  lineFeeds : line.toList.count '\n' = 0

theorem mem_of_opensBlock {line : String} (h : opensBlock line = true) :
    '\x7b' ∈ line.toList :=
  (List.isSuffixOf_iff_suffix.mp h).subset (by simp)

theorem mem_of_closesBlock {line : String} (h : closesBlock line = true) :
    '\x7d' ∈ line.toList := by
  have htrim : Text.trim line.toList = ['\x7d'] := by simpa [closesBlock] using h
  have hmem : '\x7d' ∈ Text.trim line.toList := by simp [htrim]
  unfold Text.trim Text.trimEnd at hmem
  rw [List.mem_reverse] at hmem
  have hstart := (List.dropWhile_sublist _).subset hmem
  rw [List.mem_reverse] at hstart
  exact (List.dropWhile_sublist _).subset hstart

theorem opensBlock_eq_false {line : String} (h : line.toList.count '\x7b' = 0) :
    opensBlock line = false :=
  Bool.eq_false_iff.mpr fun ho => List.count_eq_zero.mp h (mem_of_opensBlock ho)

theorem closesBlock_eq_false {line : String} (h : line.toList.count '\x7d' = 0) :
    closesBlock line = false :=
  Bool.eq_false_iff.mpr fun hc => List.count_eq_zero.mp h (mem_of_closesBlock hc)

/-- A line without braces leaves the blocks as they are, so only its indentation is asked for. -/
theorem fits_of_no_braces {heads : List String} {line : String}
    (hopen : line.toList.count '\x7b' = 0) (hclose : line.toList.count '\x7d' = 0)
    (hfeed : line.toList.count '\n' = 0)
    (hindent : line ≠ "" → indentOf line = 2 * level heads) :
    Fits heads line ∧ readLine heads line = heads := by
  have ho := opensBlock_eq_false hopen
  have hc := closesBlock_eq_false hclose
  refine ⟨⟨?_, ?_, ?_, ?_, hfeed⟩, ?_⟩
  · rw [hc]
    exact hindent
  · intro h
    rw [hc] at h
    cases h
  · rw [ho, hopen]
    rfl
  · rw [hc, hclose]
    rfl
  · simp [readLine, ho, hc]

/-! ## Lines behind a margin -/

theorem count_margin_append {c : Char} (hc : c ≠ ' ') (k : Nat) (text : String) :
    (Writer.margin k ++ text).toList.count c = text.toList.count c := by
  rw [Writer.toList_margin_append]
  simp [List.count_replicate, hc.symm]

/-- A text that starts with no space stands right behind its margin. -/
theorem margin_append_place {text : String} {c : Char} {rest : List Char}
    (htext : text.toList = c :: rest) (hc : c ≠ ' ') (k : Nat) :
    indentOf (Writer.margin k ++ text) = 2 * k ∧
      (Writer.margin k ++ text).toList.dropWhile (· == ' ') = text.toList := by
  have hspaces : ∀ c ∈ List.replicate (2 * k) ' ', (c == ' ') = true := by
    intro c hc
    rw [List.eq_of_mem_replicate hc]
    rfl
  unfold indentOf
  rw [Writer.toList_margin_append, List.takeWhile_append_of_pos hspaces,
    List.dropWhile_append_of_pos hspaces, htext]
  simp [hc]

theorem BraceFree.count_eq_zero {text : String} (h : BraceFree text) {c : Char}
    (hc : isBreak c = true) : text.toList.count c = 0 :=
  List.count_eq_zero.mpr fun hm => absurd (h c hm) (by rw [hc]; decide)

theorem fits_empty (heads : List String) : Fits heads "" ∧ readLine heads "" = heads :=
  fits_of_no_braces rfl rfl rfl (absurd rfl)

theorem CodeLine.fits {text : String} (h : CodeLine text) (heads : List String) :
    Fits heads (Writer.margin (level heads) ++ text) ∧
      readLine heads (Writer.margin (level heads) ++ text) = heads := by
  apply fits_of_no_braces
  · rw [count_margin_append (by decide), h.1.count_eq_zero rfl]
  · rw [count_margin_append (by decide), h.1.count_eq_zero rfl]
  · rw [count_margin_append (by decide), h.1.count_eq_zero rfl]
  · intro _
    obtain ⟨c, rest, htext, hc⟩ := h.exists_cons
    exact (margin_append_place htext hc (level heads)).1

/-! ## The lines of a block -/

theorem BlockHead.codeLine {indented : Bool} {header : String} (h : BlockHead indented header) :
    CodeLine header := by
  cases h with
  | package hpath => exact Begins.append (by decide) hpath
  | code hstart =>
    obtain ⟨c, rest, hchars, hc⟩ := hstart.exists_cons
    refine ⟨hstart.1, ?_⟩
    rw [hchars]
    exact (Bool.and_eq_true_iff.mp hc).1

theorem BlockHead.startsPackage {indented : Bool} {header : String} (h : BlockHead indented header)
    (rest : String) : "package ".toList.isPrefixOf (header ++ rest).toList = !indented := by
  cases h with
  | @package path hpath =>
    rw [Bool.not_false, List.isPrefixOf_iff_prefix, String.append_assoc, String.toList_append]
    exact List.prefix_append _ _
  | code hstart =>
    obtain ⟨c, more, hchars, hc⟩ := hstart.exists_cons
    have hp : ('p' == c) = false := by
      rw [beq_eq_false_iff_ne]
      rintro rfl
      exact absurd hc (by decide)
    have hword : "package ".toList = 'p' :: "ackage ".toList := rfl
    rw [hword, String.toList_append, hchars, List.cons_append, List.isPrefixOf_cons_cons, hp,
      Bool.false_and, Bool.not_true]

theorem BlockHead.fits {indented : Bool} {header : String} (h : BlockHead indented header)
    {heads : List String} {line : String}
    (hline : line = Writer.margin (level heads) ++ (header ++ " \x7b")) :
    Fits heads line ∧ readLine heads line = line :: heads ∧ indentOf line = 2 * level heads ∧
      level (line :: heads) = level heads + indented.toNat := by
  have hcode := h.codeLine
  obtain ⟨c, rest, hchars, hc⟩ := hcode.exists_cons
  have hstart : (header ++ " \x7b").toList = c :: (rest ++ [' ', '\x7b']) := by
    rw [String.toList_append, hchars]
    rfl
  have hplace := margin_append_place hstart hc (level heads)
  rw [← hline] at hplace
  have hcount : ∀ c, isBreak c = true → line.toList.count c = " \x7b".toList.count c := by
    intro c hbreak
    have hink : c ≠ ' ' := by
      rintro rfl
      cases hbreak
    rw [hline, count_margin_append hink, String.toList_append, List.count_append,
      hcode.1.count_eq_zero hbreak, Nat.zero_add]
  have hopen : line.toList.count '\x7b' = 1 := hcount _ rfl
  have hclose : line.toList.count '\x7d' = 0 := hcount _ rfl
  have ho : opensBlock line = true := by
    rw [opensBlock, List.isSuffixOf_iff_suffix, hline, ← String.append_assoc,
      String.toList_append]
    exact List.suffix_append _ _
  have hc := closesBlock_eq_false hclose
  have hhead : headsPackage line = !indented := by
    rw [headsPackage, hplace.2, h.startsPackage]
  refine ⟨⟨?_, ?_, ?_, ?_, hcount _ rfl⟩, ?_, hplace.1, ?_⟩
  · intro _
    rw [hc, hplace.1]
    rfl
  · intro hclosing
    rw [hc] at hclosing
    cases hclosing
  · rw [hopen, ho]
    rfl
  · rw [hclose, hc]
    rfl
  · rw [readLine, if_pos ho]
  · rw [level, List.countP_cons, hhead, Bool.not_not]
    cases indented <;> rfl

theorem closing_fits {head : String} {heads : List String}
    (hhead : indentOf head = 2 * level heads) :
    Fits (head :: heads) (Writer.margin (level heads) ++ "\x7d") ∧
      readLine (head :: heads) (Writer.margin (level heads) ++ "\x7d") = heads := by
  have hchars : "\x7d".toList = '\x7d' :: [] := rfl
  have hindent := (margin_append_place hchars (by decide) (level heads)).1
  have hopen : (Writer.margin (level heads) ++ "\x7d").toList.count '\x7b' = 0 :=
    count_margin_append (by decide) _ _
  have ho := opensBlock_eq_false hopen
  have hc : closesBlock (Writer.margin (level heads) ++ "\x7d") = true := by
    have hspaces : ∀ c ∈ List.replicate (2 * level heads) ' ', Text.isBlank c = true := by
      intro c hc
      rw [List.eq_of_mem_replicate hc]
      rfl
    rw [closesBlock, Writer.toList_margin_append, Text.trim, List.dropWhile_append_of_pos hspaces]
    rfl
  refine ⟨⟨?_, ?_, ?_, ?_, count_margin_append (by decide) _ _⟩, ?_⟩
  · intro _
    rw [hc, hindent]
    rfl
  · intro _
    exact ⟨head, rfl, by rw [hindent, hhead]⟩
  · rw [hopen, ho]
    rfl
  · rw [count_margin_append (by decide), hc]
    rfl
  · simp [readLine, ho, hc]

/-! ## Whole texts -/

/-- Read from the open blocks `heads`, every line fits, the blocks `base` stay open, and in the
end they are the only ones. -/
inductive Reads (base : List String) : List String → List String → Prop
  | done : Reads base base []
  | line {heads : List String} {line : String} {rest : List String} :
      base <:+ heads → Fits heads line → Reads base (readLine heads line) rest →
      Reads base heads (line :: rest)

namespace Reads

variable {base heads : List String} {rows : List String}

theorem suffix (h : Reads base heads rows) : base <:+ heads := by
  cases h with
  | done => exact List.suffix_rfl
  | line hbase _ _ => exact hbase

theorem eq_of_nil (h : Reads base heads []) : heads = base := by
  cases h
  rfl

/-- One more line that leaves the blocks as they are. -/
theorem plain {line : String} (hline : Fits heads line ∧ readLine heads line = heads)
    (h : Reads base heads rows) : Reads base heads (line :: rows) :=
  .line h.suffix hline.1 (by rwa [hline.2])

theorem append {outer more : List String} (h : Reads base heads rows) (hbase : outer <:+ base)
    (hmore : Reads outer base more) : Reads outer heads (rows ++ more) := by
  induction h with
  | done => exact hmore
  | line hheads hfits _ ih => exact .line (hbase.trans hheads) hfits ih

/-- The rest of the lines is read from the blocks that those before it leave open. -/
theorem rest {before after : List String} (h : Reads base heads (before ++ after)) :
    Reads base (before.foldl readLine heads) after := by
  induction before generalizing heads with
  | nil => exact h
  | cons line before ih =>
    cases h with
    | line _ _ hrest => exact ih hrest

theorem fits {before after : List String} {line : String}
    (h : Reads base heads (before ++ line :: after)) :
    Fits (before.foldl readLine heads) line := by
  cases h.rest with
  | line _ hfits _ => exact hfits

end Reads

theorem Fits.readLine_length {heads : List String} {line : String} (h : Fits heads line) :
    ((readLine heads line).length : Int) = heads.length + depthChange line := by
  unfold readLine depthChange
  split
  · simp
  · split
    · rename_i hc
      obtain ⟨head, hhead, _⟩ := h.closing hc
      obtain ⟨outer, rfl⟩ := List.head?_eq_some_iff.mp hhead
      rw [List.tail_cons, List.length_cons]
      omega
    · rw [Int.add_zero]

/-- The depth is the number of open blocks. -/
theorem Reads.depth_eq {base heads before after : List String}
    (h : Reads base heads (before ++ after)) :
    ((before.foldl readLine heads).length : Int) = heads.length + depth before := by
  induction before generalizing heads with
  | nil => exact (Int.add_zero _).symm
  | cons line before ih =>
    cases h with
    | line _ hfits hrest =>
      have hstep := hfits.readLine_length
      have hdepth : depth (line :: before) = depthChange line + depth before := List.sum_cons
      rw [List.foldl_cons, ih hrest, hstep, hdepth]
      omega

/-- Lines without blocks leave the open blocks as they are. -/
theorem foldl_readLine_eq_self {lines : List String}
    (h : ∀ line ∈ lines, opensBlock line = false ∧ closesBlock line = false)
    (heads : List String) : lines.foldl readLine heads = heads := by
  induction lines with
  | nil => rfl
  | cons line lines ih =>
    have hline := h line List.mem_cons_self
    have hread : readLine heads line = heads := by simp [readLine, hline]
    rw [List.foldl_cons, hread]
    exact ih fun next hn => h next (List.mem_cons_of_mem line hn)

/-! ## Pieces as they are read -/

theorem reads_layoutAll {pieces : List Piece} {heads : List String}
    (h : ∀ piece ∈ pieces, ∀ blank,
      Reads heads heads ((piece.layout blank).map (Writer.shifted (level heads)))) (blank : Bool) :
    Reads heads heads ((layoutAll blank pieces).map (Writer.shifted (level heads))) := by
  induction pieces generalizing blank with
  | nil => exact .done
  | cons piece rest ih =>
    rw [layoutAll, List.map_append]
    exact (h piece List.mem_cons_self blank).append List.suffix_rfl
      (ih (fun next hn => h next (List.mem_cons_of_mem piece hn)) _)

/-- A piece in good order, written inside open blocks, is read back as it was meant. -/
theorem Piece.Tidy.reads {piece : Piece} (h : piece.Tidy) (heads : List String) (blank : Bool) :
    Reads heads heads ((piece.layout blank).map (Writer.shifted (level heads))) := by
  induction h generalizing heads blank with
  | empty =>
    rw [Piece.layout, List.map_singleton, Writer.shifted_empty]
    exact .plain (fits_empty heads) .done
  | @line text hcode =>
    obtain ⟨c, rest, hchars, _⟩ := hcode.exists_cons
    have hne : text ≠ "" := by
      rintro rfl
      cases hchars
    rw [Piece.layout, List.map_singleton, Writer.shifted_of_ne hne]
    exact .plain (hcode.fits heads) .done
  | gap =>
    rw [Piece.layout]
    split
    · exact .done
    · rw [List.map_singleton, Writer.shifted_empty]
      exact .plain (fits_empty heads) .done
  | @block header indented body hhead _ ih =>
    -- The body is read inside the new block, the closing line takes it away again.
    obtain ⟨line, hline⟩ : ∃ line, line = Writer.margin (level heads) ++ (header ++ " \x7b") :=
      ⟨_, rfl⟩
    obtain ⟨hfits, hread, hindent, hlevel⟩ := hhead.fits hline
    obtain ⟨hclosing, hafter⟩ := closing_fits hindent
    have hbody := reads_layoutAll (fun piece hp => ih piece hp (line :: heads)) false
    rw [hlevel, ← Writer.map_shifted_shifted] at hbody
    have hend : Reads heads (line :: heads) [Writer.margin (level heads) ++ "\x7d"] :=
      .line (List.suffix_cons line heads) hclosing (by rw [hafter]; exact .done)
    rw [Piece.layout, List.cons_append, List.map_cons, List.map_append, List.map_singleton,
      Writer.shifted_of_ne (block_header_ne_empty header), Writer.shifted_of_ne (by decide),
      ← hline]
    refine .line List.suffix_rfl hfits ?_
    rw [hread]
    exact hbody.append (List.suffix_cons line heads) hend

/-- Inside packages alone, pieces in good order are read as they stand. -/
theorem TidyPieces.reads {pieces : List Piece} (h : TidyPieces pieces) {heads : List String}
    (hlevel : level heads = 0) : Reads heads heads (layoutAll false pieces) := by
  have hreads := reads_layoutAll (fun piece hp => (h piece hp).reads heads) false
  rwa [hlevel, Writer.map_shifted_zero] at hreads

/-- Around one block that closes with the last line, no block is open exactly before its head and
after the last line. -/
theorem openHeads_eq_nil_iff {opening inside : List String} {head closing : String}
    (hopening : ∀ line ∈ opening, opensBlock line = false ∧ closesBlock line = false)
    (hhead : readLine [] head = [head]) (hinside : Reads [head] [head] inside)
    (hall : Reads [] [] (opening ++ head :: (inside ++ [closing]))) {before after : List String}
    (hsplit : opening ++ head :: (inside ++ [closing]) = before ++ after) :
    openHeads before = [] ↔ before.length ≤ opening.length ∨ after = [] := by
  -- The lines are cut after the opening ones, or among them.
  rcases List.append_eq_append_iff.mp hsplit with ⟨mid, rfl, hrest⟩ | ⟨mid, rfl, _⟩
  · have hstart : openHeads (opening ++ mid) = mid.foldl readLine [] := by
      rw [openHeads, List.foldl_append, foldl_readLine_eq_self hopening]
    cases mid with
    | nil => exact iff_of_true hstart (Or.inl (by simp))
    | cons line mid =>
      obtain ⟨rfl, htail⟩ := List.cons_eq_cons.mp hrest
      rcases List.eq_nil_or_concat after with rfl | ⟨more, last, rfl⟩
      · rw [hsplit] at hall
        exact iff_of_true hall.rest.eq_of_nil (Or.inr rfl)
      · -- The last line is still to come, so the block with this head is open.
        have hbody : inside = mid ++ more := by
          have hsnoc : inside ++ [closing] = (mid ++ more) ++ [last] := by simpa using htail
          exact (List.append_inj' hsnoc rfl).1
        rw [hbody] at hinside
        have hopen := hinside.rest.suffix
        refine iff_of_false ?_ (by simp)
        rw [hstart, List.foldl_cons, hhead]
        intro hnil
        rw [hnil, List.suffix_nil] at hopen
        cases hopen
  · have hbefore : openHeads before = [] :=
      foldl_readLine_eq_self (fun line hl => hopening line (List.mem_append_left mid hl)) []
    exact iff_of_true hbefore (Or.inl (by simp))

theorem Reads.lineFeeds {base heads rows : List String} (h : Reads base heads rows) :
    ∀ row ∈ rows, '\n' ∉ row.toList := by
  induction h with
  | done =>
    intro row hr
    cases hr
  | line _ hfits _ ih => exact List.forall_mem_cons.mpr ⟨List.count_eq_zero.mp hfits.lineFeeds, ih⟩

/-! ## Files -/

theorem DeclarationFile.reads_lines {file : DeclarationFile} (hnames : AllBraceFree file.names)
    {package : String} (hname : BraceFree package) : Reads [] [] (file.lines package) := by
  rw [← DeclarationFile.layoutAll_pieces]
  exact (DeclarationFile.pieces_tidy hnames hname).reads rfl

theorem DeclarationFile.lines_facade {file : DeclarationFile} (hnames : AllBraceFree file.names)
    {package : String} (hname : BraceFree package) :
    Text.lines (file.facade package) = file.lines package := by
  have hne : file.lines package ≠ [] := by simp [DeclarationFile.lines_eq]
  rw [DeclarationFile.facade_eq]
  exact Text.lines_intercalate hne (DeclarationFile.reads_lines hnames hname).lineFeeds

/-- No block of a file is open up to the head of its package and after the last line, and only
there. -/
theorem DeclarationFile.openHeads_eq_nil_iff {file : DeclarationFile}
    (hnames : AllBraceFree file.names) {package : String} (hname : BraceFree package)
    {before after : List String} (hsplit : file.lines package = before ++ after) :
    openHeads before = [] ↔ before.length ≤ openingLines.length ∨ after = [] := by
  have hopening : ∀ line ∈ openingLines, opensBlock line = false ∧ closesBlock line = false := by
    decide +kernel
  have hedge : Name.packageClause package ++ " \x7b" =
      Writer.margin (level []) ++ (Name.packageClause package ++ " \x7b") := by
    rw [← Writer.shifted_of_ne (block_header_ne_empty _)]
    exact (Writer.shifted_zero _).symm
  obtain ⟨_, hread, _, hlevel⟩ := (packageClause_head hname).fits hedge
  have hinside := (DeclarationFile.inside_tidy hnames hname).reads hlevel
  have hwhole := DeclarationFile.reads_lines hnames hname
  rw [DeclarationFile.lines_eq] at hwhole hsplit
  exact Facade.openHeads_eq_nil_iff hopening hread hinside hwhole hsplit

/-! ## The laws -/

/-- Blocks are balanced and exactly indented. Where no name has a brace or a line feed, the lines of
a facade are read with a depth that is never negative, and zero only up to the package head and
after the last line; each line fits the blocks it stands in, so it is indented by two spaces for
each of them that is no package, a closing brace stands right below its head, and there are no
other braces. -/
theorem every_block_is_closed_and_indented (file : DeclarationFile) (package : String)
    (hpackage : package ≠ "") (hname : BraceFree package) (hnames : AllBraceFree file.names) :
    ∃ text, convertTree file package = .ok text ∧
      text = "\n".intercalate (Text.lines text) ++ "\n" ∧
      (Text.lines text)[5]? = some (Name.packageClause package ++ " \x7b") ∧
      (∀ before after, Text.lines text = before ++ after →
        0 ≤ depth before ∧ (depth before = 0 ↔ before.length ≤ 5 ∨ after = [])) ∧
      depth (Text.lines text) = 0 ∧
      ∀ before line after, Text.lines text = before ++ line :: after →
        Fits (openHeads before) line := by
  have hreads := DeclarationFile.reads_lines hnames hname
  have hdepth : ∀ before after, file.lines package = before ++ after →
      0 ≤ depth before ∧ (depth before = 0 ↔ before.length ≤ 5 ∨ after = []) := by
    intro before after hsplit
    have hiff := DeclarationFile.openHeads_eq_nil_iff hnames hname hsplit
    rw [← List.length_eq_zero_iff] at hiff
    rw [hsplit] at hreads
    have hlength : ((openHeads before).length : Int) = (0 : Nat) + depth before := hreads.depth_eq
    refine ⟨by omega, Iff.trans ?_ hiff⟩
    omega
  refine ⟨file.facade package, convertTree_eq file hpackage, ?_⟩
  rw [DeclarationFile.lines_facade hnames hname]
  refine ⟨file.facade_eq package, ?_, hdepth, ?_, ?_⟩
  · rw [DeclarationFile.lines_eq]
    rfl
  · exact (hdepth _ [] (List.append_nil _).symm).2.mpr (Or.inr rfl)
  · intro before line after hsplit
    rw [hsplit] at hreads
    exact hreads.fits

/-- A trait inside a companion, in a namespace of a namespace: its property stands in five blocks,
three of them packages. -/
theorem a_nested_property_is_indented_by_two_of_its_five_blocks :
    let file : DeclarationFile := ⟨[.module "outer" false [.module "inner" false
      [.interfaceDecl ⟨"Box", [], [],
        [.property .everyone false "at" (.object [.property .everyone false "x"
          (.keyword "number") false false false]) false false false]⟩]]]⟩
    let before := openingLines ++ ["package app \x7b", "", "package outer \x7b", "",
      "package inner \x7b", "", "@js.native", "trait Box extends js.Object \x7b",
      "  var at: Box.At = js.native", "\x7d", "", "object Box \x7b", "  @js.native",
      "  trait At extends js.Object \x7b"]
    let after := ["  \x7d", "\x7d", "", "\x7d", "", "\x7d", "", "", "\x7d"]
    BraceFree "app" ∧ AllBraceFree file.names ∧
      ∃ text, convertTree file "app" = .ok text ∧ depth (Text.lines text) = 0 ∧
        Text.lines text = before ++ "    var x: Double = js.native" :: after ∧
        openHeads before = ["  trait At extends js.Object \x7b", "object Box \x7b",
          "package inner \x7b", "package outer \x7b", "package app \x7b"] ∧
        Fits (openHeads before) "    var x: Double = js.native" := by
  intro file before after
  have hname : BraceFree "app" := by decide
  have hnames : AllBraceFree file.names := by decide +kernel
  obtain ⟨text, htext, _, _, _, hdepth, hfits⟩ :=
    every_block_is_closed_and_indented file "app" (by decide) hname hnames
  have hsplit : Text.lines text = before ++ "    var x: Double = js.native" :: after := by
    rw [convertTree_eq file (by decide)] at htext
    rw [← Except.ok.inj htext, DeclarationFile.lines_facade hnames hname]
    decide +kernel
  have hheads : openHeads before = ["  trait At extends js.Object \x7b", "object Box \x7b",
      "package inner \x7b", "package outer \x7b", "package app \x7b"] := by
    decide +kernel
  exact ⟨hname, hnames, text, htext, hdepth, hsplit, hheads, hfits _ _ _ hsplit⟩

end Facade
