-- Runs of a writer. A transcript says what each line of a run is and which blocks are open, from
-- the steps alone; the lines and the indentation of the writer are those of its transcript, so
-- every block is closed once, right below its head, however it is left.
import Facade.Proofs.Layout
import Mathlib.Data.List.Induction
import Mathlib.Data.List.Nodup

namespace Facade

/-! ## Transcripts -/

/-- A block that a run opens. -/
structure OpenedBlock where
  /-- How many blocks were opened before it. -/
  number : Nat
  header : String
  indented : Bool
  /-- How many indented blocks are around it. -/
  depth : Nat
  deriving DecidableEq, Repr

namespace OpenedBlock

/-- The line that opens the block. -/
def headLine (block : OpenedBlock) : String :=
  Writer.margin block.depth ++ (block.header ++ " \x7b")

/-- The line that closes the block. -/
def footLine (block : OpenedBlock) : String :=
  Writer.margin block.depth ++ "\x7d"

/-- The step that opens the block. -/
def opening (block : OpenedBlock) : WriteStep :=
  .openBlock block.header block.indented

/-- How many of these blocks are indented. -/
def levels (blocks : List OpenedBlock) : Nat :=
  blocks.countP (·.indented)

end OpenedBlock

/-- Whether a step opens a block. -/
def WriteStep.opens : WriteStep → Bool
  | .openBlock _ _ => true
  | _ => false

/-- What a line of a run is. -/
inductive LineRole where
  | plain (depth : Nat) (text : String)
  | head (block : OpenedBlock)
  | foot (block : OpenedBlock)
  deriving DecidableEq, Repr

/-- The line itself. -/
def LineRole.line : LineRole → String
  | .plain depth text => Writer.shifted depth text
  | .head block => block.headLine
  | .foot block => block.footLine

/-- What a run has written and where it stands. -/
structure Transcript where
  /-- What the lines are, in the order of writing. -/
  roles : List LineRole
  /-- All blocks that were opened, the first one first. -/
  opened : List OpenedBlock
  /-- The blocks that are open, the innermost first. -/
  inside : List OpenedBlock

namespace Transcript

/-- Nothing is written and no block is open. -/
def start : Transcript := ⟨[], [], []⟩

/-- The lines of a transcript. -/
def lines (transcript : Transcript) : List String :=
  transcript.roles.map LineRole.line

/-- The block that a step opens. -/
def nextBlock (transcript : Transcript) (header : String) (indented : Bool) : OpenedBlock :=
  ⟨transcript.opened.length, header, indented, OpenedBlock.levels transcript.inside⟩

/-- Takes one step. An open block is closed by its own step or, with all others, by leaving every
open block. -/
def step (transcript : Transcript) : WriteStep → Transcript
  | .line text =>
    { transcript with
      roles := transcript.roles ++ [.plain (OpenedBlock.levels transcript.inside) text] }
  | .blank =>
    if endsBlank false transcript.lines then transcript
    else { transcript with roles := transcript.roles ++ [.plain 0 ""] }
  | .openBlock header indented =>
    let block := transcript.nextBlock header indented
    ⟨transcript.roles ++ [.head block], transcript.opened ++ [block], block :: transcript.inside⟩
  | .closeBlock =>
    match transcript.inside with
    | [] => transcript
    | block :: outer => ⟨transcript.roles ++ [.foot block], transcript.opened, outer⟩
  | .abort => ⟨transcript.roles ++ transcript.inside.map .foot, transcript.opened, []⟩

/-- The transcript of steps in order. -/
def ofSteps (steps : List WriteStep) : Transcript :=
  steps.foldl step start

theorem ofSteps_concat (steps : List WriteStep) (next : WriteStep) :
    ofSteps (steps ++ [next]) = (ofSteps steps).step next := by
  simp [ofSteps]

theorem opened_step (transcript : Transcript) (next : WriteStep) :
    (transcript.step next).opened.map (·.opening) =
      transcript.opened.map (·.opening) ++ [next].filter (·.opens) := by
  cases next with
  | line text => exact (List.append_nil _).symm
  | blank =>
    rw [step]
    split <;> exact (List.append_nil _).symm
  | openBlock header indented => simp [step, nextBlock, OpenedBlock.opening, WriteStep.opens]
  | closeBlock =>
    rw [step]
    split <;> exact (List.append_nil _).symm
  | abort => exact (List.append_nil _).symm

/-- The blocks of a run are those that its steps open, in order. -/
theorem opened_ofSteps (steps : List WriteStep) :
    (ofSteps steps).opened.map (·.opening) = steps.filter (·.opens) := by
  induction steps using List.reverseRecOn with
  | nil => rfl
  | append_singleton steps next ih => rw [ofSteps_concat, opened_step, ih, List.filter_append]

/-! ## Blocks of a transcript -/

/-- Each of these blocks knows how many indented blocks come after it, which are those around
it. -/
def Nested : List OpenedBlock → Prop
  | [] => True
  | block :: outer => block.depth = OpenedBlock.levels outer ∧ Nested outer

/-- The block that a line opens. -/
def opening? : LineRole → Option OpenedBlock
  | .head block => some block
  | _ => none

/-- The block that a line closes. -/
def closing? : LineRole → Option OpenedBlock
  | .foot block => some block
  | _ => none

theorem filterMap_opening?_foot (blocks : List OpenedBlock) :
    (blocks.map LineRole.foot).filterMap opening? = [] := by
  simp [List.filterMap_map, Function.comp_def, opening?]

theorem filterMap_closing?_foot (blocks : List OpenedBlock) :
    (blocks.map LineRole.foot).filterMap closing? = blocks := by
  simp [List.filterMap_map, Function.comp_def, closing?]

theorem count_head (roles : List LineRole) (block : OpenedBlock) :
    roles.count (.head block) = (roles.filterMap opening?).count block := by
  induction roles with
  | nil => rfl
  | cons role rest ih => cases role <;> simp [opening?, List.filterMap_cons, List.count_cons, ih]

theorem count_foot (roles : List LineRole) (block : OpenedBlock) :
    roles.count (.foot block) = (roles.filterMap closing?).count block := by
  induction roles with
  | nil => rfl
  | cons role rest ih => cases role <;> simp [closing?, List.filterMap_cons, List.count_cons, ih]

/-- The books of a transcript are in order. -/
structure Sound (transcript : Transcript) : Prop where
  /-- Blocks are numbered as they are opened. -/
  numbered : transcript.opened.map (·.number) = List.range transcript.opened.length
  /-- Every block has its head, in the order of opening. -/
  heads : transcript.roles.filterMap opening? = transcript.opened
  /-- Every block is closed once or still open. -/
  feet : (transcript.roles.filterMap closing? ++ transcript.inside).Perm transcript.opened
  nested : Nested transcript.inside
  /-- No block is closed above its head. -/
  ordered : ∀ before block after, transcript.roles = before ++ .foot block :: after →
    .head block ∈ before

namespace Sound

variable {transcript : Transcript}

theorem nodup (h : transcript.Sound) : transcript.opened.Nodup := by
  apply List.Nodup.of_map OpenedBlock.number
  rw [h.numbered]
  exact List.nodup_range

theorem inside_subset (h : transcript.Sound) : transcript.inside ⊆ transcript.opened := by
  intro block hblock
  exact h.feet.subset (List.mem_append_right _ hblock)

/-- The head of every block that is open is written. -/
theorem head_mem (h : transcript.Sound) {block : OpenedBlock} (hblock : block ∈ transcript.inside) :
    .head block ∈ transcript.roles := by
  have hopened := h.inside_subset hblock
  rw [← h.heads] at hopened
  obtain ⟨role, hrole, hhead⟩ := List.mem_filterMap.mp hopened
  cases role with
  | head other =>
    cases hhead
    exact hrole
  | plain | foot => cases hhead

/-- More lines keep every closing line below its head, when those among them that close a block
close one whose head is written. -/
theorem ordered_append {added : List LineRole} (h : transcript.Sound)
    (hadded : ∀ block, .foot block ∈ added → .head block ∈ transcript.roles) :
    ∀ before block after, transcript.roles ++ added = before ++ .foot block :: after →
      .head block ∈ before := by
  intro before block after hsplit
  rcases List.append_eq_append_iff.mp hsplit with ⟨more, rfl, hmore⟩ | ⟨rest, hroles, hrest⟩
  · apply List.mem_append_left
    apply hadded
    rw [hmore]
    simp
  · cases rest with
    | nil =>
      rw [List.append_nil] at hroles
      rw [List.nil_append] at hrest
      rw [← hroles]
      apply hadded
      rw [← hrest]
      simp
    | cons role rest =>
      obtain ⟨rfl, -⟩ := List.cons.inj hrest
      exact h.ordered before block rest hroles

/-- A line that opens and closes nothing leaves the books in order. -/
theorem concat_plain (h : transcript.Sound) (depth : Nat) (text : String) :
    Sound { transcript with roles := transcript.roles ++ [.plain depth text] } where
  numbered := h.numbered
  heads := by simp [h.heads, opening?]
  feet := by simpa [List.filterMap_cons, closing?] using h.feet
  nested := h.nested
  ordered := h.ordered_append (by simp)

theorem openBlock (h : transcript.Sound) (header : String) (indented : Bool) :
    Sound (transcript.step (.openBlock header indented)) where
  numbered := by
    simp only [step, List.map_append, h.numbered, List.length_append, List.range_succ,
      List.length_singleton]
    rfl
  heads := by simp [step, h.heads, opening?]
  feet := by
    simp only [step, List.filterMap_append, List.filterMap_cons, closing?, List.filterMap_nil,
      List.append_nil]
    exact List.perm_middle.trans
      ((h.feet.cons _).trans (List.perm_append_singleton _ _).symm)
  nested := ⟨rfl, h.nested⟩
  ordered := h.ordered_append (by simp)

theorem closeBlock (h : transcript.Sound) : Sound (transcript.step .closeBlock) := by
  cases hinside : transcript.inside with
  | nil => simpa [step, hinside] using h
  | cons block outer =>
    have hnested := h.nested
    rw [hinside] at hnested
    simp only [step, hinside]
    refine ⟨h.numbered, ?_, ?_, hnested.2, ?_⟩
    · simp [h.heads, opening?]
    · have hfeet := h.feet
      rw [hinside] at hfeet
      simpa [closing?] using hfeet
    · refine h.ordered_append fun other hother => ?_
      rw [List.mem_singleton, LineRole.foot.injEq] at hother
      subst hother
      exact h.head_mem (by simp [hinside])

theorem abort (h : transcript.Sound) : Sound (transcript.step .abort) := by
  simp only [step]
  refine ⟨h.numbered, ?_, ?_, trivial, ?_⟩
  · rw [List.filterMap_append, h.heads, filterMap_opening?_foot, List.append_nil]
  · rw [List.filterMap_append, filterMap_closing?_foot, List.append_nil]
    exact h.feet
  · refine h.ordered_append fun block hblock => ?_
    obtain ⟨other, hother, hfoot⟩ := List.mem_map.mp hblock
    cases hfoot
    exact h.head_mem hother

/-- Every step leaves the books in order. -/
theorem step (h : transcript.Sound) (next : WriteStep) : Sound (transcript.step next) := by
  cases next with
  | line text => exact h.concat_plain _ text
  | blank =>
    rw [Transcript.step]
    split
    · exact h
    · exact h.concat_plain 0 ""
  | openBlock header indented => exact h.openBlock header indented
  | closeBlock => exact h.closeBlock
  | abort => exact h.abort

end Sound

theorem sound_start : Sound start where
  numbered := rfl
  heads := rfl
  feet := .refl _
  nested := trivial
  ordered := by simp [start]

theorem sound_ofSteps (steps : List WriteStep) : Sound (ofSteps steps) := by
  induction steps using List.reverseRecOn with
  | nil => exact sound_start
  | append_singleton steps next ih =>
    rw [ofSteps_concat]
    exact ih.step next

/-- A block that was opened has one line that opens it, and one that closes it unless it is
open. -/
theorem Sound.counts {transcript : Transcript} (h : transcript.Sound) {block : OpenedBlock}
    (hblock : block ∈ transcript.opened) :
    transcript.roles.count (.head block) = 1 ∧
      transcript.roles.count (.foot block) = if block ∈ transcript.inside then 0 else 1 := by
  have hone := List.count_eq_one_of_mem h.nodup hblock
  have hall := h.feet.count_eq block
  have hinside : transcript.inside.Nodup :=
    ((h.feet.nodup_iff.mpr h.nodup).of_append_right)
  rw [List.count_append, hone] at hall
  rw [count_head, count_foot, h.heads]
  refine ⟨hone, ?_⟩
  split
  · rename_i hopen
    have := List.count_eq_one_of_mem hinside hopen
    omega
  · rename_i hclosed
    have := List.count_eq_zero_of_not_mem hclosed
    omega

/-- A block that was not opened has no line. -/
theorem Sound.counts_of_not_mem {transcript : Transcript} (h : transcript.Sound)
    {block : OpenedBlock} (hblock : block ∉ transcript.opened) :
    .head block ∉ transcript.roles ∧ .foot block ∉ transcript.roles := by
  have hfoot : (transcript.roles.filterMap closing?).count block = 0 := by
    have hall := h.feet.count_eq block
    rw [List.count_append, List.count_eq_zero_of_not_mem hblock] at hall
    omega
  constructor
  · rw [← List.count_eq_zero, count_head, h.heads]
    exact List.count_eq_zero_of_not_mem hblock
  · rw [← List.count_eq_zero, count_foot]
    exact hfoot

end Transcript

/-! ## The writer of a run -/

/-- The writer has written what the transcript says, and remembers the depths of the blocks that
are open. -/
structure WriteSession.Keeps (session : WriteSession) (transcript : Transcript) : Prop where
  lines : session.writer.lines.toList = transcript.lines
  indent : session.writer.indent = OpenedBlock.levels transcript.inside
  depths : session.depths = transcript.inside.map (·.depth)

namespace WriteSession

theorem run_concat (session : WriteSession) (steps : List WriteStep) (next : WriteStep) :
    session.run (steps ++ [next]) = (session.run steps).step next := by
  simp [run]

/-- Closing blocks writes one line for each of them, and leaves the depth of the last. -/
theorem closeAll_eq (writer : Writer) (depths : List Nat) :
    closeAll writer depths =
      { writer.extended (depths.map (Writer.margin · ++ "\x7d")) with
        indent := depths.getLastD writer.indent } := by
  induction depths generalizing writer with
  | nil => simp [closeAll]
  | cons depth outer ih =>
    have hstep : closeAll writer (depth :: outer) = closeAll (writer.closeBlock depth) outer := rfl
    rw [hstep, ih, Writer.closeBlock_eq, Writer.shifted_of_ne (by decide)]
    simp only [Writer.extended_indent, List.getLastD_cons, List.map_cons]
    simp [Writer.extended]

/-- The outermost of the open blocks stands at the left edge. -/
theorem getLastD_depths {blocks : List OpenedBlock} (h : Transcript.Nested blocks) {depth : Nat}
    (hempty : blocks = [] → depth = 0) : (blocks.map (·.depth)).getLastD depth = 0 := by
  induction blocks generalizing depth with
  | nil => exact hempty rfl
  | cons block outer ih =>
    rw [List.map_cons, List.getLastD_cons]
    apply ih h.2
    rintro rfl
    exact h.1

theorem Keeps.atBlank {session : WriteSession} {transcript : Transcript}
    (h : session.Keeps transcript) : session.writer.atBlank = endsBlank false transcript.lines := by
  have hall : session.writer = Writer.extended ⟨#[], session.writer.indent⟩ transcript.lines := by
    rw [← h.lines]
    simp [Writer.extended]
  rw [hall, Writer.atBlank_extended]
  rfl

/-- Every step of the writer is the step of its transcript. -/
theorem Keeps.step {session : WriteSession} {transcript : Transcript}
    (h : session.Keeps transcript) (hsound : transcript.Sound) (next : WriteStep) :
    (session.step next).Keeps (transcript.step next) := by
  obtain ⟨hlines, hindent, hdepths⟩ := h
  cases next with
  | line text =>
    refine ⟨?_, hindent, hdepths⟩
    simp only [WriteSession.step, Writer.line_eq, Writer.extended_lines, hlines, hindent]
    simp [Transcript.step, Transcript.lines, LineRole.line]
  | blank =>
    have hblank := Keeps.atBlank ⟨hlines, hindent, hdepths⟩
    simp only [WriteSession.step, Writer.blank_eq, Transcript.step, hblank]
    split
    · rw [Writer.extended_nil]
      exact ⟨hlines, hindent, hdepths⟩
    · refine ⟨?_, hindent, hdepths⟩
      rw [Writer.extended_lines, hlines]
      simp [Transcript.lines, LineRole.line]
  | openBlock header indented =>
    simp only [WriteSession.step, Writer.openBlock_eq]
    refine ⟨?_, ?_, ?_⟩
    · rw [Writer.extended_lines, hlines, hindent,
        Writer.shifted_of_ne (block_header_ne_empty header)]
      simp [Transcript.step, Transcript.lines, LineRole.line, OpenedBlock.headLine,
        Transcript.nextBlock]
    · simp only [Transcript.step, OpenedBlock.levels, List.countP_cons, Transcript.nextBlock,
        hindent]
      cases indented <;> rfl
    · simp [Transcript.step, Transcript.nextBlock, hdepths, hindent]
  | closeBlock =>
    cases hinside : transcript.inside with
    | nil =>
      rw [hinside] at hdepths hindent
      simp only [WriteSession.step, Transcript.step, hdepths, hinside, List.map_nil]
      exact ⟨hlines, by rw [hindent, hinside], by rw [hdepths, hinside]⟩
    | cons block outer =>
      have hnested := hsound.nested
      rw [hinside] at hdepths hnested
      simp only [WriteSession.step, Transcript.step, hdepths, hinside, List.map_cons,
        Writer.closeBlock_eq]
      refine ⟨?_, hnested.1, rfl⟩
      rw [Writer.extended_lines, hlines, Writer.shifted_of_ne (by decide)]
      simp [Transcript.lines, LineRole.line, OpenedBlock.footLine]
  | abort =>
    simp only [WriteSession.step, Transcript.step, closeAll_eq]
    refine ⟨?_, ?_, rfl⟩
    · rw [Writer.extended_lines, hlines, hdepths]
      simp [Transcript.lines, LineRole.line, OpenedBlock.footLine, Function.comp_def]
    · rw [hdepths]
      apply getLastD_depths hsound.nested
      intro hempty
      rw [hindent, hempty]
      rfl

/-- The writer of a run keeps to the transcript of its steps. -/
theorem keeps_run (steps : List WriteStep) : (start.run steps).Keeps (.ofSteps steps) := by
  induction steps using List.reverseRecOn with
  | nil => exact ⟨rfl, rfl, rfl⟩
  | append_singleton steps next ih =>
    rw [run_concat, Transcript.ofSteps_concat]
    exact ih.step (Transcript.sound_ofSteps steps) next

/-- A step only adds lines. -/
theorem lines_prefix_step (session : WriteSession) (next : WriteStep) :
    session.writer.lines.toList <+: (session.step next).writer.lines.toList := by
  cases next with
  | line text => simp [step, Writer.line_eq]
  | blank => simp [step, Writer.blank_eq]
  | openBlock header indented => simp [step, Writer.openBlock_eq]
  | closeBlock =>
    simp only [step]
    split
    · exact List.prefix_refl _
    · simp [Writer.closeBlock_eq]
  | abort => simp [step, closeAll_eq]

theorem lines_prefix_run (session : WriteSession) (steps : List WriteStep) :
    session.writer.lines.toList <+: (session.run steps).writer.lines.toList := by
  induction steps using List.reverseRecOn with
  | nil => exact List.prefix_refl _
  | append_singleton steps next ih =>
    rw [run_concat]
    exact ih.trans (lines_prefix_step _ next)

/-- A gap adds no second empty line. -/
theorem two_blanks_of_step_blank (session : WriteSession)
    (h : ["", ""] <:+ (session.step .blank).writer.lines.toList) :
    ["", ""] <:+ session.writer.lines.toList := by
  simp only [step, Writer.blank_eq] at h
  split at h
  · rwa [Writer.extended_nil] at h
  · rename_i hblank
    -- the line before the new one would be empty, and then nothing is written
    rw [Writer.extended_lines] at h
    have hlast : [""] <:+ session.writer.lines.toList := by
      obtain ⟨before, hbefore⟩ := h
      have hsplit : before ++ [""] ++ [""] = session.writer.lines.toList ++ [""] := by
        simpa using hbefore
      exact ⟨before, List.append_cancel_right hsplit⟩
    obtain ⟨before, hbefore⟩ := hlast
    have hback : session.writer.lines.back? = some "" := by
      rw [← Array.getLast?_toList, ← hbefore]
      simp
    simp [Writer.atBlank, hback] at hblank

end WriteSession

/-! ## The laws -/

/-- Blocks keep their order over any run. The lines of a writer are those of the transcript of its
steps, and its indentation is the number of indented blocks that are open; lines are only ever
added; every step that opens a block has a block of its own, with one line that opens it and, below
that, one that closes it with the same margin, written when the block itself or everything is left,
unless it is still open; leaving everything closes the open blocks from the innermost on and goes
back to the left edge; and a gap never makes two empty lines at the end. -/
theorem every_run_closes_its_blocks_once (steps : List WriteStep) :
    let session := WriteSession.start.run steps
    let transcript := Transcript.ofSteps steps
    session.writer.lines.toList = transcript.roles.map LineRole.line ∧
      session.writer.indent = transcript.inside.countP (·.indented) ∧
      (∀ more, session.writer.lines.toList <+:
        (WriteSession.start.run (steps ++ more)).writer.lines.toList) ∧
      transcript.opened.map (·.opening) = steps.filter (·.opens) ∧
      transcript.opened.Nodup ∧
      (∀ block ∈ transcript.opened,
        transcript.roles.count (.head block) = 1 ∧
          transcript.roles.count (.foot block) = if block ∈ transcript.inside then 0 else 1) ∧
      (∀ block ∉ transcript.opened,
        .head block ∉ transcript.roles ∧ .foot block ∉ transcript.roles) ∧
      (∀ before block after, transcript.roles = before ++ .foot block :: after →
        .head block ∈ before) ∧
      (session.step .abort).writer.lines.toList =
        session.writer.lines.toList ++ transcript.inside.map (·.footLine) ∧
      (session.step .abort).writer.indent = 0 ∧
      (["", ""] <:+ (session.step .blank).writer.lines.toList →
        ["", ""] <:+ session.writer.lines.toList) := by
  intro session transcript
  have hkeeps : session.Keeps transcript := WriteSession.keeps_run steps
  have hsound : transcript.Sound := Transcript.sound_ofSteps steps
  have habort := hkeeps.step hsound .abort
  refine ⟨hkeeps.lines, hkeeps.indent, ?_, Transcript.opened_ofSteps steps, hsound.nodup,
    fun _ => hsound.counts, fun _ => hsound.counts_of_not_mem, hsound.ordered, ?_, habort.indent,
    session.two_blanks_of_step_blank⟩
  · intro more
    have hrun : WriteSession.start.run (steps ++ more) = session.run more := List.foldl_append
    rw [hrun]
    exact session.lines_prefix_run more
  · rw [habort.lines, hkeeps.lines]
    simp [Transcript.step, Transcript.lines, LineRole.line, Function.comp_def]

end Facade
