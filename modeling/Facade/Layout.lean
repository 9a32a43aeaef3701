-- Lines in nested blocks. A `Writer` holds the lines written so far; a `Piece` is a part of a
-- text that is not laid out yet.
namespace Facade

/-! ## The writer -/

/-- Lines in the order of writing, and how deep the next one is indented. -/
structure Writer where
  lines : Array String
  indent : Nat
  deriving DecidableEq, Repr

namespace Writer

/-- A writer that has written nothing. -/
def empty : Writer := ⟨#[], 0⟩

/-- The white space in front of a line. -/
def margin (indent : Nat) : String :=
  String.ofList (List.replicate (2 * indent) ' ')

/-- Writes a line at the current depth. An empty line has no margin. -/
def line (writer : Writer) (text : String) : Writer :=
  { writer with
    lines := writer.lines.push (if text.isEmpty then "" else margin writer.indent ++ text) }

/-- Writes an empty line unless the last line is empty. -/
def blank (writer : Writer) : Writer :=
  if writer.lines.back? == some "" then writer
  else { writer with lines := writer.lines.push "" }

/-- Writes the head of a block. The body of an indented block stands one level deeper. -/
def openBlock (writer : Writer) (header : String) (indented : Bool) : Writer :=
  let headed := writer.line (header ++ " \x7b")
  if indented then { headed with indent := headed.indent + 1 } else headed

/-- Goes back to the depth of the block's head and closes the block. -/
def closeBlock (writer : Writer) (indent : Nat) : Writer :=
  { writer with indent := indent }.line "\x7d"

/-- The text of all lines, each ended by a line feed. -/
def output (writer : Writer) : String :=
  "\n".intercalate writer.lines.toList ++ "\n"

end Writer

/-! ## Step by step -/

/-- One step of writing. -/
inductive WriteStep where
  | line (text : String)
  | blank
  | openBlock (header : String) (indented : Bool)
  | closeBlock
  /-- Leaves every open block, the innermost first. -/
  | abort
  deriving DecidableEq, Repr

/-- A writer with the depths to return to, the innermost block's first. -/
structure WriteSession where
  writer : Writer
  depths : List Nat
  deriving DecidableEq, Repr

namespace WriteSession

/-- Nothing is written and no block is open. -/
def start : WriteSession := ⟨.empty, []⟩

/-- Closes the blocks with these depths, in order. -/
def closeAll (writer : Writer) (depths : List Nat) : Writer :=
  depths.foldl Writer.closeBlock writer

/-- Takes one step. Closing does nothing when no block is open. -/
def step (session : WriteSession) : WriteStep → WriteSession
  | .line text => { session with writer := session.writer.line text }
  | .blank => { session with writer := session.writer.blank }
  | .openBlock header indented =>
    ⟨session.writer.openBlock header indented, session.writer.indent :: session.depths⟩
  | .closeBlock =>
    match session.depths with
    | [] => session
    | depth :: outer => ⟨session.writer.closeBlock depth, outer⟩
  | .abort => ⟨closeAll session.writer session.depths, []⟩

/-- Takes steps in order. -/
def run (session : WriteSession) (steps : List WriteStep) : WriteSession :=
  steps.foldl step session

end WriteSession

/-! ## Pieces -/

/-- A part of a text: a line, a gap, or a block with its body. -/
inductive Piece where
  | line (text : String)
  /-- An empty line unless one stands there already. -/
  | gap
  | block (header : String) (indented : Bool) (body : List Piece)
  deriving BEq, Repr

mutual

/-- Writes a piece. -/
def Writer.put (writer : Writer) : Piece → Writer
  | .line text => writer.line text
  | .gap => writer.blank
  | .block header indented body =>
    (putAll (writer.openBlock header indented) body).closeBlock writer.indent

/-- Writes pieces in order. -/
def Writer.putAll (writer : Writer) : List Piece → Writer
  | [] => writer
  | piece :: rest => putAll (writer.put piece) rest

end

/-- One piece for each line. -/
def Piece.ofLines (lines : List String) : List Piece :=
  lines.map .line

end Facade
