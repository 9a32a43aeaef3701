-- Whole files: the nesting of forms is tied together, and a text becomes a declaration tree
-- or a report of where it stops making sense.
import Facade.Grammar.Statement
import Facade.Text.Blank
import Facade.Text.Quoted
import Facade.Text.Split
import Facade.Text.Utf8
namespace Facade

/-! ## Reports -/

/-- Why a text cannot be read. -/
inductive SyntaxFault where
  /-- Something stands where it may not; a snippet of it. -/
  | unexpected (snippet : String)
  /-- The text ends before a closing mark. -/
  | missing (mark : String)
  /-- Nothing more is known. -/
  | unreadable
  deriving DecidableEq, Repr

/-- The wording of a fault. -/
def SyntaxFault.message : SyntaxFault → String
  | .unexpected snippet => "unexpected " ++ Text.quoted snippet
  | .missing mark => "missing " ++ mark
  | .unreadable => "syntax error"

/-- A message with its place. -/
def locatedMessage (message : String) (line column : Int) : String :=
  message ++ " at line " ++ toString line ++ ", column " ++ toString column

/-- A fault with its place. Lines and columns start at one; a column counts bytes. -/
structure ParseError where
  fault : SyntaxFault
  line : Nat
  column : Nat
  deriving DecidableEq, Repr

/-- The wording of an error. -/
def ParseError.message (error : ParseError) : String :=
  locatedMessage error.fault.message error.line error.column

/-- Why a text gives no declaration tree. -/
inductive ReadError where
  /-- The text does not have the form of a file. -/
  | malformed (error : ParseError)
  /-- A type is about another one that is not there: only the word `const` stands in its place. -/
  | missingOperand
  deriving DecidableEq, Repr

/-- The wording of an error. -/
def ReadError.message : ReadError → String
  | .malformed error => error.message
  | .missingOperand => "list index out of range"

/-- How much of a text is shown. -/
def snippetLength : Nat := 30

/-- The first line of a text without the blanks around it, cut when it is long. -/
def snippet (text : String) : String :=
  let line := Text.trim (Text.firstLine text.toList)
  if line.length > snippetLength then String.ofList (line.take snippetLength) ++ "..."
  else String.ofList line

/-- An error right after these characters. -/
def ParseError.after (chars : List Char) (fault : SyntaxFault) : ParseError :=
  let lastLine := (chars.reverse.takeWhile (· != '\n')).reverse
  ⟨fault, 1 + chars.count '\n', 1 + Text.byteCount lastLine⟩

/-- The report of a failure. A missing mark is missed right after the last token or remark. -/
def ParseError.ofFailure (text : String) (failure : Failure) : ParseError :=
  let read := text.length - failure.left
  match failure.missing with
  | some mark => .after (text.toList.take (read - failure.blanks)) (.missing mark)
  | none =>
    let stop := Cursor.ofChars [] failure.left (text.toList.drop read)
    .after (text.toList.take read) (.unexpected (snippet stop.token.text))

/-! ## Nesting -/

namespace Grammar

/-- The forms with so much nesting allowed. -/
def productions : Nat → Productions
  | 0 => .none
  | depth + 1 =>
    { type := fun start ending => type (productions depth) start ending
      conjunction := fun ending => intersectionType (productions depth) .plain ending
      operand := fun start ending => operandType (productions depth) start ending
      expression := fun ending => expression (productions depth) ending
      unary := fun ending => unary (productions depth) ending
      simpleValue := fun ending => simpleValue (productions depth) ending
      target := fun ending => target (productions depth) ending
      pattern := fun start => pattern (productions depth) start
      objectMembers := fun start => objectMembers (productions depth) start
      declaration := fun place => declaration (productions depth) place
      exportStatement := fun place => exportStatement (productions depth) place
      statement := fun place => statement (productions depth) place
      block := fun place => block (productions depth) place }

/-- The nesting that is enough for so many characters: each opens at most two forms. -/
def nestingFor (characters : Nat) : Nat := 2 * characters + 4

/-- A first line for the program that runs the file. -/
def interpreterLine : Reader (List Statement) := do
  let first ← Reader.peek
  if ← Reader.accept (·.kind == .interpreterLine) then
    return markupStatements first ++ [.other "hash_bang_line"]
  else return []

/-- One more statement of a file, after others. Lines of markup count as statements. -/
def nextStatement (g : Productions) (statements : List Statement) :
    Reader (Reader.Round (List Statement) (List Statement)) := do
  Reader.startNew
  let here ← Reader.look
  let statements := statements ++ markupStatements here.token
  if here.atEnd then return .done statements
  return .again (statements ++ [← g.statement])

/-- The statements of a file. -/
def fileStatements (g : Productions) : Reader (List Statement) := do
  let first ← interpreterLine
  Reader.loop (nextStatement g) first

end Grammar

/-! ## Files -/

/-- The declaration tree of a text. Types are looked at only when the whole text has its form. -/
def parse (text : String) : Except ReadError DeclarationFile :=
  let g := Grammar.productions (Grammar.nestingFor text.length)
  match Grammar.fileStatements g (.ofText text) with
  | .ok statements _ =>
    if statementsHaveUnknown statements then .error .missingOperand else .ok ⟨statements⟩
  | .reject failure => .error (.malformed (.ofFailure text failure))
  | .exhausted => .error (.malformed ⟨.unreadable, 1, 1⟩)

end Facade
