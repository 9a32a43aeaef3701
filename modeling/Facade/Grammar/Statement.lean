-- Statements: declarations and whatever else may stand in a file, a namespace or a body.
import Facade.Grammar.Export
namespace Facade.Grammar
open Reader

/-! ## Values -/

/-- A statement that is a value, or several. -/
def expressionStatement (g : Productions) : Reader Statement := do
  let _ ← commaSeparated1 (expression g (.line .value))
  semicolon .value
  return .other "expression_statement"

/-- Whether a value that has been read goes on here, or another one follows. -/
def sequenceGoesOn (here : Cursor) : Bool :=
  valueGoesOn here || here.token.isMark ","

/-! ## Choices and loops -/

/-- A statement that a word may follow. Where a semicolon stands between them, the statement is a
value. -/
def statementBefore (g : Productions) (word : String) : Reader Unit := do
  let here ← look
  let _ ← g.statement
  let after ← look
  if after.token.isMark ";" && after.next.token.isWord word then
    goTo here
    let _ ← expressionStatement g

/-- A choice between two statements. -/
def ifStatement (g : Productions) : Reader Unit := do
  keyword "if"
  let _ ← groupedValue g
  statementBefore g "else"
  startNew
  if ← acceptWord "else" then
    let _ ← g.statement

/-- A statement under a condition, after a word. -/
def guardedStatement (g : Productions) : Reader Unit := do
  let _ ← next
  let _ ← groupedValue g
  let _ ← g.statement

/-- A loop with its condition at the end. -/
def doStatement (g : Productions) : Reader Unit := do
  keyword "do"
  statementBefore g "while"
  startNew
  keyword "while"
  let _ ← groupedValue g
  leave .held
  let _ ← acceptMark ";"

/-- What a loop over elements runs through, after the name for each. -/
def forElements (g : Productions) : Reader String := do
  let _ ← take (·.isAnyWord ["in", "of"])
  sequence g .value
  mark ")"
  return "for_in_statement"

/-- The condition and the step of a loop over steps. -/
def forSteps (g : Productions) : Reader String := do
  unless ← acceptMark ";" do
    sequence g .value
    mark ";"
  unless ← acceptMark ")" do
    sequence g .value
    mark ")"
  return "for_statement"

/-- The head of a loop that declares variables. -/
def forDeclaration (g : Productions) : Reader String :=
  orElse
    (do
      let kind ← word
      if ← nextIs (·.kind == .word) then
        let _ ← word
      else
        let _ ← bracketPattern g .plain
      if kind == "var" then
        let _ ← initializer g .value
      forElements g)
    (do
      let _ ← variableStatement g
      forSteps g)

/-- The head of a loop over places that are there already. -/
def forValue (g : Productions) : Reader String :=
  orElse
    (do
      if startsBracketPattern (← look) then
        let _ ← bracketPattern g .plain
      else require (isAssignable (← g.target .value))
      forElements g)
    (do
      unless ← acceptMark ";" do
        sequence g .value
        mark ";"
      forSteps g)

/-- A loop over steps or over elements, and which of both it is. -/
def forStatement (g : Productions) : Reader String := do
  keyword "for"
  let awaits ← acceptWord "await"
  mark "("
  let here ← look
  let after := here.next
  let declares := here.token.isAnyWord ["var", "const"] || (here.token.isWord "let"
    && (after.token.isWordBut ("of" :: operatorWords) || after.token.isAnyMark ["\x7b", "["]))
  let kind ← if declares then forDeclaration g else forValue g
  require (!awaits || kind == "for_in_statement")
  let _ ← g.statement
  return kind

/-! ## Other ways to go on -/

/-- Statements with what to do when they fail. -/
def tryStatement (g : Productions) : Reader Unit := do
  keyword "try"
  bracedBlock g
  startNew
  if ← acceptWord "catch" then
    if ← acceptMark "(" then
      if ← nextIs (·.kind == .word) then
        let _ ← word
      else
        let _ ← bracketPattern g .plain
      let _ ← colonType g .enclosed
      mark ")"
    bracedBlock g
    startNew
  if ← acceptWord "finally" then bracedBlock g

/-- The cases of a switch, up to the closing brace. -/
def switchCases (g : Productions) : Reader Unit :=
  loop (fun inCase => do
    startNew
    if ← acceptMark "\x7d" then return .done ()
    if (← look).atEnd then missing "\x7d"
    if ← acceptWord "case" then
      sequence g .value
      mark ":"
    else if ← acceptWord "default" then mark ":"
    else
      require inCase
      let _ ← g.statement
    return .again true) false

/-- A choice between many statements. -/
def switchStatement (g : Productions) : Reader Unit := do
  keyword "switch"
  let _ ← groupedValue g
  mark "\x7b"
  switchCases g

/-- A statement that ends with a value or without. -/
def returnStatement (g : Productions) : Reader Unit := do
  keyword "return"
  leave .held
  if (← followsAs (·.isMark ";")) || (← mayEnd .type) then semicolon .type
  else
    sequence g (.line .value)
    semicolon .value

/-- A statement that ends with a value. -/
def throwStatement (g : Productions) : Reader Unit := do
  keyword "throw"
  sequence g (.line .value)
  semicolon .value

/-- A statement that ends with a label or without. -/
def jumpStatement : Reader Unit := do
  let _ ← next
  leave .held
  unless ← mayEnd .type do
    let _ ← accept (·.kind == .word)
  semicolon .type

/-- A statement that says what to run, by the word it starts with. It gives its kind. -/
def controlStatement? (g : Productions) : String → Option (Reader String)
  | "if" => some do ifStatement g; return "if_statement"
  | "while" => some do guardedStatement g; return "while_statement"
  | "with" => some do guardedStatement g; return "with_statement"
  | "for" => some (forStatement g)
  | "do" => some do doStatement g; return "do_statement"
  | "try" => some do tryStatement g; return "try_statement"
  | "switch" => some do switchStatement g; return "switch_statement"
  | "return" => some do returnStatement g; return "return_statement"
  | "throw" => some do throwStatement g; return "throw_statement"
  | "break" => some do jumpStatement; return "break_statement"
  | "continue" => some do jumpStatement; return "continue_statement"
  | "debugger" => some do keyword "debugger"; semicolon .type; return "debugger_statement"
  | _ => none

/-! ## Blocks -/

/-- The statements that lines of markup in front of a token stand for. -/
def markupStatements (token : Token) : List Statement :=
  List.replicate (Trivia.markupCount token.leading) (.other Trivia.markupKind)

/-- Statements up to the closing brace, which is taken. Lines of markup count as statements. -/
def block (g : Productions) : Reader (List Statement) := do
  let statements ← loop (fun statements => do
    startNew
    let statements := statements ++ markupStatements (← peek)
    if ← acceptMark "\x7d" then return .done statements
    if (← look).atEnd then missing "\x7d"
    return .again (statements ++ [← g.statement])) []
  leave .body
  return statements

/-- A block as a statement. -/
def blockStatement (g : Productions) : Reader Statement := do
  bracedBlock g
  return .other "statement_block"

/-- Whether a block starts where an object could start too: the first thing in it is a keyword, or
a name that is not followed by what an object needs. -/
def startsOnlyBlock (first : Cursor) : Bool :=
  startsBlock first.token || (first.token.kind == .word
    && first.next.withMarkup.token.isAnyMark [",", "=", "\x7d"])

/-- A block or an object, whichever the brace starts. -/
def bracedStatement (g : Productions) : Reader Statement := do
  let here ← look
  let first := here.next.withMarkup
  if startsOnlyBlock first then blockStatement g
  else if first.token.isMark "\x7d" then
    orElse
      (do
        let found ← blockStatement g
        let after ← place
        require !(sequenceGoesOn after || after.token.isMark "=")
        return found)
      (expressionStatement g)
  else orElse (expressionStatement g) (blockStatement g)

/-! ## All statements -/

/-- A statement with a label. -/
def labelledStatement (g : Productions) : Reader Statement := do
  let _ ← word
  mark ":"
  let _ ← g.statement
  return .other "labeled_statement"

/-- Whether an export starts here, and not a value called `export`. -/
def exportStarts (after : Cursor) : Bool :=
  !after.mayEnd .value && (after.token.isAnyMark ["\x7b", "@"]
    || (after.token.isMark "*" && !after.touches "*" && !after.touches "=")
    || (after.token.isMark "=" && !after.touches "=")
    || after.token.isWordBut ["in", "instanceof", "satisfies"])

/-- A statement that starts with a word. -/
def wordStatement (g : Productions) (here : Cursor) : Reader Statement := do
  let after := here.next
  let word := here.token.text
  if after.token.isMark ":" && !valueWords.contains word && !statementWords.contains word then
    labelledStatement g
  else
    match controlStatement? g word with
    | some reader => return .other (← reader)
    | none =>
      if word == "export" && exportStarts after then
        if after.token.isMark "=" then orElse (exportStatement g) (expressionStatement g)
        else exportStatement g
      else if word == "import" && !after.withMarkup.token.isAnyMark ["(", ".", "<", "?"] then
        importStatement g
      else declarationOr g sequenceGoesOn (expressionStatement g)

/-- A class or an export after decorators. -/
def decoratedStatement (g : Productions) : Reader Statement := do
  let here ← look
  let _ ← decorators g
  if ← acceptWord "export" then exportTail g true
  else
    goTo here
    decoratedClassOr g sequenceGoesOn (expressionStatement g)

/-- A statement. -/
def statement (g : Productions) : Reader Statement := do
  let here ← look
  if here.token.kind == .word then wordStatement g here
  else if here.token.isMark ";" then
    let _ ← next
    return .other "empty_statement"
  else if here.token.isMark "\x7b" then bracedStatement g
  else if here.token.isMark "@" then decoratedStatement g
  else expressionStatement g

end Facade.Grammar
