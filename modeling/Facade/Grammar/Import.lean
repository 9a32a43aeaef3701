-- Imports. Their text is kept as it is written.
import Facade.Grammar.Expression
namespace Facade.Grammar
open Reader

/-! ## Names -/

/-- A name that is exported: a word or a string. -/
def exportedName : Reader Unit := do
  let _ ← take fun t => t.kind == .word || t.kind == .string

/-- A name that is exported, possibly under another name. -/
def exportSpecifier : Reader Unit := do
  let _ ← accept (·.isAnyWord ["type", "typeof"])
  exportedName
  if ← acceptWord "as" then exportedName

/-- A new name for what is imported. -/
def importedAs : Reader Unit := do
  keyword "as"
  let _ ← word

/-- A name that is imported, possibly under another name. A string or `type` needs another name. -/
def importedName : Reader Unit := do
  if ← accept fun t => t.kind == .string || t.isWord "type" then importedAs
  else
    let _ ← word
    if ← nextIs (·.isWord "as") then importedAs

/-- One of the names that are imported. -/
def importSpecifier : Reader Unit := do
  if ← acceptWord "type" then
    if ← nextIs (·.isWord "as") then importedAs else importedName
  else
    let _ ← acceptWord "typeof"
    importedName

/-- Names in braces, or a comma alone. -/
def nameClause (item : Reader Unit) : Reader Unit := do
  mark "\x7b"
  if ← acceptMark "," then mark "\x7d"
  else
    let _ ← commaSeparated "\x7d" item

/-- Where names come from. -/
def fromClause : Reader Unit := do
  keyword "from"
  let _ ← take (·.kind == .string)

/-- All names, under one name. -/
def wholeImport : Reader Unit := do
  mark "*"
  keyword "as"
  let _ ← word

/-- Names in braces, or all names under one. -/
def bracedImport : Reader Unit := do
  if ← nextIs (·.isMark "*") then wholeImport else nameClause importSpecifier

/-- A module that is asked for by name, after an equals sign. -/
def requiredModule : Reader Unit := do
  keyword "require"
  mark "("
  let _ ← take (·.kind == .string)
  mark ")"

/-- What an import brings that gives it a name first. -/
def namedImport (typesOnly : Bool) (name : String) : Reader Unit := do
  if ← acceptMark "=" then
    require (name != "type")
    if typesOnly || (← nextIs (·.isWord "require")) then requiredModule
    else
      let _ ← dottedName (.line .type)
  else
    if ← acceptMark "," then bracedImport
    fromClause

/-- What an import brings. -/
def importNames (typesOnly : Bool) : Reader Unit := do
  let first ← peek
  if first.kind == .string then
    let _ ← next
  else if first.isMark "\x7b" || first.isMark "*" then
    bracedImport
    fromClause
  else namedImport typesOnly (← word)

/-- What an import brings that starts with `type`: the word may be a name. -/
def importTypes : Reader Unit := do
  keyword "type"
  if ← nextIs fun t => t.isMark "," || t.isWord "from" || t.isMark "=" then
    namedImport false "type"
  else importNames true

/-- Settings of an import, if there are any. -/
def importSettings (g : Productions) : Reader Unit := do
  if ← continueWith (.line .type) (·.isWord "with") then
    mark "\x7b"
    objectParts g

/-- The text from a place to the end of a statement here, which is a semicolon or what belongs to a
statement that ends without one. -/
def textToEnd (start : Cursor) : Reader String := do
  if ← follow (·.isMark ";") then return start.textUpTo (← place) 0
  let stop ← place
  match stop.end? .type with
  | some more => return start.textUpTo stop more
  | none => fail

/-- An import that gives a dotted name a name of its own, with all its text. -/
def importAlias : Reader Statement := do
  let start ← look
  keyword "import"
  let _ ← wordBut ["type", "typeof"]
  mark "="
  require !(← nextIs (·.isWord "require"))
  let _ ← dottedName (.line .type)
  return .importDecl (← textToEnd start)

/-- An import, with all its text. -/
def importStatement (g : Productions) : Reader Statement := do
  let start ← look
  orElse importAlias do
    keyword "import"
    if ← nextIs (·.isWord "type") then importTypes
    else
      let typesOnly ← acceptWord "typeof"
      importNames typesOnly
    importSettings g
    return .importDecl (← textToEnd start)

end Facade.Grammar
