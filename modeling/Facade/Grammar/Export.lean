-- Exports of declarations, of values and of names.
import Facade.Grammar.Declaration
namespace Facade.Grammar
open Reader

/-! ## Values -/

/-- A value that is exported, as it is written. What ends with a body takes the remarks up to its
end with it. -/
def exportedValue (g : Productions) : Reader Statement := do
  let start ← look
  g.expression (.line .value)
  let stop ← place
  let more := if stop.before == .body then (stop.end? .value).getD 0 else 0
  let isName := isOneToken start stop && start.token.isWordBut valueWords
  semicolon .value
  return .exportAssignment ⟨start.textUpTo stop more, isName⟩

/-- A class that is exported as a value. -/
def exportedClass (g : Productions) : Reader Statement := do
  let _ ← decorators g
  keyword "class"
  let decl ← classTail g false false
  leave .held
  semicolon .value
  return .classDecl decl

/-- A class or another value that is exported. -/
def exported (g : Productions) : Reader Statement := do
  let here ← look
  if here.token.isWord "class" || here.token.isMark "@" then
    orElse (exportedClass g) (exportedValue g)
  else exportedValue g

/-- A namespace that is exported by default. One that ends without a mark is a value. -/
def exportedNamespace (g : Productions) : Reader Statement := do
  let start ← look
  let found ← declarationOr g valueGoesOn (exported g)
  let stop ← place
  match found, stop.end? .value with
  | .exportAssignment _, _ => return found
  | _, some more =>
    return .exportAssignment
      ⟨start.textUpTo stop (if stop.before == .body then more else 0), false⟩
  | _, none => return found

/-- What is exported by default: a declaration, a class or another value. -/
def defaultExport (g : Productions) : Reader Statement := do
  let first ← peek
  if first.isMark "@" then decoratedClassOr g valueGoesOn (exported g)
  else if first.isWord "namespace" then exportedNamespace g
  else declarationOr g valueGoesOn (exported g)

/-- A value that the file exports as a whole. A remark in front takes the place of the value. -/
def wholeExport (g : Productions) : Reader Statement := do
  mark "="
  let first ← peek
  let value ← exported g
  return match first.remark? with
    | some remark => .exportAssignment ⟨remark.text, false⟩
    | none => value

/-! ## Names -/

/-- The form of an export of names. -/
def exportClause : Statement := .other "export_clause"

/-- An export of names in braces. -/
def namesExport : Reader Statement := do
  let _ ← acceptWord "type"
  nameClause exportSpecifier
  leave .held
  if ← continuesWith (.line .type) (·.isWord "from") then fromClause
  semicolon .type
  return exportClause

/-- An export of all names of a module. -/
def allExport : Reader Statement := do
  mark "*"
  if ← acceptWord "as" then exportedName
  fromClause
  semicolon .type
  return exportClause

/-- The name under which scripts see the module. -/
def namespaceExport : Reader Statement := do
  keyword "as"
  keyword "namespace"
  let _ ← word
  semicolon .type
  return exportClause

/-- What stands after `export`. -/
def exportTail (g : Productions) (decorated : Bool) : Reader Statement := do
  let here ← look
  if here.token.isWord "default" then
    goTo here.next
    defaultExport g
  else if decorated then declaration g
  else if here.token.isMark "=" then wholeExport g
  else if here.token.isMark "*" then allExport
  else if here.token.isMark "\x7b" then namesExport
  else if here.token.isWord "type" && here.next.withMarkup.token.isMark "\x7b" then namesExport
  else if here.token.isWord "as" then namespaceExport
  else declaration g

/-- An export, with decorators or without. -/
def exportStatement (g : Productions) : Reader Statement := do
  let decorated ← decorators g
  keyword "export"
  exportTail g decorated

end Facade.Grammar
