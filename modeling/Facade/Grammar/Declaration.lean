-- Declarations: variables, functions, types, enumerations, namespaces and classes.
import Facade.Grammar.Import
namespace Facade.Grammar
open Reader

/-! ## Variables -/

/-- The name of a declarator, if it is one word, with its type and whether it has a value. -/
structure Declarator where
  name : Option String
  type : TypeExpr
  valued : Bool

/-- One declarator. -/
def declarator (g : Productions) : Reader Declarator := do
  let here ← look
  let bracketed := here.token.isAnyMark ["\x7b", "["]
  if bracketed then
    let _ ← bracketPattern g .plain
  else
    let _ ← word
  leave .held
  let name := if bracketed then none else some here.token.text
  if !bracketed && (← continueWith (.line .type) (·.isMark "!")) then
    mark ":"
    return ⟨name, (← annotation g .plain (.line .type)).type, false⟩
  else
    let type ← colonType g (.line .type)
    let valued ← initializer g (.line .value)
    return ⟨name, type, valued⟩

/-- The variables that declarators declare. One that takes a value apart declares none. -/
def declaredVariables (isConst : Bool) (declarators : List Declarator) : List VariableDecl :=
  declarators.filterMap fun d => d.name.map fun name => ⟨name, d.type, isConst⟩

/-- A variable statement. -/
def variableStatement (g : Productions) : Reader Statement := do
  let kind ← word
  let declarators ← commaSeparated1 (declarator g)
  semicolon (if declarators.getLast?.any (·.valued) then .value else .type)
  return .variableDecls (declaredVariables (kind == "const") declarators)

/-! ## Functions, aliases and enumerations -/

/-- A function, with a body or without. One that gives many values has a body and no facade
form. -/
def functionStatement (g : Productions) : Reader Statement := do
  let _ ← acceptWord "async"
  keyword "function"
  let isGenerator ← acceptMark "*"
  let name ← word
  if isGenerator then
    let _ ← signature g .enclosed
    bracedBlock g
    return .other "generator_function_declaration"
  else
    let found ← signature g (.line .signature)
    if ← continuesWith (.line .signature) (·.isMark "\x7b") then bracedBlock g
    else semicolon .signature
    return .function ⟨name, found.typeParams, found.params, found.ret⟩

/-- A type alias. -/
def aliasStatement (g : Productions) : Reader Statement := do
  keyword "type"
  let name ← word
  let typeParams ← typeParams g
  mark "="
  let value := (← g.type .plain (.line .type)).type
  semicolon .type
  return .aliasDecl ⟨name, typeParams, value⟩

/-- A value of an enumeration: its name, unless that is in brackets, or private without an
initial value. -/
def enumMember (g : Productions) : Reader (Option String) := do
  let name ← memberName g
  let valued ← initializer g .value
  return match name with
    | .plain text => some text
    | .secret text => if valued then some text else none
    | .computed => none

/-- An enumeration. -/
def enumStatement (g : Productions) : Reader Statement := do
  let isConst ← acceptWord "const"
  keyword "enum"
  let name ← word
  mark "\x7b"
  let members ← commaSeparated "\x7d" (enumMember g)
  return .enumDecl ⟨name, members.filterMap id, isConst⟩

/-! ## Namespaces -/

/-- The body of a namespace or external module after its name, if it has one. Where a value could
stand in its place, its body does not start on a new line. -/
def moduleTail (g : Productions) (ending : Ending) (name : String) (isQuoted : Bool) :
    Reader Statement := do
  settle ending
  if ← continuesWith ending (·.isMark "\x7b") then
    mark "\x7b"
    return .module name isQuoted (← g.block)
  else return .moduleHead name isQuoted

/-- A namespace or external module. -/
def moduleStatement (g : Productions) (ending : Ending) : Reader Statement := do
  let _ ← word
  let isQuoted ← nextIs (·.kind == .string)
  let name ← if isQuoted then (do return unquoted (← next).text) else dottedName ending
  moduleTail g ending name isQuoted

/-! ## Declarations -/

/-- A class after its decorators, abstract or not. Where a value could stand in its place, its name
is not a word that could follow the name. -/
def classStatement (g : Productions) (shared : Bool) : Reader Statement := do
  let isAbstract ← acceptWord "abstract"
  keyword "class"
  require (!shared || isAbstract || (← nextIs (·.isWordBut ["extends", "implements"])))
  let decl ← classTail g true isAbstract
  unless isAbstract do leave .held
  return .classDecl decl

/-- A block that adds to the global scope, after `declare`. -/
def globalBlock (g : Productions) : Reader Statement := do
  keyword "global"
  let brace ← peek
  bracedBlock g
  return .other (if Trivia.markupCount brace.leading == 0 then globalAugmentation else Trivia.markupKind)

/-- The type of what the module as a whole exports, after `declare`. -/
def moduleProperty (g : Productions) : Reader Statement := do
  keyword "module"
  let dot ← peek
  mark "."
  let name ← peek
  let _ ← word
  mark ":"
  let _ ← g.type .plain (.line .type)
  semicolon .type
  return .other (if Trivia.markupCount (dot.leading ++ name.leading) == 0 then
    "property_identifier" else Trivia.markupKind)

/-- A declaration that starts with its own keyword. -/
def ownDeclaration (g : Productions) (shared : Bool) : Reader Statement := do
  let here ← look
  let after := here.next.withMarkup
  match here.token.text with
  | "class" => classStatement g shared
  | "abstract" => classStatement g shared
  | "interface" =>
    keyword "interface"
    return .interfaceDecl (← interfaceTail g)
  | "enum" => enumStatement g
  | "const" => if after.token.isWord "enum" then enumStatement g else variableStatement g
  | "let" => variableStatement g
  | "var" => variableStatement g
  | "function" => functionStatement g
  | "async" => functionStatement g
  | "type" => aliasStatement g
  | "namespace" => moduleStatement g (if shared then .line .value else .enclosed)
  | "module" => moduleStatement g .enclosed
  | "import" => importAlias
  | _ => fail

/-- What stands after `declare`. -/
def declaredForm (g : Productions) : Reader Statement := do
  let here ← look
  let after := here.next.withMarkup
  if here.token.isMark "@" then
    let _ ← decorators g
    classStatement g false
  else if here.token.kind != .word then fail
  else if here.token.isWord "global" then globalBlock g
  else if here.token.isWord "module" && after.token.isMark "." then moduleProperty g
  else if here.token.isWord "declare" then g.declaration
  else ownDeclaration g false

/-- A declaration after `declare`. A line of markup takes its place. -/
def declared (g : Productions) : Reader Statement := do
  keyword "declare"
  let first ← peek
  let found ← declaredForm g
  return if Trivia.markupCount first.leading == 0 then found else .other Trivia.markupKind

/-- A declaration, with `declare` or decorators or without. -/
def declaration (g : Productions) : Reader Statement := do
  let here ← look
  if here.token.isWord "declare" then declared g
  else if here.token.isMark "@" then
    let _ ← decorators g
    classStatement g false
  else
    require (here.token.kind == .word)
    ownDeclaration g false

/-! ## Declarations where a value could stand -/

/-- Whether a value that has been read goes on here, where otherwise a statement could start. -/
def valueGoesOn (here : Cursor) : Bool :=
  !here.mayEnd .value && (here.token.isAnyWord operatorWords
    || here.token.isAnyMark [".", "*", "%", "&", "^", ">", "?"]
    || (here.token.isMark "|" && !here.touches "\x7d")
    || (sizeOfAny? ["==", "!=", "<=", "<<"] here.chars).isSome)

/-- Whether a function's name follows, with a star before it or without. -/
def functionNamed (after : Cursor) : Bool :=
  let after := after.withMarkup
  after.token.kind == .word
    || (after.token.isMark "*" && after.next.withMarkup.token.kind == .word)

/-- The words that may follow `declare`. -/
def declarableWords : List String :=
  ["abstract", "async", "class", "const", "declare", "enum", "function", "global", "import",
   "interface", "let", "module", "namespace", "type", "var"]

/-- Whether a declaration starts here, where a value could start too. -/
def declarationStarts (here : Cursor) : Bool :=
  let after := here.next
  let named := after.token.isWordBut operatorWords && !after.mayEnd .value
  here.token.kind == .word &&
    match here.token.text with
    | "class" => after.withMarkup.token.isWordBut ["extends", "implements"]
    | "function" => functionNamed after
    | "async" =>
      after.token.isWord "function" && !after.mayEnd .value && functionNamed after.next
    | "type" => named
    | "let" =>
      named || (after.token.isAnyMark ["\x7b", "["] && !after.mayEnd .value)
    | "namespace" => named || (after.token.kind == .string && !after.mayEnd .value)
    | "module" => named || (after.token.kind == .string && !after.mayEnd .value)
    | "declare" =>
      (after.token.isAnyWord declarableWords || after.token.isMark "@") && !after.mayEnd .value
    | "import" => after.withMarkup.token.kind == .word
    | word => ["abstract", "interface", "enum", "const", "var"].contains word

/-- The words that start declarations which are values as well. -/
def valuedWords : List String := ["class", "function", "async", "namespace"]

/-- A declaration where a value could stand. When it goes on as a value, it is that value. -/
def declarationOr (g : Productions) (goesOn : Cursor → Bool) (value : Reader Statement) :
    Reader Statement := do
  let here ← look
  if declarationStarts here then
    let found ← if here.token.isWord "declare" then declared g else ownDeclaration g true
    if here.token.isAnyWord valuedWords && goesOn (← place) then
      goTo here
      value
    else return found
  else value

/-- A class with decorators where a value could stand. When it goes on as a value or has no name, it is
that value. -/
def decoratedClassOr (g : Productions) (goesOn : Cursor → Bool) (value : Reader Statement) :
    Reader Statement := do
  let here ← look
  let _ ← decorators g
  let first ← look
  if first.token.isWord "abstract" then classStatement g true
  else if first.token.isWord "class" && declarationStarts first then
    let found ← classStatement g true
    if goesOn (← place) then
      goTo here
      value
    else return found
  else
    goTo here
    value

end Facade.Grammar
