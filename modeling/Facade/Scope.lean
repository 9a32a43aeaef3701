-- The declarations of one scope. A facade has no free functions, values or aliases, so a
-- scope gathers them and shows them in one object when it ends.
import Facade.Layout
import Facade.MemberText
namespace Facade

/-! ## Gathering -/

/-- The declarations of one scope by kind, each kind in source order. -/
structure Exports where
  aliases : List AliasDecl := []
  functions : List FunctionDecl := []
  plainVariables : List VariableDecl := []
  assignments : List ExportAssignment := []
  interfaces : List InterfaceDecl := []
  classes : List ClassDecl := []

namespace Exports

/-- Nothing gathered. -/
def empty : Exports := {}

/-- Gathers a statement. Variables with an object literal type are shown in place as objects. -/
def collect (exports : Exports) : Statement → Exports
  | .aliasDecl decl => { exports with aliases := exports.aliases ++ [decl] }
  | .function decl => { exports with functions := exports.functions ++ [decl] }
  | .variableDecls decls =>
    { exports with plainVariables := exports.plainVariables ++ decls.filter (!·.type.isObject) }
  | .exportAssignment assignment =>
    { exports with assignments := exports.assignments ++ [assignment] }
  | .interfaceDecl decl => { exports with interfaces := exports.interfaces ++ [decl] }
  | .classDecl decl => { exports with classes := exports.classes ++ [decl] }
  | _ => exports

/-- Gathers the statements of a scope. -/
def ofStatements (statements : List Statement) : Exports :=
  statements.foldl collect empty

/-- Whether no object is needed. Interfaces and classes are shown in place. -/
def isEmpty (exports : Exports) : Bool :=
  exports.aliases.isEmpty && exports.functions.isEmpty && exports.plainVariables.isEmpty
    && exports.assignments.isEmpty

/-- The function that `export = name` names, if the scope declares one. -/
def resolve? (exports : Exports) (assignment : ExportAssignment) : Option FunctionDecl :=
  if assignment.isIdentifier then exports.functions.find? (·.name == assignment.name) else none

end Exports

/-! ## Lines of the object -/

/-- A function, with the result that stands for a missing one. -/
def FunctionDecl.line (decl : FunctionDecl) (default : String) : String :=
  "def " ++ Name.written decl.name
    ++ signatureText decl.typeParams decl.params (decl.ret.mappedReturn default) ++ fromPlatform

/-- A type alias. -/
def AliasDecl.line (decl : AliasDecl) : String :=
  "type " ++ Name.written decl.name ++ typeParamList decl.typeParams ++ " = " ++ decl.value.mapped

/-- A variable. -/
def VariableDecl.line (decl : VariableDecl) : String :=
  (if decl.isConst then "val" else "var") ++ " " ++ Name.written decl.name ++ ": "
    ++ decl.type.mapped ++ fromPlatform

namespace Exports

/-- The lines of a scope: aliases, functions that the scope exports as its value, variables,
functions. -/
def lines (exports : Exports) (default : String) : List String :=
  exports.aliases.map AliasDecl.line
    ++ (exports.assignments.filterMap exports.resolve?).map (·.line default)
    ++ exports.plainVariables.map VariableDecl.line
    ++ exports.functions.map (·.line default)

/-- The object of a scope, each line once. A scope with nothing gathered has none. -/
def container (exports : Exports) (name tag default : String) : List Piece :=
  if exports.isEmpty then []
  else
    [.gap, .line nativeMark, .line tag,
      .block ("object " ++ name ++ " extends js.Object") true
        (Piece.ofLines (Text.distinct (exports.lines default)))]

end Exports

/-! ## Paths -/

/-- A dotted name below a path. -/
def qualifiedName (path : List String) (name : String) : String :=
  ".".intercalate (path ++ [name])

/-- The annotation with the runtime path of a declaration. -/
def globalPath (path : String) : String :=
  "@JSGlobal(\"" ++ path ++ "\")"

/-- The annotation of a declaration: at the top level its name is path enough. -/
def globalTag (path : List String) (name : String) : String :=
  if path.isEmpty then "@JSGlobal" else globalPath (qualifiedName path name)

end Facade
