-- From a declaration tree to a facade. Each statement has its pieces, and a scope ends with
-- the object of what it gathered.
import Facade.Scope
namespace Facade

/-! ## Classes -/

/-- The constructors that a class shows: visible ones with parameters. -/
def shownConstructor : Member → Option (List Param)
  | .construct .everyone _ (param :: params) => some (param :: params)
  | _ => none

/-- A class extends its bases and then what it implements. -/
def ClassDecl.parents (decl : ClassDecl) : String :=
  let heritage := mappedTypes (decl.bases ++ decl.interfaces)
  if heritage.isEmpty then "js.Object" else " with ".intercalate heritage

/-- The members of each object of the class. -/
def ClassDecl.instanceMembers (decl : ClassDecl) : List Member :=
  decl.members.filter (!·.isStatic)

/-- The members of the class itself. -/
def ClassDecl.staticMembers (decl : ClassDecl) : List Member :=
  decl.members.filter (·.isStatic)

/-- The parameters of each constructor that the class shows. -/
def ClassDecl.constructors (decl : ClassDecl) : List (List Param) :=
  decl.instanceMembers.filterMap shownConstructor

/-- The kind of block that the class is. -/
def ClassDecl.place (decl : ClassDecl) : Place :=
  if decl.isAbstract then .abstractClass else .classBody

/-- The head of a class. With constructors of its own, the one without parameters is hidden. -/
def ClassDecl.header (decl : ClassDecl) : String :=
  (if decl.isAbstract then "abstract class " else "class ") ++ Name.written decl.name
    ++ typeParamList decl.typeParams
    ++ (if decl.constructors.isEmpty then "" else " protected ()")
    ++ " extends " ++ decl.parents

/-- The lines in the class block. -/
def ClassDecl.bodyLines (decl : ClassDecl) : List String :=
  decl.constructors.map (fun params => "def this(" ++ paramList params ++ ") = this()")
    ++ decl.instanceMembers.flatMap (·.render decl.place)

/-- The lines in the companion object. -/
def ClassDecl.staticLines (decl : ClassDecl) : List String :=
  decl.staticMembers.flatMap (·.render .object)

/-- A class, with a companion object when it has static members to show. -/
def ClassDecl.pieces (decl : ClassDecl) (path : List String) : List Piece :=
  let tag := globalTag path decl.name
  [.gap, .line nativeMark, .line tag,
    .block decl.header true (Piece.ofLines decl.bodyLines)]
  ++ if decl.staticLines.isEmpty then []
    else
      [.line nativeMark, .line tag,
        .block ("object " ++ Name.written decl.name ++ " extends js.Object") true
          (Piece.ofLines decl.staticLines)]

/-! ## Traits -/

/-- The lines of a member in a trait. A property with an object literal type refers to the trait
that stands for it. -/
def Member.traitLines (owner : String) : Member → List String
  | .property .everyone _ name (.object _) readonly _ _ =>
    [nestedPropertyLine name readonly owner]
  | member => member.render .trait

/-- The renderings of a trait's members, each distinct one once. -/
def traitRenderings (members : List Member) (owner : String) : List (List String) :=
  Text.distinctBy ("\n".intercalate ·)
    ((members.map (·.traitLines owner)).filter (!·.isEmpty))

/-- The lines of a trait. -/
def traitLines (members : List Member) (owner : String) : List String :=
  (traitRenderings members owner).flatten

mutual

/-- The traits that stand for object literal types of members, one for each name. `seen` holds the
names that have their trait already. -/
def nestedTraits (seen : List String) : List Member → List Piece
  | [] => []
  | member :: rest =>
    match member.nestedTrait? with
    | none => nestedTraits seen rest
    | some trait =>
      if seen.contains trait then nestedTraits seen rest
      else member.literalTraits trait ++ nestedTraits (trait :: seen) rest

/-- The trait of a property's object literal type. -/
def Member.literalTraits (trait : String) : Member → List Piece
  | .property _ _ _ type _ _ _ => type.literalTraits trait
  | _ => []

/-- The trait of an object literal type, with a companion for those inside it. -/
def TypeExpr.literalTraits (trait : String) : TypeExpr → List Piece
  | .object members =>
    let deeper := nestedTraits [] members
    [.line nativeMark,
      .block ("trait " ++ trait ++ " extends js.Object") true
        (Piece.ofLines (traitLines members trait))]
    ++ if deeper.isEmpty then [] else [.gap, .block ("object " ++ trait) true deeper]
  | _ => []

end

/-- What a trait extends, each type once. -/
def InterfaceDecl.parents (decl : InterfaceDecl) : String :=
  let parents := Text.distinct (mappedTypes decl.bases)
  if parents.isEmpty then "js.Object" else " with ".intercalate parents

/-- An interface is a trait, with a companion for the object literal types in it. -/
def InterfaceDecl.pieces (decl : InterfaceDecl) : List Piece :=
  let name := Name.written decl.name
  let nested := nestedTraits [] decl.members
  [.gap, .line nativeMark,
    .block ("trait " ++ name ++ typeParamList decl.typeParams ++ " extends " ++ decl.parents) true
      (Piece.ofLines (traitLines decl.members name))]
  ++ if nested.isEmpty then [] else [.gap, .block ("object " ++ name) true nested]

/-! ## Enumerations and variables -/

/-- The lines in the object of an enumeration: its values, and the name of each. -/
def EnumDecl.valueLines (decl : EnumDecl) : List String :=
  let name := Name.written decl.name
  decl.members.map (fun member => "var " ++ Name.written member ++ ": " ++ name ++ fromPlatform)
    ++ ["@JSBracketAccess", "def apply(value: " ++ name ++ "): String" ++ fromPlatform]

/-- An enumeration is a sealed trait and an object with its values. -/
def EnumDecl.pieces (decl : EnumDecl) (path : List String) : List Piece :=
  let name := Name.written decl.name
  [.gap, .line nativeMark, .block ("sealed trait " ++ name ++ " extends js.Object") true [],
    .gap, .line nativeMark, .line (globalPath (qualifiedName path decl.name)),
    .block ("object " ++ name ++ " extends js.Object") true (Piece.ofLines decl.valueLines)]

/-- A variable with an object literal type is an object; any other waits for the end of its
scope. -/
def VariableDecl.pieces (path : List String) (decl : VariableDecl) : List Piece :=
  match decl.type with
  | .object members =>
    [.gap, .line nativeMark, .line (globalTag path decl.name),
      .block ("object " ++ Name.written decl.name ++ " extends js.Object") true
        (Piece.ofLines (members.flatMap (·.render .object)))]
  | _ => []

/-! ## Statements -/

/-- The object of a namespace. -/
def namespaceContainer (name : String) (path : List String) (body : List Statement) :
    List Piece :=
  (Exports.ofStatements body).container (Name.container name) (globalPath (".".intercalate path))
    "js.Dynamic"

/-- The package block of a namespace, given the pieces of its body. -/
def namespaceBlock (name : String) (path : List String) (body : List Statement)
    (bodyPieces : List Piece) : List Piece :=
  [.gap, .block ("package " ++ Name.writtenPath name) false
    (bodyPieces ++ namespaceContainer name path body ++ [.gap])]

mutual

/-- The pieces of a statement below a path of namespaces. External modules have none. -/
def Statement.pieces (path : List String) : Statement → List Piece
  | .module name quoted body =>
    if quoted then []
    else
      let inner := path ++ Text.segments '.' name
      namespaceBlock name inner body (bodyPieces inner body)
  | .moduleHead name quoted =>
    if quoted then [] else namespaceBlock name (path ++ Text.segments '.' name) [] []
  | .classDecl decl => decl.pieces path
  | .interfaceDecl decl => decl.pieces
  | .enumDecl decl => decl.pieces path
  | .variableDecls decls => decls.flatMap (·.pieces path)
  | .aliasDecl _ => []
  | .function _ => []
  | .exportAssignment _ => []
  | .importDecl _ => []
  | .other _ => []
  | .unknown => []

/-- The pieces of statements in order. -/
def bodyPieces (path : List String) : List Statement → List Piece
  | [] => []
  | statement :: rest => statement.pieces path ++ bodyPieces path rest

end

/-- Namespaces, external modules and `declare global` blocks. -/
def Statement.isModuleLike : Statement → Bool
  | .module .. => true
  | .moduleHead .. => true
  | .other kind => kind == globalAugmentation
  | _ => false

/-! ## Files -/

/-- What every facade imports. -/
def headerImports : List String :=
  ["import scala.scalajs.js", "import js.annotation._", "import js.|"]

/-- The pieces of a whole file. One more empty line ends a file with modules. -/
def DeclarationFile.pieces (file : DeclarationFile) (package : String) : List Piece :=
  [.line ""] ++ Piece.ofLines headerImports ++ [.line "",
    .block (Name.packageClause package) false
      (bodyPieces [] file.statements
        ++ (Exports.ofStatements file.statements).container (Name.container package)
          "@JSGlobalScope" "Unit"
        ++ [.gap]
        ++ (if file.statements.any (·.isModuleLike) then [.line ""] else []))]

/-- The facade of a declaration file. -/
def DeclarationFile.facade (file : DeclarationFile) (package : String) : String :=
  (Writer.empty.putAll (file.pieces package)).output

/-! ## A scope while it is written -/

/-- The path of a scope and what it has gathered so far. -/
structure OpenScope where
  path : List String
  exports : Exports

namespace OpenScope

/-- The file's own scope. -/
def top : OpenScope := ⟨[], .empty⟩

/-- The scope of a namespace inside. -/
def enter (scope : OpenScope) (segments : List String) : OpenScope :=
  ⟨scope.path ++ segments, .empty⟩

/-- The scope once it has gathered a statement. -/
def gather (scope : OpenScope) (statement : Statement) : OpenScope :=
  { scope with exports := scope.exports.collect statement }

/-- Ends a namespace whose body is written: the object of what it gathered, an empty line, and
the end of its block at the depth of its head. -/
def leave (scope : OpenScope) (writer : Writer) (name : String) (indent : Nat) : Writer :=
  (writer.putAll (scope.exports.container (Name.container name)
    (globalPath (".".intercalate scope.path)) "js.Dynamic")).blank.closeBlock indent

mutual

/-- Gathers a statement and writes it. A namespace is written through a scope of its own. -/
def emit (scope : OpenScope) (writer : Writer) : Statement → OpenScope × Writer
  | .module name quoted body =>
    let gathered := scope.gather (.module name quoted body)
    if quoted then (gathered, writer)
    else
      let inside := emitAll (scope.enter (Text.segments '.' name))
        (writer.blank.openBlock ("package " ++ Name.writtenPath name) false) body
      (gathered, inside.1.leave inside.2 name writer.indent)
  | .moduleHead name quoted =>
    let gathered := scope.gather (.moduleHead name quoted)
    if quoted then (gathered, writer)
    else
      let inside := scope.enter (Text.segments '.' name)
      (gathered, inside.leave
        (writer.blank.openBlock ("package " ++ Name.writtenPath name) false) name writer.indent)
  | statement => (scope.gather statement, writer.putAll (statement.pieces scope.path))

/-- Gathers and writes statements in order. -/
def emitAll (scope : OpenScope) (writer : Writer) : List Statement → OpenScope × Writer
  | [] => (scope, writer)
  | statement :: rest =>
    let after := emit scope writer statement
    emitAll after.1 after.2 rest

end

end OpenScope

end Facade
