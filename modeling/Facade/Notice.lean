-- What a conversion leaves out or cannot show. Every rule of the emission has its notices
-- here, in the order in which the emission comes across them: a type that is looked at twice
-- is noticed twice.
import Facade.Emission
import Facade.Text.Quoted
namespace Facade

/-- Something that the facade does not show as it was declared. -/
inductive Notice where
  /-- A type with no facade type, by the name of its form. -/
  | unmappedType (kind : String)
  /-- A statement with no facade form. -/
  | skippedStatement (statement : Statement)
  /-- An external module, by its name. -/
  | skippedModule (name : String)

/-- How a statement with no facade form is shown. -/
def Statement.shown : Statement → String
  | .other kind => "OtherStmt(kind=" ++ Text.quoted kind ++ ")"
  | _ => "Stmt()"

/-- The wording of a notice, with the part of the program that gives it. -/
def Notice.message : Notice → String
  | .unmappedType kind => "DEBUG dts2scala.types: no mapping for " ++ kind ++ ", using js.Any"
  | .skippedStatement statement =>
    "DEBUG dts2scala.emit: skipping unsupported statement: " ++ statement.shown
  | .skippedModule name =>
    "DEBUG dts2scala.emit: skipping external module declaration " ++ Text.quoted name

/-! ## Types -/

/-- Whether a union is settled before its members are looked at. -/
def unionIsLiteral (members : List TypeExpr) : Bool :=
  let fractional := members.map (isFractional ·.literalText)
  members.all (·.isLiteral .string)
    || (members.all (·.isLiteral .number) && (fractional.all (!·) || fractional.all id))

/-- Whether a union looks at its members a second time, to write them beside its strings. -/
def unionLooksTwice (members : List TypeExpr) (texts : List String) : Bool :=
  let types := Text.distinct texts
  !(types.contains "Null" && types.contains "Unit" && types.length == 3)
    && members.any (·.isLiteral .string)

mutual

/-- The notices of a type. -/
def TypeExpr.notices : TypeExpr → List Notice
  | .ref _ args => typeNotices args
  | .array element => element.notices
  | .union members =>
    if unionIsLiteral members then []
    else if unionLooksTwice members (mappedTypes members) then
      -- a literal has no notices, so the second look finds the same again
      typeNotices members ++ typeNotices members
    else typeNotices members
  | .inter members => typeNotices members
  | .func params ret => paramNotices params ++ ret.notices
  | .paren inner => inner.notices
  | .unsupported kind => [.unmappedType kind]
  | _ => []

/-- The notices of several types. -/
def typeNotices : List TypeExpr → List Notice
  | [] => []
  | type :: rest => type.notices ++ typeNotices rest

/-- The notices of parameters. -/
def paramNotices : List Param → List Notice
  | [] => []
  | ⟨_, type, _, _⟩ :: rest => type.notices ++ paramNotices rest

end

/-- The notices of type parameters. -/
def typeParamNotices (params : List TypeParam) : List Notice :=
  params.flatMap (·.bound.notices)

/-- The notices of a signature. -/
def signatureNotices (typeParams : List TypeParam) (params : List Param) (ret : TypeExpr) :
    List Notice :=
  typeParamNotices typeParams ++ paramNotices params ++ ret.notices

/-! ## Members -/

/-- The notices of a member that is shown. -/
def Member.lineNotices : Member → List Notice
  | .property _ _ _ type _ _ _ => type.notices
  | .method _ _ _ _ _ ret .getter _ _ => ret.notices
  | .method _ _ _ _ params _ .setter _ _ => paramNotices (params.take 1)
  | .method _ _ _ typeParams params ret _ _ _ => signatureNotices typeParams params ret
  | .index _ _ _ keyType valueType _ => keyType.notices ++ valueType.notices
  | .call _ _ typeParams params ret => signatureNotices typeParams params ret
  | .construct .. => []
  | .other .. => []
  | .unknown .. => []

/-- The notices of a member. A hidden one has none. -/
def Member.notices (member : Member) : List Notice :=
  if member.isVisible then member.lineNotices else []

/-- The notices of a member in a trait. An object literal type stands elsewhere. -/
def Member.traitNotices (member : Member) : List Notice :=
  if member.nested?.isSome then [] else member.notices

mutual

/-- The notices of the traits that stand for object literal types of members. -/
def nestedTraitNotices (seen : List String) : List Member → List Notice
  | [] => []
  | member :: rest =>
    match member.nestedTrait? with
    | none => nestedTraitNotices seen rest
    | some trait =>
      if seen.contains trait then nestedTraitNotices seen rest
      else member.literalTraitNotices ++ nestedTraitNotices (trait :: seen) rest

/-- The notices of the trait of a property's object literal type. -/
def Member.literalTraitNotices : Member → List Notice
  | .property _ _ _ type _ _ _ => type.literalTraitNotices
  | _ => []

/-- The notices of the trait of an object literal type. -/
def TypeExpr.literalTraitNotices : TypeExpr → List Notice
  | .object members => members.flatMap Member.traitNotices ++ nestedTraitNotices [] members
  | _ => []

end

/-! ## Statements -/

/-- The notices of a class. -/
def ClassDecl.notices (decl : ClassDecl) : List Notice :=
  typeParamNotices decl.typeParams ++ typeNotices (decl.bases ++ decl.interfaces)
    ++ decl.constructors.flatMap paramNotices ++ decl.instanceMembers.flatMap Member.notices
    ++ decl.staticMembers.flatMap Member.notices

/-- The notices of an interface. -/
def InterfaceDecl.notices (decl : InterfaceDecl) : List Notice :=
  typeNotices decl.bases ++ typeParamNotices decl.typeParams
    ++ decl.members.flatMap Member.traitNotices ++ nestedTraitNotices [] decl.members

/-- The notices of a variable that is shown in place. -/
def VariableDecl.notices (decl : VariableDecl) : List Notice :=
  match decl.type with
  | .object members => members.flatMap Member.notices
  | _ => []

/-- The notices of a function. -/
def FunctionDecl.notices (decl : FunctionDecl) : List Notice :=
  signatureNotices decl.typeParams decl.params decl.ret

/-- The notices of a scope's object. -/
def Exports.notices (exports : Exports) : List Notice :=
  exports.aliases.flatMap (fun decl => typeParamNotices decl.typeParams ++ decl.value.notices)
    ++ (exports.assignments.filterMap exports.resolve?).flatMap FunctionDecl.notices
    ++ exports.plainVariables.flatMap (·.type.notices)
    ++ exports.functions.flatMap FunctionDecl.notices

mutual

/-- The notices of a statement. -/
def Statement.notices : Statement → List Notice
  | .module name quoted body =>
    if quoted then [.skippedModule name]
    else statementNotices body ++ (Exports.ofStatements body).notices
  | .moduleHead name quoted => if quoted then [.skippedModule name] else []
  | .classDecl decl => decl.notices
  | .interfaceDecl decl => decl.notices
  | .enumDecl _ => []
  | .variableDecls decls => decls.flatMap VariableDecl.notices
  | .aliasDecl _ => []
  | .function _ => []
  | .exportAssignment _ => []
  | .importDecl _ => []
  | .other kind => [.skippedStatement (.other kind)]
  | .unknown => [.skippedStatement .unknown]

/-- The notices of statements in order. -/
def statementNotices : List Statement → List Notice
  | [] => []
  | statement :: rest => statement.notices ++ statementNotices rest

end

/-- The notices of a whole file. -/
def DeclarationFile.notices (file : DeclarationFile) : List Notice :=
  statementNotices file.statements ++ (Exports.ofStatements file.statements).notices

end Facade
