-- The declaration tree: what a TypeScript declaration file says, as far as a facade can
-- show it. What has no facade form is kept as a node of its own kind, so that the reader of
-- the tree decides what to drop.
namespace Facade

/-! ## Words -/

/-- What a literal used as a type is a literal of. -/
inductive LiteralKind where
  | string
  | number
  | boolean
  | null
  | undefined
  | other (label : String)
  deriving DecidableEq, Repr

/-- Who may use a member. -/
inductive Access where
  | everyone
  | heirs
  | owner
  | other (word : String)
  deriving DecidableEq, Repr

/-- What a method is called for: by name, or to read or write a property. -/
inductive MethodRole where
  | plain
  | getter
  | setter
  | other (word : String)
  deriving DecidableEq, Repr

/-! ## Types and members -/

mutual

/-- A type as written. -/
inductive TypeExpr where
  /-- No type is written. -/
  | absent
  /-- A type of no known form. -/
  | unknown
  /-- A predefined word such as `string` or `this`. -/
  | keyword (name : String)
  /-- A literal. -/
  | literal (kind : LiteralKind) (text : String)
  /-- A name, with type arguments or without. -/
  | ref (name : String) (args : List TypeExpr)
  /-- `T[]`. -/
  | array (element : TypeExpr)
  /-- `A | B`, flat. -/
  | union (members : List TypeExpr)
  /-- `A & B`, flat. -/
  | inter (members : List TypeExpr)
  /-- `(params) => ret`. -/
  | func (params : List Param) (ret : TypeExpr)
  /-- `(T)`. -/
  | paren (inner : TypeExpr)
  /-- An object literal type. -/
  | object (members : List Member)
  /-- `keyof T`. -/
  | keyOf (operand : TypeExpr)
  /-- A form that no facade type stands for, by the name of the form. -/
  | unsupported (kind : String)

/-- A parameter of a function or method. -/
structure Param where
  name : String
  type : TypeExpr
  optional : Bool
  rest : Bool

/-- A type parameter. Its bound is absent when none is written. -/
structure TypeParam where
  name : String
  bound : TypeExpr

/-- A member of a class, an interface or an object literal type. -/
inductive Member where
  /-- A property or field. -/
  | property (access : Access) (static : Bool) (name : String) (type : TypeExpr)
      (readonly optional abstract : Bool)
  /-- A method or accessor. -/
  | method (access : Access) (static : Bool) (name : String) (typeParams : List TypeParam)
      (params : List Param) (ret : TypeExpr) (role : MethodRole) (optional abstract : Bool)
  /-- `[key: K]: V`. -/
  | index (access : Access) (static : Bool) (keyName : String) (keyType valueType : TypeExpr)
      (readonly : Bool)
  /-- `(params): R`, which makes its owner callable. -/
  | call (access : Access) (static : Bool) (typeParams : List TypeParam) (params : List Param)
      (ret : TypeExpr)
  /-- A constructor. -/
  | construct (access : Access) (static : Bool) (params : List Param)
  /-- A form without a facade equivalent, by its name. -/
  | other (access : Access) (static : Bool) (kind : String)
  /-- A member of no known form. -/
  | unknown (access : Access) (static : Bool)

end

deriving instance BEq, Repr for TypeExpr, Param, TypeParam, Member

instance : Inhabited TypeExpr := ⟨.absent⟩

instance : Inhabited Param := ⟨"", .absent, false, false⟩

instance : Inhabited TypeParam := ⟨"", .absent⟩

instance : Inhabited Member := ⟨.unknown .everyone false⟩

namespace TypeExpr

/-- Whether a type is written at all. -/
def isAbsent : TypeExpr → Bool
  | .absent => true
  | _ => false

/-- Whether a type is an object literal type. -/
def isObject : TypeExpr → Bool
  | .object _ => true
  | _ => false

/-- Whether a type is a literal of the given kind. -/
def isLiteral (wanted : LiteralKind) : TypeExpr → Bool
  | .literal kind _ => kind == wanted
  | _ => false

/-- The text of a literal, empty for other types. -/
def literalText : TypeExpr → String
  | .literal _ text => text
  | _ => ""

end TypeExpr

namespace Member

/-- Who may use the member. -/
def access : Member → Access
  | .property access .. => access
  | .method access .. => access
  | .index access .. => access
  | .call access .. => access
  | .construct access .. => access
  | .other access .. => access
  | .unknown access _ => access

/-- Whether the member belongs to the class itself. -/
def isStatic : Member → Bool
  | .property _ static .. => static
  | .method _ static .. => static
  | .index _ static .. => static
  | .call _ static .. => static
  | .construct _ static _ => static
  | .other _ static _ => static
  | .unknown _ static => static

/-- Only members for everyone reach the facade. -/
def isVisible (member : Member) : Bool :=
  member.access == .everyone

end Member

/-! ## Types of no known form -/

mutual

/-- Whether a type of no known form stands in the type, at any depth. -/
def TypeExpr.hasUnknown : TypeExpr → Bool
  | .unknown => true
  | .ref _ args => typesHaveUnknown args
  | .array element => element.hasUnknown
  | .union members => typesHaveUnknown members
  | .inter members => typesHaveUnknown members
  | .func params ret => paramsHaveUnknown params || ret.hasUnknown
  | .paren inner => inner.hasUnknown
  | .object members => membersHaveUnknown members
  | .keyOf operand => operand.hasUnknown
  | .absent => false
  | .keyword _ => false
  | .literal _ _ => false
  | .unsupported _ => false

/-- Whether a type of no known form stands in one of the types. -/
def typesHaveUnknown : List TypeExpr → Bool
  | [] => false
  | type :: rest => type.hasUnknown || typesHaveUnknown rest

/-- Whether a type of no known form stands in one of the parameters. -/
def paramsHaveUnknown : List Param → Bool
  | [] => false
  | ⟨_, type, _, _⟩ :: rest => type.hasUnknown || paramsHaveUnknown rest

/-- Whether a type of no known form stands in one of the type parameters. -/
def typeParamsHaveUnknown : List TypeParam → Bool
  | [] => false
  | ⟨_, bound⟩ :: rest => bound.hasUnknown || typeParamsHaveUnknown rest

/-- Whether a type of no known form stands in the member, at any depth. -/
def Member.hasUnknown : Member → Bool
  | .property _ _ _ type _ _ _ => type.hasUnknown
  | .method _ _ _ typeParams params ret _ _ _ =>
    typeParamsHaveUnknown typeParams || paramsHaveUnknown params || ret.hasUnknown
  | .index _ _ _ keyType valueType _ => keyType.hasUnknown || valueType.hasUnknown
  | .call _ _ typeParams params ret =>
    typeParamsHaveUnknown typeParams || paramsHaveUnknown params || ret.hasUnknown
  | .construct _ _ params => paramsHaveUnknown params
  | .other _ _ _ => false
  | .unknown _ _ => false

/-- Whether a type of no known form stands in one of the members. -/
def membersHaveUnknown : List Member → Bool
  | [] => false
  | member :: rest => member.hasUnknown || membersHaveUnknown rest

end

/-! ## Statements -/

/-- One declarator of a variable statement. -/
structure VariableDecl where
  name : String
  type : TypeExpr
  isConst : Bool
  deriving BEq, Repr

/-- A free function. -/
structure FunctionDecl where
  name : String
  typeParams : List TypeParam
  params : List Param
  ret : TypeExpr
  deriving BEq, Repr

/-- A type alias. -/
structure AliasDecl where
  name : String
  typeParams : List TypeParam
  value : TypeExpr
  deriving BEq, Repr

/-- A class, with the types it extends and those it implements. -/
structure ClassDecl where
  name : String
  typeParams : List TypeParam
  bases : List TypeExpr
  interfaces : List TypeExpr
  members : List Member
  isAbstract : Bool
  deriving BEq, Repr

/-- An interface. -/
structure InterfaceDecl where
  name : String
  typeParams : List TypeParam
  bases : List TypeExpr
  members : List Member
  deriving BEq, Repr

/-- An enumeration. -/
structure EnumDecl where
  name : String
  members : List String
  isConst : Bool
  deriving BEq, Repr

/-- `export = value` or `export default value`: the text of the value, and whether it is one
identifier. -/
structure ExportAssignment where
  name : String
  isIdentifier : Bool
  deriving DecidableEq, Repr

/-- A statement of a file or namespace. -/
inductive Statement where
  /-- A namespace, or an external module when its name is quoted. -/
  | module (name : String) (quoted : Bool) (body : List Statement)
  /-- The same without a body. -/
  | moduleHead (name : String) (quoted : Bool)
  | classDecl (decl : ClassDecl)
  | interfaceDecl (decl : InterfaceDecl)
  | enumDecl (decl : EnumDecl)
  | aliasDecl (decl : AliasDecl)
  | variableDecls (decls : List VariableDecl)
  | function (decl : FunctionDecl)
  | exportAssignment (assignment : ExportAssignment)
  | importDecl (text : String)
  /-- A statement without a facade equivalent, by the name of its form. -/
  | other (kind : String)
  /-- A statement of no known form. -/
  | unknown
  deriving BEq, Repr

instance : Inhabited Statement := ⟨.unknown⟩

/-- The form of a `declare global` block. -/
def globalAugmentation : String := "global_augmentation"

/-- A whole declaration file. -/
structure DeclarationFile where
  statements : List Statement
  deriving BEq, Repr

mutual

/-- Whether a type of no known form stands in the statement, at any depth. -/
def Statement.hasUnknown : Statement → Bool
  | .module _ _ body => statementsHaveUnknown body
  | .classDecl decl =>
    typeParamsHaveUnknown decl.typeParams || typesHaveUnknown decl.bases
      || typesHaveUnknown decl.interfaces || membersHaveUnknown decl.members
  | .interfaceDecl decl =>
    typeParamsHaveUnknown decl.typeParams || typesHaveUnknown decl.bases
      || membersHaveUnknown decl.members
  | .aliasDecl decl => typeParamsHaveUnknown decl.typeParams || decl.value.hasUnknown
  | .variableDecls decls => decls.any (·.type.hasUnknown)
  | .function decl =>
    typeParamsHaveUnknown decl.typeParams || paramsHaveUnknown decl.params || decl.ret.hasUnknown
  | .moduleHead _ _ => false
  | .enumDecl _ => false
  | .exportAssignment _ => false
  | .importDecl _ => false
  | .other _ => false
  | .unknown => false

/-- Whether a type of no known form stands in one of the statements. -/
def statementsHaveUnknown : List Statement → Bool
  | [] => false
  | statement :: rest => statement.hasUnknown || statementsHaveUnknown rest

end

end Facade
