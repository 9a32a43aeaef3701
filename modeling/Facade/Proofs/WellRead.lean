-- What every declaration tree that is read from a text keeps to, at every depth. Two words bend the
-- rule that unions and intersections are flat and have members: `readonly` and `const` right after
-- the mark that joins them.
import Facade.Proofs.ParamLists

namespace Facade

/-! ## Words of the tree -/

/-- A kind of literal that the language has. -/
def LiteralKind.IsKnown (kind : LiteralKind) : Prop := ∀ label, kind ≠ .other label

/-- An access that the language has. -/
def Access.IsKnown (access : Access) : Prop := ∀ word, access ≠ .other word

/-- A role of a method that the language has. -/
def MethodRole.IsKnown (role : MethodRole) : Prop := ∀ word, role ≠ .other word

/-! ## Joined types -/

/-- Whether a type is a union. -/
def TypeExpr.isUnion : TypeExpr → Bool
  | .union _ => true
  | _ => false

/-- Whether a type is an intersection. -/
def TypeExpr.isInter : TypeExpr → Bool
  | .inter _ => true
  | _ => false

/-- Somewhere in a text a mark stands whose next token is this word. -/
def WordAfter (text : List Char) (mark word : String) : Prop :=
  ∃ after, mark.toList ++ after <:+ text ∧
    (Cursor.ofChars [] after.length after).withMarkup.token.isWord word

/-- Types that a mark joins in a text. -/
structure JoinedIn (text : List Char) (mark : String) (isJoined : TypeExpr → Bool)
    (members : List TypeExpr) : Prop where
  /-- There are some, unless one is written as a word that counts as no type. -/
  some : members = [] → WordAfter text mark "const" ∨ WordAfter text mark "readonly"
  /-- None of them is joined by the same mark, unless `readonly` stands in front of it. -/
  flat : ∀ member ∈ members, isJoined member → WordAfter text mark "readonly"
  /-- If one is, it is the last. -/
  last : ∀ member ∈ members.dropLast, isJoined member = false

/-! ## Types and members -/

mutual

/-- The type is as types read from the text are, at every depth. -/
def TypeExpr.WellRead (text : List Char) : TypeExpr → Prop
  | .literal kind _ => kind.IsKnown
  | .ref _ args => typesWellRead text args
  | .array element => element.WellRead text
  | .union members => JoinedIn text "|" TypeExpr.isUnion members ∧ typesWellRead text members
  | .inter members => JoinedIn text "&" TypeExpr.isInter members ∧ typesWellRead text members
  | .func params ret => paramsWellRead text params ∧ ret.WellRead text
  | .paren inner => inner.WellRead text
  | .object members => membersWellRead text members
  | .keyOf operand => operand.WellRead text
  | .absent => True
  | .unknown => True
  | .keyword _ => True
  | .unsupported _ => True

def typesWellRead (text : List Char) : List TypeExpr → Prop
  | [] => True
  | type :: rest => type.WellRead text ∧ typesWellRead text rest

def paramsWellRead (text : List Char) : List Param → Prop
  | [] => True
  | ⟨name, type, _, _⟩ :: rest =>
    (name ≠ "this" ∧ type.WellRead text) ∧ paramsWellRead text rest

def typeParamsWellRead (text : List Char) : List TypeParam → Prop
  | [] => True
  | ⟨_, bound⟩ :: rest => bound.WellRead text ∧ typeParamsWellRead text rest

/-- The member is as members read from the text are, at every depth. -/
def Member.WellRead (text : List Char) : Member → Prop
  | .property access _ _ type _ _ _ => access.IsKnown ∧ type.WellRead text
  | .method access _ name typeParams params ret role _ _ =>
    access.IsKnown ∧ role.IsKnown ∧ name ≠ "constructor" ∧ typeParamsWellRead text typeParams ∧
      paramsWellRead text params ∧ ret.WellRead text
  | .index access _ _ keyType valueType _ =>
    access.IsKnown ∧ keyType.WellRead text ∧ valueType.WellRead text
  | .call access _ typeParams params ret =>
    access.IsKnown ∧ typeParamsWellRead text typeParams ∧ paramsWellRead text params ∧
      ret.WellRead text
  | .construct access _ params => access.IsKnown ∧ paramsWellRead text params
  | .other access _ _ => access.IsKnown
  | .unknown access _ => access.IsKnown

def membersWellRead (text : List Char) : List Member → Prop
  | [] => True
  | member :: rest => member.WellRead text ∧ membersWellRead text rest

end

/-- The parameter is as parameters read from the text are. -/
def Param.WellRead (text : List Char) (param : Param) : Prop :=
  param.name ≠ "this" ∧ param.type.WellRead text

/-- The type parameter is as type parameters read from the text are. -/
def TypeParam.WellRead (text : List Char) (param : TypeParam) : Prop :=
  param.bound.WellRead text

/-! ## Declarations -/

/-- The variables of a statement are as those read from the text are: all of one kind. -/
def variablesWellRead (text : List Char) (decls : List VariableDecl) : Prop :=
  (∀ first ∈ decls, ∀ second ∈ decls, first.isConst = second.isConst) ∧
    ∀ decl ∈ decls, decl.type.WellRead text

/-- The class is as classes read from the text are. -/
structure ClassDecl.WellRead (text : List Char) (decl : ClassDecl) : Prop where
  typeParams : ∀ param ∈ decl.typeParams, param.WellRead text
  bases : ∀ type ∈ decl.bases, type.WellRead text
  interfaces : ∀ type ∈ decl.interfaces, type.WellRead text
  members : ∀ member ∈ decl.members, member.WellRead text

/-- The interface is as interfaces read from the text are. -/
structure InterfaceDecl.WellRead (text : List Char) (decl : InterfaceDecl) : Prop where
  typeParams : ∀ param ∈ decl.typeParams, param.WellRead text
  bases : ∀ type ∈ decl.bases, type.WellRead text
  members : ∀ member ∈ decl.members, member.WellRead text

/-- The alias is as aliases read from the text are. -/
structure AliasDecl.WellRead (text : List Char) (decl : AliasDecl) : Prop where
  typeParams : ∀ param ∈ decl.typeParams, param.WellRead text
  value : decl.value.WellRead text

/-- The function is as functions read from the text are. -/
structure FunctionDecl.WellRead (text : List Char) (decl : FunctionDecl) : Prop where
  typeParams : ∀ param ∈ decl.typeParams, param.WellRead text
  params : ∀ param ∈ decl.params, param.WellRead text
  ret : decl.ret.WellRead text

mutual

/-- The statement is as statements read from the text are, at every depth. -/
def Statement.WellRead (text : List Char) : Statement → Prop
  | .module _ _ body => statementsWellRead text body
  | .moduleHead _ _ => True
  | .classDecl decl => decl.WellRead text
  | .interfaceDecl decl => decl.WellRead text
  | .enumDecl _ => True
  | .aliasDecl decl => decl.WellRead text
  | .variableDecls decls => variablesWellRead text decls
  | .function decl => decl.WellRead text
  | .exportAssignment _ => True
  | .importDecl _ => True
  | .other _ => True
  | .unknown => True

def statementsWellRead (text : List Char) : List Statement → Prop
  | [] => True
  | statement :: rest => statement.WellRead text ∧ statementsWellRead text rest

end

/-! ## Lists -/

section Lists

variable {text : List Char}

theorem typesWellRead_iff {types : List TypeExpr} :
    typesWellRead text types ↔ ∀ type ∈ types, type.WellRead text := by
  induction types with
  | nil => simp [typesWellRead]
  | cons type rest ih => simp [typesWellRead, ih]

theorem paramsWellRead_iff {params : List Param} :
    paramsWellRead text params ↔ ∀ param ∈ params, param.WellRead text := by
  induction params with
  | nil => simp [paramsWellRead]
  | cons param rest ih =>
    cases param
    simp [paramsWellRead, Param.WellRead, ih]

theorem typeParamsWellRead_iff {params : List TypeParam} :
    typeParamsWellRead text params ↔ ∀ param ∈ params, param.WellRead text := by
  induction params with
  | nil => simp [typeParamsWellRead]
  | cons param rest ih =>
    cases param
    simp [typeParamsWellRead, TypeParam.WellRead, ih]

theorem membersWellRead_iff {members : List Member} :
    membersWellRead text members ↔ ∀ member ∈ members, member.WellRead text := by
  induction members with
  | nil => simp [membersWellRead]
  | cons member rest ih => simp [membersWellRead, ih]

theorem statementsWellRead_iff {statements : List Statement} :
    statementsWellRead text statements ↔ ∀ statement ∈ statements, statement.WellRead text := by
  induction statements with
  | nil => simp [statementsWellRead]
  | cons statement rest ih => simp [statementsWellRead, ih]

theorem ClassDecl.wellRead_iff {decl : ClassDecl} :
    decl.WellRead text ↔ typeParamsWellRead text decl.typeParams ∧ typesWellRead text decl.bases ∧
      typesWellRead text decl.interfaces ∧ membersWellRead text decl.members := by
  rw [typeParamsWellRead_iff, typesWellRead_iff, typesWellRead_iff, membersWellRead_iff]
  exact ⟨fun h => ⟨h.typeParams, h.bases, h.interfaces, h.members⟩,
    fun ⟨hparams, hbases, hinterfaces, hmembers⟩ => ⟨hparams, hbases, hinterfaces, hmembers⟩⟩

theorem InterfaceDecl.wellRead_iff {decl : InterfaceDecl} :
    decl.WellRead text ↔ typeParamsWellRead text decl.typeParams ∧ typesWellRead text decl.bases ∧
      membersWellRead text decl.members := by
  rw [typeParamsWellRead_iff, typesWellRead_iff, membersWellRead_iff]
  exact ⟨fun h => ⟨h.typeParams, h.bases, h.members⟩,
    fun ⟨hparams, hbases, hmembers⟩ => ⟨hparams, hbases, hmembers⟩⟩

theorem AliasDecl.wellRead_iff {decl : AliasDecl} :
    decl.WellRead text ↔
      typeParamsWellRead text decl.typeParams ∧ decl.value.WellRead text := by
  rw [typeParamsWellRead_iff]
  exact ⟨fun h => ⟨h.typeParams, h.value⟩, fun ⟨hparams, hvalue⟩ => ⟨hparams, hvalue⟩⟩

theorem FunctionDecl.wellRead_iff {decl : FunctionDecl} :
    decl.WellRead text ↔ typeParamsWellRead text decl.typeParams ∧
      paramsWellRead text decl.params ∧ decl.ret.WellRead text := by
  rw [typeParamsWellRead_iff, paramsWellRead_iff]
  exact ⟨fun h => ⟨h.typeParams, h.params, h.ret⟩,
    fun ⟨htypeParams, hparams, hret⟩ => ⟨htypeParams, hparams, hret⟩⟩

end Lists

/-! ## What is known of trees -/

-- A tree is known with its parameter lists, each of which is written somewhere in the text.

instance : Known TypeExpr := ⟨fun text type => type.WellRead text ∧ AllRead text type.paramLists⟩

instance : Known Param :=
  ⟨fun text param => param.WellRead text ∧ AllRead text param.type.paramLists⟩

instance : Known (List Param) :=
  ⟨fun text params => (∀ param ∈ params, known text param) ∧ ReadParams text params⟩

instance : Known TypeParam :=
  ⟨fun text param => param.WellRead text ∧ AllRead text param.bound.paramLists⟩

instance : Known Member :=
  ⟨fun text member => member.WellRead text ∧ AllRead text member.paramLists⟩

instance : Known ClassDecl := ⟨fun text decl => decl.WellRead text ∧ AllRead text decl.paramLists⟩

instance : Known InterfaceDecl :=
  ⟨fun text decl => decl.WellRead text ∧ AllRead text decl.paramLists⟩

instance : Known Statement :=
  ⟨fun text statement => statement.WellRead text ∧ AllRead text statement.paramLists⟩

section Trees

variable {text : List Char}

theorem known_type {type : TypeExpr} :
    known text type ↔ type.WellRead text ∧ AllRead text type.paramLists := Iff.rfl

theorem known_member {member : Member} :
    known text member ↔ member.WellRead text ∧ AllRead text member.paramLists := Iff.rfl

theorem known_class {decl : ClassDecl} :
    known text decl ↔ decl.WellRead text ∧ AllRead text decl.paramLists := Iff.rfl

theorem known_interface {decl : InterfaceDecl} :
    known text decl ↔ decl.WellRead text ∧ AllRead text decl.paramLists := Iff.rfl

theorem known_statement {statement : Statement} :
    known text statement ↔ statement.WellRead text ∧ AllRead text statement.paramLists := Iff.rfl

theorem known_types {types : List TypeExpr} :
    known text types ↔
      typesWellRead text types ∧ AllRead text (paramListsOfTypes types) := by
  rw [typesWellRead_iff, paramListsOfTypes_eq, allRead_flatMap]
  exact forall₂_and

theorem known_params {params : List Param} :
    known text params ↔ ReadParams text params ∧ paramsWellRead text params ∧
      AllRead text (paramListsOfParams params) := by
  rw [paramsWellRead_iff, paramListsOfParams_eq, allRead_flatMap, ← forall₂_and]
  exact And.comm

theorem known_typeParams {params : List TypeParam} :
    known text params ↔
      typeParamsWellRead text params ∧ AllRead text (paramListsOfTypeParams params) := by
  rw [typeParamsWellRead_iff, paramListsOfTypeParams_eq, allRead_flatMap]
  exact forall₂_and

theorem known_members {members : List Member} :
    known text members ↔
      membersWellRead text members ∧ AllRead text (paramListsOfMembers members) := by
  rw [membersWellRead_iff, paramListsOfMembers_eq, allRead_flatMap]
  exact forall₂_and

theorem known_statements {statements : List Statement} :
    known text statements ↔
      statementsWellRead text statements ∧ AllRead text (paramListsOfStatements statements) := by
  rw [statementsWellRead_iff, paramListsOfStatements_eq, allRead_flatMap]
  exact forall₂_and

@[simp]
theorem LiteralKind.isKnown_iff {kind : LiteralKind} : kind.IsKnown ↔ ∀ label, kind ≠ .other label :=
  Iff.rfl

@[simp]
theorem Access.isKnown_iff {access : Access} : access.IsKnown ↔ ∀ word, access ≠ .other word :=
  Iff.rfl

@[simp]
theorem MethodRole.isKnown_iff {role : MethodRole} : role.IsKnown ↔ ∀ word, role ≠ .other word :=
  Iff.rfl

@[simp]
theorem known_absent : known text TypeExpr.absent := ⟨trivial, allRead_nil⟩

@[simp]
theorem known_unknown : known text TypeExpr.unknown := ⟨trivial, allRead_nil⟩

@[simp]
theorem known_keyword {name : String} : known text (TypeExpr.keyword name) := ⟨trivial, allRead_nil⟩

@[simp]
theorem known_unsupported {kind : String} : known text (TypeExpr.unsupported kind) :=
  ⟨trivial, allRead_nil⟩

@[simp]
theorem known_literal {kind : LiteralKind} {word : String} :
    known text (TypeExpr.literal kind word) ↔ kind.IsKnown := and_iff_left allRead_nil

@[simp]
theorem known_ref {name : String} {args : List TypeExpr} :
    known text (TypeExpr.ref name args) ↔ known text args :=
  known_types.symm

@[simp]
theorem known_array {element : TypeExpr} :
    known text (TypeExpr.array element) ↔ known text element :=
  Iff.rfl

@[simp]
theorem known_paren {inner : TypeExpr} : known text (TypeExpr.paren inner) ↔ known text inner :=
  Iff.rfl

@[simp]
theorem known_keyOf {operand : TypeExpr} :
    known text (TypeExpr.keyOf operand) ↔ known text operand :=
  Iff.rfl

@[simp]
theorem known_object {members : List Member} :
    known text (TypeExpr.object members) ↔ known text members :=
  known_members.symm

@[simp]
theorem known_func {params : List Param} {ret : TypeExpr} :
    known text (TypeExpr.func params ret) ↔ known text params ∧ known text ret := by
  simp only [known_type, known_params, TypeExpr.WellRead, TypeExpr.paramLists, allRead_cons,
    allRead_append]
  tauto

theorem known_union {members : List TypeExpr} :
    known text (TypeExpr.union members) ↔
      JoinedIn text "|" TypeExpr.isUnion members ∧ known text members := by
  rw [known_type, known_types, ← and_assoc]
  rfl

theorem known_inter {members : List TypeExpr} :
    known text (TypeExpr.inter members) ↔
      JoinedIn text "&" TypeExpr.isInter members ∧ known text members := by
  rw [known_type, known_types, ← and_assoc]
  rfl

@[simp]
theorem known_param {name : String} {type : TypeExpr} {optional rest : Bool} :
    known text (⟨name, type, optional, rest⟩ : Param) ↔ name ≠ "this" ∧ known text type :=
  and_assoc

@[simp]
theorem known_typeParam {name : String} {bound : TypeExpr} :
    known text (⟨name, bound⟩ : TypeParam) ↔ known text bound := Iff.rfl

@[simp]
theorem known_property {access : Access} {static readonly optional abstract : Bool} {name : String}
    {type : TypeExpr} :
    known text (Member.property access static name type readonly optional abstract) ↔
      access.IsKnown ∧ known text type :=
  and_assoc

@[simp]
theorem known_method {access : Access} {static optional abstract : Bool} {name : String}
    {typeParams : List TypeParam} {params : List Param} {ret : TypeExpr} {role : MethodRole} :
    known text (Member.method access static name typeParams params ret role optional abstract) ↔
      access.IsKnown ∧ role.IsKnown ∧ name ≠ "constructor" ∧ known text typeParams ∧
        known text params ∧ known text ret := by
  simp only [known_member, known_type, known_params, known_typeParams, Member.WellRead,
    Member.paramLists, allRead_cons, allRead_append]
  tauto

@[simp]
theorem known_index {access : Access} {static readonly : Bool} {name : String}
    {keyType valueType : TypeExpr} :
    known text (Member.index access static name keyType valueType readonly) ↔
      access.IsKnown ∧ known text keyType ∧ known text valueType := by
  simp only [known_member, known_type, Member.WellRead, Member.paramLists, allRead_append]
  tauto

@[simp]
theorem known_call {access : Access} {static : Bool} {typeParams : List TypeParam}
    {params : List Param} {ret : TypeExpr} :
    known text (Member.call access static typeParams params ret) ↔
      access.IsKnown ∧ known text typeParams ∧ known text params ∧ known text ret := by
  simp only [known_member, known_type, known_params, known_typeParams, Member.WellRead,
    Member.paramLists, allRead_cons, allRead_append]
  tauto

@[simp]
theorem known_construct {access : Access} {static : Bool} {params : List Param} :
    known text (Member.construct access static params) ↔ access.IsKnown ∧ known text params := by
  simp only [known_member, known_params, Member.WellRead, Member.paramLists, allRead_cons]
  tauto

@[simp]
theorem known_otherMember {access : Access} {static : Bool} {kind : String} :
    known text (Member.other access static kind) ↔ access.IsKnown :=
  and_iff_left allRead_nil

@[simp]
theorem known_classDecl {name : String} {typeParams : List TypeParam}
    {bases interfaces : List TypeExpr} {members : List Member} {isAbstract : Bool} :
    known text (⟨name, typeParams, bases, interfaces, members, isAbstract⟩ : ClassDecl) ↔
      known text typeParams ∧ known text bases ∧ known text interfaces ∧ known text members := by
  simp only [known_class, ClassDecl.wellRead_iff, ClassDecl.paramLists, known_typeParams,
    known_types, known_members, allRead_append]
  tauto

@[simp]
theorem known_interfaceDecl {name : String} {typeParams : List TypeParam} {bases : List TypeExpr}
    {members : List Member} :
    known text (⟨name, typeParams, bases, members⟩ : InterfaceDecl) ↔
      known text typeParams ∧ known text bases ∧ known text members := by
  simp only [known_interface, InterfaceDecl.wellRead_iff, InterfaceDecl.paramLists,
    known_typeParams, known_types, known_members, allRead_append]
  tauto

@[simp]
theorem known_module {name : String} {quoted : Bool} {body : List Statement} :
    known text (Statement.module name quoted body) ↔ known text body :=
  known_statements.symm

@[simp]
theorem known_moduleHead {name : String} {quoted : Bool} :
    known text (Statement.moduleHead name quoted) := ⟨trivial, allRead_nil⟩

@[simp]
theorem known_classStatement {decl : ClassDecl} :
    known text (Statement.classDecl decl) ↔ known text decl :=
  Iff.rfl

@[simp]
theorem known_interfaceStatement {decl : InterfaceDecl} :
    known text (Statement.interfaceDecl decl) ↔ known text decl :=
  Iff.rfl

@[simp]
theorem known_enumStatement {decl : EnumDecl} : known text (Statement.enumDecl decl) :=
  ⟨trivial, allRead_nil⟩

@[simp]
theorem known_aliasStatement {name : String} {typeParams : List TypeParam} {value : TypeExpr} :
    known text (Statement.aliasDecl ⟨name, typeParams, value⟩) ↔
      known text typeParams ∧ known text value := by
  simp only [known_statement, Statement.WellRead, Statement.paramLists, AliasDecl.wellRead_iff,
    AliasDecl.paramLists, known_typeParams, known_type, allRead_append]
  tauto

@[simp]
theorem known_functionStatement {name : String} {typeParams : List TypeParam} {params : List Param}
    {ret : TypeExpr} :
    known text (Statement.function ⟨name, typeParams, params, ret⟩) ↔
      known text typeParams ∧ known text params ∧ known text ret := by
  simp only [known_statement, Statement.WellRead, Statement.paramLists, FunctionDecl.wellRead_iff,
    FunctionDecl.paramLists, known_typeParams, known_params, known_type, allRead_cons,
    allRead_append]
  tauto

@[simp]
theorem known_exportAssignment {assignment : ExportAssignment} :
    known text (Statement.exportAssignment assignment) := ⟨trivial, allRead_nil⟩

@[simp]
theorem known_importDecl {words : String} : known text (Statement.importDecl words) :=
  ⟨trivial, allRead_nil⟩

@[simp]
theorem known_otherStatement {kind : String} : known text (Statement.other kind) :=
  ⟨trivial, allRead_nil⟩

end Trees

end Facade
