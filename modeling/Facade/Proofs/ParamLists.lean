-- The parameter lists of a declaration tree, at every depth, and what it means that they are
-- written in a text.
import Facade.Proofs.Reading

namespace Facade

open Grammar

/-! ## In a tree -/

mutual

/-- The parameter lists in a type, at every depth. -/
def TypeExpr.paramLists : TypeExpr → List (List Param)
  | .ref _ args => paramListsOfTypes args
  | .array element => element.paramLists
  | .union members => paramListsOfTypes members
  | .inter members => paramListsOfTypes members
  | .func params ret => params :: (paramListsOfParams params ++ ret.paramLists)
  | .paren inner => inner.paramLists
  | .object members => paramListsOfMembers members
  | .keyOf operand => operand.paramLists
  | .literal _ _ => []
  | .absent => []
  | .unknown => []
  | .keyword _ => []
  | .unsupported _ => []

def paramListsOfTypes : List TypeExpr → List (List Param)
  | [] => []
  | type :: rest => type.paramLists ++ paramListsOfTypes rest

def paramListsOfParams : List Param → List (List Param)
  | [] => []
  | ⟨_, type, _, _⟩ :: rest => type.paramLists ++ paramListsOfParams rest

def paramListsOfTypeParams : List TypeParam → List (List Param)
  | [] => []
  | ⟨_, bound⟩ :: rest => bound.paramLists ++ paramListsOfTypeParams rest

/-- The parameter lists of a member and in its types, at every depth. -/
def Member.paramLists : Member → List (List Param)
  | .property _ _ _ type _ _ _ => type.paramLists
  | .method _ _ _ typeParams params ret _ _ _ =>
    params :: (paramListsOfTypeParams typeParams ++ paramListsOfParams params ++ ret.paramLists)
  | .index _ _ _ keyType valueType _ => keyType.paramLists ++ valueType.paramLists
  | .call _ _ typeParams params ret =>
    params :: (paramListsOfTypeParams typeParams ++ paramListsOfParams params ++ ret.paramLists)
  | .construct _ _ params => params :: paramListsOfParams params
  | .other _ _ _ => []
  | .unknown _ _ => []

def paramListsOfMembers : List Member → List (List Param)
  | [] => []
  | member :: rest => member.paramLists ++ paramListsOfMembers rest

end

/-- The parameter lists in a class. -/
def ClassDecl.paramLists (decl : ClassDecl) : List (List Param) :=
  paramListsOfTypeParams decl.typeParams ++ paramListsOfTypes decl.bases ++
    paramListsOfTypes decl.interfaces ++ paramListsOfMembers decl.members

/-- The parameter lists in an interface. -/
def InterfaceDecl.paramLists (decl : InterfaceDecl) : List (List Param) :=
  paramListsOfTypeParams decl.typeParams ++ paramListsOfTypes decl.bases ++
    paramListsOfMembers decl.members

/-- The parameter lists in an alias. -/
def AliasDecl.paramLists (decl : AliasDecl) : List (List Param) :=
  paramListsOfTypeParams decl.typeParams ++ decl.value.paramLists

/-- The parameters of a function and those in its types. -/
def FunctionDecl.paramLists (decl : FunctionDecl) : List (List Param) :=
  decl.params :: (paramListsOfTypeParams decl.typeParams ++ paramListsOfParams decl.params ++
    decl.ret.paramLists)

mutual

/-- The parameter lists in a statement, at every depth. -/
def Statement.paramLists : Statement → List (List Param)
  | .module _ _ body => paramListsOfStatements body
  | .classDecl decl => decl.paramLists
  | .interfaceDecl decl => decl.paramLists
  | .aliasDecl decl => decl.paramLists
  | .variableDecls decls => decls.flatMap (·.type.paramLists)
  | .function decl => decl.paramLists
  | .moduleHead _ _ => []
  | .enumDecl _ => []
  | .exportAssignment _ => []
  | .importDecl _ => []
  | .other _ => []
  | .unknown => []

def paramListsOfStatements : List Statement → List (List Param)
  | [] => []
  | statement :: rest => statement.paramLists ++ paramListsOfStatements rest

end

theorem paramListsOfTypes_eq (types : List TypeExpr) :
    paramListsOfTypes types = types.flatMap (·.paramLists) := by
  induction types with
  | nil => rfl
  | cons type rest ih => rw [paramListsOfTypes, List.flatMap_cons, ih]

theorem paramListsOfParams_eq (params : List Param) :
    paramListsOfParams params = params.flatMap (·.type.paramLists) := by
  induction params with
  | nil => rfl
  | cons param rest ih =>
    cases param
    rw [paramListsOfParams, List.flatMap_cons, ih]

theorem paramListsOfTypeParams_eq (params : List TypeParam) :
    paramListsOfTypeParams params = params.flatMap (·.bound.paramLists) := by
  induction params with
  | nil => rfl
  | cons param rest ih =>
    cases param
    rw [paramListsOfTypeParams, List.flatMap_cons, ih]

theorem paramListsOfMembers_eq (members : List Member) :
    paramListsOfMembers members = members.flatMap (·.paramLists) := by
  induction members with
  | nil => rfl
  | cons member rest ih => rw [paramListsOfMembers, List.flatMap_cons, ih]

theorem paramListsOfStatements_eq (statements : List Statement) :
    paramListsOfStatements statements = statements.flatMap (·.paramLists) := by
  induction statements with
  | nil => rfl
  | cons statement rest ih => rw [paramListsOfStatements, List.flatMap_cons, ih]

/-! ## In a text -/

/-- Parameters in parentheses, before they are named. -/
def writtenParams (g : Productions) (start : Start) : Reader (List WrittenParam) := do
  Reader.mark "("
  Reader.loop (nextParam g) ⟨start, []⟩

theorem params_eq (g : Productions) (start : Start) :
    params g start = do return numberParams 0 (← writtenParams g start) := by
  funext place
  simp only [params, writtenParams, Reader.bind_apply]
  cases Reader.mark "(" place <;> rfl

/-- Somewhere in the text these parameters are written in parentheses. -/
def WrittenIn (text : List Char) (written : List WrittenParam) : Prop :=
  ∃ depth start, ∃ place rest : Cursor, place.In text ∧
    writtenParams (productions depth) start place = .ok written rest

/-- Somewhere in the text parameters are written that these are. -/
def ReadParams (text : List Char) (params : List Param) : Prop :=
  ∃ written, WrittenIn text written ∧ params = numberParams 0 written

/-- All of these parameter lists are written in the text. -/
def AllRead (text : List Char) (lists : List (List Param)) : Prop :=
  ∀ params ∈ lists, ReadParams text params

variable {text : List Char}

@[simp]
theorem allRead_nil : AllRead text [] := List.forall_mem_nil _

@[simp]
theorem allRead_cons {params : List Param} {lists : List (List Param)} :
    AllRead text (params :: lists) ↔ ReadParams text params ∧ AllRead text lists :=
  List.forall_mem_cons

@[simp]
theorem allRead_append {first second : List (List Param)} :
    AllRead text (first ++ second) ↔ AllRead text first ∧ AllRead text second :=
  List.forall_mem_append

@[simp]
theorem allRead_flatMap {α : Type} {values : List α} {lists : α → List (List Param)} :
    AllRead text (values.flatMap lists) ↔ ∀ value ∈ values, AllRead text (lists value) := by
  simp only [AllRead, List.mem_flatMap]
  grind

end Facade
