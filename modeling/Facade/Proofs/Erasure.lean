-- Erasing what is hidden or unsupported from a declaration tree, at every depth. Types are mapped
-- and members are rendered as before.
import Facade.Emission
import Mathlib.Tactic.Common

namespace Facade

/-! ## Erasing types and members -/

/-- Whether a member has no facade form. -/
def Member.isFormless : Member → Bool
  | .other .. => true
  | .unknown .. => true
  | _ => false

/-- Whether a member stays: everyone may use it and it has a form. -/
def Member.isKept (member : Member) : Bool :=
  member.isVisible && !member.isFormless

mutual

/-- The type without the members that do not stay, at every depth. -/
def TypeExpr.erased : TypeExpr → TypeExpr
  | .absent => .absent
  | .unknown => .unknown
  | .keyword name => .keyword name
  | .literal kind text => .literal kind text
  | .ref name args => .ref name (erasedTypes args)
  | .array element => .array element.erased
  | .union members => .union (erasedTypes members)
  | .inter members => .inter (erasedTypes members)
  | .func params ret => .func (erasedParams params) ret.erased
  | .paren inner => .paren inner.erased
  | .object members => .object (erasedMembers members)
  | .keyOf operand => .keyOf operand.erased
  | .unsupported kind => .unsupported kind

def erasedTypes : List TypeExpr → List TypeExpr
  | [] => []
  | type :: rest => type.erased :: erasedTypes rest

def erasedParams : List Param → List Param
  | [] => []
  | ⟨name, type, optional, rest⟩ :: more =>
    ⟨name, type.erased, optional, rest⟩ :: erasedParams more

def erasedTypeParams : List TypeParam → List TypeParam
  | [] => []
  | ⟨name, bound⟩ :: rest => ⟨name, bound.erased⟩ :: erasedTypeParams rest

/-- The member with its types erased. -/
def Member.erased : Member → Member
  | .property access static name type readonly optional abstract =>
    .property access static name type.erased readonly optional abstract
  | .method access static name typeParams params ret role optional abstract =>
    .method access static name (erasedTypeParams typeParams) (erasedParams params) ret.erased role
      optional abstract
  | .index access static keyName keyType valueType readonly =>
    .index access static keyName keyType.erased valueType.erased readonly
  | .call access static typeParams params ret =>
    .call access static (erasedTypeParams typeParams) (erasedParams params) ret.erased
  | .construct access static params => .construct access static (erasedParams params)
  | .other access static kind => .other access static kind
  | .unknown access static => .unknown access static

/-- The members that stay, erased. -/
def erasedMembers : List Member → List Member
  | [] => []
  | member :: rest =>
    if member.isKept then member.erased :: erasedMembers rest else erasedMembers rest

end

/-- The parameter with its type erased. -/
def Param.erased (param : Param) : Param :=
  { param with type := param.type.erased }

/-- The type parameter with its bound erased. -/
def TypeParam.erased (param : TypeParam) : TypeParam :=
  { param with bound := param.bound.erased }

theorem erasedTypes_eq_map (types : List TypeExpr) :
    erasedTypes types = types.map TypeExpr.erased := by
  induction types with
  | nil => rfl
  | cons type rest ih => rw [erasedTypes, ih, List.map_cons]

theorem erasedParams_eq_map (params : List Param) :
    erasedParams params = params.map Param.erased := by
  induction params with
  | nil => rfl
  | cons param rest ih =>
    obtain ⟨name, type, optional, rest⟩ := param
    rw [erasedParams, ih, List.map_cons]
    rfl

theorem erasedTypeParams_eq_map (params : List TypeParam) :
    erasedTypeParams params = params.map TypeParam.erased := by
  induction params with
  | nil => rfl
  | cons param rest ih =>
    obtain ⟨name, bound⟩ := param
    rw [erasedTypeParams, ih, List.map_cons]
    rfl

theorem erasedMembers_eq_map (members : List Member) :
    erasedMembers members = (members.filter (·.isKept)).map Member.erased := by
  induction members with
  | nil => rfl
  | cons member rest ih =>
    rw [erasedMembers, ih, List.filter_cons]
    split <;> rfl

/-! ## Erasing statements -/

def ClassDecl.erased (decl : ClassDecl) : ClassDecl :=
  { decl with
    typeParams := erasedTypeParams decl.typeParams
    bases := erasedTypes decl.bases
    interfaces := erasedTypes decl.interfaces
    members := erasedMembers decl.members }

def InterfaceDecl.erased (decl : InterfaceDecl) : InterfaceDecl :=
  { decl with
    typeParams := erasedTypeParams decl.typeParams
    bases := erasedTypes decl.bases
    members := erasedMembers decl.members }

def AliasDecl.erased (decl : AliasDecl) : AliasDecl :=
  { decl with typeParams := erasedTypeParams decl.typeParams, value := decl.value.erased }

def VariableDecl.erased (decl : VariableDecl) : VariableDecl :=
  { decl with type := decl.type.erased }

def FunctionDecl.erased (decl : FunctionDecl) : FunctionDecl :=
  { decl with
    typeParams := erasedTypeParams decl.typeParams
    params := erasedParams decl.params
    ret := decl.ret.erased }

/-- Imports, and statements without a facade form. -/
def Statement.isFormless : Statement → Bool
  | .importDecl _ => true
  | .other _ => true
  | .unknown => true
  | _ => false

/-- External modules: those with a quoted name. -/
def Statement.isExternal : Statement → Bool
  | .module _ quoted _ => quoted
  | .moduleHead _ quoted => quoted
  | _ => false

mutual

/-- The statement with what does not stay taken out of it. An external module loses its body. -/
def Statement.erased : Statement → Statement
  | .module name quoted body => .module name quoted (if quoted then [] else erasedBody body)
  | .moduleHead name quoted => .moduleHead name quoted
  | .classDecl decl => .classDecl decl.erased
  | .interfaceDecl decl => .interfaceDecl decl.erased
  | .enumDecl decl => .enumDecl decl
  | .aliasDecl decl => .aliasDecl decl.erased
  | .variableDecls decls => .variableDecls (decls.map VariableDecl.erased)
  | .function decl => .function decl.erased
  | .exportAssignment assignment => .exportAssignment assignment
  | .importDecl text => .importDecl text
  | .other kind => .other kind
  | .unknown => .unknown

/-- The statements of a namespace that stay, erased. External modules do not stay there. -/
def erasedBody : List Statement → List Statement
  | [] => []
  | statement :: rest =>
    if statement.isFormless || statement.isExternal then erasedBody rest
    else statement.erased :: erasedBody rest

end

/-- The file without hidden and unsupported input. At the top level an external module and a
`declare global` block stay as what they are, for they leave an empty line at the end. -/
def DeclarationFile.erased (file : DeclarationFile) : DeclarationFile :=
  ⟨(file.statements.filter fun s => !s.isFormless || s.isModuleLike).map Statement.erased⟩

/-! ## Types are mapped as before -/

@[simp] theorem TypeExpr.isAbsent_erased (type : TypeExpr) :
    type.erased.isAbsent = type.isAbsent := by
  cases type <;> rfl

@[simp] theorem TypeExpr.isObject_erased (type : TypeExpr) :
    type.erased.isObject = type.isObject := by
  cases type <;> rfl

@[simp] theorem TypeExpr.isLiteral_erased (kind : LiteralKind) (type : TypeExpr) :
    type.erased.isLiteral kind = type.isLiteral kind := by
  cases type <;> rfl

@[simp] theorem TypeExpr.literalText_erased (type : TypeExpr) :
    type.erased.literalText = type.literalText := by
  cases type <;> rfl

/-- The alternatives of a union look at its members for literals only. -/
theorem unionAlternatives_erased (members : List TypeExpr) (texts : List String) :
    unionAlternatives (erasedTypes members) texts = unionAlternatives members texts := by
  have hzip : (((erasedTypes members).zip texts).filter (!·.1.isLiteral .string)).map (·.2) =
      ((members.zip texts).filter (!·.1.isLiteral .string)).map (·.2) := by
    rw [erasedTypes_eq_map, List.zip_map_left, List.filter_map, List.map_map]
    simp [Function.comp_def]
  unfold unionAlternatives
  rw [hzip, erasedTypes_eq_map]
  simp [Function.comp_def]

mutual

theorem TypeExpr.mapped_erased (type : TypeExpr) : type.erased.mapped = type.mapped := by
  match type with
  | .absent | .unknown | .keyword _ | .literal _ _ | .object _ | .keyOf _ | .unsupported _ => rfl
  | .ref name args =>
    rw [TypeExpr.erased, TypeExpr.mapped, TypeExpr.mapped, mappedTypes_erased args]
  | .array element => rw [TypeExpr.erased, TypeExpr.mapped, TypeExpr.mapped, element.mapped_erased]
  | .union members =>
    rw [TypeExpr.erased, TypeExpr.mapped, TypeExpr.mapped, mappedTypes_erased members, unionText,
      unionText, unionAlternatives_erased]
  | .inter members =>
    rw [TypeExpr.erased, TypeExpr.mapped, TypeExpr.mapped, mappedTypes_erased members]
  | .func params ret =>
    rw [TypeExpr.erased, TypeExpr.mapped, TypeExpr.mapped, mappedParamTypes_erased params,
      ret.mapped_erased, TypeExpr.isAbsent_erased]
  | .paren inner => rw [TypeExpr.erased, TypeExpr.mapped, TypeExpr.mapped, inner.mapped_erased]

theorem mappedTypes_erased (types : List TypeExpr) :
    mappedTypes (erasedTypes types) = mappedTypes types := by
  match types with
  | [] => rfl
  | type :: rest =>
    rw [erasedTypes, mappedTypes, mappedTypes, type.mapped_erased, mappedTypes_erased rest]

theorem mappedParamTypes_erased (params : List Param) :
    mappedParamTypes (erasedParams params) = mappedParamTypes params := by
  match params with
  | [] => rfl
  | ⟨_, type, _, _⟩ :: more =>
    rw [erasedParams, mappedParamTypes, mappedParamTypes, type.mapped_erased,
      mappedParamTypes_erased more]

end

@[simp] theorem TypeExpr.mappedReturn_erased (ret : TypeExpr) (default : String) :
    ret.erased.mappedReturn default = ret.mappedReturn default := by
  unfold mappedReturn
  rw [isAbsent_erased, mapped_erased]

@[simp] theorem typeParamList_erased (params : List TypeParam) :
    typeParamList (erasedTypeParams params) = typeParamList params := by
  have htext : ∀ param : TypeParam, param.erased.text = param.text := by
    intro param
    simp only [TypeParam.text, TypeParam.erased, TypeExpr.isAbsent_erased, TypeExpr.mapped_erased]
  unfold typeParamList
  rw [erasedTypeParams_eq_map, List.isEmpty_map, List.map_map]
  simp only [Function.comp_def, htext]

@[simp] theorem paramList_erased (params : List Param) :
    paramList (erasedParams params) = paramList params := by
  have htext : ∀ param : Param, param.erased.text = param.text := by
    intro param
    simp only [Param.text, Param.erased, TypeExpr.mapped_erased]
  unfold paramList
  rw [erasedParams_eq_map, List.map_map]
  simp only [Function.comp_def, htext]

@[simp] theorem signatureText_erased (typeParams : List TypeParam) (params : List Param)
    (ret : String) : signatureText (erasedTypeParams typeParams) (erasedParams params) ret =
      signatureText typeParams params ret := by
  unfold signatureText
  rw [typeParamList_erased, paramList_erased]

@[simp] theorem setterType_erased (params : List Param) :
    setterType (erasedParams params) = setterType params := by
  cases params with
  | nil => rfl
  | cons param more =>
    rw [erasedParams_eq_map]
    exact param.type.mapped_erased

/-! ## Members are rendered as before -/

namespace Member

@[simp] theorem isVisible_erased (member : Member) :
    member.erased.isVisible = member.isVisible := by
  cases member <;> rfl

@[simp] theorem isStatic_erased (member : Member) : member.erased.isStatic = member.isStatic := by
  cases member <;> rfl

theorem lines_erased (member : Member) (place : Place) :
    member.erased.lines place = member.lines place := by
  cases member with
  | method access static name typeParams params ret role optional abstract =>
    cases role <;> simp [erased, lines]
  | property | index | call | construct | other | unknown =>
    simp [erased, lines, indexLines, TypeExpr.mapped_erased]

theorem render_erased (member : Member) (place : Place) :
    member.erased.render place = member.render place := by
  unfold render
  rw [isVisible_erased, lines_erased]

/-- A member that does not stay has no lines anywhere. -/
theorem render_of_not_kept {member : Member} (h : member.isKept = false) (place : Place) :
    member.render place = [] := by
  unfold render
  cases hv : member.isVisible with
  | false => rfl
  | true =>
    have hform : member.isFormless = true := by simpa [isKept, hv] using h
    cases member <;> first | rfl | cases hform

/-- Only a visible property with an object literal type is nested. -/
theorem eq_property_of_nested? {member : Member} {name : String} {members : List Member}
    (h : member.nested? = some (name, members)) :
    ∃ static readonly optional abstract,
      member = .property .everyone static name (.object members) readonly optional abstract := by
  unfold nested? at h
  split at h
  · cases h
    exact ⟨_, _, _, _, rfl⟩
  · cases h

theorem traitLines_of_not_nested {member : Member} (h : member.nested? = none) (owner : String) :
    member.traitLines owner = member.render .trait := by
  unfold traitLines
  split
  · cases h
  · rfl

theorem nested?_erased (member : Member) :
    member.erased.nested? =
      member.nested?.map fun (name, members) => (name, erasedMembers members) := by
  cases member with
  | property access static name type readonly optional abstract =>
    cases access <;> cases type <;> rfl
  | method | index | call | construct | other | unknown => rfl

theorem nested?_of_not_kept {member : Member} (h : member.isKept = false) :
    member.nested? = none := by
  cases hn : member.nested? with
  | none => rfl
  | some pair =>
    obtain ⟨_, _, _, _, rfl⟩ := eq_property_of_nested? hn
    cases h

theorem nestedTrait?_erased (member : Member) :
    member.erased.nestedTrait? = member.nestedTrait? := by
  unfold nestedTrait?
  rw [nested?_erased, Option.map_map]
  rfl

theorem nestedTrait?_of_not_kept {member : Member} (h : member.isKept = false) :
    member.nestedTrait? = none := by
  unfold nestedTrait?
  rw [nested?_of_not_kept h]
  rfl

theorem traitLines_erased (owner : String) (member : Member) :
    member.erased.traitLines owner = member.traitLines owner := by
  cases hn : member.nested? with
  | none =>
    have he : member.erased.nested? = none := by
      rw [nested?_erased, hn]
      rfl
    rw [traitLines_of_not_nested hn, traitLines_of_not_nested he, render_erased]
  | some pair =>
    obtain ⟨_, _, _, _, rfl⟩ := eq_property_of_nested? hn
    rfl

theorem traitLines_of_not_kept {member : Member} (h : member.isKept = false) (owner : String) :
    member.traitLines owner = [] := by
  rw [traitLines_of_not_nested (nested?_of_not_kept h), render_of_not_kept h]

end Member

end Facade
