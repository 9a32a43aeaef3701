-- Trees that are alike have the same facade, unless a class extends something that is no name.
import Facade.Proofs.TwinStatements
import Facade.Proofs.Emission
import Mathlib.Data.List.Forall2

namespace Facade

/-! ## Bases -/

mutual

/-- Whether classes extend names only. -/
def Statement.hasNamedBases : Statement → Bool
  | .classDecl decl => !decl.bases.any TypeExpr.isUnnamed
  | .module _ _ body => haveNamedBases body
  | _ => true

/-- Whether the classes of statements extend names only. -/
def haveNamedBases : List Statement → Bool
  | [] => true
  | statement :: rest => statement.hasNamedBases && haveNamedBases rest

end

theorem ClassDecl.Alike.eq_of_named {first second : ClassDecl} (h : first.Alike second)
    (hnamed : first.bases.any TypeExpr.isUnnamed = false) : second = first := by
  have hbases : second.bases = first.bases := by
    refine h.bases.resolve_right fun hunnamed => ?_
    rw [hnamed] at hunnamed
    cases hunnamed
  rw [h.eq, hbases]

/-! ## Scopes -/

/-- Exported values that a scope finds under the same name. -/
def ExportAssignment.Alike (first second : ExportAssignment) : Prop :=
  second.isIdentifier = first.isIdentifier ∧ (first.isIdentifier → second.name = first.name)

/-- Scopes that have gathered alike statements. -/
structure Exports.Alike (first second : Exports) : Prop where
  aliases : second.aliases = first.aliases
  functions : second.functions = first.functions
  plainVariables : second.plainVariables = first.plainVariables
  assignments : List.Forall₂ ExportAssignment.Alike first.assignments second.assignments

namespace Exports.Alike

theorem empty : Exports.Alike .empty .empty := ⟨rfl, rfl, rfl, .nil⟩

variable {first second : Exports}

theorem collect (h : first.Alike second) {statement statement' : Statement}
    (halike : statement.Alike statement') :
    (first.collect statement).Alike (second.collect statement') := by
  obtain ⟨haliases, hfunctions, hvariables, hassignments⟩ := h
  cases halike with
  | same =>
    cases statement with
    | aliasDecl decl => exact ⟨congrArg (· ++ [decl]) haliases, hfunctions, hvariables,
      hassignments⟩
    | function decl => exact ⟨haliases, congrArg (· ++ [decl]) hfunctions, hvariables, hassignments⟩
    | variableDecls decls =>
      exact ⟨haliases, hfunctions, congrArg (· ++ _) hvariables, hassignments⟩
    | exportAssignment assignment =>
      exact ⟨haliases, hfunctions, hvariables, List.rel_append hassignments
        (.cons ⟨rfl, fun _ => rfl⟩ .nil)⟩
    | _ => exact ⟨haliases, hfunctions, hvariables, hassignments⟩
  | exportAssignment hname htext =>
    exact ⟨haliases, hfunctions, hvariables, List.rel_append hassignments
      (.cons ⟨hname, htext⟩ .nil)⟩
  | _ => exact ⟨haliases, hfunctions, hvariables, hassignments⟩

theorem foldl_collect (h : first.Alike second) {statements statements' : List Statement}
    (halike : Statement.AllAlike statements statements') :
    (statements.foldl Exports.collect first).Alike (statements'.foldl Exports.collect second) := by
  induction statements generalizing first second statements' with
  | nil =>
    cases halike
    exact h
  | cons statement statements ih =>
    cases halike with
    | cons hstatement hmore => exact ih (h.collect hstatement) hmore

theorem resolve?_eq (h : first.Alike second) {assignment assignment' : ExportAssignment}
    (halike : assignment.Alike assignment') :
    second.resolve? assignment' = first.resolve? assignment := by
  unfold Exports.resolve?
  rw [halike.1, h.functions]
  split
  · next hname => rw [halike.2 hname]
  · rfl

theorem filterMap_resolve?_eq (h : first.Alike second)
    {assignments assignments' : List ExportAssignment}
    (halike : List.Forall₂ ExportAssignment.Alike assignments assignments') :
    assignments'.filterMap second.resolve? = assignments.filterMap first.resolve? := by
  induction halike with
  | nil => rfl
  | cons hassignment _ ih =>
    rw [List.filterMap_cons, List.filterMap_cons, h.resolve?_eq hassignment, ih]

theorem container_eq (h : first.Alike second) (name tag default : String) :
    second.container name tag default = first.container name tag default := by
  have hempty : second.isEmpty = first.isEmpty := by
    unfold Exports.isEmpty
    rw [h.aliases, h.functions, h.plainVariables]
    congr 1
    have hassignments := h.assignments
    generalize first.assignments = assignments at hassignments
    generalize second.assignments = assignments' at hassignments
    cases hassignments <;> rfl
  unfold Exports.container Exports.lines
  rw [hempty, h.aliases, h.functions, h.plainVariables, h.filterMap_resolve?_eq h.assignments]

end Exports.Alike

/-- The object of a scope is the same for alike statements. -/
theorem Statement.AllAlike.container_eq {statements statements' : List Statement}
    (h : Statement.AllAlike statements statements') (name tag default : String) :
    (Exports.ofStatements statements').container name tag default =
      (Exports.ofStatements statements).container name tag default :=
  (Exports.Alike.empty.foldl_collect h).container_eq name tag default

/-! ## Statements and files -/

mutual

theorem Statement.Alike.pieces_eq {first second : Statement} (h : first.Alike second)
    (hnamed : first.hasNamedBases) (path : List String) :
    second.pieces path = first.pieces path := by
  match h with
  | .same _ => rfl
  | .classDecl hclass =>
    rw [Statement.hasNamedBases, Bool.not_eq_true'] at hnamed
    rw [hclass.eq_of_named hnamed]
  | .exportAssignment .. => rfl
  | .importDecl .. => rfl
  | .module name quoted hbody =>
    rw [Statement.hasNamedBases] at hnamed
    rw [Statement.pieces, Statement.pieces]
    dsimp only
    rw [hbody.bodyPieces_eq hnamed, namespaceBlock, namespaceBlock, namespaceContainer,
      namespaceContainer,
      hbody.container_eq]

theorem Statement.AllAlike.bodyPieces_eq {first second : List Statement}
    (h : Statement.AllAlike first second) (hnamed : haveNamedBases first) (path : List String) :
    bodyPieces path second = bodyPieces path first := by
  match h with
  | .nil => rfl
  | .cons hstatement hmore =>
    rw [haveNamedBases, Bool.and_eq_true] at hnamed
    rw [bodyPieces, bodyPieces, hstatement.pieces_eq hnamed.1, hmore.bodyPieces_eq hnamed.2]

end

mutual

theorem Statement.Alike.hasUnknown_eq {first second : Statement} (h : first.Alike second) :
    second.hasUnknown = first.hasUnknown := by
  match h with
  | .same _ => rfl
  | .classDecl hclass =>
    rw [hclass.eq, Statement.hasUnknown, Statement.hasUnknown]
    dsimp only
    rw [hclass.unknown]
  | .exportAssignment .. => rfl
  | .importDecl .. => rfl
  | .module name quoted hbody =>
    rw [Statement.hasUnknown, Statement.hasUnknown, hbody.haveUnknown_eq]

theorem Statement.AllAlike.haveUnknown_eq {first second : List Statement}
    (h : Statement.AllAlike first second) :
    statementsHaveUnknown second = statementsHaveUnknown first := by
  match h with
  | .nil => rfl
  | .cons hstatement hmore =>
    rw [statementsHaveUnknown, statementsHaveUnknown, hstatement.hasUnknown_eq,
      hmore.haveUnknown_eq]

end

theorem Statement.AllAlike.any_isModuleLike_eq {first second : List Statement}
    (h : Statement.AllAlike first second) :
    second.any (·.isModuleLike) = first.any (·.isModuleLike) := by
  induction first generalizing second with
  | nil =>
    cases h
    rfl
  | cons statement first ih =>
    cases h with
    | cons hstatement hmore =>
      rw [List.any_cons, List.any_cons, ih hmore]
      cases hstatement <;> rfl

/-- Files with alike statements have the same facade. -/
theorem DeclarationFile.facade_eq_of_alike {first second : List Statement}
    (h : Statement.AllAlike first second) (hnamed : haveNamedBases first) (package : String) :
    (DeclarationFile.mk second).facade package = (DeclarationFile.mk first).facade package := by
  unfold facade pieces
  dsimp only
  rw [h.bodyPieces_eq hnamed, h.container_eq, h.any_isModuleLike_eq]

end Facade
