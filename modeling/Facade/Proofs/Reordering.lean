-- Unrelated declarations may stand in any order. Each statement goes to some groups of the output;
-- two neighbours that share no group may change places, in the file or in a namespace at any depth,
-- and a variable statement may be cut into several.
import Facade.Proofs.Emission
import Facade.Proofs.Gathering

namespace Facade

/-! ## Groups -/

/-- The parts of the output that keep their own order. -/
inductive OutputGroup where
  /-- What is written where it stands. -/
  | inPlace
  | alias
  | function
  | plainVariable
  | exportAssignment
  deriving DecidableEq, Repr

/-- A variable is written where it stands when its type is an object literal type. -/
def VariableDecl.group (decl : VariableDecl) : OutputGroup :=
  if decl.type.isObject then .inPlace else .plainVariable

/-- The groups that a statement goes to. -/
def Statement.groups : Statement → List OutputGroup
  | .module _ quoted _ => if quoted then [] else [.inPlace]
  | .moduleHead _ quoted => if quoted then [] else [.inPlace]
  | .classDecl _ => [.inPlace]
  | .interfaceDecl _ => [.inPlace]
  | .enumDecl _ => [.inPlace]
  | .aliasDecl _ => [.alias]
  | .variableDecls decls => decls.map VariableDecl.group
  | .function _ => [.function]
  | .exportAssignment _ => [.exportAssignment]
  | .importDecl _ => []
  | .other _ => []
  | .unknown => []

/-- One change in the order of statements, in one scope at any depth. -/
inductive Rearranged : List Statement → List Statement → Prop
  /-- Two neighbours that share no group change places. -/
  | swap {first second : Statement} :
      first.groups.Disjoint second.groups → Rearranged [first, second] [second, first]
  /-- A variable statement is cut into several. -/
  | split (parts : List (List VariableDecl)) :
      Rearranged [.variableDecls parts.flatten] (parts.map .variableDecls)
  /-- The change is in the body of a namespace or module. -/
  | inside (name : String) (quoted : Bool) {body changed : List Statement} :
      Rearranged body changed →
      Rearranged [.module name quoted body] [.module name quoted changed]
  /-- Other statements of the scope stand around the change. -/
  | among (before after : List Statement) {statements changed : List Statement} :
      Rearranged statements changed →
      Rearranged (before ++ statements ++ after) (before ++ changed ++ after)

/-! ## What a scope shows -/

/-- Two lists of statements show the same: in place, in the object of their scope, and at the end
of a file. -/
structure ShowSame (xs ys : List Statement) : Prop where
  inPlace : ∀ path, bodyPieces path xs = bodyPieces path ys
  aliases : aliasesOf xs = aliasesOf ys
  functions : functionsOf xs = functionsOf ys
  plainVariables : plainVariablesOf xs = plainVariablesOf ys
  assignments : assignmentsOf xs = assignmentsOf ys
  moduleLike : xs.any (·.isModuleLike) = ys.any (·.isModuleLike)

namespace ShowSame

variable {xs ys : List Statement}

theorem nothingGathered_iff (h : ShowSame xs ys) : NothingGathered xs ↔ NothingGathered ys := by
  unfold NothingGathered
  rw [h.aliases, h.functions, h.plainVariables, h.assignments]

theorem gatheredLines_eq (h : ShowSame xs ys) (default : String) :
    gatheredLines xs default = gatheredLines ys default := by
  unfold gatheredLines forwardedOf
  rw [h.aliases, h.functions, h.plainVariables, h.assignments]

theorem container_eq (h : ShowSame xs ys) (name tag default : String) :
    (Exports.ofStatements xs).container name tag default =
      (Exports.ofStatements ys).container name tag default := by
  have hempty : (Exports.ofStatements xs).isEmpty = (Exports.ofStatements ys).isEmpty := by
    rw [Bool.eq_iff_iff, Exports.isEmpty_ofStatements, Exports.isEmpty_ofStatements]
    exact h.nothingGathered_iff
  unfold Exports.container
  rw [hempty, Exports.lines_ofStatements, Exports.lines_ofStatements, h.gatheredLines_eq]

theorem pieces_eq (h : ShowSame xs ys) (package : String) :
    (DeclarationFile.mk xs).pieces package = (DeclarationFile.mk ys).pieces package := by
  unfold DeclarationFile.pieces
  simp only [h.inPlace, h.container_eq, h.moduleLike]

/-- A view of statements that goes through them in order does not mix what stands around. -/
theorem view_among {α : Type} {view : List Statement → List α}
    (hview : ∀ xs ys, view (xs ++ ys) = view xs ++ view ys) (before after : List Statement)
    (h : view xs = view ys) : view (before ++ xs ++ after) = view (before ++ ys ++ after) := by
  rw [hview, hview, hview, hview, h]

theorem among (before after : List Statement) (h : ShowSame xs ys) :
    ShowSame (before ++ xs ++ after) (before ++ ys ++ after) where
  inPlace path := by
    refine view_among ?_ before after (h.inPlace path)
    intro xs ys
    simp only [bodyPieces_eq_flatMap, List.flatMap_append]
  aliases := view_among (fun _ _ => List.filterMap_append) before after h.aliases
  functions := view_among (fun _ _ => List.filterMap_append) before after h.functions
  plainVariables := by
    refine view_among ?_ before after h.plainVariables
    intro xs ys
    simp only [plainVariablesOf, List.flatMap_append, List.filter_append]
  assignments := view_among (fun _ _ => List.filterMap_append) before after h.assignments
  moduleLike := by
    simp only [List.any_append, h.moduleLike]

/-- A namespace shows its body and nothing of it to its own scope. -/
theorem module (name : String) (quoted : Bool) (h : ShowSame xs ys) :
    ShowSame [.module name quoted xs] [.module name quoted ys] where
  inPlace path := by
    simp only [bodyPieces, Statement.pieces, namespaceBlock, namespaceContainer, h.inPlace,
      h.container_eq]
  aliases := rfl
  functions := rfl
  plainVariables := rfl
  assignments := rfl
  moduleLike := rfl

end ShowSame

/-! ## One step -/

/-- A statement adds nothing to a group that is not its own. -/
theorem Statement.silent_outside_groups (statement : Statement) :
    (.inPlace ∉ statement.groups → ∀ path, statement.pieces path = []) ∧
      (.alias ∉ statement.groups → statement.alias? = none) ∧
      (.function ∉ statement.groups → statement.function? = none) ∧
      (.plainVariable ∉ statement.groups →
        statement.declarators.filter (!·.type.isObject) = []) ∧
      (.exportAssignment ∉ statement.groups → statement.assignment? = none) := by
  cases statement with
  | module name quoted body =>
    cases quoted <;>
      simp [groups, pieces, alias?, function?, declarators, assignment?]
  | moduleHead name quoted =>
    cases quoted <;>
      simp [groups, pieces, alias?, function?, declarators, assignment?]
  | variableDecls decls =>
    refine ⟨?_, fun _ => rfl, fun _ => rfl, ?_, fun _ => rfl⟩
    · intro h path
      rw [pieces, List.flatMap_eq_nil_iff]
      intro decl hd
      apply VariableDecl.pieces_of_not_object
      by_contra hobject
      exact h (List.mem_map.mpr ⟨decl, hd, by simp_all [VariableDecl.group]⟩)
    · intro h
      rw [List.filter_eq_nil_iff]
      intro decl hd hplain
      exact h (List.mem_map.mpr ⟨decl, hd, by simp_all [VariableDecl.group]⟩)
  | _ => simp [groups, pieces, alias?, function?, declarators, assignment?]

theorem flatMap_swap {α : Type} {f : Statement → List α} {first second : Statement}
    (h : f first = [] ∨ f second = []) :
    [first, second].flatMap f = [second, first].flatMap f := by
  rcases h with h | h <;> simp [h]

theorem filterMap_swap {α : Type} {f : Statement → Option α} {first second : Statement}
    (h : f first = none ∨ f second = none) :
    [first, second].filterMap f = [second, first].filterMap f := by
  rcases h with h | h <;> simp [List.filterMap_cons, h]

/-- Neighbours that share no group show the same in either order. -/
theorem showSame_swap {first second : Statement}
    (h : first.groups.Disjoint second.groups) : ShowSame [first, second] [second, first] := by
  obtain ⟨hp, ha, hf, hv, he⟩ := first.silent_outside_groups
  obtain ⟨hp', ha', hf', hv', he'⟩ := second.silent_outside_groups
  have hout : ∀ group, group ∉ first.groups ∨ group ∉ second.groups := by
    intro group
    by_cases hg : group ∈ first.groups
    · exact Or.inr fun hg' => h hg hg'
    · exact Or.inl hg
  refine ⟨?_, ?_, ?_, ?_, ?_, ?_⟩
  · intro path
    rw [bodyPieces_eq_flatMap, bodyPieces_eq_flatMap]
    exact flatMap_swap ((hout .inPlace).imp (hp · path) (hp' · path))
  · exact filterMap_swap ((hout .alias).imp ha ha')
  · exact filterMap_swap ((hout .function).imp hf hf')
  · simp only [plainVariablesOf, List.filter_flatMap]
    exact flatMap_swap ((hout .plainVariable).imp hv hv')
  · exact filterMap_swap ((hout .exportAssignment).imp he he')
  · simp only [List.any_cons, List.any_nil, Bool.or_false]
    exact Bool.or_comm _ _

/-- A variable statement shows what its parts show. -/
theorem showSame_split (parts : List (List VariableDecl)) :
    ShowSame [.variableDecls parts.flatten] (parts.map .variableDecls) := by
  induction parts with
  | nil => exact ⟨fun _ => rfl, rfl, rfl, rfl, rfl, rfl⟩
  | cons decls parts ih =>
    refine ⟨?_, ih.aliases, ih.functions, ?_, ih.assignments, ih.moduleLike⟩
    · intro path
      have hrest := ih.inPlace path
      simp only [bodyPieces, Statement.pieces, List.append_nil] at hrest
      simp only [bodyPieces, Statement.pieces, List.append_nil, List.map_cons, List.flatten_cons,
        List.flatMap_append, hrest]
    · have hrest := ih.plainVariables
      simp only [plainVariablesOf, List.flatMap_cons, List.flatMap_nil, Statement.declarators,
        List.append_nil] at hrest
      simp only [plainVariablesOf, List.map_cons, List.flatMap_cons, List.flatMap_nil,
        Statement.declarators, List.append_nil, List.flatten_cons, List.filter_append, hrest]

/-- No change in the order of statements is seen. -/
theorem Rearranged.showSame {statements changed : List Statement}
    (h : Rearranged statements changed) : ShowSame statements changed := by
  induction h with
  | swap hgroups => exact showSame_swap hgroups
  | split parts => exact showSame_split parts
  | inside name quoted _ ih => exact ih.module name quoted
  | among before after _ ih => exact ih.among before after

/-! ## The laws -/

/-- Unrelated declarations may stand in any order. When two neighbours of a scope share no group
and change places, or a variable statement is cut into several, the whole facade stays as it was,
whatever the package and however deep the scope. -/
theorem unrelated_declarations_stand_in_any_order {statements changed : List Statement}
    (h : Rearranged statements changed) (package : String) :
    convertTree ⟨changed⟩ package = convertTree ⟨statements⟩ package ∧
      (package ≠ "" → ∃ text, convertTree ⟨changed⟩ package = .ok text) := by
  refine ⟨?_, ?_⟩
  · unfold convertTree DeclarationFile.facade
    rw [h.showSame.pieces_eq package]
  · intro hne
    exact ⟨_, convertTree_eq _ hne⟩

/-- In a namespace of a namespace, a function and a class change places, and so do an export
assignment and a statement with variables of both kinds, which then is cut in two. -/
theorem a_function_and_a_class_change_places :
    let decls : List VariableDecl := [⟨"a", .keyword "number", true⟩, ⟨"b", .object [], false⟩]
    let run : Statement := .function ⟨"run", [], [], .absent⟩
    let point : Statement := .classDecl ⟨"Point", [], [], [], [], false⟩
    let value : Statement := .exportAssignment ⟨"run", true⟩
    let around (body : List Statement) : List Statement :=
      [.importDecl "import x;"] ++ [.module "geo" false [.module "plane.flat" false body]] ++ []
    run.groups.Disjoint point.groups ∧
      value.groups.Disjoint (Statement.variableDecls decls).groups ∧
      ∃ text, convertTree ⟨around [run, point, value, .variableDecls decls]⟩ "app" = .ok text ∧
        convertTree ⟨around [point, run, value, .variableDecls decls]⟩ "app" = .ok text ∧
        convertTree ⟨around [point, run, .variableDecls decls, value]⟩ "app" = .ok text ∧
        convertTree ⟨around [point, run, .variableDecls [⟨"a", .keyword "number", true⟩],
          .variableDecls [⟨"b", .object [], false⟩], value]⟩ "app" = .ok text := by
  intro decls run point value around
  have hclass : run.groups.Disjoint point.groups := by
    change ∀ group ∈ run.groups, group ∉ point.groups
    decide
  have hvalue : value.groups.Disjoint (Statement.variableDecls decls).groups := by
    change ∀ group ∈ value.groups, group ∉ (Statement.variableDecls decls).groups
    decide
  have hdeep : ∀ {body changed : List Statement}, Rearranged body changed →
      Rearranged (around body) (around changed) := fun h =>
    .among [_] [] (.inside "geo" false (.inside "plane.flat" false h))
  obtain ⟨text, htext⟩ := (unrelated_declarations_stand_in_any_order
    (hdeep (.among [] [value, .variableDecls decls] (.swap hclass))) "app").2 (by decide)
  have hfirst := (unrelated_declarations_stand_in_any_order
    (hdeep (.among [] [value, .variableDecls decls] (.swap hclass))) "app").1
  have hsecond := (unrelated_declarations_stand_in_any_order
    (hdeep (.among [point, run] [] (.swap hvalue))) "app").1
  have hthird := (unrelated_declarations_stand_in_any_order
    (hdeep (.among [point, run] [value] (.split (decls.map ([·]))))) "app").1
  exact ⟨hclass, hvalue, text, hfirst.symm.trans htext, htext, hsecond.trans htext,
    (hthird.trans hsecond).trans htext⟩

end Facade
