-- What a scope gathers and its object shows: every alias, function and plain variable once, in
-- the order of kinds. Variables with an object literal type are shown where they stand.
import Facade.Emission
import Facade.Proofs.Layout
import Facade.Proofs.Text

namespace Facade

/-! ## The declarations of a scope -/

/-- The type alias that a statement declares. -/
def Statement.alias? : Statement → Option AliasDecl
  | .aliasDecl decl => some decl
  | _ => none

/-- The function that a statement declares. -/
def Statement.function? : Statement → Option FunctionDecl
  | .function decl => some decl
  | _ => none

/-- The export assignment that a statement is. -/
def Statement.assignment? : Statement → Option ExportAssignment
  | .exportAssignment assignment => some assignment
  | _ => none

/-- The variables that a statement declares. -/
def Statement.declarators : Statement → List VariableDecl
  | .variableDecls decls => decls
  | _ => []

/-- The type aliases among statements. -/
def aliasesOf (statements : List Statement) : List AliasDecl :=
  statements.filterMap Statement.alias?

/-- The functions among statements. -/
def functionsOf (statements : List Statement) : List FunctionDecl :=
  statements.filterMap Statement.function?

/-- The export assignments among statements. -/
def assignmentsOf (statements : List Statement) : List ExportAssignment :=
  statements.filterMap Statement.assignment?

/-- The variables among statements whose type is no object literal type. -/
def plainVariablesOf (statements : List Statement) : List VariableDecl :=
  (statements.flatMap Statement.declarators).filter (!·.type.isObject)

/-- The functions that export assignments forward: of those with the assigned name, the first. -/
def forwardedOf (statements : List Statement) : List FunctionDecl :=
  (assignmentsOf statements).filterMap fun assignment =>
    (functionsOf statements).find? fun decl =>
      assignment.isIdentifier && decl.name == assignment.name

/-- The lines of everything that a scope gathers, with repeats. -/
def gatheredLines (statements : List Statement) (default : String) : List String :=
  (aliasesOf statements).map AliasDecl.line
    ++ (forwardedOf statements).map (·.line default)
    ++ (plainVariablesOf statements).map VariableDecl.line
    ++ (functionsOf statements).map (·.line default)

/-- Each kind is gathered in source order, after what was gathered before. -/
theorem Exports.foldl_collect (statements : List Statement) (exports : Exports) :
    (statements.foldl collect exports).aliases = exports.aliases ++ aliasesOf statements ∧
      (statements.foldl collect exports).functions = exports.functions ++ functionsOf statements ∧
      (statements.foldl collect exports).plainVariables =
        exports.plainVariables ++ plainVariablesOf statements ∧
      (statements.foldl collect exports).assignments =
        exports.assignments ++ assignmentsOf statements := by
  induction statements generalizing exports with
  | nil => simp [aliasesOf, functionsOf, plainVariablesOf, assignmentsOf]
  | cons statement rest ih =>
    obtain ⟨ha, hf, hv, he⟩ := ih (exports.collect statement)
    rw [List.foldl_cons, ha, hf, hv, he]
    cases statement <;>
      simp [collect, aliasesOf, functionsOf, plainVariablesOf, assignmentsOf, List.filterMap_cons,
        Statement.alias?, Statement.function?, Statement.assignment?, Statement.declarators]

/-- A scope has nothing to gather. -/
def NothingGathered (statements : List Statement) : Prop :=
  aliasesOf statements = [] ∧ functionsOf statements = [] ∧ plainVariablesOf statements = [] ∧
    assignmentsOf statements = []

theorem Exports.isEmpty_ofStatements (statements : List Statement) :
    (ofStatements statements).isEmpty = true ↔ NothingGathered statements := by
  obtain ⟨ha, hf, hv, he⟩ := foldl_collect statements empty
  unfold ofStatements Exports.isEmpty NothingGathered
  rw [ha, hf, hv, he]
  simp [empty, and_assoc]

theorem Exports.resolve?_ofStatements (statements : List Statement)
    (assignment : ExportAssignment) :
    (ofStatements statements).resolve? assignment =
      (functionsOf statements).find? fun decl =>
        assignment.isIdentifier && decl.name == assignment.name := by
  obtain ⟨_, hf, _, _⟩ := foldl_collect statements empty
  unfold resolve? ofStatements
  rw [hf]
  cases assignment.isIdentifier with
  | true => simp [empty]
  | false => exact (List.find?_eq_none.mpr (by simp)).symm

theorem Exports.lines_ofStatements (statements : List Statement) (default : String) :
    (ofStatements statements).lines default = gatheredLines statements default := by
  obtain ⟨ha, hf, hv, he⟩ := foldl_collect statements empty
  unfold Exports.lines gatheredLines forwardedOf
  rw [funext (resolve?_ofStatements statements)]
  unfold ofStatements
  rw [ha, hf, hv, he]
  rfl

/-! ## The lines of the object -/

theorem head?_toList_append {a : String} {c : Char} (h : a.toList.head? = some c) (b : String) :
    (a ++ b).toList.head? = some c := by
  rw [String.toList_append, List.head?_append, h]
  rfl

theorem AliasDecl.line_head (decl : AliasDecl) : decl.line.toList.head? = some 't' :=
  head?_toList_append (head?_toList_append (head?_toList_append (head?_toList_append rfl _) _) _) _

theorem FunctionDecl.line_head (decl : FunctionDecl) (default : String) :
    (decl.line default).toList.head? = some 'd' :=
  head?_toList_append (head?_toList_append (head?_toList_append rfl _) _) _

theorem VariableDecl.line_head (decl : VariableDecl) : decl.line.toList.head? = some 'v' := by
  have hword : (if decl.isConst then "val" else "var").toList.head? = some 'v' := by
    split <;> rfl
  exact head?_toList_append (head?_toList_append (head?_toList_append (head?_toList_append
    (head?_toList_append hword _) _) _) _) _

/-- Lines that start otherwise are others. -/
theorem not_mem_of_head {lines : List String} {c d : Char}
    (hlines : ∀ line ∈ lines, line.toList.head? = some c) {line : String}
    (hline : line.toList.head? = some d) (hne : d ≠ c) : line ∉ lines := by
  intro hl
  rw [hlines line hl] at hline
  exact hne (Option.some.inj hline).symm

theorem forwardedOf_subset (statements : List Statement) :
    forwardedOf statements ⊆ functionsOf statements := by
  intro decl hd
  obtain ⟨assignment, _, hf⟩ := List.mem_filterMap.mp hd
  exact List.mem_of_find?_eq_some hf

/-- How an object shows what a scope gathers: `lines` are its lines. -/
structure ShowsGathered (statements : List Statement) (default : String) (lines : List String) :
    Prop where
  /-- No line stands twice. -/
  nodup : lines.Nodup
  /-- Lines stand in the order in which they first occur. -/
  ordered : lines.Pairwise fun x y =>
    (gatheredLines statements default).idxOf x < (gatheredLines statements default).idxOf y
  /-- The lines are those of the aliases, variables and functions, and no others. -/
  complete : ∀ line, line ∈ lines ↔
    line ∈ (aliasesOf statements).map AliasDecl.line ∨
      line ∈ (plainVariablesOf statements).map VariableDecl.line ∨
      line ∈ (functionsOf statements).map (·.line default)
  /-- What an export assignment adds is the line of a function. -/
  forwarded : (forwardedOf statements).map (·.line default) ⊆
    (functionsOf statements).map (·.line default)
  /-- All that an export assignment does is to show its function before the variables. -/
  kinds : lines =
    Text.distinct ((aliasesOf statements).map AliasDecl.line)
      ++ Text.distinct ((forwardedOf statements).map (·.line default))
      ++ Text.distinct ((plainVariablesOf statements).map VariableDecl.line)
      ++ (Text.distinct ((functionsOf statements).map (·.line default))).filter
        (!((forwardedOf statements).map (·.line default)).contains ·)

theorem mem_gatheredLines {statements : List Statement} {default line : String} :
    line ∈ gatheredLines statements default ↔
      line ∈ (aliasesOf statements).map AliasDecl.line ∨
        line ∈ (plainVariablesOf statements).map VariableDecl.line ∨
        line ∈ (functionsOf statements).map (·.line default) := by
  have hforwarded : line ∈ (forwardedOf statements).map (·.line default) →
      line ∈ (functionsOf statements).map (·.line default) :=
    fun h => List.map_subset _ (forwardedOf_subset statements) h
  unfold gatheredLines
  rw [List.mem_append, List.mem_append, List.mem_append]
  tauto

/-- The kinds share no line, but for the functions that are forwarded. -/
theorem distinct_gatheredLines (statements : List Statement) (default : String) :
    Text.distinct (gatheredLines statements default) =
      Text.distinct ((aliasesOf statements).map AliasDecl.line)
        ++ Text.distinct ((forwardedOf statements).map (·.line default))
        ++ Text.distinct ((plainVariablesOf statements).map VariableDecl.line)
        ++ (Text.distinct ((functionsOf statements).map (·.line default))).filter
          (!((forwardedOf statements).map (·.line default)).contains ·) := by
  -- The first letter tells the kind of a line.
  have halias : ∀ line ∈ (aliasesOf statements).map AliasDecl.line,
      line.toList.head? = some 't' := by
    intro line hl
    obtain ⟨decl, _, rfl⟩ := List.mem_map.mp hl
    exact decl.line_head
  have hfunction : ∀ decls : List FunctionDecl, ∀ line ∈ decls.map (·.line default),
      line.toList.head? = some 'd' := by
    intro decls line hl
    obtain ⟨decl, _, rfl⟩ := List.mem_map.mp hl
    exact decl.line_head default
  have hvariable : ∀ line ∈ (plainVariablesOf statements).map VariableDecl.line,
      line.toList.head? = some 'v' := by
    intro line hl
    obtain ⟨decl, _, rfl⟩ := List.mem_map.mp hl
    exact decl.line_head
  unfold gatheredLines
  rw [Text.distinct_append, Text.distinct_append_of_disjoint, Text.distinct_append_of_disjoint]
  · congr 1
    apply List.filter_congr
    intro line hl
    have hline := hfunction _ line (Text.mem_distinct.mp hl)
    have ha : ((aliasesOf statements).map AliasDecl.line).contains line = false :=
      Bool.eq_false_iff.mpr fun h =>
        not_mem_of_head halias hline (by decide) (List.contains_iff_mem.mp h)
    have hv : ((plainVariablesOf statements).map VariableDecl.line).contains line = false :=
      Bool.eq_false_iff.mpr fun h =>
        not_mem_of_head hvariable hline (by decide) (List.contains_iff_mem.mp h)
    rw [List.contains_append, List.contains_append, ha, hv, Bool.false_or, Bool.or_false]
  · intro line hl
    exact not_mem_of_head halias (hfunction _ line hl) (by decide)
  · intro line hl hboth
    rcases List.mem_append.mp hboth with hboth | hboth
    · exact not_mem_of_head halias (hvariable line hl) (by decide) hboth
    · exact not_mem_of_head (hfunction _) (hvariable line hl) (by decide) hboth

theorem showsGathered_distinct (statements : List Statement) (default : String) :
    ShowsGathered statements default (Text.distinct (gatheredLines statements default)) where
  nodup := Text.distinct_nodup _
  ordered := Text.distinct_pairwise_idxOf _
  complete _ := Text.mem_distinct.trans mem_gatheredLines
  forwarded := List.map_subset _ (forwardedOf_subset statements)
  kinds := distinct_gatheredLines statements default

/-! ## Writing the object -/

/-- The lines of an object that the platform provides, after an empty line. -/
def objectText (blank : Bool) (name tag : String) (lines : List String) : List String :=
  (if blank then [] else [""])
    ++ [nativeMark, tag, "object " ++ name ++ " extends js.Object \x7b"]
    ++ lines.map (Writer.shifted 1) ++ ["\x7d"]

theorem layoutAll_objectPieces (blank : Bool) (name tag : String) (lines : List String) :
    layoutAll blank [.gap, .line nativeMark, .line tag,
      .block ("object " ++ name ++ " extends js.Object") true (Piece.ofLines lines)] =
      objectText blank name tag lines := by
  have hhead : "object " ++ name ++ " extends js.Object" ++ " \x7b" =
      "object " ++ name ++ " extends js.Object \x7b" := by
    rw [String.append_assoc]
    rfl
  simp only [layoutAll, Piece.layout, layoutAll_ofLines, hhead, objectText]
  simp

theorem Writer.putAll_container (writer : Writer) (statements : List Statement)
    (name tag default : String) (h : ¬NothingGathered statements) :
    writer.putAll ((Exports.ofStatements statements).container name tag default) =
      writer.extended ((objectText writer.atBlank name tag
        (Text.distinct (gatheredLines statements default))).map (shifted writer.indent)) := by
  have hempty : ¬(Exports.ofStatements statements).isEmpty = true := fun he =>
    h ((Exports.isEmpty_ofStatements statements).mp he)
  unfold Exports.container
  rw [if_neg hempty, Writer.putAll_eq, layoutAll_objectPieces, Exports.lines_ofStatements]

theorem Writer.putAll_container_of_nothing (writer : Writer) {statements : List Statement}
    (h : NothingGathered statements) (name tag default : String) :
    writer.putAll ((Exports.ofStatements statements).container name tag default) = writer := by
  unfold Exports.container
  rw [if_pos ((Exports.isEmpty_ofStatements statements).mpr h)]
  rfl

theorem Writer.putAll_container_eq_self (writer : Writer) (statements : List Statement)
    (name tag default : String) :
    writer.putAll ((Exports.ofStatements statements).container name tag default) = writer ↔
      NothingGathered statements := by
  constructor
  · intro h
    by_contra hsome
    rw [writer.putAll_container statements name tag default hsome, extended_eq_self] at h
    simp [objectText] at h
  · exact fun h => writer.putAll_container_of_nothing h name tag default

/-! ## Variables -/

theorem VariableDecl.pieces_of_not_object {decl : VariableDecl} (h : decl.type.isObject = false)
    (path : List String) : decl.pieces path = [] := by
  unfold VariableDecl.pieces
  split
  · rename_i members htype
    rw [htype] at h
    cases h
  · rfl

theorem VariableDecl.flatMap_pieces (decls : List VariableDecl) (path : List String) :
    decls.flatMap (·.pieces path) =
      (decls.filter (·.type.isObject)).flatMap (·.pieces path) := by
  induction decls with
  | nil => rfl
  | cons decl rest ih =>
    rw [List.flatMap_cons, List.filter_cons, ih]
    split
    · rw [List.flatMap_cons]
    · rename_i h
      rw [VariableDecl.pieces_of_not_object (Bool.eq_false_iff.mpr h), List.nil_append]

/-- A variable with an object literal type is an object where it stands. -/
theorem VariableDecl.layoutAll_pieces {decl : VariableDecl} {members : List Member}
    (h : decl.type = .object members) (path : List String) (blank : Bool) :
    layoutAll blank (decl.pieces path) = objectText blank (Name.written decl.name)
      (globalTag path decl.name) (members.flatMap (·.render .object)) := by
  unfold VariableDecl.pieces
  rw [h]
  exact layoutAll_objectPieces blank _ _ _

theorem VariableDecl.pieces_ne_nil {decl : VariableDecl} (path : List String) :
    decl.pieces path ≠ [] ↔ decl.type.isObject = true := by
  constructor
  · intro h
    by_contra hplain
    exact h (VariableDecl.pieces_of_not_object (Bool.eq_false_iff.mpr hplain) path)
  · intro h hnil
    cases htype : decl.type with
    | object members =>
      have htext := VariableDecl.layoutAll_pieces htype path false
      rw [hnil] at htext
      simp [layoutAll, objectText] at htext
    | _ =>
      rw [htype] at h
      cases h

theorem mem_plainVariablesOf {statements : List Statement} {decls : List VariableDecl}
    (hs : .variableDecls decls ∈ statements) {decl : VariableDecl} (hd : decl ∈ decls) :
    decl ∈ plainVariablesOf statements ↔ decl.type.isObject = false := by
  have hmem : decl ∈ statements.flatMap Statement.declarators :=
    List.mem_flatMap.mpr ⟨.variableDecls decls, hs, hd⟩
  unfold plainVariablesOf
  rw [List.mem_filter, Bool.not_eq_true']
  exact and_iff_right hmem

/-! ## The laws -/

/-- Every declaration of a scope is shown once. Its object is written unless there is nothing to
gather, and then shows each line that the aliases, plain variables and functions have, once. A
variable is an object where it stands exactly when its type is an object literal type, and is shown
in the object of the scope otherwise. -/
theorem every_declaration_of_a_scope_is_shown_once (statements : List Statement)
    (name tag default : String) :
    (∀ writer : Writer,
      (writer.putAll ((Exports.ofStatements statements).container name tag default) = writer ↔
        NothingGathered statements) ∧
      (¬NothingGathered statements →
        writer.putAll ((Exports.ofStatements statements).container name tag default) =
          writer.extended ((objectText writer.atBlank name tag
            (Text.distinct (gatheredLines statements default))).map
              (Writer.shifted writer.indent)))) ∧
    ShowsGathered statements default (Text.distinct (gatheredLines statements default)) ∧
    ∀ path decls, .variableDecls decls ∈ statements →
      (Statement.variableDecls decls).pieces path =
          (decls.filter (·.type.isObject)).flatMap (·.pieces path) ∧
        ∀ decl ∈ decls,
          (decl.pieces path ≠ [] ↔ decl.type.isObject = true) ∧
          (decl ∈ plainVariablesOf statements ↔ decl.type.isObject = false) ∧
          ∀ members, decl.type = .object members → ∀ blank,
            layoutAll blank (decl.pieces path) = objectText blank (Name.written decl.name)
              (globalTag path decl.name) (members.flatMap (·.render .object)) := by
  refine ⟨?_, showsGathered_distinct statements default, ?_⟩
  · intro writer
    exact ⟨writer.putAll_container_eq_self statements name tag default,
      writer.putAll_container statements name tag default⟩
  · intro path decls hs
    refine ⟨?_, ?_⟩
    · rw [Statement.pieces, VariableDecl.flatMap_pieces]
    · intro decl hd
      refine ⟨VariableDecl.pieces_ne_nil path, mem_plainVariablesOf hs hd, ?_⟩
      intro members htype blank
      exact VariableDecl.layoutAll_pieces htype path blank

/-- Two equal functions, of which the scope exports one as its value, and a statement with one
variable of either kind. -/
theorem a_forwarded_function_is_shown_once_before_the_variables :
    let decls : List VariableDecl := [⟨"a", .keyword "number", true⟩, ⟨"b", .object [], false⟩]
    let statements : List Statement := [.function ⟨"run", [], [], .absent⟩,
      .variableDecls decls, .aliasDecl ⟨"Id", [], .keyword "string"⟩,
      .function ⟨"run", [], [], .absent⟩, .exportAssignment ⟨"run", true⟩]
    ¬NothingGathered statements ∧ .variableDecls decls ∈ statements ∧
      (Writer.empty.putAll ((Exports.ofStatements statements).container "App" "@JSGlobalScope"
        "Unit")).lines.toList =
        ["", "@js.native", "@JSGlobalScope", "object App extends js.Object \x7b",
          "  type Id = String", "  def run(): Unit = js.native", "  val a: Double = js.native",
          "\x7d"] ∧
      plainVariablesOf statements = [⟨"a", .keyword "number", true⟩] ∧
      layoutAll false ((Statement.variableDecls decls).pieces []) =
        ["", "@js.native", "@JSGlobal", "object b extends js.Object \x7b", "\x7d"] := by
  intro decls statements
  have hsome : ¬NothingGathered statements := by
    rintro ⟨ha, _⟩
    cases ha
  have hmem : .variableDecls decls ∈ statements := by simp [statements]
  obtain ⟨hobject, _, hdecls⟩ :=
    every_declaration_of_a_scope_is_shown_once statements "App" "@JSGlobalScope" "Unit"
  refine ⟨hsome, hmem, ?_, rfl, ?_⟩
  · rw [(hobject Writer.empty).2 hsome, Writer.extended_lines]
    decide +kernel
  · rw [(hdecls [] decls hmem).1]
    decide +kernel

end Facade
