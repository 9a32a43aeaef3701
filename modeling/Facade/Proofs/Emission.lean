-- The laws of emission. A statement has one unit of lines, whatever stands before it and
-- whatever its scope has gathered, so the lines of a file are the units of its statements in
-- source order.
import Facade.Conversion
import Facade.Proofs.Layout

namespace Facade

/-! ## Pieces that end with a line -/

/-- Written after a line that is not empty, the pieces end with a line that is not empty. -/
def Settled (pieces : List Piece) : Prop :=
  endsBlank false (layoutAll false pieces) = false

theorem settled_nil : Settled [] := rfl

theorem Settled.append {xs ys : List Piece} (hx : Settled xs) (hy : Settled ys) :
    Settled (xs ++ ys) := by
  unfold Settled at *
  rw [layoutAll_append, hx, endsBlank_append, hx, hy]

theorem settled_concat_block (pieces : List Piece) (header : String) (indented : Bool)
    (body : List Piece) : Settled (pieces ++ [.block header indented body]) := by
  unfold Settled
  rw [layoutAll_append, endsBlank_append, layoutAll, layoutAll, List.append_nil]
  exact endsBlank_block _ _ _ _ _

theorem settled_flatMap {α : Type} (items : List α) (pieces : α → List Piece)
    (h : ∀ item ∈ items, Settled (pieces item)) : Settled (items.flatMap pieces) := by
  induction items with
  | nil => exact settled_nil
  | cons item items ih =>
    rw [List.flatMap_cons]
    exact (h item (by simp)).append (ih fun x hx => h x (by simp [hx]))

/-- Settled pieces leave what follows them as it would be after any line. -/
theorem layoutAll_append_of_settled {xs : List Piece} (h : Settled xs) (ys : List Piece) :
    layoutAll false (xs ++ ys) = layoutAll false xs ++ layoutAll false ys := by
  rw [layoutAll_append, h]

theorem layoutAll_flatMap_of_settled {α : Type} (items : List α) (pieces : α → List Piece)
    (h : ∀ item ∈ items, Settled (pieces item)) :
    layoutAll false (items.flatMap pieces) =
      items.flatMap fun item => layoutAll false (pieces item) := by
  induction items with
  | nil => rfl
  | cons item items ih =>
    rw [List.flatMap_cons, List.flatMap_cons, layoutAll_append_of_settled (h item (by simp)),
      ih fun x hx => h x (by simp [hx])]

/-! ## Every statement is settled -/

theorem ClassDecl.pieces_settled (decl : ClassDecl) (path : List String) :
    Settled (decl.pieces path) := by
  unfold ClassDecl.pieces
  apply Settled.append
  · exact settled_concat_block [_, _, _] _ _ _
  · split
    · exact settled_nil
    · exact settled_concat_block [_, _] _ _ _

theorem InterfaceDecl.pieces_settled (decl : InterfaceDecl) : Settled decl.pieces := by
  unfold InterfaceDecl.pieces
  apply Settled.append
  · exact settled_concat_block [_, _] _ _ _
  · split
    · exact settled_nil
    · exact settled_concat_block [_] _ _ _

theorem EnumDecl.pieces_settled (decl : EnumDecl) (path : List String) :
    Settled (decl.pieces path) :=
  settled_concat_block [_, _, _, _, _, _] _ _ _

theorem VariableDecl.pieces_settled (decl : VariableDecl) (path : List String) :
    Settled (decl.pieces path) := by
  unfold VariableDecl.pieces
  split
  · exact settled_concat_block [_, _, _] _ _ _
  · exact settled_nil

theorem Exports.container_settled (exports : Exports) (name tag default : String) :
    Settled (exports.container name tag default) := by
  unfold Exports.container
  split
  · exact settled_nil
  · exact settled_concat_block [_, _, _] _ _ _

theorem Statement.pieces_settled (statement : Statement) (path : List String) :
    Settled (statement.pieces path) := by
  cases statement with
  | module name quoted body =>
    rw [Statement.pieces]
    split
    · exact settled_nil
    · exact settled_concat_block [_] _ _ _
  | moduleHead name quoted =>
    rw [Statement.pieces]
    split
    · exact settled_nil
    · exact settled_concat_block [_] _ _ _
  | classDecl decl => exact decl.pieces_settled path
  | interfaceDecl decl => exact decl.pieces_settled
  | enumDecl decl => exact decl.pieces_settled path
  | variableDecls decls => exact settled_flatMap _ _ fun decl _ => decl.pieces_settled path
  | aliasDecl | function | exportAssignment | importDecl | other | unknown => exact settled_nil

theorem bodyPieces_eq_flatMap (path : List String) (statements : List Statement) :
    bodyPieces path statements = statements.flatMap (·.pieces path) := by
  induction statements with
  | nil => rfl
  | cons statement rest ih => rw [bodyPieces, ih, List.flatMap_cons]

theorem bodyPieces_settled (path : List String) (statements : List Statement) :
    Settled (bodyPieces path statements) := by
  rw [bodyPieces_eq_flatMap]
  exact settled_flatMap _ _ fun statement _ => statement.pieces_settled path

/-! ## One statement at a time -/

namespace OpenScope

@[simp] theorem gather_path (scope : OpenScope) (statement : Statement) :
    (scope.gather statement).path = scope.path := rfl

@[simp] theorem foldl_gather_path (scope : OpenScope) (statements : List Statement) :
    (statements.foldl gather scope).path = scope.path := by
  induction statements generalizing scope with
  | nil => rfl
  | cons statement rest ih => exact ih (scope.gather statement)

@[simp] theorem foldl_gather_exports (scope : OpenScope) (statements : List Statement) :
    (statements.foldl gather scope).exports = statements.foldl Exports.collect scope.exports := by
  induction statements generalizing scope with
  | nil => rfl
  | cons statement rest ih => exact ih (scope.gather statement)

/-- Writing a namespace through its own scope gives its package block. -/
theorem leave_eq (scope : OpenScope) (writer : Writer) (name : String) (body : List Statement) :
    let inner := scope.enter (Text.segments '.' name)
    let start := writer.blank.openBlock ("package " ++ Name.writtenPath name) false
    (body.foldl gather inner).leave (start.putAll (bodyPieces inner.path body)) name writer.indent =
      writer.putAll (namespaceBlock name inner.path body (bodyPieces inner.path body)) := by
  intro inner start
  have hindent : writer.blank.indent = writer.indent := by
    rw [Writer.blank_eq, Writer.extended_indent]
  have hexports : inner.exports = Exports.empty := rfl
  unfold leave namespaceBlock namespaceContainer Exports.ofStatements
  rw [foldl_gather_path, foldl_gather_exports, hexports]
  simp only [Writer.putAll, Writer.put, Writer.putAll_append, hindent]
  rfl

mutual

/-- A statement is written as its pieces and gathered by its own scope only. -/
theorem emit_eq (scope : OpenScope) (writer : Writer) (statement : Statement) :
    scope.emit writer statement =
      (scope.gather statement, writer.putAll (statement.pieces scope.path)) := by
  match statement with
  | .module name quoted body =>
    rw [emit, Statement.pieces]
    cases quoted with
    | true => rfl
    | false =>
      have hbody := emitAll_eq (scope.enter (Text.segments '.' name))
        (writer.blank.openBlock ("package " ++ Name.writtenPath name) false) body
      simp only [hbody, Bool.false_eq_true, if_false, leave_eq]
      rfl
  | .moduleHead name quoted =>
    rw [emit, Statement.pieces]
    cases quoted with
    | true => rfl
    | false =>
      have hempty := leave_eq scope writer name []
      simp only [List.foldl_nil, bodyPieces, Writer.putAll] at hempty
      simp only [Bool.false_eq_true, if_false, hempty]
      rfl
  | .classDecl _ | .interfaceDecl _ | .enumDecl _ | .aliasDecl _ | .variableDecls _ | .function _
  | .exportAssignment _ | .importDecl _ | .other _ | .unknown => rw [emit] <;> simp

/-- Statements are written as their pieces, in order. -/
theorem emitAll_eq (scope : OpenScope) (writer : Writer) (statements : List Statement) :
    scope.emitAll writer statements =
      (statements.foldl gather scope, writer.putAll (bodyPieces scope.path statements)) := by
  match statements with
  | [] => rfl
  | statement :: rest =>
    rw [emitAll, emit_eq scope writer statement]
    simp only
    rw [emitAll_eq _ _ rest, bodyPieces, Writer.putAll_append, gather_path, List.foldl_cons]

end

end OpenScope

/-! ## Units -/

/-- The lines of a statement on its own: those of a writer that has written nothing, for a scope
that has gathered nothing. -/
def Statement.unit (path : List String) (statement : Statement) : List String :=
  (OpenScope.emit ⟨path, .empty⟩ .empty statement).2.lines.toList

/-- The lines of the object of a scope on its own. -/
def Exports.unit (exports : Exports) (name tag default : String) : List String :=
  (Writer.empty.putAll (exports.container name tag default)).lines.toList

theorem Statement.unit_eq (path : List String) (statement : Statement) :
    statement.unit path = layoutAll false (statement.pieces path) := by
  unfold Statement.unit
  rw [OpenScope.emit_eq, Writer.empty_putAll_lines]

theorem Exports.unit_eq (exports : Exports) (name tag default : String) :
    exports.unit name tag default = layoutAll false (exports.container name tag default) :=
  Writer.empty_putAll_lines _

/-- Statements in order have their units in order. -/
theorem layoutAll_bodyPieces (path : List String) (statements : List Statement) :
    layoutAll false (bodyPieces path statements) = statements.flatMap (·.unit path) := by
  rw [bodyPieces_eq_flatMap, layoutAll_flatMap_of_settled _ _ fun s _ => s.pieces_settled path]
  simp only [Statement.unit_eq]

/-- After a line that is not empty, a statement adds its unit and nothing else. -/
theorem OpenScope.emit_writer (scope : OpenScope) (writer : Writer) (statement : Statement)
    (h : writer.atBlank = false) :
    (scope.emit writer statement).2 =
      writer.extended ((statement.unit scope.path).map (Writer.shifted writer.indent)) := by
  rw [emit_eq, Writer.putAll_eq, h, Statement.unit_eq]

theorem OpenScope.emit_atBlank (scope : OpenScope) (writer : Writer) (statement : Statement)
    (h : writer.atBlank = false) : (scope.emit writer statement).2.atBlank = false := by
  rw [emit_writer scope writer statement h, Writer.atBlank_extended, endsBlank_map_shifted, h,
    Statement.unit_eq]
  exact statement.pieces_settled scope.path

/-! ## Files -/

/-- The lines that open every facade. -/
def openingLines : List String :=
  ["", "import scala.scalajs.js", "import js.annotation._", "import js.|", ""]

/-- The lines that end a facade: one empty line more when the file has modules. -/
def DeclarationFile.closingLines (file : DeclarationFile) : List String :=
  if file.statements.any (·.isModuleLike) then ["", "", "\x7d"] else ["", "\x7d"]

/-- The lines of a file, unit by unit. -/
def DeclarationFile.lines (file : DeclarationFile) (package : String) : List String :=
  openingLines ++ [Name.packageClause package ++ " \x7b"]
    ++ file.statements.flatMap (·.unit [])
    ++ (Exports.ofStatements file.statements).unit (Name.container package) "@JSGlobalScope" "Unit"
    ++ file.closingLines

/-- The pieces inside the package of a file. -/
def DeclarationFile.inside (file : DeclarationFile) (package : String) : List Piece :=
  bodyPieces [] file.statements
    ++ (Exports.ofStatements file.statements).container (Name.container package)
      "@JSGlobalScope" "Unit"
    ++ [.gap]
    ++ (if file.statements.any (·.isModuleLike) then [.line ""] else [])

theorem DeclarationFile.layoutAll_pieces_eq (file : DeclarationFile) (package : String) :
    layoutAll false (file.pieces package) = openingLines
      ++ (Name.packageClause package ++ " \x7b") :: (layoutAll false (file.inside package)
        ++ ["\x7d"]) := by
  have hblock : ∀ blank, (Piece.block (Name.packageClause package) false
      (file.inside package)).layout blank =
      (Name.packageClause package ++ " \x7b") :: (layoutAll false (file.inside package)
        ++ ["\x7d"]) := by
    intro blank
    rw [Piece.layout, Bool.toNat_false, Writer.map_shifted_zero]
    rfl
  change layoutAll false ([.line ""] ++ Piece.ofLines headerImports ++ [.line "",
    .block (Name.packageClause package) false (file.inside package)]) = _
  rw [layoutAll_append, layoutAll_append, layoutAll_ofLines]
  simp only [layoutAll, hblock]
  simp [Piece.layout, openingLines, headerImports]

theorem DeclarationFile.layoutAll_inside (file : DeclarationFile) (package : String) :
    layoutAll false (file.inside package) ++ ["\x7d"] =
      file.statements.flatMap (·.unit [])
        ++ (Exports.ofStatements file.statements).unit (Name.container package) "@JSGlobalScope"
          "Unit"
        ++ file.closingLines := by
  have hbody := bodyPieces_settled [] file.statements
  have hcontainer := (Exports.ofStatements file.statements).container_settled
    (Name.container package) "@JSGlobalScope" "Unit"
  have hend : layoutAll false ([Piece.gap] ++
      if file.statements.any (·.isModuleLike) then [.line ""] else []) ++ ["\x7d"] =
      file.closingLines := by
    unfold closingLines
    split <;> rfl
  unfold inside
  rw [List.append_assoc, List.append_assoc, layoutAll_append_of_settled hbody,
    layoutAll_append_of_settled hcontainer, layoutAll_bodyPieces, ← Exports.unit_eq,
    List.append_assoc, List.append_assoc, hend, List.append_assoc]

theorem DeclarationFile.layoutAll_pieces (file : DeclarationFile) (package : String) :
    layoutAll false (file.pieces package) = file.lines package := by
  rw [layoutAll_pieces_eq, layoutAll_inside]
  simp [lines]

/-- The lines of a file: one block, for its package, below the opening lines. -/
theorem DeclarationFile.lines_eq (file : DeclarationFile) (package : String) :
    file.lines package = openingLines ++ (Name.packageClause package ++ " \x7b")
      :: (layoutAll false (file.inside package) ++ ["\x7d"]) := by
  rw [← layoutAll_pieces, layoutAll_pieces_eq]

/-- The text of a facade is made of the lines of its file. -/
theorem DeclarationFile.facade_eq (file : DeclarationFile) (package : String) :
    file.facade package = "\n".intercalate (file.lines package) ++ "\n" := by
  unfold facade Writer.output
  rw [Writer.empty_putAll_lines, layoutAll_pieces]

theorem convertTree_eq (file : DeclarationFile) {package : String} (h : package ≠ "") :
    convertTree file package = .ok (file.facade package) := by
  unfold convertTree
  rw [if_neg (by simpa using h)]

/-! ## The laws -/

/-- A statement is written the same everywhere. After a line that is not empty it adds its unit,
moved to the depth of the writer, and ends with a line that is not empty; its scope keeps its path
and gathers this one statement, so nothing of a namespace inside reaches it. So the lines of a file
are those of its parts, in order. -/
theorem a_statement_is_written_the_same_everywhere :
    (∀ (scope : OpenScope) (writer : Writer) (statement : Statement), writer.atBlank = false →
      (scope.emit writer statement).2.lines.toList =
          writer.lines.toList
            ++ (statement.unit scope.path).map (Writer.shifted writer.indent) ∧
        (scope.emit writer statement).2.indent = writer.indent ∧
        (scope.emit writer statement).2.atBlank = false ∧
        (scope.emit writer statement).1.path = scope.path ∧
        (scope.emit writer statement).1.exports = scope.exports.collect statement) ∧
    ∀ (file : DeclarationFile) (package : String),
      (Writer.empty.putAll (file.pieces package)).lines.toList = file.lines package ∧
        (package ≠ "" →
          convertTree file package = .ok ("\n".intercalate (file.lines package) ++ "\n")) := by
  refine ⟨?_, ?_⟩
  · intro scope writer statement h
    refine ⟨?_, ?_, scope.emit_atBlank writer statement h, ?_, ?_⟩
    · rw [scope.emit_writer writer statement h, Writer.extended_lines]
    · rw [scope.emit_writer writer statement h, Writer.extended_indent]
    · rw [OpenScope.emit_eq, OpenScope.gather_path]
    · rw [OpenScope.emit_eq]
      rfl
  · intro file package
    refine ⟨?_, ?_⟩
    · rw [Writer.empty_putAll_lines, file.layoutAll_pieces]
    · intro h
      rw [convertTree_eq file h, file.facade_eq]

/-- A namespace below another, written one level deep. -/
theorem an_inner_namespace_is_written_below_its_outer_one :
    (⟨#["package outer \x7b"], 1⟩ : Writer).atBlank = false ∧
      (OpenScope.emit ⟨["outer"], .empty⟩ ⟨#["package outer \x7b"], 1⟩
        (.module "inner" false [.aliasDecl ⟨"Id", [], .keyword "string"⟩])).2.lines.toList =
        ["package outer \x7b", "", "  package inner \x7b", "", "  @js.native",
          "  @JSGlobal(\"outer.inner\")", "  object Inner extends js.Object \x7b",
          "    type Id = String", "  \x7d", "", "  \x7d"] := by
  refine ⟨by decide, ?_⟩
  rw [(a_statement_is_written_the_same_everywhere.1 _ _ _ (by decide)).1]
  decide +kernel

end Facade
