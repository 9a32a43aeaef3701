-- Empty lines. Every part of a facade that stands apart has one empty line above it, and no two
-- empty lines meet but at the end of a file with modules.
import Facade.Proofs.Emission
import Facade.Proofs.Text
import Mathlib.Data.List.Chain

namespace Facade

/-! ## Lines that are written -/

/-- No line is empty. -/
def Written (lines : List String) : Prop :=
  ∀ line ∈ lines, line ≠ ""

theorem written_append {xs ys : List String} (hx : Written xs) (hy : Written ys) :
    Written (xs ++ ys) :=
  List.forall_mem_append.mpr ⟨hx, hy⟩

theorem written_map {α : Type} {f : α → String} (h : ∀ item, f item ≠ "") (items : List α) :
    Written (items.map f) :=
  List.forall_mem_map.mpr fun item _ => h item

theorem written_flatMap {α : Type} {f : α → List String} (h : ∀ item, Written (f item))
    (items : List α) : Written (items.flatMap f) := by
  intro line hline
  obtain ⟨item, -, hline⟩ := List.mem_flatMap.mp hline
  exact h item line hline

theorem append_ne_empty {a b : String} (h : b ≠ "") : a ++ b ≠ "" :=
  fun he => h (String.append_eq_empty_iff.mp he).2

theorem ne_empty_append {a b : String} (h : a ≠ "") : a ++ b ≠ "" :=
  fun he => h (String.append_eq_empty_iff.mp he).1

theorem Member.lines_written (member : Member) (place : Place) : Written (member.lines place) := by
  unfold Member.lines
  split
  · simp [Written, String.append_eq_empty_iff]
  · simp [Written, String.append_eq_empty_iff]
  · simp [Written, String.append_eq_empty_iff]
  · simp [Written, String.append_eq_empty_iff]
  · unfold indexLines
    dsimp only
    split <;> simp [Written, String.append_eq_empty_iff]
  · simp [Written, String.append_eq_empty_iff]
  · simp [Written]
  · simp [Written]
  · simp [Written]

theorem Member.render_written (member : Member) (place : Place) :
    Written (member.render place) := by
  unfold Member.render
  split
  · exact member.lines_written place
  · simp [Written]

theorem Member.traitLines_written (member : Member) (owner : String) :
    Written (member.traitLines owner) := by
  unfold Member.traitLines
  split
  · simp [Written, nestedPropertyLine, String.append_eq_empty_iff]
  · exact member.render_written .trait

theorem traitLines_written (members : List Member) (owner : String) :
    Written (traitLines members owner) := by
  intro line hline
  obtain ⟨lines, hlines, hline⟩ := List.mem_flatten.mp hline
  have hmem := (List.mem_filter.mp (Text.mem_of_mem_distinctBy hlines)).1
  obtain ⟨member, -, rfl⟩ := List.mem_map.mp hmem
  exact member.traitLines_written owner line hline

theorem ClassDecl.bodyLines_written (decl : ClassDecl) : Written decl.bodyLines :=
  written_append (written_map (fun _ => append_ne_empty (by decide)) _)
    (written_flatMap (fun member => member.render_written decl.place) _)

theorem Exports.lines_written (exports : Exports) (default : String) :
    Written (exports.lines default) := by
  have hfunction (decl : FunctionDecl) : decl.line default ≠ "" := append_ne_empty (by decide)
  refine written_append (written_append (written_append ?_ ?_) ?_) ?_
  · exact written_map (fun decl => ne_empty_append (append_ne_empty (by decide))) _
  · exact written_map hfunction _
  · exact written_map (fun decl => append_ne_empty (by decide)) _
  · exact written_map hfunction _

/-! ## Pieces that are written -/

/-- A piece whose only empty lines are gaps. -/
inductive Piece.Filled : Piece → Prop
  | line {text : String} : text ≠ "" → Filled (.line text)
  | gap : Filled .gap
  | block {header : String} {indented : Bool} {body : List Piece} :
      (∀ piece ∈ body, piece.Filled) → Filled (.block header indented body)

/-- Pieces whose only empty lines are gaps. -/
def FilledPieces (pieces : List Piece) : Prop :=
  ∀ piece ∈ pieces, piece.Filled

theorem filledPieces_nil : FilledPieces [] := List.forall_mem_nil _

theorem filledPieces_cons {piece : Piece} {rest : List Piece} (hp : piece.Filled)
    (hr : FilledPieces rest) : FilledPieces (piece :: rest) :=
  List.forall_mem_cons.mpr ⟨hp, hr⟩

theorem filledPieces_append {xs ys : List Piece} (hx : FilledPieces xs) (hy : FilledPieces ys) :
    FilledPieces (xs ++ ys) :=
  List.forall_mem_append.mpr ⟨hx, hy⟩

theorem filledPieces_optional {pieces : List Piece} (condition : Bool) (h : FilledPieces pieces) :
    FilledPieces (if condition then [] else pieces) := by
  cases condition
  · exact h
  · exact filledPieces_nil

theorem filled_block {lines : List String} (h : Written lines) (header : String) (indented : Bool) :
    (Piece.block header indented (Piece.ofLines lines)).Filled :=
  .block (List.forall_mem_map.mpr fun line hline => .line (h line hline))

theorem filled_nativeMark : (Piece.line nativeMark).Filled := .line (by decide)

/-- A block below the mark of the platform and a tag. -/
theorem filledPieces_tagged {tag : String} (htag : tag ≠ "") {lines : List String}
    (h : Written lines) (header : String) (indented : Bool) :
    FilledPieces
      [.line nativeMark, .line tag, .block header indented (Piece.ofLines lines)] :=
  filledPieces_cons filled_nativeMark
    (filledPieces_cons (.line htag) (filledPieces_cons (filled_block h header indented)
      filledPieces_nil))

theorem globalPath_ne_empty (path : String) : globalPath path ≠ "" :=
  append_ne_empty (by decide)

theorem globalTag_ne_empty (path : List String) (name : String) : globalTag path name ≠ "" := by
  unfold globalTag
  split
  · decide
  · exact globalPath_ne_empty _

theorem ClassDecl.pieces_filled (decl : ClassDecl) (path : List String) :
    FilledPieces (decl.pieces path) := by
  have htag := globalTag_ne_empty path decl.name
  refine filledPieces_append ?_ (filledPieces_optional _ ?_)
  · exact filledPieces_cons .gap (filledPieces_tagged htag decl.bodyLines_written _ _)
  · exact filledPieces_tagged htag
      (written_flatMap (fun member => member.render_written .object) _) _ _

mutual

theorem nestedTraits_filled (seen : List String) (members : List Member) :
    FilledPieces (nestedTraits seen members) := by
  match members with
  | [] => exact filledPieces_nil
  | member :: rest =>
    rw [nestedTraits]
    split
    · exact nestedTraits_filled seen rest
    · rename_i trait _
      split
      · exact nestedTraits_filled seen rest
      · exact filledPieces_append (Member.literalTraits_filled trait member)
          (nestedTraits_filled (trait :: seen) rest)

theorem Member.literalTraits_filled (trait : String) (member : Member) :
    FilledPieces (member.literalTraits trait) := by
  match member with
  | .property _ _ _ type _ _ _ =>
    rw [Member.literalTraits]
    exact TypeExpr.literalTraits_filled trait type
  | .method .. | .index .. | .call .. | .construct .. | .other .. | .unknown .. =>
    rw [Member.literalTraits]
    · exact filledPieces_nil
    · simp

theorem TypeExpr.literalTraits_filled (trait : String) (type : TypeExpr) :
    FilledPieces (type.literalTraits trait) := by
  match type with
  | .object members =>
    rw [TypeExpr.literalTraits]
    refine filledPieces_append ?_ (filledPieces_optional _ ?_)
    · exact filledPieces_cons filled_nativeMark
        (filledPieces_cons (filled_block (traitLines_written members trait) _ _) filledPieces_nil)
    · exact filledPieces_cons .gap
        (filledPieces_cons (.block (nestedTraits_filled [] members)) filledPieces_nil)
  | .absent | .unknown | .keyword _ | .literal .. | .ref .. | .array _ | .union _ | .inter _
  | .func .. | .paren _ | .keyOf _ | .unsupported _ =>
    rw [TypeExpr.literalTraits]
    · exact filledPieces_nil
    · simp

end

theorem InterfaceDecl.pieces_filled (decl : InterfaceDecl) : FilledPieces decl.pieces := by
  refine filledPieces_append ?_ (filledPieces_optional _ ?_)
  · exact filledPieces_cons .gap (filledPieces_cons filled_nativeMark
      (filledPieces_cons (filled_block (traitLines_written decl.members _) _ _) filledPieces_nil))
  · exact filledPieces_cons .gap
      (filledPieces_cons (.block (nestedTraits_filled [] decl.members)) filledPieces_nil)

theorem EnumDecl.pieces_filled (decl : EnumDecl) (path : List String) :
    FilledPieces (decl.pieces path) := by
  have hlines : Written decl.valueLines :=
    written_append (written_map (fun _ => append_ne_empty (by decide)) _)
      (by simp [Written, String.append_eq_empty_iff])
  exact filledPieces_cons .gap (filledPieces_cons filled_nativeMark
    (filledPieces_cons (.block filledPieces_nil) (filledPieces_cons .gap
      (filledPieces_tagged (globalPath_ne_empty _) hlines _ _))))

theorem VariableDecl.pieces_filled (decl : VariableDecl) (path : List String) :
    FilledPieces (decl.pieces path) := by
  unfold VariableDecl.pieces
  split
  · exact filledPieces_cons .gap (filledPieces_tagged (globalTag_ne_empty path decl.name)
      (written_flatMap (fun member => member.render_written .object) _) _ _)
  · exact filledPieces_nil

theorem Exports.container_filled (exports : Exports) (name default : String) {tag : String}
    (htag : tag ≠ "") : FilledPieces (exports.container name tag default) := by
  have hlines : Written (Text.distinct (exports.lines default)) := fun line hline =>
    exports.lines_written default line (Text.mem_distinct.mp hline)
  exact filledPieces_optional _ (filledPieces_cons .gap (filledPieces_tagged htag hlines _ _))

theorem namespaceBlock_filled (name : String) (path : List String) (body : List Statement)
    {pieces : List Piece} (h : FilledPieces pieces) :
    FilledPieces (namespaceBlock name path body pieces) := by
  have hcontainer : FilledPieces (namespaceContainer name path body) :=
    Exports.container_filled _ _ _ (globalPath_ne_empty _)
  have hinside := filledPieces_append (filledPieces_append h hcontainer)
    (filledPieces_cons .gap filledPieces_nil)
  exact filledPieces_cons .gap (filledPieces_cons (.block hinside) filledPieces_nil)

mutual

theorem Statement.pieces_filled (path : List String) (statement : Statement) :
    FilledPieces (statement.pieces path) := by
  match statement with
  | .module name quoted body =>
    rw [Statement.pieces]
    exact filledPieces_optional _ (namespaceBlock_filled name _ body (bodyPieces_filled _ body))
  | .moduleHead name quoted =>
    rw [Statement.pieces]
    exact filledPieces_optional _ (namespaceBlock_filled name _ [] filledPieces_nil)
  | .classDecl decl => exact decl.pieces_filled path
  | .interfaceDecl decl => exact decl.pieces_filled
  | .enumDecl decl => exact decl.pieces_filled path
  | .variableDecls decls =>
    rw [Statement.pieces]
    intro piece hpiece
    obtain ⟨decl, -, hpiece⟩ := List.mem_flatMap.mp hpiece
    exact decl.pieces_filled path piece hpiece
  | .aliasDecl _ | .function _ | .exportAssignment _ | .importDecl _ | .other _ | .unknown =>
    rw [Statement.pieces]
    exact filledPieces_nil

theorem bodyPieces_filled (path : List String) (statements : List Statement) :
    FilledPieces (bodyPieces path statements) := by
  match statements with
  | [] => exact filledPieces_nil
  | statement :: rest =>
    rw [bodyPieces]
    exact filledPieces_append (statement.pieces_filled path) (bodyPieces_filled path rest)

end

/-! ## No two empty lines -/

/-- Two lines are not both empty. -/
def Apart (a b : String) : Prop :=
  a ≠ "" ∨ b ≠ ""

/-- No two empty lines meet, also not with an empty line that may come before. -/
structure Spread (blank : Bool) (lines : List String) : Prop where
  chain : lines.IsChain Apart
  first : blank = true → ∀ line ∈ lines.head?, line ≠ ""

theorem spread_nil (blank : Bool) : Spread blank [] := ⟨.nil, by simp⟩

theorem spread_singleton {line : String} (h : line ≠ "") (blank : Bool) : Spread blank [line] :=
  ⟨.singleton line, by simpa using fun _ => h⟩

theorem Spread.append {blank : Bool} {xs ys : List String} (hx : Spread blank xs)
    (hy : Spread (endsBlank blank xs) ys) : Spread blank (xs ++ ys) := by
  refine ⟨hx.chain.append hy.chain ?_, ?_⟩
  · intro x hlast y hhead
    by_cases hempty : x = ""
    · refine .inr (hy.first ?_ y hhead)
      rw [endsBlank, Option.mem_def.mp hlast, hempty]
      rfl
    · exact .inl hempty
  · intro hblank line hline
    cases xs with
    | nil => exact hy.first (by simpa [endsBlank] using hblank) line hline
    | cons x xs => exact hx.first hblank line hline

theorem Spread.shifted {blank : Bool} {lines : List String} (h : Spread blank lines) (k : Nat) :
    Spread blank (lines.map (Writer.shifted k)) := by
  refine ⟨(List.isChain_map _).mpr (h.chain.imp fun a b hab => ?_), ?_⟩
  · simpa [Apart] using hab
  · intro hblank line hline
    rw [List.head?_map, Option.mem_def, Option.map_eq_some_iff] at hline
    obtain ⟨line, hline, rfl⟩ := hline
    simpa using h.first hblank line hline

theorem spread_layoutAll {pieces : List Piece}
    (h : ∀ piece ∈ pieces, ∀ blank, Spread blank (piece.layout blank)) (blank : Bool) :
    Spread blank (layoutAll blank pieces) := by
  induction pieces generalizing blank with
  | nil => exact spread_nil blank
  | cons piece pieces ih =>
    rw [List.forall_mem_cons] at h
    exact (h.1 blank).append (ih h.2 _)

theorem Piece.Filled.spread {piece : Piece} (h : piece.Filled) (blank : Bool) :
    Spread blank (piece.layout blank) := by
  induction h generalizing blank with
  | line htext => exact spread_singleton htext blank
  | gap =>
    rw [Piece.layout]
    cases blank
    · exact ⟨.singleton "", by simp⟩
    · exact spread_nil true
  | @block header indented body hbody ih =>
    have hhead : Spread blank [header ++ " \x7b"] :=
      spread_singleton (block_header_ne_empty header) blank
    have hinside : Spread false ((layoutAll false body).map (Writer.shifted indented.toNat)) :=
      (spread_layoutAll ih false).shifted _
    have hopen : endsBlank blank [header ++ " \x7b"] = false :=
      (endsBlank_concat blank [] _).trans (beq_eq_false_iff_ne.mpr (block_header_ne_empty header))
    rw [Piece.layout]
    exact (hhead.append (hopen ▸ hinside)).append (spread_singleton (by decide) _)

theorem FilledPieces.spread {pieces : List Piece} (h : FilledPieces pieces) (blank : Bool) :
    Spread blank (layoutAll blank pieces) :=
  spread_layoutAll (fun piece hp => (h piece hp).spread) blank

/-! ## Parts that stand apart -/

/-- The object of a scope as a part of its own, if there is one. -/
def Exports.containerParts (exports : Exports) (name tag default : String) : List (List String) :=
  if exports.isEmpty then [] else [layoutAll true (exports.container name tag default)]

/-- The parts of a namespace: its head, those of its body, its object and its end. -/
def namespaceParts (name : String) (path : List String) (body : List Statement)
    (bodyParts : List (List String)) : List (List String) :=
  [["package " ++ Name.writtenPath name ++ " \x7b"]] ++ bodyParts
    ++ (Exports.ofStatements body).containerParts (Name.container name)
      (globalPath (".".intercalate path)) "js.Dynamic"
    ++ [["\x7d"]]

mutual

/-- The parts of a statement that stand apart, with the lines that each has below an empty line: a
class, an interface, an enumeration, each object of a variable statement, and what a namespace is
made of. -/
def Statement.parts (path : List String) : Statement → List (List String)
  | .module name quoted body =>
    if quoted then []
    else
      let inner := path ++ Text.segments '.' name
      namespaceParts name inner body (bodyParts inner body)
  | .moduleHead name quoted =>
    if quoted then [] else namespaceParts name (path ++ Text.segments '.' name) [] []
  | .classDecl decl => [layoutAll true (decl.pieces path)]
  | .interfaceDecl decl => [layoutAll true decl.pieces]
  | .enumDecl decl => [layoutAll true (decl.pieces path)]
  | .variableDecls decls =>
    (decls.filter (·.type.isObject)).map fun decl => layoutAll true (decl.pieces path)
  | .aliasDecl _ => []
  | .function _ => []
  | .exportAssignment _ => []
  | .importDecl _ => []
  | .other _ => []
  | .unknown => []

/-- The parts of statements in order. -/
def bodyParts (path : List String) : List Statement → List (List String)
  | [] => []
  | statement :: rest => statement.parts path ++ bodyParts path rest

end

/-- The parts inside the package of a file: those of its statements, and its object. -/
def DeclarationFile.parts (file : DeclarationFile) (package : String) : List (List String) :=
  bodyParts [] file.statements
    ++ (Exports.ofStatements file.statements).containerParts (Name.container package)
      "@JSGlobalScope" "Unit"

/-- Parts in order, each below an empty line. -/
def belowEmptyLines (parts : List (List String)) : List String :=
  parts.flatMap ("" :: ·)

theorem belowEmptyLines_append (xs ys : List (List String)) :
    belowEmptyLines (xs ++ ys) = belowEmptyLines xs ++ belowEmptyLines ys :=
  List.flatMap_append

/-- Pieces that start with a gap are one part. -/
theorem layoutAll_gap_cons (pieces : List Piece) :
    layoutAll false (.gap :: pieces) = belowEmptyLines [layoutAll true (.gap :: pieces)] := by
  simp [layoutAll, Piece.layout, belowEmptyLines, endsBlank]

theorem Exports.layoutAll_container (exports : Exports) (name tag default : String) :
    layoutAll false (exports.container name tag default) =
      belowEmptyLines (exports.containerParts name tag default) := by
  unfold containerParts container
  split
  · rfl
  · exact layoutAll_gap_cons _

theorem layoutAll_variables (decls : List VariableDecl) (path : List String) :
    layoutAll false (decls.flatMap (·.pieces path)) =
      belowEmptyLines
        ((decls.filter (·.type.isObject)).map fun decl => layoutAll true (decl.pieces path)) := by
  rw [layoutAll_flatMap_of_settled _ _ fun decl _ => decl.pieces_settled path]
  induction decls with
  | nil => rfl
  | cons decl decls ih =>
    rw [List.flatMap_cons, ih]
    obtain ⟨name, type, isConst⟩ := decl
    cases type with
    | object members =>
      rw [List.filter_cons_of_pos rfl, List.map_cons, ← List.singleton_append, belowEmptyLines_append]
      exact congrArg (· ++ _) (layoutAll_gap_cons _)
    | _ => rfl

/-- The lines of a namespace are its parts, each below an empty line. -/
theorem layoutAll_namespaceBlock (name : String) (path : List String) (body : List Statement)
    {pieces : List Piece} {parts : List (List String)} (hsettled : Settled pieces)
    (h : layoutAll false pieces = belowEmptyLines parts) :
    layoutAll false (namespaceBlock name path body pieces) =
      belowEmptyLines (namespaceParts name path body parts) := by
  have hcontainer := (Exports.ofStatements body).container_settled (Name.container name)
    (globalPath (".".intercalate path)) "js.Dynamic"
  have hinside : layoutAll false (pieces ++ namespaceContainer name path body ++ [.gap]) =
      belowEmptyLines parts ++ belowEmptyLines ((Exports.ofStatements body).containerParts
        (Name.container name) (globalPath (".".intercalate path)) "js.Dynamic") ++ [""] := by
    rw [namespaceContainer, layoutAll_append_of_settled (hsettled.append hcontainer),
      layoutAll_append_of_settled hsettled, h, Exports.layoutAll_container]
    rfl
  rw [namespaceBlock, layoutAll_gap_cons, namespaceParts, belowEmptyLines_append,
    belowEmptyLines_append, belowEmptyLines_append]
  simp only [layoutAll, Piece.layout, if_true, hinside, Bool.toNat_false,
    Writer.map_shifted_zero]
  simp [belowEmptyLines]

mutual

/-- The lines of a statement are its parts, each below an empty line. -/
theorem Statement.layoutAll_pieces (path : List String) (statement : Statement) :
    layoutAll false (statement.pieces path) = belowEmptyLines (statement.parts path) := by
  match statement with
  | .module name quoted body =>
    rw [Statement.pieces, Statement.parts]
    cases quoted with
    | true => rfl
    | false =>
      exact layoutAll_namespaceBlock name _ body (bodyPieces_settled _ body)
        (layoutAll_bodyPieces_eq _ body)
  | .moduleHead name quoted =>
    rw [Statement.pieces, Statement.parts]
    cases quoted with
    | true => rfl
    | false => exact layoutAll_namespaceBlock name _ [] settled_nil rfl
  | .classDecl _ | .interfaceDecl _ | .enumDecl _ =>
    rw [Statement.pieces, Statement.parts]
    exact layoutAll_gap_cons _
  | .variableDecls decls =>
    rw [Statement.pieces, Statement.parts]
    exact layoutAll_variables decls path
  | .aliasDecl _ | .function _ | .exportAssignment _ | .importDecl _ | .other _ | .unknown =>
    rw [Statement.pieces, Statement.parts]
    rfl

theorem layoutAll_bodyPieces_eq (path : List String) (statements : List Statement) :
    layoutAll false (bodyPieces path statements) = belowEmptyLines (bodyParts path statements) := by
  match statements with
  | [] => rfl
  | statement :: rest =>
    rw [bodyPieces, bodyParts, layoutAll_append_of_settled (statement.pieces_settled path),
      statement.layoutAll_pieces path, layoutAll_bodyPieces_eq path rest, belowEmptyLines_append]

end

/-- The parts of a file and the empty line after them, as they are laid out. -/
theorem DeclarationFile.belowEmptyLines_parts (file : DeclarationFile) (package : String) :
    belowEmptyLines (file.parts package) ++ [""] =
      layoutAll false (bodyPieces [] file.statements
        ++ (Exports.ofStatements file.statements).container (Name.container package)
          "@JSGlobalScope" "Unit" ++ [.gap]) := by
  have hbody := bodyPieces_settled [] file.statements
  have hcontainer := (Exports.ofStatements file.statements).container_settled
    (Name.container package) "@JSGlobalScope" "Unit"
  rw [layoutAll_append_of_settled (hbody.append hcontainer), layoutAll_append_of_settled hbody,
    layoutAll_bodyPieces_eq, Exports.layoutAll_container, parts, belowEmptyLines_append]
  rfl

/-- The lines of a file down to its last part. -/
def DeclarationFile.upperLines (file : DeclarationFile) (package : String) : List String :=
  openingLines ++ [Name.packageClause package ++ " \x7b"] ++ belowEmptyLines (file.parts package)

/-- The lines of a file are those of its parts, each below an empty line, between the opening and the
closing lines. -/
theorem DeclarationFile.lines_eq_upperLines (file : DeclarationFile) (package : String) :
    file.lines package = file.upperLines package ++ file.closingLines := by
  unfold lines upperLines parts
  rw [← layoutAll_bodyPieces, layoutAll_bodyPieces_eq, Exports.unit_eq, Exports.layoutAll_container,
    belowEmptyLines_append]
  simp

/-! ## Where empty lines meet -/

theorem DeclarationFile.parts_spread (file : DeclarationFile) (package : String) :
    Spread false (belowEmptyLines (file.parts package) ++ [""]) := by
  have htag : "@JSGlobalScope" ≠ "" := by decide
  have hcontainer := (Exports.ofStatements file.statements).container_filled
    (Name.container package) "Unit" htag
  rw [belowEmptyLines_parts]
  exact (filledPieces_append (filledPieces_append (bodyPieces_filled [] file.statements) hcontainer)
    (filledPieces_cons .gap filledPieces_nil)).spread false

theorem DeclarationFile.upperLines_chain (file : DeclarationFile) (package : String) :
    (file.upperLines package ++ [""]).IsChain Apart := by
  have hhead := block_header_ne_empty (Name.packageClause package)
  have hopening : Spread false openingLines := ⟨by simp [openingLines, Apart], by simp⟩
  have htop : Spread false (openingLines ++ [Name.packageClause package ++ " \x7b"]) :=
    hopening.append (spread_singleton hhead _)
  have hblank : endsBlank false (openingLines ++ [Name.packageClause package ++ " \x7b"]) = false :=
    (endsBlank_concat _ _ _).trans (beq_eq_false_iff_ne.mpr hhead)
  rw [upperLines, List.append_assoc]
  exact (htop.append (hblank ▸ file.parts_spread package)).chain

/-- A part between empty lines that do not meet has a first line, and that is not empty. -/
theorem exists_cons_of_chain {parts : List (List String)} {part : List String}
    (h : (belowEmptyLines parts ++ [""]).IsChain Apart) (hpart : part ∈ parts) :
    ∃ line rest, part = line :: rest ∧ line ≠ "" := by
  induction parts with
  | nil => cases hpart
  | cons first parts ih =>
    have hlines : belowEmptyLines (first :: parts) ++ [""] =
        "" :: first ++ (belowEmptyLines parts ++ [""]) := by
      simp [belowEmptyLines]
    rw [hlines] at h
    rcases List.mem_cons.mp hpart with rfl | hrest
    · cases part with
      | nil =>
        obtain ⟨below, hbelow⟩ : ∃ below, belowEmptyLines parts ++ [""] = "" :: below := by
          cases parts <;> exact ⟨_, rfl⟩
        rw [hbelow] at h
        exact absurd h.rel (by simp [Apart])
      | cons line rest => exact ⟨line, rest, rfl, h.rel.resolve_left (by simp)⟩
    · exact ih h.right_of_append hrest

/-- Whether a file has a namespace, an external module or a `declare global` block. -/
def DeclarationFile.HasModule (file : DeclarationFile) : Prop :=
  (∃ name quoted body, .module name quoted body ∈ file.statements) ∨
    (∃ name quoted, .moduleHead name quoted ∈ file.statements) ∨
      .other globalAugmentation ∈ file.statements

theorem DeclarationFile.any_isModuleLike (file : DeclarationFile) :
    file.statements.any (·.isModuleLike) = true ↔ file.HasModule := by
  rw [List.any_eq_true]
  constructor
  · rintro ⟨statement, hmem, hmodule⟩
    cases statement with
    | module name quoted body => exact .inl ⟨name, quoted, body, hmem⟩
    | moduleHead name quoted => exact .inr (.inl ⟨name, quoted, hmem⟩)
    | other kind =>
      rw [Statement.isModuleLike, beq_iff_eq] at hmodule
      exact .inr (.inr (hmodule ▸ hmem))
    | _ => cases hmodule
  · rintro (⟨name, quoted, body, hmem⟩ | ⟨name, quoted, hmem⟩ | hmem)
    · exact ⟨_, hmem, rfl⟩
    · exact ⟨_, hmem, rfl⟩
    · exact ⟨_, hmem, by decide⟩

theorem not_both_empty {lines : List String} (h : lines.IsChain Apart) (i : Nat) :
    ¬(lines[i]? = some "" ∧ lines[i + 1]? = some "") := by
  rintro ⟨hfirst, hsecond⟩
  obtain ⟨hi, hfirst⟩ := List.getElem?_eq_some_iff.mp hfirst
  obtain ⟨hj, hsecond⟩ := List.getElem?_eq_some_iff.mp hsecond
  rcases List.isChain_iff_getElem.mp h i hj with hne | hne
  · exact hne hfirst
  · exact hne hsecond

/-- Where one more empty line follows, it meets the one before it and no others meet. -/
theorem both_empty_iff {upper : List String} (h : (upper ++ [""]).IsChain Apart) (i : Nat) :
    ((upper ++ ["", "", "\x7d"])[i]? = some "" ∧
      (upper ++ ["", "", "\x7d"])[i + 1]? = some "") ↔ i = upper.length := by
  have hsplit : upper ++ ["", "", "\x7d"] = upper ++ [""] ++ ["", "\x7d"] := by simp
  rcases Nat.lt_trichotomy i upper.length with hlt | rfl | hgt
  · have hleft {j : Nat} (hj : j ≤ upper.length) :
        (upper ++ ["", "", "\x7d"])[j]? = (upper ++ [""])[j]? := by
      rw [hsplit, List.getElem?_append_left (by simp; omega)]
    rw [hleft (by omega), hleft (by omega)]
    exact iff_of_false (not_both_empty h i) (by omega)
  · simp
  · refine iff_of_false ?_ (by omega)
    rintro ⟨-, hsecond⟩
    obtain ⟨k, hk⟩ : ∃ k, i + 1 - upper.length = k + 2 := ⟨i - upper.length - 1, by omega⟩
    rw [List.getElem?_append_right (by omega), hk] at hsecond
    cases k <;> simp at hsecond

/-! ## The laws -/

/-- Every part of a file that stands apart has one empty line right above it: each class, interface,
enumeration, object and package in place, and the object of each scope. Two empty lines meet only
where a file with modules ends, above its last line. -/
theorem every_part_stands_below_one_empty_line (file : DeclarationFile) (package : String) :
    let lines := (Writer.empty.putAll (file.pieces package)).lines.toList
    (∀ i, (lines[i]? = some "" ∧ lines[i + 1]? = some "") ↔
      file.HasModule ∧ i + 3 = lines.length) ∧
    lines = openingLines ++ [Name.packageClause package ++ " \x7b"]
      ++ belowEmptyLines (file.parts package) ++ file.closingLines ∧
    (∀ part ∈ file.parts package, ∃ line rest, part = line :: rest ∧ line ≠ "") ∧
    lines.getLast? = some "\x7d" ∧ lines.dropLast.getLast? = some "" := by
  intro lines
  have hlines : lines = file.upperLines package ++ file.closingLines := by
    rw [← file.lines_eq_upperLines, ← file.layoutAll_pieces, ← Writer.empty_putAll_lines]
  have hchain := file.upperLines_chain package
  refine ⟨fun i => ?_, hlines, fun part hpart => ?_, ?_⟩
  · rw [hlines, DeclarationFile.closingLines, ← file.any_isModuleLike]
    split
    · rename_i hmodule
      rw [both_empty_iff hchain, List.length_append]
      simp [hmodule]
    · rename_i hmodule
      have hend : (file.upperLines package ++ ["", "\x7d"]).IsChain Apart := by
        rw [List.append_cons]
        exact hchain.append (.singleton _) (by simp [Apart])
      exact iff_of_false (not_both_empty hend i) fun h => hmodule h.1
  · exact exists_cons_of_chain (file.parts_spread package).chain hpart
  · rw [hlines, DeclarationFile.closingLines]
    split <;> simp [List.getLast?_append]

/-- A namespace with an alias: its head, its object and its end stand apart, and two empty lines meet
above the last line. -/
theorem a_namespace_stands_apart_in_three_parts :
    let file : DeclarationFile := ⟨[.module "inner" false [.aliasDecl ⟨"Id", [], .keyword "string"⟩]]⟩
    file.parts "lib" =
        [["package inner \x7b"],
          ["@js.native", "@JSGlobal(\"inner\")", "object Inner extends js.Object \x7b",
            "  type Id = String", "\x7d"],
          ["\x7d"]] ∧
      (Writer.empty.putAll (file.pieces "lib")).lines.toList =
        ["", "import scala.scalajs.js", "import js.annotation._", "import js.|", "", "package lib \x7b",
          "", "package inner \x7b", "", "@js.native", "@JSGlobal(\"inner\")",
          "object Inner extends js.Object \x7b", "  type Id = String", "\x7d", "", "\x7d", "", "",
          "\x7d"] ∧
      ∃ line rest, ["package inner \x7b"] = line :: rest ∧ line ≠ "" := by
  intro file
  have hlaw := every_part_stands_below_one_empty_line file "lib"
  refine ⟨by decide +kernel, ?_, hlaw.2.2.1 _ (by decide +kernel)⟩
  rw [hlaw.2.1]
  decide +kernel

end Facade
