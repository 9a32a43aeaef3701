-- What a facade shows of its definitions. The texts in the pieces of a file are followed through
-- every block, and behind their margins they are the lines of the file.
import Facade.Proofs.Definitions

namespace Facade

/-! ## The texts of pieces -/

mutual

/-- The lines and heads in a piece at every depth, without their margins. -/
def Piece.texts : Piece → List String
  | .line text => [text]
  | .gap => []
  | .block header _ body => (header ++ " \x7b") :: textsOf body

def textsOf : List Piece → List String
  | [] => []
  | piece :: rest => piece.texts ++ textsOf rest

end

theorem textsOf_append (xs ys : List Piece) : textsOf (xs ++ ys) = textsOf xs ++ textsOf ys := by
  induction xs with
  | nil => rfl
  | cons x xs ih => rw [List.cons_append, textsOf, textsOf, ih, List.append_assoc]

theorem textsOf_ofLines (lines : List String) : textsOf (Piece.ofLines lines) = lines := by
  induction lines with
  | nil => rfl
  | cons line lines ih =>
    have hrest : textsOf (lines.map Piece.line) = lines := ih
    rw [Piece.ofLines, List.map_cons, textsOf, hrest]
    rfl

theorem textsOf_flatMap {α : Type} (items : List α) (pieces : α → List Piece) :
    textsOf (items.flatMap pieces) = items.flatMap fun item => textsOf (pieces item) := by
  induction items with
  | nil => rfl
  | cons item rest ih => rw [List.flatMap_cons, List.flatMap_cons, textsOf_append, ih]

mutual

/-- A definition in the lines of a piece is one of its texts, behind a margin. -/
theorem Piece.exists_text {piece : Piece} {blank : Bool} {line : String}
    (h : line ∈ piece.layout blank) (hline : isDefinition line = true) :
    ∃ text ∈ piece.texts, ∃ depth, line = Writer.shifted depth text := by
  match piece with
  | .line text => exact ⟨line, h, 0, (Writer.shifted_zero line).symm⟩
  | .gap =>
    have hempty : line = "" := by
      cases blank with
      | true => cases h
      | false => exact List.mem_singleton.mp h
    rw [hempty] at hline
    cases hline
  | .block header indented body =>
    rw [Piece.layout, List.cons_append, List.mem_cons, List.mem_append, List.mem_singleton] at h
    rcases h with rfl | h | rfl
    · exact ⟨_, List.mem_cons_self, 0, (Writer.shifted_zero _).symm⟩
    · obtain ⟨inner, hinner, rfl⟩ := List.mem_map.mp h
      rw [isDefinition_shifted] at hline
      obtain ⟨text, htext, depth, rfl⟩ := exists_text_of_mem_layoutAll hinner hline
      exact ⟨text, List.mem_cons_of_mem _ htext, _, Writer.shifted_shifted _ _ _⟩
    · cases hline

theorem exists_text_of_mem_layoutAll {pieces : List Piece} {blank : Bool} {line : String}
    (h : line ∈ layoutAll blank pieces) (hline : isDefinition line = true) :
    ∃ text ∈ textsOf pieces, ∃ depth, line = Writer.shifted depth text := by
  match pieces with
  | [] => cases h
  | piece :: rest =>
    rcases List.mem_append.mp h with h | h
    · obtain ⟨text, htext, hshifted⟩ := Piece.exists_text h hline
      exact ⟨text, List.mem_append_left _ htext, hshifted⟩
    · obtain ⟨text, htext, hshifted⟩ := exists_text_of_mem_layoutAll h hline
      exact ⟨text, List.mem_append_right _ htext, hshifted⟩

end

mutual

/-- Every text of a piece is one of its lines, behind a margin. -/
theorem Piece.exists_mem_layout {piece : Piece} (blank : Bool) {text : String}
    (h : text ∈ piece.texts) : ∃ depth, Writer.shifted depth text ∈ piece.layout blank := by
  match piece with
  | .line line => exact ⟨0, by rwa [Writer.shifted_zero]⟩
  | .gap => cases h
  | .block header indented body =>
    rw [Piece.layout, List.cons_append]
    rcases List.mem_cons.mp h with rfl | h
    · exact ⟨0, by simp⟩
    · obtain ⟨depth, hmem⟩ := exists_mem_layoutAll false h
      refine ⟨indented.toNat + depth, List.mem_cons_of_mem _ (List.mem_append_left _ ?_)⟩
      rw [← Writer.shifted_shifted]
      exact List.mem_map_of_mem hmem

theorem exists_mem_layoutAll {pieces : List Piece} (blank : Bool) {text : String}
    (h : text ∈ textsOf pieces) : ∃ depth, Writer.shifted depth text ∈ layoutAll blank pieces := by
  match pieces with
  | [] => cases h
  | piece :: rest =>
    rw [layoutAll]
    rcases List.mem_append.mp h with h | h
    · obtain ⟨depth, hmem⟩ := Piece.exists_mem_layout blank h
      exact ⟨depth, List.mem_append_left _ hmem⟩
    · obtain ⟨depth, hmem⟩ := exists_mem_layoutAll _ h
      exact ⟨depth, List.mem_append_right _ hmem⟩

end

/-! ## Pieces that show definitions -/

@[simp]
theorem textsOf_nil : textsOf [] = [] := rfl

@[simp]
theorem textsOf_gap (rest : List Piece) : textsOf (.gap :: rest) = textsOf rest := rfl

@[simp]
theorem textsOf_line (text : String) (rest : List Piece) :
    textsOf (.line text :: rest) = text :: textsOf rest := rfl

@[simp]
theorem textsOf_block (header : String) (indented : Bool) (body rest : List Piece) :
    textsOf (.block header indented body :: rest) =
      (header ++ " \x7b") :: (textsOf body ++ textsOf rest) := rfl

/-- A head that starts with a word that starts no definition. -/
theorem isDefinition_head {word : String} (h : startsOtherwise word = true) (rest : String) :
    isDefinition (word ++ rest ++ " \x7b") = false := by
  rw [String.append_assoc]
  exact isDefinition_append h _

theorem isDefinition_extendingHead (word : String) (h : startsOtherwise word = true)
    (name : String) : isDefinition (word ++ name ++ " extends js.Object" ++ " \x7b") = false := by
  rw [String.append_assoc, String.append_assoc]
  exact isDefinition_append h _

theorem isDefinition_globalPath (path : String) : isDefinition (globalPath path) = false := by
  unfold globalPath
  rw [String.append_assoc]
  exact isDefinition_append rfl _

theorem isDefinition_globalTag (path : List String) (name : String) :
    isDefinition (globalTag path name) = false := by
  unfold globalTag
  split
  · rfl
  · exact isDefinition_globalPath _

/-- A block of lines shows what its lines show. -/
theorem shows_linesBlock {header : String} {lines : List String} {definitions : List Definition}
    (hheader : isDefinition (header ++ " \x7b") = false) (h : Shows lines definitions) :
    Shows (textsOf [.block header true (Piece.ofLines lines)]) definitions := by
  rw [textsOf_block, textsOf_ofLines, textsOf_nil, List.append_nil]
  exact h.skip hheader

theorem shows_objectBlock (name : String) {lines : List String} {definitions : List Definition}
    (h : Shows lines definitions) :
    Shows (textsOf [.block ("object " ++ name ++ " extends js.Object") true (Piece.ofLines lines)])
      definitions :=
  shows_linesBlock (isDefinition_extendingHead "object " rfl name) h

/-- An object of nested traits shows what they show. -/
theorem shows_companion (name : String) {nested : List Piece} {definitions : List Definition}
    (h : Shows (textsOf nested) definitions) :
    Shows (textsOf (if nested.isEmpty then [] else [.gap, .block ("object " ++ name) true nested]))
      definitions := by
  split
  · rename_i hempty
    rwa [List.isEmpty_iff.mp hempty] at h
  · rw [textsOf_gap, textsOf_block, textsOf_nil, List.append_nil]
    exact h.skip (isDefinition_head rfl name)

mutual

theorem shows_nestedTraits (seen : List String) (members : List Member) :
    Shows (textsOf (nestedTraits seen members)) (nestedDefinitions seen members) := by
  match members with
  | [] => exact shows_nil
  | member :: rest =>
    rw [nestedTraits, nestedDefinitions]
    cases member.nestedTrait? with
    | none => exact shows_nestedTraits seen rest
    | some trait =>
      dsimp only
      split
      · exact shows_nestedTraits seen rest
      · rw [textsOf_append]
        exact (member.shows_literalTraits trait).append (shows_nestedTraits _ rest)

theorem Member.shows_literalTraits (trait : String) (member : Member) :
    Shows (textsOf (member.literalTraits trait)) (member.literalDefinitions trait) := by
  match member with
  | .property _ _ _ type _ _ _ => exact type.shows_literalTraits trait
  | .method .. | .index .. | .call .. | .construct .. | .other .. | .unknown .. => exact shows_nil

theorem TypeExpr.shows_literalTraits (trait : String) (type : TypeExpr) :
    Shows (textsOf (type.literalTraits trait)) (type.literalDefinitions trait) := by
  match type with
  | .object members =>
    have htrait := shows_linesBlock (isDefinition_extendingHead "trait " rfl trait)
      (shows_traitLines members trait)
    rw [TypeExpr.literalTraits, TypeExpr.literalDefinitions, textsOf_append, textsOf_line]
    exact (htrait.skip rfl).append (shows_companion trait (shows_nestedTraits [] members))
  | .absent | .unknown | .keyword _ | .literal _ _ | .ref _ _ | .array _ | .union _ | .inter _
  | .func _ _ | .paren _ | .keyOf _ | .unsupported _ => exact shows_nil

end

/-! ## Declarations -/

theorem line_constructorDefinition (params : List Param) :
    (constructorDefinition params).line = "def this(" ++ paramList params ++ ") = this()" := by
  rw [← String.toList_inj]
  simp [constructorDefinition, Definition.line, Definition.paramText, ← commaList_shown]

theorem ClassDecl.shows_bodyLines (decl : ClassDecl) :
    Shows decl.bodyLines (decl.constructors.map constructorDefinition
      ++ decl.instanceMembers.flatMap (·.shownDefinitions decl.place)) := by
  unfold bodyLines
  simp only [← line_constructorDefinition]
  exact (shows_map _ _).append (.flatMap fun member _ => member.shows_render decl.place)

theorem ClassDecl.shows_staticLines (decl : ClassDecl) :
    Shows decl.staticLines (decl.staticMembers.flatMap (·.shownDefinitions .object)) :=
  .flatMap fun member _ => member.shows_render .object

theorem ClassDecl.shows_pieces (decl : ClassDecl) (path : List String) :
    Shows (textsOf (decl.pieces path)) decl.definitions := by
  have htag := isDefinition_globalTag path decl.name
  have hhead : isDefinition (decl.header ++ " \x7b") = false := by
    unfold header
    simp only [String.append_assoc]
    split <;> exact isDefinition_append rfl _
  have hstatic := decl.shows_staticLines
  unfold pieces definitions
  dsimp only
  rw [textsOf_append, textsOf_gap, textsOf_line, textsOf_line]
  refine (((shows_linesBlock hhead decl.shows_bodyLines).skip htag).skip rfl).append ?_
  split
  · rename_i hempty
    rwa [List.isEmpty_iff.mp hempty] at hstatic
  · rw [textsOf_line, textsOf_line]
    exact ((shows_objectBlock _ hstatic).skip htag).skip rfl

theorem InterfaceDecl.shows_pieces (decl : InterfaceDecl) :
    Shows (textsOf decl.pieces) decl.definitions := by
  have hhead : isDefinition ("trait " ++ Name.written decl.name ++ typeParamList decl.typeParams
      ++ " extends " ++ decl.parents ++ " \x7b") = false := by
    simp only [String.append_assoc]
    exact isDefinition_append rfl _
  unfold pieces definitions
  dsimp only
  rw [textsOf_append, textsOf_gap, textsOf_line]
  exact ((shows_linesBlock hhead (shows_traitLines _ _)).skip rfl).append
    (shows_companion _ (shows_nestedTraits [] decl.members))

theorem EnumDecl.shows_valueLines (decl : EnumDecl) :
    Shows decl.valueLines [decl.definition] := by
  have hvalues : Shows (decl.members.map fun member =>
      "var " ++ Name.written member ++ ": " ++ Name.written decl.name ++ fromPlatform) [] := by
    apply shows_none
    rw [List.forall_mem_map]
    intro member _
    simp only [String.append_assoc]
    exact isDefinition_append rfl _
  refine hvalues.append ((shows_line ?_).skip rfl)
  rw [← String.toList_inj]
  simp [definition, Definition.line, Definition.paramText, ShownParam.text, commaList]

theorem EnumDecl.shows_pieces (decl : EnumDecl) (path : List String) :
    Shows (textsOf (decl.pieces path)) [decl.definition] := by
  have hhead : isDefinition ("sealed trait " ++ Name.written decl.name ++ " extends js.Object"
      ++ " \x7b") = false := isDefinition_extendingHead "sealed trait " rfl _
  have htag := isDefinition_globalPath (qualifiedName path decl.name)
  have hobject := shows_objectBlock (Name.written decl.name) decl.shows_valueLines
  unfold pieces
  dsimp only
  rw [textsOf_gap, textsOf_line, textsOf_block, textsOf_nil, List.nil_append, textsOf_gap,
    textsOf_line, textsOf_line]
  exact (((hobject.skip htag).skip rfl).skip hhead).skip rfl

theorem VariableDecl.shows_pieces (decl : VariableDecl) (path : List String) :
    Shows (textsOf (decl.pieces path)) decl.definitions := by
  unfold pieces definitions
  cases decl.type with
  | object members =>
    have hlines : Shows (members.flatMap (·.render .object))
        (members.flatMap (·.shownDefinitions .object)) :=
      .flatMap fun member _ => member.shows_render .object
    rw [textsOf_gap, textsOf_line, textsOf_line]
    exact ((shows_objectBlock _ hlines).skip (isDefinition_globalTag path decl.name)).skip rfl
  | _ => exact shows_nil

/-! ## Scopes -/

theorem FunctionDecl.line_definition (decl : FunctionDecl) (default : String) :
    (decl.definition default).line = decl.line default := by
  rw [definition, Definition.line_ofSignature]
  simp [FunctionDecl.line]

theorem shows_gatheredLines (statements : List Statement) (default : String) :
    Shows (gatheredLines statements default) (gatheredDefinitions statements default) := by
  have haliases : Shows ((aliasesOf statements).map AliasDecl.line) [] := by
    apply shows_none
    rw [List.forall_mem_map]
    intro decl _
    simp only [AliasDecl.line, String.append_assoc]
    exact isDefinition_append rfl _
  have hvariables : Shows ((plainVariablesOf statements).map VariableDecl.line) [] := by
    apply shows_none
    rw [List.forall_mem_map]
    intro decl _
    simp only [VariableDecl.line, String.append_assoc]
    split <;> exact isDefinition_append rfl _
  have hfunctions := shows_map (functionsOf statements) (·.definition default)
  simp only [FunctionDecl.line_definition] at hfunctions
  refine (haliases.append (hvariables.append hfunctions)).congr fun text => ?_
  rw [mem_gatheredLines, List.mem_append, List.mem_append]

theorem shows_container (statements : List Statement) (name default : String) {tag : String}
    (htag : isDefinition tag = false) :
    Shows (textsOf ((Exports.ofStatements statements).container name tag default))
      (gatheredDefinitions statements default) := by
  unfold Exports.container
  split
  · rename_i hempty
    obtain ⟨-, hfunctions, -, -⟩ := (Exports.isEmpty_ofStatements statements).mp hempty
    rw [gatheredDefinitions, hfunctions]
    exact shows_nil
  · have hlines := (shows_gatheredLines statements default).congr fun _ => Text.mem_distinct
    rw [textsOf_gap, textsOf_line, textsOf_line, Exports.lines_ofStatements]
    exact ((shows_objectBlock name hlines).skip htag).skip rfl

theorem shows_namespaceBlock (name : String) (path : List String) (body : List Statement)
    {bodyPieces : List Piece} {definitions : List Definition}
    (h : Shows (textsOf bodyPieces) definitions) :
    Shows (textsOf (namespaceBlock name path body bodyPieces))
      (definitions ++ gatheredDefinitions body "js.Dynamic") := by
  have hcontainer := shows_container body (Name.container name) "js.Dynamic"
    (isDefinition_globalPath (".".intercalate path))
  unfold namespaceBlock namespaceContainer
  rw [textsOf_gap, textsOf_block, textsOf_append, textsOf_append, textsOf_gap, textsOf_nil,
    List.append_nil, List.append_nil]
  exact (h.append hcontainer).skip (isDefinition_head rfl _)

mutual

theorem Statement.shows_pieces (path : List String) (statement : Statement) :
    Shows (textsOf (statement.pieces path)) statement.definitions := by
  match statement with
  | .module name quoted body =>
    rw [Statement.pieces, Statement.definitions]
    split
    · exact shows_nil
    · exact shows_namespaceBlock name _ body (shows_bodyPieces _ body)
  | .moduleHead name quoted =>
    rw [Statement.pieces]
    split
    · exact shows_nil
    · have hnothing : Shows (textsOf []) [] := shows_nil
      exact shows_namespaceBlock name _ [] hnothing
  | .classDecl decl => exact decl.shows_pieces path
  | .interfaceDecl decl => exact decl.shows_pieces
  | .enumDecl decl => exact decl.shows_pieces path
  | .variableDecls decls =>
    rw [Statement.pieces, Statement.definitions, textsOf_flatMap]
    exact .flatMap fun decl _ => decl.shows_pieces path
  | .aliasDecl _ | .function _ | .exportAssignment _ | .importDecl _ | .other _ | .unknown =>
    exact shows_nil

theorem shows_bodyPieces (path : List String) (statements : List Statement) :
    Shows (textsOf (bodyPieces path statements)) (bodyDefinitions statements) := by
  match statements with
  | [] => exact shows_nil
  | statement :: rest =>
    rw [bodyPieces, bodyDefinitions, textsOf_append]
    exact (statement.shows_pieces path).append (shows_bodyPieces path rest)

end

/-! ## Files -/

theorem isDefinition_packageClause (package : String) :
    isDefinition (Name.packageClause package ++ " \x7b") = false := by
  unfold Name.packageClause
  split <;> exact isDefinition_head rfl _

theorem DeclarationFile.shows_inside (file : DeclarationFile) (package : String) :
    Shows (textsOf (file.inside package)) file.definitions := by
  have htag : isDefinition "@JSGlobalScope" = false := rfl
  have hcontainer := shows_container file.statements (Name.container package) "Unit" htag
  have hend : Shows (textsOf ([.gap]
      ++ if file.statements.any (·.isModuleLike) then [.line ""] else [])) [] := by
    split
    · exact shows_nil.skip rfl
    · exact shows_nil
  have hall := ((shows_bodyPieces [] file.statements).append hcontainer).append hend
  unfold inside definitions
  rw [List.append_assoc, textsOf_append, textsOf_append]
  rwa [List.append_nil] at hall

theorem DeclarationFile.shows_pieces (file : DeclarationFile) (package : String) :
    Shows (textsOf (file.pieces package)) file.definitions := by
  have hopening : Shows (textsOf ([.line ""] ++ Piece.ofLines headerImports ++ [.line ""])) [] := by
    apply shows_none
    decide
  have hpackage := (file.shows_inside package).skip (isDefinition_packageClause package)
  have hpieces : file.pieces package = [.line ""] ++ Piece.ofLines headerImports ++ [.line ""]
      ++ [.block (Name.packageClause package) false (file.inside package)] := by
    rw [List.append_assoc]
    rfl
  rw [hpieces, textsOf_append, textsOf_block, textsOf_nil, List.append_nil]
  exact hopening.append hpackage

/-- How lines show definitions. -/
structure ShownIn (lines : List String) (definitions : List Definition) : Prop where
  /-- A line that starts as a definition is one of these, behind a margin. -/
  complete : ∀ line ∈ lines, isDefinition line = true →
    ∃ definition ∈ definitions, ∃ depth, line = Writer.margin depth ++ definition.line
  /-- Each of these has its line. -/
  sound : ∀ definition ∈ definitions, ∃ depth, Writer.margin depth ++ definition.line ∈ lines

/-- The lines of a file show the definitions that the tree asks for. -/
theorem DeclarationFile.shownIn_lines (file : DeclarationFile) (package : String) :
    ShownIn (file.lines package) file.definitions := by
  have hne : ∀ definition : Definition, definition.line ≠ "" := by
    intro definition hempty
    have hline := definition.isDefinition_line
    rw [hempty] at hline
    cases hline
  have hshows := file.shows_pieces package
  rw [← layoutAll_pieces]
  constructor
  · intro line hmem hline
    obtain ⟨text, htext, depth, rfl⟩ := exists_text_of_mem_layoutAll hmem hline
    rw [isDefinition_shifted] at hline
    obtain ⟨definition, hdefinition, rfl⟩ := (hshows text).mp ⟨htext, hline⟩
    exact ⟨definition, hdefinition, depth, Writer.shifted_of_ne (hne definition) depth⟩
  · intro definition hdefinition
    obtain ⟨htext, -⟩ := (hshows definition.line).mpr ⟨definition, hdefinition, rfl⟩
    obtain ⟨depth, hmem⟩ := exists_mem_layoutAll false htext
    exact ⟨depth, by rwa [Writer.shifted_of_ne (hne definition)] at hmem⟩

end Facade
