-- The runtime paths of a facade. Each annotation that ties a declaration to the platform has the
-- names of the namespaces around it, just as they are written, and the annotations stand in the
-- order of the declarations.
import Facade.Proofs.Emission
import Facade.Proofs.Gathering

namespace Facade

/-! ## The annotations that a tree asks for -/

/-- The annotation of what the platform has under these names. -/
def boundTo (names : List String) : String :=
  "@JSGlobal(\"" ++ ".".intercalate names ++ "\")"

/-- The annotation of a declaration inside namespaces. Outside of all of them there is no path. -/
def boundInside (outer : List String) (name : String) : String :=
  if outer.isEmpty then "@JSGlobal" else boundTo (outer ++ [name])

/-- Whether a statement has something for the object of its scope. -/
def Statement.isGathered : Statement → Bool
  | .aliasDecl _ => true
  | .function _ => true
  | .exportAssignment _ => true
  | .variableDecls decls => decls.any (!·.type.isObject)
  | _ => false

/-- Whether the static members of a class have a line to show. -/
def ClassDecl.showsStatics (decl : ClassDecl) : Bool :=
  decl.members.any fun member => member.isStatic && !(member.render .object).isEmpty

mutual

/-- The annotations of a statement inside the namespaces `outer`. That of a namespace itself comes
after those of its body. -/
def Statement.tags (outer : List String) : Statement → List String
  | .module name quoted body =>
    if quoted then []
    else
      bodyTags (outer ++ [name]) body
        ++ if body.any (·.isGathered) then [boundTo (outer ++ [name])] else []
  | .moduleHead _ _ => []
  | .classDecl decl =>
    List.replicate (if decl.showsStatics then 2 else 1) (boundInside outer decl.name)
  | .interfaceDecl _ => []
  | .enumDecl decl => [boundTo (outer ++ [decl.name])]
  | .variableDecls decls => (decls.filter (·.type.isObject)).map (boundInside outer ·.name)
  | .aliasDecl _ => []
  | .function _ => []
  | .exportAssignment _ => []
  | .importDecl _ => []
  | .other _ => []
  | .unknown => []

/-- The annotations of statements in order. -/
def bodyTags (outer : List String) : List Statement → List String
  | [] => []
  | statement :: rest => statement.tags outer ++ bodyTags outer rest

end

/-- The annotations of a file. Its own object comes last. -/
def DeclarationFile.tags (file : DeclarationFile) : List String :=
  bodyTags [] file.statements
    ++ if file.statements.any (·.isGathered) then ["@JSGlobalScope"] else []

/-! ## Lines that are annotations -/

/-- Whether a line, from its first character that is no space, starts as an annotation. -/
def isTag (line : String) : Bool :=
  "@JSGlobal".toList.isPrefixOf (line.toList.dropWhile (· == ' '))

/-- The text starts with a character that neither indents it nor starts an annotation. -/
def StartsPlainly (text : String) : Prop :=
  text.toList.head?.any (fun c => c != ' ' && c != '@') = true

instance (text : String) : Decidable (StartsPlainly text) :=
  inferInstanceAs (Decidable (_ = true))

theorem StartsPlainly.append {start : String} (h : StartsPlainly start) (rest : String) :
    StartsPlainly (start ++ rest) := by
  unfold StartsPlainly at *
  rw [String.toList_append]
  cases hstart : start.toList with
  | nil => simp [hstart] at h
  | cons c chars => simpa [hstart] using h

theorem StartsPlainly.isTag_eq {text : String} (h : StartsPlainly text) :
    isTag text = false := by
  unfold StartsPlainly at h
  unfold isTag
  cases htext : text.toList with
  | nil => rfl
  | cons c chars =>
    simp only [htext, List.head?_cons, Option.any_some, Bool.and_eq_true, bne_iff_ne] at h
    have hword : "@JSGlobal".toList = '@' :: "JSGlobal".toList := rfl
    have hat : ('@' == c) = false := beq_eq_false_iff_ne.mpr (Ne.symm h.2)
    rw [List.dropWhile_cons_of_neg (by simpa using h.1), hword, List.isPrefixOf_cons_cons, hat,
      Bool.false_and]

theorem isTag_shifted (levels : Nat) (text : String) :
    isTag (Writer.shifted levels text) = isTag text := by
  unfold isTag
  rw [Writer.dropWhile_shifted]

theorem isTag_boundTo (names : List String) : isTag (boundTo names) = true := by
  unfold isTag boundTo
  rw [String.append_assoc, String.toList_append]
  rfl

theorem isTag_boundInside (outer : List String) (name : String) :
    isTag (boundInside outer name) = true := by
  unfold boundInside
  split
  · rfl
  · exact isTag_boundTo _

/-! ## The annotations of pieces -/

/-- The lines of pieces that are annotations. -/
def tagLines (pieces : List Piece) : List String :=
  (layoutAll false pieces).filter isTag

/-- Whether an empty line comes before does not matter, for it is no annotation. -/
theorem filter_layoutAll (blank : Bool) (pieces : List Piece) :
    (layoutAll blank pieces).filter isTag = tagLines pieces := by
  induction pieces generalizing blank with
  | nil => rfl
  | cons piece rest ih =>
    have hfirst : (piece.layout blank).filter isTag =
        (piece.layout false).filter isTag := by
      cases piece with
      | gap => cases blank <;> rfl
      | line | block => rfl
    rw [tagLines, layoutAll, layoutAll, List.filter_append, List.filter_append, hfirst, ih,
      ih]

theorem tagLines_append (xs ys : List Piece) :
    tagLines (xs ++ ys) = tagLines xs ++ tagLines ys := by
  rw [tagLines, layoutAll_append, List.filter_append, filter_layoutAll, filter_layoutAll]

@[simp] theorem tagLines_nil : tagLines [] = [] := rfl

@[simp] theorem tagLines_gap (rest : List Piece) :
    tagLines (.gap :: rest) = tagLines rest :=
  tagLines_append [.gap] rest

@[simp] theorem tagLines_nativeMark (rest : List Piece) :
    tagLines (.line nativeMark :: rest) = tagLines rest :=
  tagLines_append [.line nativeMark] rest

theorem tagLines_tag {tag : String} (h : isTag tag = true) (rest : List Piece) :
    tagLines (.line tag :: rest) = tag :: tagLines rest := by
  have htag : tagLines [.line tag] = [tag] := by
    simp [tagLines, layoutAll, Piece.layout, h]
  rw [← List.singleton_append, tagLines_append, htag, List.singleton_append]

theorem tagLines_block {header : String} (h : StartsPlainly header) (indented : Bool)
    (body rest : List Piece) :
    tagLines (.block header indented body :: rest) =
      (tagLines body).map (Writer.shifted indented.toNat) ++ tagLines rest := by
  have hbody : ((layoutAll false body).map (Writer.shifted indented.toNat)).filter isTag =
      (tagLines body).map (Writer.shifted indented.toNat) := by
    rw [List.filter_map, tagLines]
    congr 2
    funext line
    exact isTag_shifted indented.toNat line
  have hblock : tagLines [.block header indented body] =
      (tagLines body).map (Writer.shifted indented.toNat) := by
    rw [tagLines, layoutAll, layoutAll, List.append_nil, Piece.layout, List.cons_append,
      List.filter_cons, (h.append _).isTag_eq, List.filter_append, hbody]
    simp [show isTag "\x7d" = false from rfl]
  rw [← List.singleton_append, tagLines_append, hblock]

/-! ## What has no annotation -/

/-- No line is an annotation. -/
def NoTag (lines : List String) : Prop :=
  ∀ line ∈ lines, isTag line = false

theorem noTag_nil : NoTag [] :=
  List.forall_mem_nil _

theorem noTag_singleton {line : String} (h : StartsPlainly line) : NoTag [line] :=
  List.forall_mem_singleton.mpr h.isTag_eq

theorem noTag_accessor {line : String} (h : StartsPlainly line) :
    NoTag ["@JSBracketAccess", line] :=
  List.forall_mem_cons.mpr ⟨rfl, noTag_singleton h⟩

/-- A block of lines without annotations has none. -/
theorem tagLines_linesBlock {header : String} (h : StartsPlainly header)
    {lines : List String} (hlines : NoTag lines) (rest : List Piece) :
    tagLines (.block header true (Piece.ofLines lines) :: rest) = tagLines rest := by
  have hnone : tagLines (Piece.ofLines lines) = [] := by
    rw [tagLines, layoutAll_ofLines, List.filter_eq_nil_iff]
    intro line hl
    simp [hlines line hl]
  rw [tagLines_block h, hnone, List.map_nil, List.nil_append]

theorem bindingWord_startsPlainly (readonly : Bool) (place : Place) :
    StartsPlainly (bindingWord readonly place) := by
  unfold bindingWord
  split
  · decide
  · split <;> decide

theorem indexLines_noTag (keyName : String) (keyType valueType : TypeExpr)
    (readonly : Bool) : NoTag (indexLines keyName keyType valueType readonly) := by
  unfold indexLines
  simp only [String.append_assoc]
  split
  · exact noTag_accessor (StartsPlainly.append (by decide) _)
  · exact List.forall_mem_append.mpr ⟨noTag_accessor (StartsPlainly.append (by decide) _),
      noTag_accessor (StartsPlainly.append (by decide) _)⟩

theorem Member.lines_noTag (member : Member) (place : Place) :
    NoTag (member.lines place) := by
  cases member with
  | property access static name type readonly optional abstract =>
    rw [Member.lines]
    apply noTag_singleton
    simp only [String.append_assoc]
    exact (bindingWord_startsPlainly readonly place).append _
  | method access static name typeParams params ret role optional abstract =>
    cases role with
    | getter | setter =>
      rw [Member.lines]
      apply noTag_singleton
      simp only [String.append_assoc]
      exact StartsPlainly.append (by decide) _
    | plain | other =>
      rw [Member.lines]
      · apply noTag_singleton
        simp only [String.append_assoc]
        split
        · exact StartsPlainly.append (by decide) _
        · rw [String.empty_append]
          exact StartsPlainly.append (by decide) _
      all_goals simp
  | index access static keyName keyType valueType readonly =>
    exact indexLines_noTag keyName keyType valueType readonly
  | call access static typeParams params ret =>
    rw [Member.lines]
    apply noTag_singleton
    simp only [String.append_assoc]
    exact StartsPlainly.append (by decide) _
  | construct | other | unknown => exact noTag_nil

theorem Member.render_noTag (member : Member) (place : Place) :
    NoTag (member.render place) := by
  unfold Member.render
  split
  · exact member.lines_noTag place
  · exact noTag_nil

theorem flatMap_render_noTag (members : List Member) (place : Place) :
    NoTag (members.flatMap (·.render place)) :=
  List.forall_mem_flatMap.mpr fun member _ => member.render_noTag place

theorem Member.traitLines_noTag (member : Member) (owner : String) :
    NoTag (member.traitLines owner) := by
  unfold Member.traitLines
  split
  · apply noTag_singleton
    unfold nestedPropertyLine
    simp only [String.append_assoc]
    split <;> exact StartsPlainly.append (by decide) _
  · exact member.render_noTag .trait

theorem traitLines_noTag (members : List Member) (owner : String) :
    NoTag (traitLines members owner) := by
  intro line hl
  obtain ⟨lines, hlines, hl⟩ := List.mem_flatten.mp hl
  have hmem := (List.mem_filter.mp (Text.mem_of_mem_distinctBy hlines)).1
  obtain ⟨member, _, rfl⟩ := List.mem_map.mp hmem
  exact member.traitLines_noTag owner line hl

mutual

theorem nestedTraits_noTag (seen : List String) (members : List Member) :
    tagLines (nestedTraits seen members) = [] := by
  match members with
  | [] => rfl
  | member :: rest =>
    rw [nestedTraits]
    split
    · exact nestedTraits_noTag seen rest
    · split
      · exact nestedTraits_noTag seen rest
      · rw [tagLines_append, member.literalTraits_noTag,
          nestedTraits_noTag _ rest, List.nil_append]

theorem Member.literalTraits_noTag (trait : String) (member : Member) :
    tagLines (member.literalTraits trait) = [] := by
  match member with
  | .property _ _ _ type _ _ _ => exact type.literalTraits_noTag trait
  | .method .. | .index .. | .call .. | .construct .. | .other .. | .unknown .. => rfl

theorem TypeExpr.literalTraits_noTag (trait : String) (type : TypeExpr) :
    tagLines (type.literalTraits trait) = [] := by
  match type with
  | .object members =>
    have hnested := nestedTraits_noTag [] members
    have hobject : StartsPlainly ("object " ++ trait) := StartsPlainly.append (by decide) _
    rw [TypeExpr.literalTraits, tagLines_append, tagLines_nativeMark,
      String.append_assoc, tagLines_linesBlock (StartsPlainly.append (by decide) _)
        (traitLines_noTag members trait), tagLines_nil, List.nil_append]
    split
    · rfl
    · rw [tagLines_gap, tagLines_block hobject, hnested]
      rfl
  | .absent | .unknown | .keyword _ | .literal _ _ | .ref _ _ | .array _ | .union _ | .inter _
  | .func _ _ | .paren _ | .keyOf _ | .unsupported _ => rfl

end

/-! ## Paths -/

/-- The path of a scope inside namespaces: the segments of their names. -/
def segmentsOf (outer : List String) : List String :=
  outer.flatMap (Text.segments '.')

theorem segmentsOf_concat (outer : List String) (name : String) :
    segmentsOf (outer ++ [name]) = segmentsOf outer ++ Text.segments '.' name := by
  simp [segmentsOf]

/-- Joined again, the segments give the names as they are written. -/
theorem globalPath_segmentsOf (outer more : List String) :
    globalPath (".".intercalate (segmentsOf outer ++ more)) = boundTo (outer ++ more) := by
  rw [segmentsOf, Text.intercalate_flatMap_segments rfl]
  rfl

theorem globalTag_segmentsOf (outer : List String) (name : String) :
    globalTag (segmentsOf outer) name = boundInside outer name := by
  have hempty : (segmentsOf outer).isEmpty = outer.isEmpty := by
    cases outer with
    | nil => rfl
    | cons first outer => simp [segmentsOf, Text.segments_ne_nil]
  unfold globalTag boundInside qualifiedName
  rw [hempty, globalPath_segmentsOf]

/-! ## Statements -/

theorem ClassDecl.isEmpty_staticLines (decl : ClassDecl) :
    decl.staticLines.isEmpty = !decl.showsStatics := by
  unfold staticLines staticMembers showsStatics
  rw [Bool.eq_iff_iff]
  simp [List.flatMap_eq_nil_iff]

theorem ClassDecl.tagLines_pieces (decl : ClassDecl) (outer : List String) :
    tagLines (decl.pieces (segmentsOf outer)) =
      List.replicate (if decl.showsStatics then 2 else 1) (boundInside outer decl.name) := by
  have htag := isTag_boundInside outer decl.name
  have hheader : StartsPlainly decl.header := by
    unfold header
    simp only [String.append_assoc]
    split <;> exact StartsPlainly.append (by decide) _
  have hbody : NoTag decl.bodyLines := by
    unfold bodyLines
    refine List.forall_mem_append.mpr ⟨?_, flatMap_render_noTag _ _⟩
    rw [List.forall_mem_map]
    intro params _
    rw [String.append_assoc]
    exact (StartsPlainly.append (by decide) _).isTag_eq
  have hstatic : NoTag decl.staticLines := flatMap_render_noTag _ _
  unfold pieces
  rw [globalTag_segmentsOf, decl.isEmpty_staticLines, tagLines_append, tagLines_gap,
    tagLines_nativeMark, tagLines_tag htag, tagLines_linesBlock hheader hbody]
  cases decl.showsStatics with
  | false => rfl
  | true =>
    simp only [Bool.not_true, Bool.false_eq_true, if_false, if_true]
    rw [tagLines_nativeMark, tagLines_tag htag, String.append_assoc,
      tagLines_linesBlock (StartsPlainly.append (by decide) _) hstatic]
    rfl

theorem InterfaceDecl.tagLines_pieces (decl : InterfaceDecl) :
    tagLines decl.pieces = [] := by
  have hobject : StartsPlainly ("object " ++ Name.written decl.name) :=
    StartsPlainly.append (by decide) _
  unfold pieces
  simp only [String.append_assoc]
  rw [tagLines_append, tagLines_gap, tagLines_nativeMark,
    tagLines_linesBlock (StartsPlainly.append (by decide) _)
      (traitLines_noTag _ _), tagLines_nil, List.nil_append]
  split
  · rfl
  · rw [tagLines_gap, tagLines_block hobject, nestedTraits_noTag]
    rfl

theorem EnumDecl.valueLines_noTag (decl : EnumDecl) : NoTag decl.valueLines := by
  unfold valueLines
  simp only [String.append_assoc]
  refine List.forall_mem_append.mpr ⟨?_, noTag_accessor (StartsPlainly.append (by decide) _)⟩
  rw [List.forall_mem_map]
  intro member _
  exact (StartsPlainly.append (by decide) _).isTag_eq

theorem EnumDecl.tagLines_pieces (decl : EnumDecl) (outer : List String) :
    tagLines (decl.pieces (segmentsOf outer)) = [boundTo (outer ++ [decl.name])] := by
  have hvalues := decl.valueLines_noTag
  unfold pieces qualifiedName
  rw [globalPath_segmentsOf]
  simp only [String.append_assoc]
  rw [tagLines_gap, tagLines_nativeMark,
    tagLines_block (StartsPlainly.append (by decide) _), tagLines_nil, List.map_nil,
    List.nil_append, tagLines_gap, tagLines_nativeMark,
    tagLines_tag (isTag_boundTo _),
    tagLines_linesBlock (StartsPlainly.append (by decide) _) hvalues]
  rfl

theorem VariableDecl.tagLines_pieces (decl : VariableDecl) (outer : List String) :
    tagLines (decl.pieces (segmentsOf outer)) =
      if decl.type.isObject then [boundInside outer decl.name] else [] := by
  cases htype : decl.type with
  | object members =>
    unfold pieces
    rw [htype]
    simp only
    rw [globalTag_segmentsOf, tagLines_gap, tagLines_nativeMark,
      tagLines_tag (isTag_boundInside outer decl.name), String.append_assoc,
      tagLines_linesBlock (StartsPlainly.append (by decide) _) (flatMap_render_noTag _ _)]
    rfl
  | _ =>
    rw [VariableDecl.pieces_of_not_object (by rw [htype]; rfl)]
    rfl

theorem tagLines_flatMap {α : Type} (items : List α) (pieces : α → List Piece) :
    tagLines (items.flatMap pieces) =
      items.flatMap fun item => tagLines (pieces item) := by
  induction items with
  | nil => rfl
  | cons item items ih => rw [List.flatMap_cons, tagLines_append, ih, List.flatMap_cons]

theorem VariableDecl.tagLines_flatMap (decls : List VariableDecl) (outer : List String) :
    tagLines (decls.flatMap (·.pieces (segmentsOf outer))) =
      (decls.filter (·.type.isObject)).map (boundInside outer ·.name) := by
  rw [Facade.tagLines_flatMap]
  induction decls with
  | nil => rfl
  | cons decl decls ih =>
    rw [List.flatMap_cons, ih, decl.tagLines_pieces, List.filter_cons]
    split <;> rfl

/-! ## Scopes -/

theorem Statement.isGathered_eq_false (statement : Statement) :
    statement.isGathered = false ↔
      statement.alias? = none ∧ statement.function? = none ∧
        statement.declarators.filter (!·.type.isObject) = [] ∧ statement.assignment? = none := by
  cases statement <;> simp [isGathered, alias?, function?, declarators, assignment?]

theorem nothingGathered_iff (statements : List Statement) :
    NothingGathered statements ↔ ∀ statement ∈ statements, statement.isGathered = false := by
  unfold NothingGathered aliasesOf functionsOf plainVariablesOf assignmentsOf
  rw [List.filterMap_eq_nil_iff, List.filterMap_eq_nil_iff, List.filterMap_eq_nil_iff,
    List.filter_flatMap, List.flatMap_eq_nil_iff]
  simp only [Statement.isGathered_eq_false, imp_and, forall_and]

theorem Exports.isEmpty_eq (statements : List Statement) :
    (ofStatements statements).isEmpty = !statements.any (·.isGathered) := by
  rw [Bool.eq_iff_iff, isEmpty_ofStatements, nothingGathered_iff]
  simp

theorem Exports.tagLines_container (statements : List Statement) (name default : String)
    {tag : String} (htag : isTag tag = true) :
    tagLines ((ofStatements statements).container name tag default) =
      if statements.any (·.isGathered) then [tag] else [] := by
  have hlines : NoTag (Text.distinct ((ofStatements statements).lines default)) := by
    intro line hl
    rw [Exports.lines_ofStatements, Text.mem_distinct, mem_gatheredLines] at hl
    have hhead : StartsPlainly line := by
      unfold StartsPlainly
      rcases hl with hl | hl | hl
      all_goals
        obtain ⟨decl, _, rfl⟩ := List.mem_map.mp hl
        rw [decl.line_head]
        rfl
    exact hhead.isTag_eq
  unfold container
  rw [isEmpty_eq]
  cases statements.any (·.isGathered) with
  | false => rfl
  | true =>
    simp only [Bool.not_true, Bool.false_eq_true, if_false, if_true]
    rw [tagLines_gap, tagLines_nativeMark, tagLines_tag htag,
      String.append_assoc, tagLines_linesBlock (StartsPlainly.append (by decide) _) hlines]
    rfl

theorem tagLines_namespaceBlock (name : String) (outer : List String)
    (body : List Statement) (pieces : List Piece) :
    tagLines (namespaceBlock name (segmentsOf outer) body pieces) =
      tagLines pieces ++ if body.any (·.isGathered) then [boundTo outer] else [] := by
  have hpath := globalPath_segmentsOf outer []
  rw [List.append_nil, List.append_nil] at hpath
  unfold namespaceBlock namespaceContainer
  rw [tagLines_gap, tagLines_block (StartsPlainly.append (by decide) _),
    Bool.toNat_false, Writer.map_shifted_zero, tagLines_append, tagLines_append,
    hpath, Exports.tagLines_container _ _ _ (isTag_boundTo outer)]
  simp

mutual

/-- A statement is annotated with the names of the namespaces around it. -/
theorem Statement.tagLines_pieces (outer : List String) (statement : Statement) :
    tagLines (statement.pieces (segmentsOf outer)) = statement.tags outer := by
  match statement with
  | .module name quoted body =>
    rw [Statement.pieces, Statement.tags]
    cases quoted with
    | true => rfl
    | false =>
      simp only [Bool.false_eq_true, if_false]
      rw [← segmentsOf_concat, tagLines_namespaceBlock, tagLines_bodyPieces _ body]
  | .moduleHead name quoted =>
    rw [Statement.pieces, Statement.tags]
    cases quoted with
    | true => rfl
    | false =>
      simp only [Bool.false_eq_true, if_false]
      rw [← segmentsOf_concat, tagLines_namespaceBlock]
      rfl
  | .classDecl decl => exact decl.tagLines_pieces outer
  | .interfaceDecl decl => exact decl.tagLines_pieces
  | .enumDecl decl => exact decl.tagLines_pieces outer
  | .variableDecls decls => exact VariableDecl.tagLines_flatMap decls outer
  | .aliasDecl _ | .function _ | .exportAssignment _ | .importDecl _ | .other _ | .unknown => rfl

theorem tagLines_bodyPieces (outer : List String) (statements : List Statement) :
    tagLines (bodyPieces (segmentsOf outer) statements) =
      bodyTags outer statements := by
  match statements with
  | [] => rfl
  | statement :: rest =>
    rw [bodyPieces, bodyTags, tagLines_append, statement.tagLines_pieces outer,
      tagLines_bodyPieces outer rest]

end

/-! ## The laws -/

/-- Runtime paths are right at every depth. The lines of a facade that start as annotations are
those that the declarations ask for, in their order: each has the names of the namespaces around
it, with dots or without, and external modules have none. -/
theorem runtime_paths_have_the_names_around_them (file : DeclarationFile) (package : String) :
    (Writer.empty.putAll (file.pieces package)).lines.toList.filter isTag =
      file.tags := by
  have hopening : openingLines.filter isTag = [] := by decide +kernel
  have hclause : StartsPlainly (Name.packageClause package) := by
    unfold Name.packageClause
    split <;> exact StartsPlainly.append (by decide) _
  have hinside : tagLines (file.inside package) = file.tags := by
    have hbody : tagLines (bodyPieces [] file.statements) =
        bodyTags [] file.statements := tagLines_bodyPieces [] file.statements
    have hend : tagLines
        (if file.statements.any (·.isModuleLike) then [.line ""] else []) = [] := by
      split <;> rfl
    unfold DeclarationFile.inside DeclarationFile.tags
    rw [tagLines_append, tagLines_append, tagLines_append, hbody, hend,
      Exports.tagLines_container _ _ _ rfl, tagLines_gap, tagLines_nil,
      List.append_nil, List.append_nil]
  rw [Writer.empty_putAll_lines, DeclarationFile.layoutAll_pieces_eq, List.filter_append, hopening,
    List.filter_cons, (hclause.append _).isTag_eq, List.filter_append, filter_layoutAll,
    hinside]
  simp [isTag]

/-- The annotations below a dotted name, with a class that has a static member and a namespace
inside. -/
example : DeclarationFile.tags ⟨[.module "geo.plane" false [
    .classDecl ⟨"Point", [], [], [],
      [.property .everyone true "origin" (.keyword "number") true false false], false⟩,
    .module "unit" false [.enumDecl ⟨"Scale", [], false⟩, .module "ext" true [.unknown]],
    .aliasDecl ⟨"Id", [], .keyword "string"⟩], .enumDecl ⟨"Color", [], false⟩]⟩ =
    ["@JSGlobal(\"geo.plane.Point\")", "@JSGlobal(\"geo.plane.Point\")",
      "@JSGlobal(\"geo.plane.unit.Scale\")", "@JSGlobal(\"geo.plane\")",
      "@JSGlobal(\"Color\")"] := by
  decide +kernel

end Facade
