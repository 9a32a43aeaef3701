-- The pieces of a facade in good order: lines of code, and blocks whose head tells whether the
-- body is indented. Every piece of a file is so when the names in the file have no braces.
import Facade.Proofs.CodeLines
import Facade.Proofs.Emission

namespace Facade

/-! ## Pieces -/

/-- How the head of an indented block starts. That of a package starts otherwise. -/
def isHeadStart (c : Char) : Bool :=
  isInk c && c != 'p'

/-- The head of a block. The blocks of packages, and only they, are not indented. -/
inductive BlockHead : Bool → String → Prop
  | package {path : String} : BraceFree path → BlockHead false ("package " ++ path)
  | code {header : String} : Begins isHeadStart header → BlockHead true header

/-- A piece in good order. -/
inductive Piece.Tidy : Piece → Prop
  | empty : Tidy (.line "")
  | line {text : String} : CodeLine text → Tidy (.line text)
  | gap : Tidy .gap
  | block {header : String} {indented : Bool} {body : List Piece} :
      BlockHead indented header → (∀ piece ∈ body, piece.Tidy) → Tidy (.block header indented body)

/-- Pieces in good order. -/
def TidyPieces (pieces : List Piece) : Prop :=
  ∀ piece ∈ pieces, piece.Tidy

theorem tidyPieces_nil : TidyPieces [] := by
  intro piece hp
  cases hp

theorem tidyPieces_cons {piece : Piece} {rest : List Piece} (hp : piece.Tidy)
    (hr : TidyPieces rest) : TidyPieces (piece :: rest) :=
  List.forall_mem_cons.mpr ⟨hp, hr⟩

theorem tidyPieces_append {xs ys : List Piece} (hx : TidyPieces xs) (hy : TidyPieces ys) :
    TidyPieces (xs ++ ys) :=
  List.forall_mem_append.mpr ⟨hx, hy⟩

theorem tidyPieces_ofLines {lines : List String} (h : CodeLines lines) :
    TidyPieces (Piece.ofLines lines) := by
  intro piece hp
  obtain ⟨line, hl, rfl⟩ := List.mem_map.mp hp
  exact .line (h line hl)

theorem tidyPieces_optional {pieces : List Piece} (condition : Bool) (h : TidyPieces pieces) :
    TidyPieces (if condition then [] else pieces) := by
  cases condition
  · exact h
  · exact tidyPieces_nil

theorem tidy_codeBlock {header : String} (hh : Begins isHeadStart header) {lines : List String}
    (hl : CodeLines lines) : (Piece.block header true (Piece.ofLines lines)).Tidy :=
  .block (.code hh) (tidyPieces_ofLines hl)

theorem tidy_nativeMark : (Piece.line nativeMark).Tidy :=
  .line (by decide)

/-- A block of code that the platform provides under a path. -/
theorem tidyPieces_taggedBlock {tag header : String} {lines : List String} (ht : CodeLine tag)
    (hh : Begins isHeadStart header) (hl : CodeLines lines) :
    TidyPieces [.line nativeMark, .line tag, .block header true (Piece.ofLines lines)] :=
  tidyPieces_cons tidy_nativeMark (tidyPieces_cons (.line ht)
    (tidyPieces_cons (tidy_codeBlock hh hl) tidyPieces_nil))

/-- The head of an object with a name. -/
theorem objectHead_begins {name : String} (h : BraceFree name) :
    Begins isHeadStart ("object " ++ name ++ " extends js.Object") :=
  (Begins.append (by decide) h).append (by decide)

/-! ## Paths -/

theorem globalPath_code {path : String} (h : BraceFree path) : CodeLine (globalPath path) :=
  (Begins.append (by decide) h).append (by decide)

theorem braceFree_qualifiedName {path : List String} (hpath : AllBraceFree path) {name : String}
    (hname : BraceFree name) : BraceFree (qualifiedName path name) := by
  apply braceFree_intercalate (by decide)
  exact allBraceFree_append.mpr ⟨hpath, allBraceFree_cons.mpr ⟨hname, allBraceFree_nil⟩⟩

theorem globalTag_code {path : List String} (hpath : AllBraceFree path) {name : String}
    (hname : BraceFree name) : CodeLine (globalTag path name) := by
  unfold globalTag
  split
  · decide
  · exact globalPath_code (braceFree_qualifiedName hpath hname)

theorem allBraceFree_inner {path : List String} (hpath : AllBraceFree path) {name : String}
    (hname : BraceFree name) : AllBraceFree (path ++ Text.segments '.' name) :=
  allBraceFree_append.mpr ⟨hpath, fun _ hs => braceFree_segment hname hs⟩

/-! ## Classes -/

theorem ClassDecl.parents_braceFree {decl : ClassDecl}
    (h : AllBraceFree (namesOfTypes (decl.bases ++ decl.interfaces))) :
    BraceFree decl.parents := by
  unfold ClassDecl.parents
  dsimp only
  split
  · decide
  · exact braceFree_intercalate (by decide) (mappedTypes_braceFree _ h)

theorem ClassDecl.header_begins {decl : ClassDecl} (h : AllBraceFree decl.names) :
    Begins isHeadStart decl.header := by
  rw [ClassDecl.names, allBraceFree_append, allBraceFree_append, allBraceFree_cons] at h
  have hword : Begins isHeadStart (if decl.isAbstract then "abstract class " else "class ") := by
    split <;> decide
  have hhidden : BraceFree (if decl.constructors.isEmpty then "" else " protected ()") := by
    split <;> decide
  exact ((((hword.append (braceFree_written h.1.1.1)).append
    (braceFree_typeParamList h.1.1.2)).append hhidden).append (by decide)).append
    (ClassDecl.parents_braceFree h.1.2)

theorem shownConstructor_braceFree {member : Member} (h : AllBraceFree member.names)
    {params : List Param} (hs : shownConstructor member = some params) :
    BraceFree (paramList params) := by
  unfold shownConstructor at hs
  split at hs
  · cases hs
    rw [Member.names] at h
    exact braceFree_paramList h
  · cases hs

theorem ClassDecl.bodyLines_code {decl : ClassDecl}
    (h : AllBraceFree (namesOfMembers decl.members)) : CodeLines decl.bodyLines := by
  have hmember : ∀ member ∈ decl.instanceMembers, AllBraceFree member.names := by
    intro member hm
    exact allBraceFree_names_of_mem h (List.mem_filter.mp hm).1
  apply codeLines_append
  · intro line hl
    obtain ⟨params, hp, rfl⟩ := List.mem_map.mp hl
    obtain ⟨member, hm, hs⟩ := List.mem_filterMap.mp hp
    exact (Begins.append (by decide) (shownConstructor_braceFree (hmember member hm) hs)).append
      (by decide)
  · exact codeLines_flatMap fun member hm => Member.render_code (hmember member hm) decl.place

theorem ClassDecl.staticLines_code {decl : ClassDecl}
    (h : AllBraceFree (namesOfMembers decl.members)) : CodeLines decl.staticLines :=
  codeLines_flatMap fun _ hm =>
    Member.render_code (allBraceFree_names_of_mem h (List.mem_filter.mp hm).1) .object

theorem ClassDecl.pieces_tidy {decl : ClassDecl} (h : AllBraceFree decl.names)
    {path : List String} (hpath : AllBraceFree path) : TidyPieces (decl.pieces path) := by
  have hnames := h
  rw [ClassDecl.names, allBraceFree_append, allBraceFree_append, allBraceFree_cons] at hnames
  have htag : CodeLine (globalTag path decl.name) := globalTag_code hpath hnames.1.1.1
  apply tidyPieces_append
  · exact tidyPieces_cons .gap (tidyPieces_taggedBlock htag (ClassDecl.header_begins h)
      (ClassDecl.bodyLines_code hnames.2))
  · apply tidyPieces_optional
    exact tidyPieces_taggedBlock htag (objectHead_begins (braceFree_written hnames.1.1.1))
      (ClassDecl.staticLines_code hnames.2)

/-! ## Traits -/

theorem codeLines_traitLines {members : List Member} (h : AllBraceFree (namesOfMembers members))
    {owner : String} (howner : BraceFree owner) : CodeLines (traitLines members owner) := by
  intro line hl
  obtain ⟨rendering, hr, hl⟩ := List.mem_flatten.mp hl
  have hr := (List.mem_filter.mp (Text.mem_of_mem_distinctBy hr)).1
  obtain ⟨member, hm, rfl⟩ := List.mem_map.mp hr
  exact Member.traitLines_code (allBraceFree_names_of_mem h hm) howner line hl

theorem Member.nestedTrait?_braceFree {member : Member} (h : AllBraceFree member.names)
    {trait : String} (ht : member.nestedTrait? = some trait) : BraceFree trait := by
  obtain ⟨⟨name, members⟩, hn, rfl⟩ := Option.map_eq_some_iff.mp ht
  unfold Member.nested? at hn
  split at hn
  · cases hn
    rw [Member.names, allBraceFree_cons] at h
    exact braceFree_nestedTrait h.1
  · cases hn

mutual

theorem nestedTraits_tidy (seen : List String) (members : List Member)
    (h : AllBraceFree (namesOfMembers members)) : TidyPieces (nestedTraits seen members) := by
  match members with
  | [] => exact tidyPieces_nil
  | member :: rest =>
    rw [namesOfMembers, allBraceFree_append] at h
    rw [nestedTraits]
    split
    · exact nestedTraits_tidy seen rest h.2
    · rename_i trait ht
      split
      · exact nestedTraits_tidy seen rest h.2
      · exact tidyPieces_append
          (Member.literalTraits_tidy trait (Member.nestedTrait?_braceFree h.1 ht) member h.1)
          (nestedTraits_tidy (trait :: seen) rest h.2)

theorem Member.literalTraits_tidy (trait : String) (htrait : BraceFree trait) (member : Member)
    (h : AllBraceFree member.names) : TidyPieces (member.literalTraits trait) := by
  match member with
  | .property _ _ _ type _ _ _ =>
    rw [Member.names, allBraceFree_cons] at h
    rw [Member.literalTraits]
    exact TypeExpr.literalTraits_tidy trait htrait type h.2
  | .method .. | .index .. | .call .. | .construct .. | .other .. | .unknown .. =>
    rw [Member.literalTraits]
    · exact tidyPieces_nil
    · simp

theorem TypeExpr.literalTraits_tidy (trait : String) (htrait : BraceFree trait) (type : TypeExpr)
    (h : AllBraceFree type.names) : TidyPieces (type.literalTraits trait) := by
  match type with
  | .object members =>
    rw [TypeExpr.names] at h
    rw [TypeExpr.literalTraits]
    apply tidyPieces_append
    · exact tidyPieces_cons tidy_nativeMark (tidyPieces_cons (tidy_codeBlock
        ((Begins.append (by decide) htrait).append (by decide))
        (codeLines_traitLines h htrait)) tidyPieces_nil)
    · apply tidyPieces_optional
      exact tidyPieces_cons .gap (tidyPieces_cons (.block (.code (.append (by decide) htrait))
        (nestedTraits_tidy [] members h)) tidyPieces_nil)
  | .absent | .unknown | .keyword _ | .literal .. | .ref .. | .array _ | .union _ | .inter _
  | .func .. | .paren _ | .keyOf _ | .unsupported _ =>
    rw [TypeExpr.literalTraits]
    · exact tidyPieces_nil
    · simp

end

theorem InterfaceDecl.parents_braceFree {decl : InterfaceDecl}
    (h : AllBraceFree (namesOfTypes decl.bases)) : BraceFree decl.parents := by
  unfold InterfaceDecl.parents
  dsimp only
  split
  · decide
  · exact braceFree_intercalate (by decide) fun text ht =>
      mappedTypes_braceFree _ h text (Text.mem_distinct.mp ht)

theorem InterfaceDecl.pieces_tidy {decl : InterfaceDecl} (h : AllBraceFree decl.names) :
    TidyPieces decl.pieces := by
  rw [InterfaceDecl.names, allBraceFree_append, allBraceFree_append, allBraceFree_cons] at h
  have hname : BraceFree (Name.written decl.name) := braceFree_written h.1.1.1
  have hhead : Begins isHeadStart ("trait " ++ Name.written decl.name
      ++ typeParamList decl.typeParams ++ " extends " ++ decl.parents) :=
    (((Begins.append (by decide) hname).append (braceFree_typeParamList h.1.1.2)).append
      (by decide)).append (InterfaceDecl.parents_braceFree h.1.2)
  apply tidyPieces_append
  · exact tidyPieces_cons .gap (tidyPieces_cons tidy_nativeMark (tidyPieces_cons
      (tidy_codeBlock hhead (codeLines_traitLines h.2 hname)) tidyPieces_nil))
  · apply tidyPieces_optional
    exact tidyPieces_cons .gap (tidyPieces_cons (.block (.code (.append (by decide) hname))
      (nestedTraits_tidy [] decl.members h.2)) tidyPieces_nil)

/-! ## Enumerations and variables -/

theorem EnumDecl.valueLines_code {decl : EnumDecl} (hname : BraceFree decl.name)
    (hmembers : AllBraceFree decl.members) : CodeLines decl.valueLines := by
  have hname : BraceFree (Name.written decl.name) := braceFree_written hname
  apply codeLines_append
  · intro line hl
    obtain ⟨member, hm, rfl⟩ := List.mem_map.mp hl
    exact (((Begins.append (by decide) (braceFree_written (hmembers member hm))).append
      (by decide)).append hname).append (by decide)
  · have hread : CodeLine ("def apply(value: " ++ Name.written decl.name ++ "): String"
        ++ fromPlatform) :=
      ((Begins.append (by decide) hname).append (by decide)).append (by decide)
    exact codeLines_append (codeLines_singleton (by decide)) (codeLines_singleton hread)

theorem EnumDecl.pieces_tidy {decl : EnumDecl} (hname : BraceFree decl.name)
    (hmembers : AllBraceFree decl.members) {path : List String} (hpath : AllBraceFree path) :
    TidyPieces (decl.pieces path) := by
  have hwritten : BraceFree (Name.written decl.name) := braceFree_written hname
  have hsealed : Begins isHeadStart ("sealed trait " ++ Name.written decl.name
      ++ " extends js.Object") :=
    (Begins.append (by decide) hwritten).append (by decide)
  have htag : CodeLine (globalPath (qualifiedName path decl.name)) :=
    globalPath_code (braceFree_qualifiedName hpath hname)
  exact tidyPieces_cons .gap (tidyPieces_cons tidy_nativeMark (tidyPieces_cons
    (.block (.code hsealed) tidyPieces_nil) (tidyPieces_cons .gap (tidyPieces_taggedBlock htag
      (objectHead_begins hwritten) (EnumDecl.valueLines_code hname hmembers)))))

theorem VariableDecl.pieces_tidy {decl : VariableDecl} (h : AllBraceFree decl.names)
    {path : List String} (hpath : AllBraceFree path) : TidyPieces (decl.pieces path) := by
  rw [VariableDecl.names, allBraceFree_cons] at h
  unfold VariableDecl.pieces
  split
  · rename_i members htype
    rw [htype, TypeExpr.names] at h
    exact tidyPieces_cons .gap (tidyPieces_taggedBlock (globalTag_code hpath h.1)
      (objectHead_begins (braceFree_written h.1)) (codeLines_flatMap fun _ hm =>
        Member.render_code (allBraceFree_names_of_mem h.2 hm) .object))
  · exact tidyPieces_nil

/-! ## What a scope gathers -/

theorem AliasDecl.line_code {decl : AliasDecl} (h : AllBraceFree decl.names) :
    CodeLine decl.line := by
  rw [AliasDecl.names, allBraceFree_append, allBraceFree_cons] at h
  exact (((Begins.append (by decide) (braceFree_written h.1.1)).append
    (braceFree_typeParamList h.1.2)).append (by decide)).append
    (TypeExpr.mapped_braceFree decl.value h.2)

theorem VariableDecl.line_code {decl : VariableDecl} (h : AllBraceFree decl.names) :
    CodeLine decl.line := by
  rw [VariableDecl.names, allBraceFree_cons] at h
  have hword : CodeLine ((if decl.isConst then "val" else "var") ++ " ") := by
    split <;> decide
  exact (((hword.append (braceFree_written h.1)).append (by decide)).append
    (TypeExpr.mapped_braceFree decl.type h.2)).append (by decide)

theorem FunctionDecl.line_code {decl : FunctionDecl} (h : AllBraceFree decl.names)
    {default : String} (hd : BraceFree default) : CodeLine (decl.line default) := by
  rw [FunctionDecl.names, allBraceFree_append, allBraceFree_append, allBraceFree_cons] at h
  exact ((Begins.append (by decide) (braceFree_written h.1.1.1)).append (braceFree_signatureText
    h.1.1.2 h.1.2 (braceFree_mappedReturn h.2 hd))).append (by decide)

/-- Everything gathered has names without braces. -/
structure Exports.Clean (exports : Exports) : Prop where
  aliases : ∀ decl ∈ exports.aliases, AllBraceFree decl.names
  functions : ∀ decl ∈ exports.functions, AllBraceFree decl.names
  plainVariables : ∀ decl ∈ exports.plainVariables, AllBraceFree decl.names

theorem Exports.Clean.collect {exports : Exports} (hexports : exports.Clean)
    {statement : Statement} (h : AllBraceFree statement.names) :
    (exports.collect statement).Clean := by
  obtain ⟨haliases, hfunctions, hvariables⟩ := hexports
  cases statement with
  | aliasDecl decl =>
    refine ⟨List.forall_mem_append.mpr ⟨haliases, ?_⟩, hfunctions, hvariables⟩
    exact List.forall_mem_singleton.mpr h
  | function decl =>
    refine ⟨haliases, List.forall_mem_append.mpr ⟨hfunctions, ?_⟩, hvariables⟩
    exact List.forall_mem_singleton.mpr h
  | variableDecls decls =>
    refine ⟨haliases, hfunctions, List.forall_mem_append.mpr ⟨hvariables, ?_⟩⟩
    intro decl hd name hn
    exact h name (List.mem_flatMap.mpr ⟨decl, (List.mem_filter.mp hd).1, hn⟩)
  | _ => exact ⟨haliases, hfunctions, hvariables⟩

theorem Exports.Clean.foldl {exports : Exports} (hexports : exports.Clean)
    {statements : List Statement} (h : AllBraceFree (namesOfStatements statements)) :
    (statements.foldl Exports.collect exports).Clean := by
  induction statements generalizing exports with
  | nil => exact hexports
  | cons statement rest ih =>
    rw [namesOfStatements, allBraceFree_append] at h
    exact ih (hexports.collect h.1) h.2

theorem Exports.empty_clean : Exports.empty.Clean := by
  refine ⟨?_, ?_, ?_⟩ <;> (intro decl hd; cases hd)

theorem Exports.ofStatements_clean {statements : List Statement}
    (h : AllBraceFree (namesOfStatements statements)) : (Exports.ofStatements statements).Clean :=
  Exports.empty_clean.foldl h

theorem Exports.resolve?_mem {exports : Exports} {assignment : ExportAssignment}
    {decl : FunctionDecl} (h : exports.resolve? assignment = some decl) :
    decl ∈ exports.functions := by
  unfold Exports.resolve? at h
  split at h
  · exact List.mem_of_find?_eq_some h
  · cases h

theorem Exports.lines_code {exports : Exports} (h : exports.Clean) {default : String}
    (hd : BraceFree default) : CodeLines (exports.lines default) := by
  apply codeLines_append
  · apply codeLines_append
    · apply codeLines_append
      · intro line hl
        obtain ⟨decl, hdecl, rfl⟩ := List.mem_map.mp hl
        exact AliasDecl.line_code (h.aliases decl hdecl)
      · intro line hl
        obtain ⟨decl, hdecl, rfl⟩ := List.mem_map.mp hl
        obtain ⟨assignment, _, hr⟩ := List.mem_filterMap.mp hdecl
        exact FunctionDecl.line_code (h.functions decl (Exports.resolve?_mem hr)) hd
    · intro line hl
      obtain ⟨decl, hdecl, rfl⟩ := List.mem_map.mp hl
      exact VariableDecl.line_code (h.plainVariables decl hdecl)
  · intro line hl
    obtain ⟨decl, hdecl, rfl⟩ := List.mem_map.mp hl
    exact FunctionDecl.line_code (h.functions decl hdecl) hd

theorem Exports.container_tidy {exports : Exports} (h : exports.Clean) {name tag default : String}
    (hname : BraceFree name) (htag : CodeLine tag) (hd : BraceFree default) :
    TidyPieces (exports.container name tag default) := by
  unfold Exports.container
  apply tidyPieces_optional
  exact tidyPieces_cons .gap (tidyPieces_taggedBlock htag (objectHead_begins hname)
    fun line hl => Exports.lines_code h hd line (Text.mem_distinct.mp hl))

/-! ## Statements and files -/

theorem namespaceBlock_tidy {name : String} (hname : BraceFree name) {path : List String}
    (hpath : AllBraceFree path) {body : List Statement}
    (hbody : AllBraceFree (namesOfStatements body)) {pieces : List Piece}
    (hpieces : TidyPieces pieces) : TidyPieces (namespaceBlock name path body pieces) := by
  have htag : CodeLine (globalPath (".".intercalate path)) :=
    globalPath_code (braceFree_intercalate (by decide) hpath)
  have hcontainer : TidyPieces (namespaceContainer name path body) :=
    Exports.container_tidy (Exports.ofStatements_clean hbody) (braceFree_container hname) htag
      (by decide)
  exact tidyPieces_cons .gap (tidyPieces_cons
    (.block (.package (braceFree_writtenPath hname))
      (tidyPieces_append (tidyPieces_append hpieces hcontainer)
        (tidyPieces_cons .gap tidyPieces_nil))) tidyPieces_nil)

mutual

theorem Statement.pieces_tidy {path : List String} (hpath : AllBraceFree path)
    (statement : Statement) (h : AllBraceFree statement.names) :
    TidyPieces (statement.pieces path) := by
  match statement with
  | .module name quoted body =>
    rw [Statement.names, allBraceFree_cons] at h
    rw [Statement.pieces]
    have hinner := allBraceFree_inner hpath h.1
    apply tidyPieces_optional
    exact namespaceBlock_tidy h.1 hinner h.2 (bodyPieces_tidy hinner body h.2)
  | .moduleHead name quoted =>
    rw [Statement.names, allBraceFree_cons] at h
    rw [Statement.pieces]
    have hnone : AllBraceFree (namesOfStatements []) := allBraceFree_nil
    apply tidyPieces_optional
    exact namespaceBlock_tidy h.1 (allBraceFree_inner hpath h.1) hnone tidyPieces_nil
  | .classDecl decl => exact ClassDecl.pieces_tidy h hpath
  | .interfaceDecl decl => exact InterfaceDecl.pieces_tidy h
  | .enumDecl decl =>
    rw [Statement.names, allBraceFree_cons] at h
    exact EnumDecl.pieces_tidy h.1 h.2 hpath
  | .variableDecls decls =>
    rw [Statement.pieces]
    intro piece hp
    obtain ⟨decl, hd, hp⟩ := List.mem_flatMap.mp hp
    have hdecl : AllBraceFree decl.names := fun name hn =>
      h name (List.mem_flatMap.mpr ⟨decl, hd, hn⟩)
    exact VariableDecl.pieces_tidy hdecl hpath piece hp
  | .aliasDecl _ | .function _ | .exportAssignment _ | .importDecl _ | .other _ | .unknown =>
    rw [Statement.pieces]
    exact tidyPieces_nil

theorem bodyPieces_tidy {path : List String} (hpath : AllBraceFree path)
    (statements : List Statement) (h : AllBraceFree (namesOfStatements statements)) :
    TidyPieces (bodyPieces path statements) := by
  match statements with
  | [] => exact tidyPieces_nil
  | statement :: rest =>
    rw [namesOfStatements, allBraceFree_append] at h
    rw [bodyPieces]
    exact tidyPieces_append (Statement.pieces_tidy hpath statement h.1)
      (bodyPieces_tidy hpath rest h.2)

end

theorem packageClause_head {name : String} (h : BraceFree name) :
    BlockHead false (Name.packageClause name) := by
  unfold Name.packageClause
  split
  · exact .package h
  · exact .package (braceFree_backticked h)

theorem DeclarationFile.inside_tidy {file : DeclarationFile} (h : AllBraceFree file.names)
    {package : String} (hpackage : BraceFree package) : TidyPieces (file.inside package) := by
  have hbody : TidyPieces (bodyPieces [] file.statements) :=
    bodyPieces_tidy allBraceFree_nil file.statements h
  have hcontainer : TidyPieces ((Exports.ofStatements file.statements).container
      (Name.container package) "@JSGlobalScope" "Unit") :=
    Exports.container_tidy (Exports.ofStatements_clean h) (braceFree_container hpackage)
      (by decide) (by decide)
  refine tidyPieces_append (tidyPieces_append (tidyPieces_append hbody hcontainer)
    (tidyPieces_cons .gap tidyPieces_nil)) ?_
  split
  · exact tidyPieces_cons .empty tidyPieces_nil
  · exact tidyPieces_nil

theorem DeclarationFile.pieces_tidy {file : DeclarationFile} (h : AllBraceFree file.names)
    {package : String} (hpackage : BraceFree package) : TidyPieces (file.pieces package) := by
  have himports : CodeLines headerImports := by
    unfold CodeLines
    decide
  have hblock : (Piece.block (Name.packageClause package) false (file.inside package)).Tidy :=
    .block (packageClause_head hpackage) (DeclarationFile.inside_tidy h hpackage)
  exact tidyPieces_append (tidyPieces_append (tidyPieces_cons .empty tidyPieces_nil)
    (tidyPieces_ofLines himports))
    (tidyPieces_cons .empty (tidyPieces_cons hblock tidyPieces_nil))

end Facade
