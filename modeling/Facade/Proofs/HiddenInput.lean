-- Hidden and unsupported input never reaches a facade. Erasing it leaves each piece of the facade
-- as it was, so two trees that differ only in what is erased have the same facade.
import Facade.Proofs.Emission
import Facade.Proofs.Erasure

namespace Facade

/-! ## Classes and traits are written as before -/

/-- A rendering of single members that erasing does not change, and that gives nothing for a
member that does not stay, gives the same for a whole list. -/
theorem flatMap_erasedMembers {β : Type} {f : Member → List β}
    (hsame : ∀ member, f member.erased = f member)
    (hnone : ∀ member, member.isKept = false → f member = []) (members : List Member) :
    (erasedMembers members).flatMap f = members.flatMap f := by
  induction members with
  | nil => rfl
  | cons member rest ih =>
    rw [erasedMembers, List.flatMap_cons]
    cases hk : member.isKept with
    | true => rw [if_pos rfl, List.flatMap_cons, hsame, ih]
    | false => rw [if_neg (by simp), ih, hnone member hk, List.nil_append]

theorem flatMap_render_erasedMembers (members : List Member) (place : Place) :
    (erasedMembers members).flatMap (·.render place) = members.flatMap (·.render place) :=
  flatMap_erasedMembers (fun m => m.render_erased place)
    (fun _ h => Member.render_of_not_kept h place) members

theorem filter_erasedMembers {p : Member → Bool} (h : ∀ member, p (Member.erased member) = p member)
    (members : List Member) :
    (erasedMembers members).filter p = erasedMembers (members.filter p) := by
  rw [erasedMembers_eq_map, erasedMembers_eq_map, List.filter_map, List.filter_filter,
    List.filter_filter]
  congr 1
  apply List.filter_congr
  intro member _
  rw [Function.comp_apply, h, Bool.and_comm]

theorem shownConstructor_erased (member : Member) :
    shownConstructor member.erased = (shownConstructor member).map erasedParams := by
  cases member with
  | construct access static params =>
    rw [Member.erased, erasedParams_eq_map]
    cases access <;> cases params <;> simp [shownConstructor, erasedParams_eq_map]
  | property | method | index | call | other | unknown => rfl

theorem shownConstructor_of_not_kept {member : Member} (h : member.isKept = false) :
    shownConstructor member = none := by
  unfold shownConstructor
  split
  · cases h
  · rfl

namespace ClassDecl

theorem instanceMembers_erased (decl : ClassDecl) :
    decl.erased.instanceMembers = erasedMembers decl.instanceMembers :=
  filter_erasedMembers (fun m => by rw [m.isStatic_erased]) decl.members

theorem staticMembers_erased (decl : ClassDecl) :
    decl.erased.staticMembers = erasedMembers decl.staticMembers :=
  filter_erasedMembers (fun m => m.isStatic_erased) decl.members

theorem constructors_erased (decl : ClassDecl) :
    decl.erased.constructors = decl.constructors.map erasedParams := by
  unfold constructors
  rw [instanceMembers_erased]
  induction decl.instanceMembers with
  | nil => rfl
  | cons member rest ih =>
    rw [erasedMembers, List.filterMap_cons]
    cases hk : member.isKept with
    | true =>
      rw [if_pos rfl, List.filterMap_cons, shownConstructor_erased]
      cases shownConstructor member <;> simp [ih]
    | false => rw [if_neg (by simp), ih, shownConstructor_of_not_kept hk]

theorem bodyLines_erased (decl : ClassDecl) : decl.erased.bodyLines = decl.bodyLines := by
  have hplace : decl.erased.place = decl.place := rfl
  unfold bodyLines
  rw [hplace, constructors_erased, instanceMembers_erased, flatMap_render_erasedMembers,
    List.map_map]
  simp only [Function.comp_def, paramList_erased]

theorem staticLines_erased (decl : ClassDecl) : decl.erased.staticLines = decl.staticLines := by
  unfold staticLines
  rw [staticMembers_erased, flatMap_render_erasedMembers]

theorem header_erased (decl : ClassDecl) : decl.erased.header = decl.header := by
  have hparents : decl.erased.parents = decl.parents := by
    have hbases : decl.erased.bases ++ decl.erased.interfaces =
        erasedTypes (decl.bases ++ decl.interfaces) := by
      simp only [erased, erasedTypes_eq_map, List.map_append]
    unfold parents
    rw [hbases, mappedTypes_erased]
  have hparams : typeParamList decl.erased.typeParams = typeParamList decl.typeParams :=
    typeParamList_erased decl.typeParams
  unfold header
  rw [hparents, hparams, constructors_erased, List.isEmpty_map]
  rfl

theorem pieces_erased (decl : ClassDecl) (path : List String) :
    decl.erased.pieces path = decl.pieces path := by
  unfold pieces
  rw [header_erased, bodyLines_erased, staticLines_erased]
  rfl

end ClassDecl

theorem traitLines_erasedMembers (members : List Member) (owner : String) :
    Facade.traitLines (erasedMembers members) owner = Facade.traitLines members owner := by
  have hrender : ((erasedMembers members).map (·.traitLines owner)).filter (!·.isEmpty) =
      (members.map (·.traitLines owner)).filter (!·.isEmpty) := by
    induction members with
    | nil => rfl
    | cons member rest ih =>
      rw [erasedMembers, List.map_cons, List.filter_cons]
      cases hk : member.isKept with
      | true => rw [if_pos rfl, List.map_cons, List.filter_cons, ih, member.traitLines_erased]
      | false =>
        rw [if_neg (by simp), ih, Member.traitLines_of_not_kept hk]
        rfl
  unfold Facade.traitLines traitRenderings
  rw [hrender]

mutual

theorem nestedTraits_erased (seen : List String) (members : List Member) :
    nestedTraits seen (erasedMembers members) = nestedTraits seen members := by
  match members with
  | [] => rfl
  | member :: rest =>
    rw [erasedMembers, nestedTraits]
    cases hk : member.isKept with
    | true =>
      rw [if_pos rfl, nestedTraits, member.nestedTrait?_erased]
      cases member.nestedTrait? with
      | none => exact nestedTraits_erased seen rest
      | some trait =>
        simp only [nestedTraits_erased seen rest, nestedTraits_erased (trait :: seen) rest,
          member.literalTraits_erased trait]
    | false =>
      rw [if_neg (by simp), Member.nestedTrait?_of_not_kept hk]
      exact nestedTraits_erased seen rest

theorem Member.literalTraits_erased (trait : String) (member : Member) :
    member.erased.literalTraits trait = member.literalTraits trait := by
  match member with
  | .property _ _ _ type _ _ _ => exact type.literalTraits_erased trait
  | .method .. | .index .. | .call .. | .construct .. | .other .. | .unknown .. => rfl

theorem TypeExpr.literalTraits_erased (trait : String) (type : TypeExpr) :
    type.erased.literalTraits trait = type.literalTraits trait := by
  match type with
  | .object members =>
    rw [TypeExpr.erased, TypeExpr.literalTraits, TypeExpr.literalTraits,
      nestedTraits_erased [] members, traitLines_erasedMembers]
  | .absent | .unknown | .keyword _ | .literal .. | .ref .. | .array _ | .union _ | .inter _
  | .func .. | .paren _ | .keyOf _ | .unsupported _ => rfl

end

theorem InterfaceDecl.pieces_erased (decl : InterfaceDecl) : decl.erased.pieces = decl.pieces := by
  have hparents : decl.erased.parents = decl.parents := by
    unfold parents
    simp only [erased, mappedTypes_erased]
  unfold pieces
  rw [hparents]
  simp only [erased, nestedTraits_erased, traitLines_erasedMembers, typeParamList_erased]

theorem VariableDecl.pieces_erased (decl : VariableDecl) (path : List String) :
    decl.erased.pieces path = decl.pieces path := by
  obtain ⟨name, type, isConst⟩ := decl
  cases type with
  | object members =>
    simp only [VariableDecl.erased, TypeExpr.erased, VariableDecl.pieces,
      flatMap_render_erasedMembers]
  | absent | unknown | keyword | literal | ref | array | union | inter | func | paren | keyOf
  | unsupported => rfl

/-! ## Scopes gather as before -/

/-- A statement that neither writes nor gathers anything. -/
def Statement.isSilent (statement : Statement) : Bool :=
  statement.isFormless || statement.isExternal

theorem Statement.pieces_of_silent {statement : Statement} (h : statement.isSilent = true)
    (path : List String) : statement.pieces path = [] := by
  cases statement with
  | module name quoted body =>
    rw [Statement.pieces, if_pos (by simpa [isSilent, isFormless, isExternal] using h)]
  | moduleHead name quoted =>
    rw [Statement.pieces, if_pos (by simpa [isSilent, isFormless, isExternal] using h)]
  | importDecl | other | unknown => rfl
  | classDecl | interfaceDecl | enumDecl | aliasDecl | variableDecls | function
  | exportAssignment => cases h

namespace Exports

theorem collect_of_silent {statement : Statement} (h : statement.isSilent = true)
    (exports : Exports) : exports.collect statement = exports := by
  cases statement with
  | module | moduleHead | importDecl | other | unknown => rfl
  | classDecl | interfaceDecl | enumDecl | aliasDecl | variableDecls | function
  | exportAssignment => cases h

/-- What a scope has gathered, erased. -/
def erased (exports : Exports) : Exports where
  aliases := exports.aliases.map AliasDecl.erased
  functions := exports.functions.map FunctionDecl.erased
  plainVariables := exports.plainVariables.map VariableDecl.erased
  assignments := exports.assignments
  interfaces := exports.interfaces.map InterfaceDecl.erased
  classes := exports.classes.map ClassDecl.erased

theorem collect_erased (exports : Exports) (statement : Statement) :
    exports.erased.collect statement.erased = (exports.collect statement).erased := by
  cases statement with
  | variableDecls decls =>
    have hplain : (decls.map VariableDecl.erased).filter (!·.type.isObject) =
        (decls.filter (!·.type.isObject)).map VariableDecl.erased := by
      rw [List.filter_map]
      simp [Function.comp_def, VariableDecl.erased]
    simp only [Statement.erased, collect, erased, hplain, List.map_append]
  | module | moduleHead | classDecl | interfaceDecl | enumDecl | aliasDecl | function
  | exportAssignment | importDecl | other | unknown =>
    simp [Statement.erased, collect, erased]

/-- Gathering the erased statements that are kept, when only silent ones are not. -/
theorem foldl_collect_erased {keep : Statement → Bool}
    (hkeep : ∀ statement, keep statement = false → statement.isSilent = true)
    (exports : Exports) (statements : List Statement) :
    ((statements.filter keep).map Statement.erased).foldl collect exports.erased =
      (statements.foldl collect exports).erased := by
  induction statements generalizing exports with
  | nil => rfl
  | cons statement rest ih =>
    rw [List.filter_cons, List.foldl_cons]
    cases hk : keep statement with
    | true => rw [if_pos rfl, List.map_cons, List.foldl_cons, collect_erased, ih]
    | false => rw [if_neg (by simp), ih, collect_of_silent (hkeep statement hk)]

theorem resolve?_erased (exports : Exports) (assignment : ExportAssignment) :
    exports.erased.resolve? assignment = (exports.resolve? assignment).map FunctionDecl.erased := by
  unfold resolve?
  split
  · rw [erased, List.find?_map]
    rfl
  · rfl

theorem lines_erased (exports : Exports) (default : String) :
    exports.erased.lines default = exports.lines default := by
  have halias : ∀ decl : AliasDecl, decl.erased.line = decl.line := by
    intro decl
    simp [AliasDecl.line, AliasDecl.erased, TypeExpr.mapped_erased]
  have hvariable : ∀ decl : VariableDecl, decl.erased.line = decl.line := by
    intro decl
    have htype : decl.erased.type.mapped = decl.type.mapped := decl.type.mapped_erased
    rw [VariableDecl.line, VariableDecl.line, htype]
    rfl
  have hfunction : ∀ decl : FunctionDecl, decl.erased.line default = decl.line default := by
    intro decl
    simp [FunctionDecl.line, FunctionDecl.erased]
  have hforward : (exports.assignments.filterMap exports.erased.resolve?).map (·.line default) =
      (exports.assignments.filterMap exports.resolve?).map (·.line default) := by
    rw [funext exports.resolve?_erased, ← List.map_filterMap, List.map_map]
    simp only [Function.comp_def, hfunction]
  unfold lines
  rw [show exports.erased.assignments = exports.assignments from rfl, hforward]
  simp only [erased, List.map_map, Function.comp_def, halias, hvariable, hfunction]

theorem container_erased (exports : Exports) (name tag default : String) :
    exports.erased.container name tag default = exports.container name tag default := by
  have hempty : exports.erased.isEmpty = exports.isEmpty := by
    simp [isEmpty, erased]
  unfold container
  rw [hempty, lines_erased]

end Exports

/-! ## Statements and files are written as before -/

theorem erasedBody_eq_map (statements : List Statement) :
    erasedBody statements = (statements.filter (!·.isSilent)).map Statement.erased := by
  induction statements with
  | nil => rfl
  | cons statement rest ih =>
    rw [erasedBody, ih, List.filter_cons, Statement.isSilent]
    cases statement.isFormless || statement.isExternal <;> rfl

theorem namespaceContainer_erased (name : String) (path : List String) (body : List Statement) :
    namespaceContainer name path (erasedBody body) = namespaceContainer name path body := by
  unfold namespaceContainer Exports.ofStatements
  rw [erasedBody_eq_map, show Exports.empty = Exports.empty.erased from rfl,
    Exports.foldl_collect_erased (by simp), Exports.container_erased]
  rfl

mutual

theorem Statement.pieces_erased (path : List String) (statement : Statement) :
    statement.erased.pieces path = statement.pieces path := by
  match statement with
  | .module name quoted body =>
    rw [Statement.erased, Statement.pieces, Statement.pieces]
    cases quoted with
    | true => rfl
    | false =>
      simp only [Bool.false_eq_true, if_false, namespaceBlock, namespaceContainer_erased,
        bodyPieces_erasedBody _ body]
  | .classDecl decl => exact decl.pieces_erased path
  | .interfaceDecl decl => exact decl.pieces_erased
  | .variableDecls decls =>
    rw [Statement.erased, Statement.pieces, Statement.pieces, List.flatMap_map]
    simp only [VariableDecl.pieces_erased]
  | .moduleHead .. | .enumDecl _ | .aliasDecl _ | .function _ | .exportAssignment _
  | .importDecl _ | .other _ | .unknown => rfl

theorem bodyPieces_erasedBody (path : List String) (statements : List Statement) :
    bodyPieces path (erasedBody statements) = bodyPieces path statements := by
  match statements with
  | [] => rfl
  | statement :: rest =>
    rw [erasedBody, bodyPieces]
    cases hs : statement.isFormless || statement.isExternal with
    | true =>
      rw [if_pos rfl, statement.pieces_of_silent hs, bodyPieces_erasedBody path rest,
        List.nil_append]
    | false =>
      rw [if_neg (by simp), bodyPieces, statement.pieces_erased path,
        bodyPieces_erasedBody path rest]

end

namespace DeclarationFile

theorem silent_of_not_kept {statement : Statement}
    (h : (!statement.isFormless || statement.isModuleLike) = false) :
    statement.isSilent = true := by
  simp only [Bool.or_eq_false_iff, Bool.not_eq_false'] at h
  rw [Statement.isSilent, h.1, Bool.true_or]

theorem bodyPieces_erased (file : DeclarationFile) :
    bodyPieces [] file.erased.statements = bodyPieces [] file.statements := by
  unfold erased
  induction file.statements with
  | nil => rfl
  | cons statement rest ih =>
    rw [List.filter_cons, bodyPieces]
    cases hk : !statement.isFormless || statement.isModuleLike with
    | true => rw [if_pos rfl, List.map_cons, bodyPieces, ih, statement.pieces_erased]
    | false =>
      rw [if_neg (by simp), ih, statement.pieces_of_silent (silent_of_not_kept hk),
        List.nil_append]

theorem any_isModuleLike_erased (file : DeclarationFile) :
    file.erased.statements.any (·.isModuleLike) = file.statements.any (·.isModuleLike) := by
  have hlike : ∀ statement : Statement, statement.erased.isModuleLike = statement.isModuleLike := by
    intro statement
    cases statement <;> rfl
  simp only [erased, List.any_map, Function.comp_def, hlike, List.any_filter]
  congr 1
  funext statement
  cases statement.isModuleLike <;> simp

theorem pieces_erased (file : DeclarationFile) (package : String) :
    file.erased.pieces package = file.pieces package := by
  have hexports : Exports.ofStatements file.erased.statements =
      (Exports.ofStatements file.statements).erased :=
    Exports.foldl_collect_erased (fun _ => silent_of_not_kept) Exports.empty file.statements
  unfold pieces
  rw [bodyPieces_erased, hexports, Exports.container_erased, any_isModuleLike_erased]

end DeclarationFile

/-! ## The laws -/

/-- What is hidden or unsupported never reaches the facade. Every tree converts, and converts to
the text of the tree without those parts; so does every other tree that differs from it in those
parts only. -/
theorem hidden_input_never_reaches_the_facade (file : DeclarationFile) (package : String)
    (h : package ≠ "") :
    ∃ text, convertTree file package = .ok text ∧ convertTree file.erased package = .ok text ∧
      ∀ other : DeclarationFile, other.erased = file.erased →
        convertTree other package = .ok text := by
  have hsame : ∀ tree : DeclarationFile,
      convertTree tree package = .ok (tree.erased.facade package) := by
    intro tree
    rw [convertTree_eq tree h, DeclarationFile.facade, DeclarationFile.facade, tree.pieces_erased]
  refine ⟨file.erased.facade package, hsame file, convertTree_eq _ h, ?_⟩
  intro other hother
  rw [hsame other, hother]

/-- Two trees with the same class: one with a private field, an import, and an external module in
a namespace, the other without them. -/
theorem a_private_field_never_reaches_the_facade :
    "demo" ≠ "" ∧ ∃ text,
      convertTree ⟨[.importDecl "import x;",
        .classDecl ⟨"Point", [], [], [],
          [.property .owner false "secret" (.keyword "string") false false false,
            .construct .everyone false
              [⟨"at", .object [.other .everyone false "computed_property"], false, false⟩]], false⟩,
        .module "geo" false [.module "ext" true [.unknown]]]⟩ "demo" = .ok text ∧
      convertTree ⟨[
        .classDecl ⟨"Point", [], [], [],
          [.construct .everyone false [⟨"at", .object [], false, false⟩]], false⟩,
        .module "geo" false []]⟩ "demo" = .ok text := by
  refine ⟨by decide, ?_⟩
  obtain ⟨text, hfile, _, hother⟩ := hidden_input_never_reaches_the_facade _ "demo" (by decide)
  exact ⟨text, hfile, hother _ rfl⟩

end Facade
