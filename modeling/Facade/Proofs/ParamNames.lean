-- The names of parameters. A name is made up for a parameter that takes its argument apart, and for
-- the value beside a key, without a look at the names that are declared. That is the only way in
-- which parameters with different names come to have one name in a facade.
import Facade.Proofs.QuotedNames
import Facade.Proofs.ShownDefinitions
import Facade.Proofs.StatementReading
import Mathlib.Data.List.Nodup

namespace Facade

open Grammar

/-! ## Names that are made up -/

namespace Grammar.ParamName

/-- The name that is declared. -/
def declared? : ParamName → Option String
  | .named name => some name
  | .rest name => some name
  | _ => none

def isReceiver : ParamName → Bool
  | .receiver => true
  | _ => false

def isUnnamed : ParamName → Bool
  | .unnamed => true
  | _ => false

def isUnnamedRest : ParamName → Bool
  | .unnamedRest => true
  | _ => false

end Grammar.ParamName

/-- The names that parameters declare. -/
def declaredNames (params : List WrittenParam) : List String :=
  params.filterMap (·.name.declared?)

/-- The places of parameters that take their arguments apart, from `count` on. The receiver takes no
place. -/
def unnamedPlaces (count : Nat) (params : List WrittenParam) : List Nat :=
  (((params.filter (!·.name.isReceiver)).zipIdx count).filter (·.1.name.isUnnamed)).map Prod.snd

/-- The name of a parameter that takes its argument apart, at a place. -/
def numberedName (place : Nat) : String :=
  "arg" ++ toString place

/-- The number of parameters that are the rest of the arguments and have no name. -/
def unnamedRests (params : List WrittenParam) : Nat :=
  params.countP (·.name.isUnnamedRest)

/-- The names that are made up for parameters. -/
def inventedNames (params : List WrittenParam) : List String :=
  (unnamedPlaces 0 params).map numberedName ++ List.replicate (unnamedRests params) "args"

theorem numberedName_injective : Function.Injective numberedName := by
  intro first second h
  have hdigits : Nat.toDigits 10 first = Nat.toDigits 10 second := by
    rw [← Nat.toList_repr, ← Nat.toList_repr]
    exact congrArg String.toList ((String.append_right_inj "arg").mp h)
  calc
    first = Nat.ofDigitChars 10 (Nat.toDigits 10 first) 0 := Nat.ofDigitChars_ten_toDigits.symm
    _ = Nat.ofDigitChars 10 (Nat.toDigits 10 second) 0 := by rw [hdigits]
    _ = second := Nat.ofDigitChars_ten_toDigits

/-- A number has no letters. -/
theorem numberedName_ne_args (place : Nat) : numberedName place ≠ "args" := by
  intro h
  have hargs : "args" = "arg" ++ "s" := rfl
  have hdigits : Nat.toDigits 10 place = ['s'] := by
    rw [← Nat.toList_repr]
    exact congrArg String.toList ((String.append_right_inj "arg").mp (h.trans hargs))
  have hletter : 's' ∈ Nat.toDigits 10 place := by simp [hdigits]
  exact absurd (Nat.isDigit_of_mem_toDigits (by decide) (by decide) hletter) (by decide)

theorem unnamedPlaces_nodup (count : Nat) (params : List WrittenParam) :
    (unnamedPlaces count params).Nodup := by
  have hplaces : (unnamedPlaces count params).Sublist
      (((params.filter (!·.name.isReceiver)).zipIdx count).map Prod.snd) :=
    List.filter_sublist.map Prod.snd
  rw [List.zipIdx_map_snd] at hplaces
  exact hplaces.nodup (List.nodup_range' ..)

/-- Two names that are made up are the same only when both stand for the rest of the arguments. -/
theorem inventedNames_nodup {params : List WrittenParam} :
    (inventedNames params).Nodup ↔ unnamedRests params ≤ 1 := by
  have hnumbered : ((unnamedPlaces 0 params).map numberedName).Nodup :=
    (unnamedPlaces_nodup 0 params).map numberedName_injective
  have hapart : ((unnamedPlaces 0 params).map numberedName).Disjoint
      (List.replicate (unnamedRests params) "args") := by
    intro name hname hrest
    obtain ⟨place, -, rfl⟩ := List.mem_map.mp hname
    exact numberedName_ne_args place (List.eq_of_mem_replicate hrest)
  rw [inventedNames, List.nodup_append', List.nodup_replicate]
  exact ⟨fun h => h.2.1, fun h => ⟨hnumbered, h, hapart⟩⟩

/-! ## How parameters are named -/

/-- The names of parameters are those they declare and those that are made up, in some order. -/
theorem names_numberParams (count : Nat) (params : List WrittenParam) :
    ((numberParams count params).map (·.name)).Perm
      (declaredNames params ++ ((unnamedPlaces count params).map numberedName
        ++ List.replicate (unnamedRests params) "args")) := by
  fun_induction numberParams count params with
  | case1 => exact .nil
  | case2 count type optional more ih => exact ih
  | case3 count name type optional more ih => exact ih.cons name
  | case4 count name type optional more ih => exact ih.cons name
  | case5 count type optional more ih => exact (ih.cons _).trans List.perm_middle.symm
  | case6 count type optional more ih =>
    rw [← List.append_assoc] at ih ⊢
    have hrests : unnamedRests (⟨.unnamedRest, type, optional⟩ :: more) = unnamedRests more + 1 :=
      List.countP_cons_of_pos rfl
    rw [hrests, List.replicate_succ]
    exact (ih.cons "args").trans List.perm_middle.symm

/-- The parameters of a list have different names just when no name is declared twice, no name that
is made up is declared beside it, and at most one rest of the arguments has no name. -/
theorem names_nodup_iff (params : List WrittenParam) :
    ((numberParams 0 params).map (Name.written ·.name)).Nodup ↔
      (declaredNames params).Nodup ∧ (declaredNames params).Disjoint (inventedNames params) ∧
        unnamedRests params ≤ 1 := by
  have hwritten : (numberParams 0 params).map (Name.written ·.name) =
      ((numberParams 0 params).map (·.name)).map Name.written := by
    rw [List.map_map]
    rfl
  rw [hwritten, List.nodup_map_iff Name.written_injective, (names_numberParams 0 params).nodup_iff,
    List.nodup_append', ← inventedNames, inventedNames_nodup]
  tauto

/-! ## Where the names of a definition come from -/

/-- The parameters of a definition are at most one, or the key and the value of an index, or those
of a parameter list of the text. -/
def Definition.NamedFrom (text : List Char) (definition : Definition) : Prop :=
  definition.names.length ≤ 1 ∨
    (∃ key, definition.names = [Name.written key, "v"]) ∨
    ∃ params, ReadParams text params ∧ definition.names = params.map (Name.written ·.name)

/-- So it is for all of the definitions. -/
def AllNamed (text : List Char) (definitions : List Definition) : Prop :=
  ∀ definition ∈ definitions, definition.NamedFrom text

variable {text : List Char}

theorem allNamed_nil : AllNamed text [] := List.forall_mem_nil _

theorem allNamed_singleton {definition : Definition} (h : definition.NamedFrom text) :
    AllNamed text [definition] := List.forall_mem_singleton.mpr h

theorem AllNamed.append {first second : List Definition} (hfirst : AllNamed text first)
    (hsecond : AllNamed text second) : AllNamed text (first ++ second) :=
  List.forall_mem_append.mpr ⟨hfirst, hsecond⟩

theorem AllNamed.flatMap {α : Type} {items : List α} {definitions : α → List Definition}
    (h : ∀ item ∈ items, AllNamed text (definitions item)) :
    AllNamed text (items.flatMap definitions) := by
  intro definition hmem
  obtain ⟨item, hitem, hmem⟩ := List.mem_flatMap.mp hmem
  exact h item hitem definition hmem

theorem namedFrom_params {overrides : Bool} {name tail : String} {params : List Param}
    (h : ReadParams text params) :
    Definition.NamedFrom text ⟨overrides, name, some (params.map Param.shown), tail⟩ := by
  refine .inr (.inr ⟨params, h, ?_⟩)
  simp only [Definition.names, Option.getD_some, List.map_map]
  rfl

theorem Member.definitions_named {member : Member} (h : AllRead text member.paramLists)
    (place : Place) : AllNamed text (member.definitions place) := by
  cases member with
  | property access static name type readonly optional abstract =>
    rw [Member.definitions]
    split
    · exact allNamed_singleton (.inl (Nat.zero_le 1))
    · exact allNamed_nil
  | method access static name typeParams params ret role optional abstract =>
    rw [Member.paramLists, allRead_cons] at h
    cases role with
    | getter => exact allNamed_singleton (.inl (Nat.zero_le 1))
    | setter => exact allNamed_singleton (.inl (Nat.le_refl 1))
    | plain | other =>
      rw [Member.definitions]
      · exact allNamed_singleton (namedFrom_params h.1)
      all_goals simp
  | index access static keyName keyType valueType readonly =>
    have hread : AllNamed text [⟨false, "apply", some [⟨Name.written keyName, keyType.mapped⟩],
        ": " ++ valueType.mapped ++ fromPlatform⟩] :=
      allNamed_singleton (.inl (Nat.le_refl 1))
    rw [Member.definitions, indexDefinitions]
    split
    · exact hread
    · exact hread.append (allNamed_singleton (.inr (.inl ⟨keyName, rfl⟩)))
  | call access static typeParams params ret =>
    rw [Member.paramLists, allRead_cons] at h
    exact allNamed_singleton (namedFrom_params h.1)
  | construct | other | unknown => exact allNamed_nil

theorem Member.shownDefinitions_named {member : Member} (h : AllRead text member.paramLists)
    (place : Place) : AllNamed text (member.shownDefinitions place) := by
  unfold shownDefinitions
  split
  · exact Member.definitions_named h place
  · exact allNamed_nil

theorem Member.traitDefinitions_named {member : Member} (h : AllRead text member.paramLists)
    (owner : String) : AllNamed text (member.traitDefinitions owner) := by
  unfold traitDefinitions
  split
  · split
    · exact allNamed_singleton (.inl (Nat.zero_le 1))
    · exact allNamed_nil
  · exact Member.shownDefinitions_named h .trait

theorem allRead_members {members : List Member} :
    AllRead text (paramListsOfMembers members) ↔
      ∀ member ∈ members, AllRead text member.paramLists := by
  rw [paramListsOfMembers_eq, allRead_flatMap]

theorem traitDefinitions_named {members : List Member}
    (h : AllRead text (paramListsOfMembers members)) (owner : String) :
    AllNamed text (traitDefinitions members owner) := by
  refine .flatMap fun member hmem => ?_
  have hmember := (List.mem_filter.mp (Text.mem_of_mem_distinctBy hmem)).1
  exact Member.traitDefinitions_named (allRead_members.mp h member hmember) owner

mutual

theorem nestedDefinitions_named (seen : List String) {members : List Member}
    (h : AllRead text (paramListsOfMembers members)) :
    AllNamed text (nestedDefinitions seen members) := by
  match members with
  | [] => exact allNamed_nil
  | member :: rest =>
    rw [paramListsOfMembers, allRead_append] at h
    rw [nestedDefinitions]
    split
    · exact nestedDefinitions_named seen h.2
    · split
      · exact nestedDefinitions_named seen h.2
      · exact (Member.literalDefinitions_named _ h.1).append (nestedDefinitions_named _ h.2)

theorem Member.literalDefinitions_named (trait : String) {member : Member}
    (h : AllRead text member.paramLists) : AllNamed text (member.literalDefinitions trait) := by
  match member with
  | .property _ _ _ type _ _ _ =>
    rw [Member.paramLists] at h
    exact TypeExpr.literalDefinitions_named trait h
  | .method .. | .index .. | .call .. | .construct .. | .other .. | .unknown .. =>
    exact allNamed_nil

theorem TypeExpr.literalDefinitions_named (trait : String) {type : TypeExpr}
    (h : AllRead text type.paramLists) : AllNamed text (type.literalDefinitions trait) := by
  match type with
  | .object members =>
    rw [TypeExpr.paramLists] at h
    exact (traitDefinitions_named h trait).append (nestedDefinitions_named [] h)
  | .absent | .unknown | .keyword _ | .literal _ _ | .ref _ _ | .array _ | .union _ | .inter _
  | .func _ _ | .paren _ | .keyOf _ | .unsupported _ => exact allNamed_nil

end

theorem shownMembers_named {members : List Member}
    (h : AllRead text (paramListsOfMembers members)) (place : Place) :
    AllNamed text (members.flatMap (·.shownDefinitions place)) :=
  .flatMap fun member hmem => Member.shownDefinitions_named (allRead_members.mp h member hmem) place

theorem ClassDecl.definitions_named {decl : ClassDecl} (h : AllRead text decl.paramLists) :
    AllNamed text decl.definitions := by
  rw [ClassDecl.paramLists, allRead_append, allRead_members] at h
  have hmembers := h.2
  refine AllNamed.append (.append ?_ (.flatMap ?_)) (.flatMap ?_)
  · intro definition hdefinition
    obtain ⟨params, hparams, rfl⟩ := List.mem_map.mp hdefinition
    obtain ⟨member, hmember, hshown⟩ := List.mem_filterMap.mp hparams
    have hread := hmembers member (List.mem_filter.mp hmember).1
    unfold shownConstructor at hshown
    split at hshown
    · cases hshown
      rw [Member.paramLists, allRead_cons] at hread
      exact namedFrom_params hread.1
    · cases hshown
  all_goals
    intro member hmember
    exact Member.shownDefinitions_named (hmembers member (List.mem_filter.mp hmember).1) _

theorem InterfaceDecl.definitions_named {decl : InterfaceDecl}
    (h : AllRead text decl.paramLists) : AllNamed text decl.definitions := by
  rw [InterfaceDecl.paramLists, allRead_append] at h
  exact (traitDefinitions_named h.2 _).append (nestedDefinitions_named [] h.2)

theorem VariableDecl.definitions_named {decl : VariableDecl}
    (h : AllRead text decl.type.paramLists) : AllNamed text decl.definitions := by
  unfold definitions
  split
  · rename_i members htype
    rw [htype, TypeExpr.paramLists] at h
    exact shownMembers_named h .object
  · exact allNamed_nil

theorem gatheredDefinitions_named {statements : List Statement}
    (h : AllRead text (paramListsOfStatements statements)) (default : String) :
    AllNamed text (gatheredDefinitions statements default) := by
  rw [paramListsOfStatements_eq, allRead_flatMap] at h
  intro definition hdefinition
  obtain ⟨decl, hdecl, rfl⟩ := List.mem_map.mp hdefinition
  obtain ⟨statement, hstatement, hfunction⟩ := List.mem_filterMap.mp hdecl
  cases statement with
  | function other =>
    cases hfunction
    have hread := h _ hstatement
    rw [Statement.paramLists, FunctionDecl.paramLists, allRead_cons] at hread
    exact namedFrom_params hread.1
  | _ => cases hfunction

mutual

theorem Statement.definitions_named {statement : Statement}
    (h : AllRead text statement.paramLists) : AllNamed text statement.definitions := by
  match statement with
  | .module name quoted body =>
    rw [Statement.paramLists] at h
    rw [Statement.definitions]
    split
    · exact allNamed_nil
    · exact (bodyDefinitions_named h).append (gatheredDefinitions_named h "js.Dynamic")
  | .classDecl decl => exact ClassDecl.definitions_named h
  | .interfaceDecl decl => exact InterfaceDecl.definitions_named h
  | .enumDecl decl => exact allNamed_singleton (.inl (Nat.le_refl 1))
  | .variableDecls decls =>
    rw [Statement.paramLists, allRead_flatMap] at h
    exact .flatMap fun decl hdecl => VariableDecl.definitions_named (h decl hdecl)
  | .moduleHead .. | .aliasDecl _ | .function _ | .exportAssignment _ | .importDecl _ | .other _
  | .unknown => exact allNamed_nil

theorem bodyDefinitions_named {statements : List Statement}
    (h : AllRead text (paramListsOfStatements statements)) :
    AllNamed text (bodyDefinitions statements) := by
  match statements with
  | [] => exact allNamed_nil
  | statement :: rest =>
    rw [paramListsOfStatements, allRead_append] at h
    exact (Statement.definitions_named h.1).append (bodyDefinitions_named h.2)

end

/-- What a text is read as has its parameters from the text. -/
theorem DeclarationFile.definitions_named {text : String} {file : DeclarationFile}
    (h : parse text = .ok file) : AllNamed text.toList file.definitions := by
  have hread := (known_statements.mp (known_of_parse h)).2
  exact (bodyDefinitions_named hread).append (gatheredDefinitions_named hread "Unit")

/-! ## The law -/

theorem exists_file_of_convert {text package facade : String}
    (h : convert text package = .ok facade) :
    ∃ file, parse text = .ok file ∧ facade = file.facade package := by
  unfold convert parseFor at h
  split at h
  · cases h
  · cases hread : parse text with
    | error failure =>
      rw [hread] at h
      cases h
    | ok file =>
      rw [hread] at h
      cases h
      exact ⟨file, rfl, rfl⟩

/-- The lines of a facade show the definitions of the tree that its text is read as. A definition
takes one parameter at most; or a key and `v`, which clash when the key is called `v`; or what a
parameter list of the text says. Two parameters of such a list that declares no name twice have one
name just when a name that is made up for one of them is declared for another, or is made up for two
rests of the arguments. -/
theorem names_clash_only_where_one_is_made_up (text package facade : String)
    (h : convert text package = .ok facade) :
    ∃ file, parse text = .ok file ∧
      facade = "\n".intercalate (file.lines package) ++ "\n" ∧
      ShownIn (file.lines package) file.definitions ∧
      ∀ definition ∈ file.definitions,
        definition.names.length ≤ 1 ∨
        (∃ key, definition.names = [Name.written key, "v"] ∧
          (definition.names.Nodup ↔ key ≠ "v")) ∨
        ∃ params, WrittenIn text.toList params ∧
          definition.names = (numberParams 0 params).map (Name.written ·.name) ∧
          (definition.names.Nodup ↔
            (declaredNames params).Nodup ∧
              (declaredNames params).Disjoint (inventedNames params) ∧
              unnamedRests params ≤ 1) := by
  obtain ⟨file, hread, rfl⟩ := exists_file_of_convert h
  refine ⟨file, hread, file.facade_eq package, file.shownIn_lines package, ?_⟩
  intro definition hdefinition
  rcases DeclarationFile.definitions_named hread definition hdefinition with
    hfew | ⟨key, hnames⟩ | ⟨_, ⟨params, hwritten, rfl⟩, hnames⟩
  · exact .inl hfew
  · have hvalue : Name.written "v" = "v" := by decide
    have hkey : Name.written key = "v" ↔ key = "v" := by
      rw [← Name.written_injective.eq_iff (a := key), hvalue]
    refine .inr (.inl ⟨key, hnames, ?_⟩)
    simp [hnames, hkey]
  · refine .inr (.inr ⟨params, hwritten, hnames, ?_⟩)
    rw [hnames]
    exact names_nodup_iff params

/-- The first parameter takes its argument apart and is called `arg0`, and so is the second. -/
theorem the_first_parameter_is_called_like_the_second :
    convert "declare function f(\x7ba\x7d: A, arg0: string): void;" "lib" =
      .ok ("\nimport scala.scalajs.js\nimport js.annotation._\nimport js.|\n\npackage lib \x7b\n\n"
        ++ "@js.native\n@JSGlobalScope\nobject Lib extends js.Object \x7b\n"
        ++ "  def f(arg0: A, arg0: String): Unit = js.native\n\x7d\n\n\x7d\n") ∧
    ∃ definition : Definition,
      definition.line = "def f(arg0: A, arg0: String): Unit = js.native" ∧
      definition.names = ["arg0", "arg0"] ∧
      ∃ params, WrittenIn "declare function f(\x7ba\x7d: A, arg0: string): void;".toList params ∧
        definition.names = (numberParams 0 params).map (Name.written ·.name) ∧
        ¬ ((declaredNames params).Nodup ∧
          (declaredNames params).Disjoint (inventedNames params) ∧ unnamedRests params ≤ 1) := by
  have hread : parse "declare function f(\x7ba\x7d: A, arg0: string): void;" =
      .ok ⟨[.function ⟨"f", [], [⟨"arg0", .ref "A" [], false, false⟩,
        ⟨"arg0", .keyword "string", false, false⟩], .keyword "void"⟩]⟩ := by
    set_option maxRecDepth 4000 in rfl
  have hconvert : convert "declare function f(\x7ba\x7d: A, arg0: string): void;" "lib" =
      .ok ("\nimport scala.scalajs.js\nimport js.annotation._\nimport js.|\n\npackage lib \x7b\n\n"
        ++ "@js.native\n@JSGlobalScope\nobject Lib extends js.Object \x7b\n"
        ++ "  def f(arg0: A, arg0: String): Unit = js.native\n\x7d\n\n\x7d\n") := by
    rw [convert, parseFor, hread, if_neg (by decide)]
    exact congrArg Except.ok (by decide +kernel)
  obtain ⟨file, hfile, -, -, hnames⟩ := names_clash_only_where_one_is_made_up _ _ _ hconvert
  cases hread.symm.trans hfile
  have hdefinition := hnames ⟨false, "f", some [⟨"arg0", "A"⟩, ⟨"arg0", "String"⟩],
    ": Unit = js.native"⟩ (by decide +kernel)
  refine ⟨hconvert, ⟨false, "f", some [⟨"arg0", "A"⟩, ⟨"arg0", "String"⟩], ": Unit = js.native"⟩,
    by decide +kernel, rfl, ?_⟩
  rcases hdefinition with hfew | ⟨key, hkey, -⟩ | ⟨params, hwritten, hparams, hnodup⟩
  · exact absurd hfew (by decide)
  · exact absurd (List.cons.inj (List.cons.inj hkey).2).1 (by decide)
  · exact ⟨params, hwritten, hparams, fun hall => absurd (hnodup.mpr hall) (by decide)⟩

end Facade
