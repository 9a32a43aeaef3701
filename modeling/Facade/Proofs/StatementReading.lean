-- Declarations, imports, exports and all other statements agree when the forms they nest do, and
-- so do whole files. So more nesting keeps every answer, and what is read keeps to the rules.
import Facade.Proofs.MemberReading

namespace Facade

open Reader Grammar

variable {text : List Char} {g g' : Productions}

/-! ## What is known of declarations -/

section Known

instance : Known Declarator := ⟨fun text found => known text found.type⟩

@[simp]
theorem known_declarator {name : Option String} {type : TypeExpr} {valued : Bool} :
    known text (⟨name, type, valued⟩ : Declarator) ↔ known text type := Iff.rfl

@[simp]
theorem known_variableDecls {isConst : Bool} {declarators : List Declarator}
    (h : known text declarators) :
    known text (Statement.variableDecls (declaredVariables isConst declarators)) := by
  have hdecl : ∀ decl ∈ declaredVariables isConst declarators,
      decl.isConst = isConst ∧ known text decl.type := by
    intro decl hdecl
    obtain ⟨declarator, hmem, hname⟩ := List.mem_filterMap.mp hdecl
    obtain ⟨name, -, rfl⟩ := Option.map_eq_some_iff.mp hname
    exact ⟨rfl, h declarator hmem⟩
  refine ⟨⟨fun first hfirst second hsecond => ?_, fun decl hmem => (hdecl decl hmem).2.1⟩, ?_⟩
  · rw [(hdecl first hfirst).1, (hdecl second hsecond).1]
  · rw [Statement.paramLists, allRead_flatMap]
    exact fun decl hmem => (hdecl decl hmem).2.2

@[simp]
theorem known_markupStatements {token : Token} : known text (markupStatements token) := by
  intro statement hstatement
  rw [List.eq_of_mem_replicate hstatement]
  simp

end Known

namespace Grammar

/-! ## Imports -/

@[simp]
theorem exportedName_agree :
    Reader.Agree text exportedName exportedName := by
  unfold exportedName
  gcongr <;> simp [*]

@[simp]
theorem exportSpecifier_agree :
    Reader.Agree text exportSpecifier exportSpecifier := by
  unfold exportSpecifier
  gcongr <;> simp [*]

@[simp]
theorem importedAs_agree :
    Reader.Agree text importedAs importedAs := by
  unfold importedAs
  gcongr <;> simp [*]

@[simp]
theorem importedName_agree :
    Reader.Agree text importedName importedName := by
  unfold importedName
  gcongr <;> simp [*]

@[simp]
theorem importSpecifier_agree :
    Reader.Agree text importSpecifier importSpecifier := by
  unfold importSpecifier
  gcongr <;> simp [*]

@[gcongr]
theorem nameClause_agree {item item' : Reader Unit} (h : Reader.Agree text item item') :
    Reader.Agree text (nameClause item) (nameClause item') := by
  unfold nameClause
  gcongr <;> simp [*]

@[simp]
theorem fromClause_agree :
    Reader.Agree text fromClause fromClause := by
  unfold fromClause
  gcongr <;> simp [*]

@[simp]
theorem wholeImport_agree :
    Reader.Agree text wholeImport wholeImport := by
  unfold wholeImport
  gcongr <;> simp [*]

@[simp]
theorem bracedImport_agree :
    Reader.Agree text bracedImport bracedImport := by
  unfold bracedImport
  gcongr <;> simp [*]

@[simp]
theorem requiredModule_agree :
    Reader.Agree text requiredModule requiredModule := by
  unfold requiredModule
  gcongr <;> simp [*]

@[simp]
theorem namedImport_agree {typesOnly : Bool} {name : String} :
    Reader.Agree text (namedImport typesOnly name) (namedImport typesOnly name) := by
  unfold namedImport
  dsimp only
  gcongr <;> simp [*]

@[simp]
theorem importNames_agree {typesOnly : Bool} :
    Reader.Agree text (importNames typesOnly) (importNames typesOnly) := by
  unfold importNames
  gcongr <;> simp [*]

@[simp]
theorem importTypes_agree :
    Reader.Agree text importTypes importTypes := by
  unfold importTypes
  gcongr <;> simp [*]

@[gcongr]
theorem importSettings_agree (h : g.Agree text g') :
    Reader.Agree text (importSettings g) (importSettings g') := by
  unfold importSettings
  gcongr <;> simp [*]

@[simp]
theorem textToEnd_agree {start : Cursor} :
    Reader.Agree text (textToEnd start) (textToEnd start) := by
  unfold textToEnd
  gcongr
  any_goals simp
  split <;> simp

@[simp]
theorem importAlias_agree :
    Reader.Agree text importAlias importAlias := by
  unfold importAlias
  gcongr <;> simp [*]

@[gcongr]
theorem importStatement_agree (h : g.Agree text g') :
    Reader.Agree text (importStatement g) (importStatement g') := by
  unfold importStatement
  dsimp only
  gcongr <;> simp [*]

/-! ## Declarations -/

@[gcongr]
theorem declarator_agree (h : g.Agree text g') :
    Reader.Agree text (declarator g) (declarator g') := by
  unfold declarator
  dsimp only
  gcongr <;> simp [*]

@[gcongr]
theorem variableStatement_agree (h : g.Agree text g') :
    Reader.Agree text (variableStatement g) (variableStatement g') := by
  unfold variableStatement
  gcongr <;> simp [*]

@[gcongr]
theorem functionStatement_agree (h : g.Agree text g') :
    Reader.Agree text (functionStatement g) (functionStatement g') := by
  unfold functionStatement
  dsimp only
  gcongr <;> simp [*]

@[gcongr]
theorem aliasStatement_agree (h : g.Agree text g') :
    Reader.Agree text (aliasStatement g) (aliasStatement g') := by
  unfold aliasStatement
  dsimp only
  gcongr <;> simp [*]

@[gcongr]
theorem enumMember_agree (h : g.Agree text g') :
    Reader.Agree text (enumMember g) (enumMember g') := by
  unfold enumMember
  gcongr
  cases name <;> simp

@[gcongr]
theorem enumStatement_agree (h : g.Agree text g') :
    Reader.Agree text (enumStatement g) (enumStatement g') := by
  unfold enumStatement
  gcongr <;> simp [*]

@[gcongr]
theorem moduleTail_agree (h : g.Agree text g') (ending : Ending) (name : String) (isQuoted : Bool) :
    Reader.Agree text (moduleTail g ending name isQuoted) (moduleTail g' ending name isQuoted) := by
  unfold moduleTail
  gcongr <;> simp [*]

@[gcongr]
theorem moduleStatement_agree (h : g.Agree text g') (ending : Ending) :
    Reader.Agree text (moduleStatement g ending) (moduleStatement g' ending) := by
  unfold moduleStatement
  dsimp only
  gcongr <;> simp [*]

@[gcongr]
theorem classStatement_agree (h : g.Agree text g') (shared : Bool) :
    Reader.Agree text (classStatement g shared) (classStatement g' shared) := by
  unfold classStatement
  dsimp only
  gcongr <;> simp [*]

@[gcongr]
theorem globalBlock_agree (h : g.Agree text g') :
    Reader.Agree text (globalBlock g) (globalBlock g') := by
  unfold globalBlock
  gcongr <;> simp [*]

@[gcongr]
theorem moduleProperty_agree (h : g.Agree text g') :
    Reader.Agree text (moduleProperty g) (moduleProperty g') := by
  unfold moduleProperty
  gcongr <;> simp [*]

@[gcongr]
theorem ownDeclaration_agree (h : g.Agree text g') (shared : Bool) :
    Reader.Agree text (ownDeclaration g shared) (ownDeclaration g' shared) := by
  unfold ownDeclaration
  dsimp only
  gcongr
  · simp
  · split
    any_goals gcongr
    all_goals simp [*]

@[gcongr]
theorem declaredForm_agree (h : g.Agree text g') :
    Reader.Agree text (declaredForm g) (declaredForm g') := by
  unfold declaredForm
  dsimp only
  gcongr <;> simp [*]

@[gcongr]
theorem declared_agree (h : g.Agree text g') :
    Reader.Agree text (declared g) (declared g') := by
  unfold declared
  gcongr <;> simp [*]

@[gcongr]
theorem declaration_agree (h : g.Agree text g') :
    Reader.Agree text (declaration g) (declaration g') := by
  unfold declaration
  gcongr <;> simp [*]

@[gcongr]
theorem declarationOr_agree (h : g.Agree text g') (goesOn : Cursor → Bool)
    {value value' : Reader Statement} (hvalue : Reader.Agree text value value') :
    Reader.Agree text (declarationOr g goesOn value) (declarationOr g' goesOn value') := by
  unfold declarationOr
  dsimp only
  gcongr <;> simp [*]

@[gcongr]
theorem decoratedClassOr_agree (h : g.Agree text g') (goesOn : Cursor → Bool)
    {value value' : Reader Statement} (hvalue : Reader.Agree text value value') :
    Reader.Agree text (decoratedClassOr g goesOn value) (decoratedClassOr g' goesOn value') := by
  unfold decoratedClassOr
  gcongr <;> simp [*]

/-! ## Exports -/

@[simp]
theorem known_exportClause : known text exportClause := known_otherStatement

@[gcongr]
theorem exportedValue_agree (h : g.Agree text g') :
    Reader.Agree text (exportedValue g) (exportedValue g') := by
  unfold exportedValue
  dsimp only
  gcongr <;> simp [*]

@[gcongr]
theorem exportedClass_agree (h : g.Agree text g') :
    Reader.Agree text (exportedClass g) (exportedClass g') := by
  unfold exportedClass
  gcongr <;> simp [*]

@[gcongr]
theorem exported_agree (h : g.Agree text g') :
    Reader.Agree text (exported g) (exported g') := by
  unfold exported
  gcongr
  simp [*]

@[gcongr]
theorem exportedNamespace_agree (h : g.Agree text g') :
    Reader.Agree text (exportedNamespace g) (exportedNamespace g') := by
  unfold exportedNamespace
  gcongr
  any_goals simp [*]
  split <;> simp [*]

@[gcongr]
theorem defaultExport_agree (h : g.Agree text g') :
    Reader.Agree text (defaultExport g) (defaultExport g') := by
  unfold defaultExport
  gcongr
  simp [*]

@[gcongr]
theorem wholeExport_agree (h : g.Agree text g') :
    Reader.Agree text (wholeExport g) (wholeExport g') := by
  unfold wholeExport
  gcongr
  any_goals simp [*]
  split <;> simp [*]

@[simp]
theorem namesExport_agree :
    Reader.Agree text namesExport namesExport := by
  unfold namesExport
  dsimp only
  gcongr <;> simp [*]

@[simp]
theorem allExport_agree :
    Reader.Agree text allExport allExport := by
  unfold allExport
  dsimp only
  gcongr <;> simp [*]

@[simp]
theorem namespaceExport_agree :
    Reader.Agree text namespaceExport namespaceExport := by
  unfold namespaceExport
  gcongr <;> simp [*]

@[gcongr]
theorem exportTail_agree (h : g.Agree text g') (decorated : Bool) :
    Reader.Agree text (exportTail g decorated) (exportTail g' decorated) := by
  unfold exportTail
  gcongr <;> simp [*]

@[gcongr]
theorem exportStatement_agree (h : g.Agree text g') :
    Reader.Agree text (exportStatement g) (exportStatement g') := by
  unfold exportStatement
  gcongr
  simp [*]

/-! ## Statements -/

@[gcongr]
theorem expressionStatement_agree (h : g.Agree text g') :
    Reader.Agree text (expressionStatement g) (expressionStatement g') := by
  unfold expressionStatement
  gcongr <;> simp [*]

@[gcongr]
theorem statementBefore_agree (h : g.Agree text g') (word : String) :
    Reader.Agree text (statementBefore g word) (statementBefore g' word) := by
  unfold statementBefore
  gcongr <;> simp [*]

@[gcongr]
theorem ifStatement_agree (h : g.Agree text g') :
    Reader.Agree text (ifStatement g) (ifStatement g') := by
  unfold ifStatement
  gcongr <;> simp [*]

@[gcongr]
theorem guardedStatement_agree (h : g.Agree text g') :
    Reader.Agree text (guardedStatement g) (guardedStatement g') := by
  unfold guardedStatement
  gcongr <;> simp [*]

@[gcongr]
theorem doStatement_agree (h : g.Agree text g') :
    Reader.Agree text (doStatement g) (doStatement g') := by
  unfold doStatement
  gcongr <;> simp [*]

@[gcongr]
theorem forElements_agree (h : g.Agree text g') :
    Reader.Agree text (forElements g) (forElements g') := by
  unfold forElements
  gcongr <;> simp [*]

@[gcongr]
theorem forSteps_agree (h : g.Agree text g') :
    Reader.Agree text (forSteps g) (forSteps g') := by
  unfold forSteps
  dsimp only
  gcongr <;> simp [*]

@[gcongr]
theorem forDeclaration_agree (h : g.Agree text g') :
    Reader.Agree text (forDeclaration g) (forDeclaration g') := by
  unfold forDeclaration
  dsimp only
  gcongr <;> simp [*]

@[gcongr]
theorem forValue_agree (h : g.Agree text g') :
    Reader.Agree text (forValue g) (forValue g') := by
  unfold forValue
  dsimp only
  gcongr <;> simp [*]

@[gcongr]
theorem forStatement_agree (h : g.Agree text g') :
    Reader.Agree text (forStatement g) (forStatement g') := by
  unfold forStatement
  dsimp only
  gcongr <;> simp [*]

@[gcongr]
theorem tryStatement_agree (h : g.Agree text g') :
    Reader.Agree text (tryStatement g) (tryStatement g') := by
  unfold tryStatement
  dsimp only
  gcongr <;> simp [*]

@[gcongr]
theorem switchCases_agree (h : g.Agree text g') :
    Reader.Agree text (switchCases g) (switchCases g') := by
  unfold switchCases
  dsimp only
  gcongr <;> simp [*]

@[gcongr]
theorem switchStatement_agree (h : g.Agree text g') :
    Reader.Agree text (switchStatement g) (switchStatement g') := by
  unfold switchStatement
  gcongr <;> simp [*]

@[gcongr]
theorem returnStatement_agree (h : g.Agree text g') :
    Reader.Agree text (returnStatement g) (returnStatement g') := by
  unfold returnStatement
  gcongr <;> simp [*]

@[gcongr]
theorem throwStatement_agree (h : g.Agree text g') :
    Reader.Agree text (throwStatement g) (throwStatement g') := by
  unfold throwStatement
  gcongr <;> simp [*]

@[simp]
theorem jumpStatement_agree :
    Reader.Agree text jumpStatement jumpStatement := by
  unfold jumpStatement
  dsimp only
  gcongr <;> simp [*]

/-- The words that start a control statement are the same for both, and what they start agrees. -/
theorem controlStatement?_agree (h : g.Agree text g') (word : String) :
    Option.Rel (Reader.Agree text) (controlStatement? g word) (controlStatement? g' word) := by
  unfold controlStatement?
  split
  case h_13 => exact .none
  all_goals
    refine .some ?_
    gcongr <;> simp

@[gcongr]
theorem block_agree (h : g.Agree text g') :
    Reader.Agree text (block g) (block g') := by
  unfold block
  dsimp only
  gcongr <;> simp [*]

@[gcongr]
theorem blockStatement_agree (h : g.Agree text g') :
    Reader.Agree text (blockStatement g) (blockStatement g') := by
  unfold blockStatement
  gcongr
  simp [*]

@[gcongr]
theorem bracedStatement_agree (h : g.Agree text g') :
    Reader.Agree text (bracedStatement g) (bracedStatement g') := by
  unfold bracedStatement
  dsimp only
  gcongr <;> simp [*]

@[gcongr]
theorem labelledStatement_agree (h : g.Agree text g') :
    Reader.Agree text (labelledStatement g) (labelledStatement g') := by
  unfold labelledStatement
  gcongr <;> simp [*]

@[gcongr]
theorem wordStatement_agree (h : g.Agree text g') (here : Cursor) :
    Reader.Agree text (wordStatement g here) (wordStatement g' here) := by
  unfold wordStatement
  dsimp only
  gcongr
  · have hcontrol := controlStatement?_agree h here.token.text
    generalize controlStatement? g here.token.text = few,
      controlStatement? g' here.token.text = more at hcontrol ⊢
    cases hcontrol with
    | some hreader =>
      dsimp only
      gcongr
      simp
    | none =>
      dsimp only
      gcongr

@[gcongr]
theorem decoratedStatement_agree (h : g.Agree text g') :
    Reader.Agree text (decoratedStatement g) (decoratedStatement g') := by
  unfold decoratedStatement
  gcongr <;> simp [*]

@[gcongr]
theorem statement_agree (h : g.Agree text g') :
    Reader.Agree text (statement g) (statement g') := by
  unfold statement
  gcongr <;> simp [*]

/-! ## Whole files -/

@[simp]
theorem interpreterLine_agree :
    Reader.Agree text interpreterLine interpreterLine := by
  unfold interpreterLine
  gcongr <;> simp [*]

@[gcongr]
theorem nextStatement_agree (h : g.Agree text g') {statements : List Statement}
    (hstatements : known text statements) :
    Reader.Agree text (nextStatement g statements) (nextStatement g' statements) := by
  unfold nextStatement
  dsimp only
  gcongr <;> simp [*]

@[gcongr]
theorem fileStatements_agree (h : g.Agree text g') :
    Reader.Agree text (fileStatements g) (fileStatements g') := by
  unfold fileStatements
  gcongr
  simp [*]

/-- What the forms do with more nesting, from what they do with less. -/
theorem productions_succ_agree {few more : Nat}
    (h : (productions few).Agree text (productions more)) :
    (productions (few + 1)).Agree text (productions (more + 1)) where
  nested := ⟨few + 1, rfl⟩
  type start ending _ hplace := type_agreeAt h start ending hplace
  conjunction ending _ hplace := intersectionType_agreeAt h .plain ending hplace
  operand start ending _ hplace := operandType_agreeAt h start ending hplace
  expression := expression_agree h
  unary := unary_agree h
  simpleValue := simpleValue_agree h
  target := target_agree h
  pattern := pattern_agree h
  objectMembers := objectMembers_agree h
  declaration := declaration_agree h
  exportStatement := exportStatement_agree h
  statement := statement_agree h
  block := block_agree h

/-- More nesting keeps every answer, and what is read keeps to the rules. -/
theorem productions_agree {few more : Nat} (hle : few ≤ more) :
    (productions few).Agree text (productions more) := by
  induction few generalizing more with
  | zero =>
    refine ⟨⟨0, rfl⟩, ?_, ?_, ?_, ?_, ?_, ?_, ?_, ?_, ?_, ?_, ?_, ?_, ?_⟩
    all_goals
      intros
      first | exact .inl rfl | exact fun _ _ => .inl rfl
  | succ few ih =>
    obtain ⟨more, rfl⟩ := Nat.exists_eq_add_of_le' (Nat.zero_lt_of_lt hle)
    exact productions_succ_agree (ih (Nat.le_of_succ_le_succ hle))

/-- A text is read as a file exactly when its statements are read and no type in them is about one
that is not there. -/
theorem parse_eq_ok_iff {text : String} {statements : List Statement} :
    parse text = .ok ⟨statements⟩ ↔
      statementsHaveUnknown statements = false ∧
        ∃ rest, fileStatements (productions (nestingFor text.length)) (.ofText text) =
          .ok statements rest := by
  unfold parse
  dsimp only
  cases fileStatements (productions (nestingFor text.length)) (.ofText text) with
  | ok found rest =>
    dsimp only
    split
    · rename_i hunknown
      constructor
      · rintro ⟨⟩
      · rintro ⟨hknown, _, ⟨⟩⟩
        rw [hunknown] at hknown
        cases hknown
    · rename_i hknown
      constructor
      · rintro ⟨⟩
        exact ⟨(Bool.not_eq_true _).mp hknown, rest, rfl⟩
      · rintro ⟨-, _, ⟨⟩⟩
        rfl
  | reject failure => simp
  | exhausted => simp

/-- The statements of a file that is read are known to come from the text. -/
theorem known_of_parse {text : String} {file : DeclarationFile} (h : parse text = .ok file) :
    known text.toList file.statements := by
  have hforms : (productions (nestingFor text.length)).Agree text.toList
      (productions (nestingFor text.length)) := productions_agree (Nat.le_refl _)
  obtain ⟨-, rest, hread⟩ := parse_eq_ok_iff.mp h
  obtain hout | ⟨-, hknown⟩ := fileStatements_agree hforms (.ofText text) (Cursor.in_ofText text)
  · simp [hread] at hout
  · exact (hknown file.statements rest hread).1

end Grammar

/-! ## The laws -/

/-- At every depth, a tree that is read from a text keeps to the rules: literals, accesses and roles
are those of the language, a method is no constructor, a parameter is not `this`, the variables of a
statement are of one kind, and a union or an intersection is flat and has members unless `readonly`
or `const` stands right after one of its marks. -/
theorem every_tree_that_is_read_keeps_to_the_rules (text : String) (file : DeclarationFile)
    (h : parse text = .ok file) :
    ∀ statement ∈ file.statements, statement.WellRead text.toList := by
  intro statement hmem
  exact (known_of_parse h statement hmem).1

theorem the_last_member_of_a_union_is_the_union_after_readonly :
    parse "type X = A | readonly B | C;" = .ok ⟨[.aliasDecl ⟨"X", [],
      .union [.ref "A" [], .union [.ref "B" [], .ref "C" []]]⟩]⟩ ∧
    ∀ statement ∈ [Statement.aliasDecl ⟨"X", [],
      .union [.ref "A" [], .union [.ref "B" [], .ref "C" []]]⟩],
      statement.WellRead "type X = A | readonly B | C;".toList := by
  have hread : parse "type X = A | readonly B | C;" = .ok ⟨[.aliasDecl ⟨"X", [],
      .union [.ref "A" [], .union [.ref "B" [], .ref "C" []]]⟩]⟩ := by
    set_option maxRecDepth 4000 in rfl
  exact ⟨hread, every_tree_that_is_read_keeps_to_the_rules _ _ hread⟩

end Facade
