-- The definitions that a declaration tree asks for, with the parameters of each, and how the lines
-- of members and traits show them.
import Facade.Proofs.Emission
import Facade.Proofs.Gathering

namespace Facade

/-! ## A definition -/

/-- A parameter as a definition shows it. -/
structure ShownParam where
  name : String
  type : String
  deriving DecidableEq, Repr

def ShownParam.text (param : ShownParam) : String :=
  param.name ++ ": " ++ param.type

/-- A definition of a facade. -/
structure Definition where
  overrides : Bool
  /-- The name, with the type parameters. -/
  name : String
  /-- The parameters, if it has parentheses for them. -/
  params : Option (List ShownParam)
  /-- What comes after the parameters. -/
  tail : String
  deriving DecidableEq, Repr

namespace Definition

/-- The parentheses with the parameters. -/
def paramText (definition : Definition) : String :=
  match definition.params with
  | none => ""
  | some params => "(" ++ commaList (params.map ShownParam.text) ++ ")"

/-- The line of a definition. -/
def line (definition : Definition) : String :=
  (if definition.overrides then "override " else "") ++ "def " ++ definition.name
    ++ definition.paramText ++ definition.tail

/-- The names of the parameters. -/
def names (definition : Definition) : List String :=
  (definition.params.getD []).map (·.name)

/-- A definition without parentheses. -/
def ofValue (name type binding : String) : Definition :=
  ⟨false, name, none, ": " ++ type ++ binding⟩

end Definition

/-- A parameter as its definition shows it. -/
def Param.shown (param : Param) : ShownParam where
  name := Name.written param.name
  type :=
    if param.rest then elementType param.type.mapped ++ "*"
    else if param.optional then param.type.mapped ++ " = ???"
    else param.type.mapped

/-- A definition with the signature of a declaration. -/
def Definition.ofSignature (overrides : Bool) (name : String) (typeParams : List TypeParam)
    (params : List Param) (ret binding : String) : Definition :=
  ⟨overrides, name ++ typeParamList typeParams, some (params.map Param.shown),
    ": " ++ ret ++ binding⟩

/-! ## The definitions that a tree asks for -/

/-- The definitions of an index signature. -/
def indexDefinitions (keyName : String) (keyType valueType : TypeExpr) (readonly : Bool) :
    List Definition :=
  let key : ShownParam := ⟨Name.written keyName, keyType.mapped⟩
  let value := valueType.mapped
  let read : Definition := ⟨false, "apply", some [key], ": " ++ value ++ fromPlatform⟩
  let write : Definition := ⟨false, "update", some [key, ⟨"v", value⟩], ": Unit" ++ fromPlatform⟩
  if readonly then [read] else [read, write]

/-- The definitions of a member, whoever may use it. -/
def Member.definitions (place : Place) : Member → List Definition
  | .property _ _ name type readonly _ _ =>
    if readonly && place != .object then [.ofValue (Name.written name) type.mapped place.binding]
    else []
  | .method _ _ name _ _ ret .getter _ _ =>
    [.ofValue (Name.written name) (ret.mappedReturn anyType) place.binding]
  | .method _ _ name _ params _ .setter _ _ =>
    [⟨false, Name.setter name, some [⟨"v", setterType params⟩], ": Unit" ++ place.binding⟩]
  | .method _ _ name typeParams params ret _ _ _ =>
    [.ofSignature (inheritedMethods.contains name) (Name.written name) typeParams params
      (ret.mappedReturn place.defaultReturn) place.binding]
  | .index _ _ keyName keyType valueType readonly =>
    indexDefinitions keyName keyType valueType readonly
  | .call _ _ typeParams params ret =>
    [.ofSignature false "apply" typeParams params (ret.mappedReturn "js.Dynamic") fromPlatform]
  | .construct .. => []
  | .other .. => []
  | .unknown .. => []

/-- The definitions of a member in a place: none when it is hidden. -/
def Member.shownDefinitions (member : Member) (place : Place) : List Definition :=
  if member.isVisible then member.definitions place else []

/-- The definitions of a member in a trait. -/
def Member.traitDefinitions (owner : String) : Member → List Definition
  | .property .everyone _ name (.object _) readonly _ _ =>
    if readonly then
      [.ofValue (Name.written name) (owner ++ "." ++ Name.nestedTrait name) fromPlatform]
    else []
  | member => member.shownDefinitions .trait

/-- The members that have lines in a trait: of those with the same lines, the first. -/
def traitMembers (members : List Member) (owner : String) : List Member :=
  Text.distinctBy (fun member => "\n".intercalate (member.traitLines owner))
    (members.filter fun member => !(member.traitLines owner).isEmpty)

/-- The definitions in a trait. -/
def traitDefinitions (members : List Member) (owner : String) : List Definition :=
  (traitMembers members owner).flatMap (·.traitDefinitions owner)

mutual

/-- The definitions in the traits of object literal types, at every depth. -/
def nestedDefinitions (seen : List String) : List Member → List Definition
  | [] => []
  | member :: rest =>
    match member.nestedTrait? with
    | none => nestedDefinitions seen rest
    | some trait =>
      if seen.contains trait then nestedDefinitions seen rest
      else member.literalDefinitions trait ++ nestedDefinitions (trait :: seen) rest

def Member.literalDefinitions (trait : String) : Member → List Definition
  | .property _ _ _ type _ _ _ => type.literalDefinitions trait
  | _ => []

def TypeExpr.literalDefinitions (trait : String) : TypeExpr → List Definition
  | .object members => traitDefinitions members trait ++ nestedDefinitions [] members
  | _ => []

end

/-- The definition of a constructor. -/
def constructorDefinition (params : List Param) : Definition :=
  ⟨false, "this", some (params.map Param.shown), " = this()"⟩

/-- The definitions of a class and of its companion object. -/
def ClassDecl.definitions (decl : ClassDecl) : List Definition :=
  decl.constructors.map constructorDefinition
    ++ decl.instanceMembers.flatMap (·.shownDefinitions decl.place)
    ++ decl.staticMembers.flatMap (·.shownDefinitions .object)

/-- The definitions of an interface. -/
def InterfaceDecl.definitions (decl : InterfaceDecl) : List Definition :=
  traitDefinitions decl.members (Name.written decl.name) ++ nestedDefinitions [] decl.members

/-- The definition that gives the name of an enumeration's value. -/
def EnumDecl.definition (decl : EnumDecl) : Definition :=
  ⟨false, "apply", some [⟨"value", Name.written decl.name⟩], ": String" ++ fromPlatform⟩

/-- The definitions of a variable that is an object. -/
def VariableDecl.definitions (decl : VariableDecl) : List Definition :=
  match decl.type with
  | .object members => members.flatMap (·.shownDefinitions .object)
  | _ => []

/-- The definition of a function, with the result that stands for a missing one. -/
def FunctionDecl.definition (decl : FunctionDecl) (default : String) : Definition :=
  .ofSignature false (Name.written decl.name) decl.typeParams decl.params
    (decl.ret.mappedReturn default) fromPlatform

/-- The definitions in the object of a scope. -/
def gatheredDefinitions (statements : List Statement) (default : String) : List Definition :=
  (functionsOf statements).map (·.definition default)

mutual

/-- The definitions of a statement, at every depth. -/
def Statement.definitions : Statement → List Definition
  | .module _ quoted body =>
    if quoted then [] else bodyDefinitions body ++ gatheredDefinitions body "js.Dynamic"
  | .classDecl decl => decl.definitions
  | .interfaceDecl decl => decl.definitions
  | .enumDecl decl => [decl.definition]
  | .variableDecls decls => decls.flatMap (·.definitions)
  | .moduleHead .. => []
  | .aliasDecl _ => []
  | .function _ => []
  | .exportAssignment _ => []
  | .importDecl _ => []
  | .other _ => []
  | .unknown => []

def bodyDefinitions : List Statement → List Definition
  | [] => []
  | statement :: rest => statement.definitions ++ bodyDefinitions rest

end

/-- The definitions of a file. -/
def DeclarationFile.definitions (file : DeclarationFile) : List Definition :=
  bodyDefinitions file.statements ++ gatheredDefinitions file.statements "Unit"

/-! ## Lines that are definitions -/

/-- Whether a line, from its first character that is no space, starts as a definition. -/
def isDefinition (line : String) : Bool :=
  let code := line.toList.dropWhile (· == ' ')
  "def ".toList.isPrefixOf code || "override def ".toList.isPrefixOf code

/-- By its first two characters the text is neither indented nor a definition. -/
def startsOtherwise (text : String) : Bool :=
  match text.toList with
  -- objects and overriding definitions share their first character
  | c :: d :: _ => c != ' ' && c != 'd' && !(c == 'o' && d == 'v')
  | _ => false

theorem isDefinition_append {start : String} (h : startsOtherwise start = true) (rest : String) :
    isDefinition (start ++ rest) = false := by
  unfold startsOtherwise at h
  split at h
  · rename_i c d more hchars
    simp only [Bool.and_eq_true, bne_iff_ne, Bool.not_eq_true', Bool.and_eq_false_iff,
      beq_eq_false_iff_ne] at h
    obtain ⟨⟨hspace, hd⟩, ho⟩ := h
    have hdef : "def ".toList = 'd' :: "ef ".toList := rfl
    have hoverride : "override def ".toList = 'o' :: 'v' :: "erride def ".toList := rfl
    unfold isDefinition
    rw [String.toList_append, hchars, List.cons_append, List.cons_append,
      List.dropWhile_cons_of_neg (by simpa using hspace), hdef, hoverride]
    simp only [List.isPrefixOf_cons_cons]
    grind
  · cases h

theorem isDefinition_shifted (levels : Nat) (text : String) :
    isDefinition (Writer.shifted levels text) = isDefinition text := by
  unfold isDefinition
  rw [Writer.dropWhile_shifted]

theorem Definition.isDefinition_line (definition : Definition) :
    isDefinition definition.line = true := by
  unfold line isDefinition
  simp only [String.append_assoc]
  cases definition.overrides with
  | false =>
    simp only [Bool.false_eq_true, if_false, String.empty_append, String.toList_append]
    rfl
  | true =>
    simp only [if_true, String.toList_append]
    rfl

/-! ## Texts that show definitions -/

/-- Those of the texts that are definitions are these. -/
def Shows (texts : List String) (definitions : List Definition) : Prop :=
  ∀ text, text ∈ texts ∧ isDefinition text = true ↔
    ∃ definition ∈ definitions, definition.line = text

theorem shows_nil : Shows [] [] := by
  intro text
  simp

theorem Shows.append {xs ys : List String} {first second : List Definition} (hx : Shows xs first)
    (hy : Shows ys second) : Shows (xs ++ ys) (first ++ second) := by
  intro text
  have hfirst := hx text
  have hsecond := hy text
  simp only [List.mem_append, or_and_right, exists_or] at *
  rw [hfirst, hsecond]

theorem Shows.flatMap {α : Type} {items : List α} {texts : α → List String}
    {definitions : α → List Definition}
    (h : ∀ item ∈ items, Shows (texts item) (definitions item)) :
    Shows (items.flatMap texts) (items.flatMap definitions) := by
  induction items with
  | nil => exact shows_nil
  | cons item rest ih =>
    rw [List.flatMap_cons, List.flatMap_cons]
    exact (h item (by simp)).append (ih fun item hitem => h item (by simp [hitem]))

theorem Shows.congr {xs ys : List String} {definitions : List Definition}
    (h : Shows xs definitions) (hmem : ∀ text, text ∈ ys ↔ text ∈ xs) : Shows ys definitions := by
  intro text
  rw [hmem, h text]

/-- A text that is no definition shows nothing. -/
theorem Shows.skip {text : String} {texts : List String} {definitions : List Definition}
    (htext : isDefinition text = false) (h : Shows texts definitions) :
    Shows (text :: texts) definitions := by
  intro other
  rw [← h other, List.mem_cons]
  constructor
  · rintro ⟨rfl | hmem, hother⟩
    · simp [htext] at hother
    · exact ⟨hmem, hother⟩
  · rintro ⟨hmem, hother⟩
    exact ⟨.inr hmem, hother⟩

theorem shows_none {texts : List String} (h : ∀ text ∈ texts, isDefinition text = false) :
    Shows texts [] := by
  induction texts with
  | nil => exact shows_nil
  | cons text rest ih =>
    rw [List.forall_mem_cons] at h
    exact (ih h.2).skip h.1

theorem shows_map {α : Type} (items : List α) (definition : α → Definition) :
    Shows (items.map fun item => (definition item).line) (items.map definition) := by
  intro text
  simp only [List.mem_map, exists_exists_and_eq_and]
  constructor
  · rintro ⟨⟨item, hitem, rfl⟩, -⟩
    exact ⟨item, hitem, rfl⟩
  · rintro ⟨item, hitem, rfl⟩
    exact ⟨⟨item, hitem, rfl⟩, (definition item).isDefinition_line⟩

theorem shows_line {text : String} {definition : Definition} (h : text = definition.line) :
    Shows [text] [definition] := by
  subst h
  exact shows_map [definition] id

/-! ## Members -/

theorem Param.text_shown (param : Param) : param.shown.text = param.text := by
  unfold shown ShownParam.text Param.text
  dsimp only
  split
  · simp only [String.append_assoc]
  · split
    · simp only [String.append_assoc]
    · rfl

theorem commaList_shown (params : List Param) :
    commaList ((params.map Param.shown).map ShownParam.text) = paramList params := by
  rw [List.map_map, paramList]
  congr 1
  exact List.map_congr_left fun param _ => param.text_shown

theorem Definition.line_ofValue (name type binding : String) :
    (ofValue name type binding).line = "def " ++ name ++ ": " ++ type ++ binding := by
  simp [ofValue, line, paramText, String.append_assoc]

theorem Definition.line_ofSignature (overrides : Bool) (name : String) (typeParams : List TypeParam)
    (params : List Param) (ret binding : String) :
    (ofSignature overrides name typeParams params ret binding).line =
      (if overrides then "override " else "") ++ "def " ++ name
        ++ signatureText typeParams params ret ++ binding := by
  have hmark : "): " = ")" ++ ": " := rfl
  simp only [ofSignature, line, paramText, commaList_shown, signatureText, hmark,
    String.append_assoc]

theorem shows_indexLines (keyName : String) (keyType valueType : TypeExpr) (readonly : Bool) :
    Shows (indexLines keyName keyType valueType readonly)
      (indexDefinitions keyName keyType valueType readonly) := by
  have hread : Shows ["@JSBracketAccess", "def apply(" ++ (Name.written keyName ++ ": "
        ++ keyType.mapped) ++ "): " ++ valueType.mapped ++ fromPlatform]
      [⟨false, "apply", some [⟨Name.written keyName, keyType.mapped⟩],
        ": " ++ valueType.mapped ++ fromPlatform⟩] := by
    refine (shows_line ?_).skip rfl
    rw [← String.toList_inj]
    simp [Definition.line, Definition.paramText, ShownParam.text, commaList]
  have hwrite : Shows ["@JSBracketAccess", "def update(" ++ (Name.written keyName ++ ": "
        ++ keyType.mapped) ++ ", v: " ++ valueType.mapped ++ "): Unit" ++ fromPlatform]
      [⟨false, "update", some [⟨Name.written keyName, keyType.mapped⟩, ⟨"v", valueType.mapped⟩],
        ": Unit" ++ fromPlatform⟩] := by
    refine (shows_line ?_).skip rfl
    rw [← String.toList_inj]
    simp [Definition.line, Definition.paramText, ShownParam.text, commaList]
  unfold indexLines indexDefinitions
  dsimp only
  split
  · exact hread
  · exact hread.append hwrite

/-- The lines of a member show its definitions, in every place. -/
theorem Member.shows_lines (member : Member) (place : Place) :
    Shows (member.lines place) (member.definitions place) := by
  cases member with
  | property access static name type readonly optional abstract =>
    rw [Member.lines, Member.definitions, bindingWord]
    cases readonly with
    | false =>
      simp only [Bool.not_false, if_true, Bool.false_and, Bool.false_eq_true, if_false,
        String.append_assoc]
      exact shows_nil.skip (isDefinition_append rfl _)
    | true =>
      simp only [Bool.not_true, Bool.false_eq_true, if_false, Bool.true_and]
      cases hplace : place == .object with
      | true =>
        rw [beq_iff_eq] at hplace
        subst hplace
        simp only [if_true, String.append_assoc]
        exact shows_nil.skip (isDefinition_append rfl _)
      | false =>
        have hword : "def " = "def" ++ " " := rfl
        have hother : (place != .object) = true := by simp [bne, hplace]
        rw [hother, if_pos rfl, if_neg (by simp)]
        exact shows_line (by rw [Definition.line_ofValue, hword])
  | method access static name typeParams params ret role optional abstract =>
    cases role with
    | getter => exact shows_line (Definition.line_ofValue _ _ _).symm
    | setter =>
      refine shows_line ?_
      rw [← String.toList_inj]
      simp [Definition.line, Definition.paramText, ShownParam.text, commaList]
    | plain | other =>
      rw [Member.lines, Member.definitions]
      · exact shows_line (Definition.line_ofSignature _ _ _ _ _ _).symm
      all_goals simp
  | index access static keyName keyType valueType readonly =>
    exact shows_indexLines keyName keyType valueType readonly
  | call access static typeParams params ret =>
    refine shows_line ?_
    rw [Definition.line_ofSignature]
    rfl
  | construct | other | unknown => exact shows_nil

theorem Member.shows_render (member : Member) (place : Place) :
    Shows (member.render place) (member.shownDefinitions place) := by
  unfold render shownDefinitions
  split
  · exact member.shows_lines place
  · exact shows_nil

/-! ## Traits -/

theorem Member.shows_traitLines (member : Member) (owner : String) :
    Shows (member.traitLines owner) (member.traitDefinitions owner) := by
  unfold traitLines
  split
  · rename_i name _ readonly _ _
    rw [traitDefinitions, nestedPropertyLine]
    cases readonly with
    | false =>
      simp only [Bool.false_eq_true, if_false, String.append_assoc]
      exact shows_nil.skip (isDefinition_append rfl _)
    | true =>
      refine shows_line ?_
      rw [← String.toList_inj]
      simp [Definition.line_ofValue]
  · rename_i hother
    rw [traitDefinitions]
    · exact member.shows_render .trait
    · exact hother

theorem traitLines_eq (members : List Member) (owner : String) :
    traitLines members owner = (traitMembers members owner).flatMap (·.traitLines owner) := by
  unfold traitLines traitRenderings traitMembers
  rw [List.filter_map, Text.distinctBy_map, List.flatMap_def]
  rfl

theorem shows_traitLines (members : List Member) (owner : String) :
    Shows (traitLines members owner) (traitDefinitions members owner) := by
  rw [traitLines_eq]
  exact .flatMap fun member _ => member.shows_traitLines owner

end Facade
