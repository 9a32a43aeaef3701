-- Imports, declarations and exports at twins.
import Facade.Proofs.TwinValues

namespace Facade

open Lexer Reader Grammar

set_option synthInstance.maxSize 4096

/-! ## Statements -/

section Statements

variable {s : Spot}

instance other_same {kind kind' : String} [h : SameValue kind kind'] :
    SameValue (Statement.other kind) (.other kind') :=
  ⟨by rw [h.eq]⟩

instance declarator_same {name name' : Option String} [h : SameValue name name'] (type : TypeExpr)
    (valued : Bool) :
    SameValue (Declarator.mk name type valued) (Declarator.mk name' type valued) := ⟨by rw [h.eq]⟩

instance markupCount_append_same {token twin token' twin' : Token} [h : TokenTwin token twin]
    [h' : TokenTwin token' twin'] :
    SameValue (Trivia.markupCount (token.leading ++ token'.leading))
      (Trivia.markupCount (twin.leading ++ twin'.leading)) := by
  refine ⟨?_⟩
  simp only [Trivia.markupCount, List.countP_append]
  exact congrArg₂ (· + ·) h.markupCount h'.markupCount

instance unquoted_same {text text' : String} [h : SameValue text text'] :
    SameValue (unquoted text) (unquoted text') :=
  ⟨by rw [h.eq]⟩

end Statements

/-! ## Imports -/

section Imports

variable {s : Spot}

instance exportedName_alike : ReadsAlike s Eq exportedName exportedName := by
  unfold exportedName
  infer_instance

instance exportSpecifier_alike : ReadsAlike s Eq exportSpecifier exportSpecifier := by
  unfold exportSpecifier
  infer_instance

instance importedAs_alike : ReadsAlike s Eq importedAs importedAs := by
  unfold importedAs
  infer_instance

instance importedName_alike : ReadsAlike s Eq importedName importedName := by
  unfold importedName
  infer_instance

instance importSpecifier_alike : ReadsAlike s Eq importSpecifier importSpecifier := by
  unfold importSpecifier
  infer_instance

instance nameClause_alike {item item' : Reader Unit} [ReadsAlike s Eq item item'] :
    ReadsAlike s Eq (nameClause item) (nameClause item') := by
  unfold nameClause
  infer_instance

instance fromClause_alike : ReadsAlike s Eq fromClause fromClause := by
  unfold fromClause
  infer_instance

instance wholeImport_alike : ReadsAlike s Eq wholeImport wholeImport := by
  unfold wholeImport
  infer_instance

instance bracedImport_alike : ReadsAlike s Eq bracedImport bracedImport := by
  unfold bracedImport
  infer_instance

instance requiredModule_alike : ReadsAlike s Eq requiredModule requiredModule := by
  unfold requiredModule
  infer_instance

instance namedImport_alike (typesOnly : Bool) (name : String) :
    ReadsAlike s Eq (namedImport typesOnly name) (namedImport typesOnly name) := by
  unfold namedImport
  infer_instance

instance importNames_alike (typesOnly : Bool) :
    ReadsAlike s Eq (importNames typesOnly) (importNames typesOnly) := by
  unfold importNames
  infer_instance

instance importTypes_alike : ReadsAlike s Eq importTypes importTypes := by
  unfold importTypes
  infer_instance

instance importSettings_alike {g g' : Productions} [Productions.Alike s g g'] :
    ReadsAlike s Eq (importSettings g) (importSettings g') := by
  unfold importSettings
  infer_instance

/-- The end of a statement is found at twins, whatever its text is. -/
theorem textToEnd_alike (start start' : Cursor) :
    ReadsAlike s (fun _ _ => True) (textToEnd start) (textToEnd start') := by
  unfold textToEnd
  refine .andThen fun found => .ite (fun _ => ⟨fun htwin => .ok trivial htwin⟩)
    ⟨fun {place twin} htwin => .place ?_⟩
  have hends : (twin.end? .type).isSome = (place.end? .type).isSome := htwin.mayEnd_eq .type
  cases hplace : place.end? .type <;> cases htwin' : twin.end? .type
  all_goals simp only [hplace, htwin'] at hends
  · exact .reject _ _
  · cases hends
  · cases hends
  · exact .ok trivial htwin

instance textToEnd_then {β : Type} {relatedTo : β → β → Prop} {start start' : Cursor}
    {next next' : String → Reader β}
    [hnext : ∀ text text', ReadsAlike s relatedTo (next text) (next' text')] :
    ReadsAlike s relatedTo (textToEnd start >>= next) (textToEnd start' >>= next') :=
  (textToEnd_alike start start').bind fun text text' _ => hnext text text'

instance importAlias_alike : ReadsAlike s Statement.Alike importAlias importAlias := by
  unfold importAlias
  infer_instance

instance importStatement_alike {g g' : Productions} [Productions.Alike s g g'] :
    ReadsAlike s Statement.Alike (importStatement g) (importStatement g') := by
  unfold importStatement
  infer_instance

end Imports

/-! ## Declarations -/

section Declarations

variable {s : Spot} {g g' : Productions} [h : Productions.Alike s g g']

instance declarator_alike : ReadsAlike s Eq (declarator g) (declarator g') := by
  unfold declarator
  dsimp only
  infer_instance

instance variableStatement_alike :
    ReadsAlike s Statement.Alike (variableStatement g) (variableStatement g') := by
  unfold variableStatement
  infer_instance

instance functionStatement_alike :
    ReadsAlike s Statement.Alike (functionStatement g) (functionStatement g') := by
  unfold functionStatement
  infer_instance

instance aliasStatement_alike :
    ReadsAlike s Statement.Alike (aliasStatement g) (aliasStatement g') := by
  unfold aliasStatement
  infer_instance

instance enumMember_alike : ReadsAlike s Eq (enumMember g) (enumMember g') := by
  unfold enumMember
  infer_instance

instance enumStatement_alike :
    ReadsAlike s Statement.Alike (enumStatement g) (enumStatement g') := by
  unfold enumStatement
  infer_instance

instance moduleTail_alike (ending : Ending) {name name' : String} [hname : SameValue name name']
    (isQuoted : Bool) :
    ReadsAlike s Statement.Alike (moduleTail g ending name isQuoted)
      (moduleTail g' ending name' isQuoted) := by
  rw [hname.eq]
  unfold moduleTail
  infer_instance

instance moduleStatement_alike (ending : Ending) :
    ReadsAlike s Statement.Alike (moduleStatement g ending) (moduleStatement g' ending) := by
  unfold moduleStatement
  dsimp only
  infer_instance

instance classStatement_alike (shared : Bool) :
    ReadsAlike s Statement.Alike (classStatement g shared) (classStatement g' shared) := by
  unfold classStatement
  dsimp only
  infer_instance

instance globalBlock_alike : ReadsAlike s Statement.Alike (globalBlock g) (globalBlock g') := by
  unfold globalBlock
  infer_instance

instance moduleProperty_alike :
    ReadsAlike s Statement.Alike (moduleProperty g) (moduleProperty g') := by
  unfold moduleProperty
  infer_instance

instance ownDeclaration_alike (shared : Bool) :
    ReadsAlike s Statement.Alike (ownDeclaration g shared) (ownDeclaration g' shared) := by
  unfold ownDeclaration
  refine look_alike (h := fun places => ?_)
  rw [places.alike.text_eq]
  dsimp only
  split <;> infer_instance

instance declaredForm_alike : ReadsAlike s Statement.Alike (declaredForm g) (declaredForm g') := by
  unfold declaredForm
  dsimp only
  infer_instance

instance declared_alike : ReadsAlike s Statement.Alike (declared g) (declared g') := by
  unfold declared
  infer_instance

instance declaration_alike :
    ReadsAlike s Statement.Alike (Grammar.declaration g) (Grammar.declaration g') := by
  unfold Grammar.declaration
  infer_instance

/-! ## Declarations where a value could stand -/

instance valueGoesOn_same {place twin : Cursor} [h : Twin s place twin] :
    SameValue (valueGoesOn place) (valueGoesOn twin) := by
  have hsize : SameValue (sizeOfAny? ["==", "!=", "<=", "<<"] place.chars)
      (sizeOfAny? ["==", "!=", "<=", "<<"] twin.chars) :=
    ⟨sizeOfAny?_eq (by decide) h⟩
  have hsome : SameValue (sizeOfAny? ["==", "!=", "<=", "<<"] place.chars).isSome
      (sizeOfAny? ["==", "!=", "<=", "<<"] twin.chars).isSome := ⟨by rw [hsize.eq]⟩
  unfold valueGoesOn
  infer_instance

instance functionNamed_same {place twin : Cursor} [Twin s place twin] :
    SameValue (functionNamed place) (functionNamed twin) := by
  unfold functionNamed
  dsimp only
  infer_instance

instance declarationStarts_same {place twin : Cursor} [h : Twin s place twin] :
    SameValue (declarationStarts place) (declarationStarts twin) := by
  unfold declarationStarts
  dsimp only
  rw [h.text_eq]
  refine @same_and _ _ _ _ inferInstance ?_
  split <;> infer_instance

instance declarationOr_alike {goesOn : Cursor → Bool}
    [hgoesOn : ∀ places : Twins s, SameValue (goesOn places.place) (goesOn places.twin)]
    {value value' : Reader Statement} [hvalue : ReadsAlike s Statement.Alike value value'] :
    ReadsAlike s Statement.Alike (declarationOr g goesOn value)
      (declarationOr g' goesOn value') := by
  unfold declarationOr
  dsimp only
  infer_instance

instance decoratedClassOr_alike {goesOn : Cursor → Bool}
    [hgoesOn : ∀ places : Twins s, SameValue (goesOn places.place) (goesOn places.twin)]
    {value value' : Reader Statement} [hvalue : ReadsAlike s Statement.Alike value value'] :
    ReadsAlike s Statement.Alike (decoratedClassOr g goesOn value)
      (decoratedClassOr g' goesOn value') := by
  unfold decoratedClassOr
  infer_instance

end Declarations

end Facade
