-- The syntax of facade types. Whatever type is declared, its facade type is a text of this syntax, as
-- long as the names in it are names there; so are the type parameters of a declaration.
import Facade.Name
import Facade.Proofs.Brackets
import Facade.Proofs.UnionAlternatives

namespace Facade

/-! ## The grammar -/

/-- What a text of the grammar stands for. -/
inductive TypeForm where
  /-- A name, with arguments or without. -/
  | simple
  /-- Simple types with marks between them. -/
  | whole
  /-- What stands between brackets. -/
  | arguments
  deriving DecidableEq

/-- The marks between simple types. -/
def typeMarks : List String := [" | ", " with "]

/-- The texts of each form, over the names that `isName` admits. A bound stands only in front of the
first argument of an array. -/
inductive Derives (isName : String → Prop) : TypeForm → String → Prop where
  | name {name : String} : isName name → Derives isName .simple name
  | applied {name inside : String} : isName name → Derives isName .arguments inside →
      Derives isName .simple (name ++ "[" ++ inside ++ "]")
  | bounded {inside : String} : Derives isName .arguments inside →
      Derives isName .simple ("js.Array[_ <: " ++ inside ++ "]")
  | alone {text : String} : Derives isName .simple text → Derives isName .whole text
  | joined {mark first last : String} : mark ∈ typeMarks → Derives isName .whole first →
      Derives isName .simple last → Derives isName .whole (first ++ mark ++ last)
  | argument {text : String} : Derives isName .whole text → Derives isName .arguments text
  | more {text rest : String} : Derives isName .whole text → Derives isName .arguments rest →
      Derives isName .arguments (text ++ ", " ++ rest)

section

variable {isName : String → Prop}

theorem Derives.append {mark first last : String} {form : TypeForm} (hmark : mark ∈ typeMarks)
    (hfirst : Derives isName .whole first) (hlast : Derives isName form last)
    (hform : form ≠ .arguments) : Derives isName .whole (first ++ mark ++ last) := by
  induction hlast with
  | name h => exact .joined hmark hfirst (.name h)
  | applied h hinside => exact .joined hmark hfirst (.applied h hinside)
  | bounded hinside => exact .joined hmark hfirst (.bounded hinside)
  | alone h => exact .joined hmark hfirst h
  | @joined between left right hbetween _ hright ih _ =>
    have hleft : Derives isName .whole (first ++ mark ++ left) := ih (by decide)
    have htext : first ++ mark ++ (left ++ between ++ right) =
        first ++ mark ++ left ++ between ++ right := by
      simp only [String.append_assoc]
    rw [htext]
    exact .joined hbetween hleft hright
  | argument => exact absurd rfl hform
  | more => exact absurd rfl hform

/-- Types with a mark between them are a type. -/
theorem Derives.intercalate {mark : String} (hmark : mark ∈ typeMarks) {texts : List String}
    (hne : texts ≠ []) (h : ∀ text ∈ texts, Derives isName .whole text) :
    Derives isName .whole (mark.intercalate texts) := by
  apply Text.intercalate_induction _ hne h
  intro first last hfirst hlast
  exact .append hmark hfirst hlast (by decide)

theorem Derives.commaList {texts : List String} (hne : texts ≠ [])
    (h : ∀ text ∈ texts, Derives isName .whole text) :
    Derives isName .arguments (commaList texts) := by
  unfold Facade.commaList
  induction texts with
  | nil => exact absurd rfl hne
  | cons text rest ih =>
    have htext := h text List.mem_cons_self
    cases rest with
    | nil =>
      rw [String.intercalate_singleton]
      exact .argument htext
    | cons next more =>
      have hrest := ih (List.cons_ne_nil next more) fun t ht => h t (List.mem_cons_of_mem text ht)
      rw [String.intercalate_cons_cons]
      exact .more htext hrest

/-! ## Texts of the grammar -/

theorem Derives.ne_empty {form : TypeForm} {text : String} (h : Derives isName form text)
    (hname : ∀ name, isName name → name ≠ "") : text ≠ "" := by
  have hlong {a b : String} (hb : b ≠ "") : a ++ b ≠ "" := by
    simp [String.append_eq_empty_iff, hb]
  induction h with
  | name h => exact hname _ h
  | applied | bounded => exact hlong (by decide)
  | alone _ ih | argument _ ih => exact ih
  | joined _ _ _ _ ih | more _ _ _ ih => exact hlong ih

theorem Derives.balanced {form : TypeForm} {text : String} (h : Derives isName form text)
    (hname : ∀ name, isName name → Balanced name) : Balanced text := by
  induction h with
  | name h => exact hname _ h
  | @applied name inside h _ ih =>
    have htext : name ++ "[" ++ inside ++ "]" = name ++ ("[" ++ inside ++ "]") := by
      simp only [String.append_assoc]
    rw [htext]
    exact (hname _ h).append ih.enclosed
  | @bounded inside _ ih =>
    have htext : "js.Array[_ <: " ++ inside ++ "]" =
        "js.Array" ++ ("[" ++ ("_ <: " ++ inside) ++ "]") := rfl
    rw [htext]
    have hbound : Balanced "_ <: " := by decide
    have harray : Balanced "js.Array" := by decide
    exact harray.append (hbound.append ih).enclosed
  | alone _ ih | argument _ ih => exact ih
  | joined hmark _ _ ihfirst ihlast =>
    have hmarks : ∀ mark ∈ typeMarks, Balanced mark := by decide
    exact (ihfirst.append (hmarks _ hmark)).append ihlast
  | more _ _ ihtext ihrest =>
    have hcomma : Balanced ", " := by decide
    exact (ihtext.append hcomma).append ihrest

theorem Derives.on_one_line {form : TypeForm} {text : String} (h : Derives isName form text)
    (hname : ∀ name, isName name → '\n' ∉ name.toList) : '\n' ∉ text.toList := by
  have happend {a b : String} (ha : '\n' ∉ a.toList) (hb : '\n' ∉ b.toList) :
      '\n' ∉ (a ++ b).toList := by
    rw [String.toList_append, List.mem_append, not_or]
    exact ⟨ha, hb⟩
  induction h with
  | name h => exact hname _ h
  | applied h _ ih => exact happend (happend (happend (hname _ h) (by decide)) ih) (by decide)
  | bounded _ ih => exact happend (happend (by decide) ih) (by decide)
  | alone _ ih | argument _ ih => exact ih
  | joined hmark _ _ ihfirst ihlast =>
    have hmarks : ∀ mark ∈ typeMarks, '\n' ∉ mark.toList := by decide
    exact happend (happend ihfirst (hmarks _ hmark)) ihlast
  | more _ _ ihtext ihrest => exact happend (happend ihtext (by decide)) ihrest

end

/-! ## Declared types -/

mutual

/-- Every name that reaches the facade is admitted, and no intersection there is empty. -/
def TypeExpr.Legible (isName : String → Prop) : TypeExpr → Prop
  | .absent => True
  | .unknown => True
  | .keyword _ => True
  | .literal _ _ => True
  | .ref name args => isName name ∧ AllLegible isName args
  | .array element => element.Legible isName
  | .union members => AllLegible isName members
  | .inter members => members ≠ [] ∧ AllLegible isName members
  | .func params ret => ParamsLegible isName params ∧ ret.Legible isName
  | .paren inner => inner.Legible isName
  | .object _ => True
  | .keyOf _ => True
  | .unsupported _ => True

def AllLegible (isName : String → Prop) : List TypeExpr → Prop
  | [] => True
  | type :: rest => type.Legible isName ∧ AllLegible isName rest

def ParamsLegible (isName : String → Prop) : List Param → Prop
  | [] => True
  | ⟨_, type, _, _⟩ :: rest => type.Legible isName ∧ ParamsLegible isName rest

end

/-- The form of a declared type's text: only unions and intersections have marks. -/
def TypeExpr.form : TypeExpr → TypeForm
  | .union _ => .whole
  | .inter _ => .whole
  | .paren inner => inner.form
  | _ => .simple

theorem TypeExpr.form_ne_arguments (type : TypeExpr) : type.form ≠ .arguments := by
  fun_induction TypeExpr.form type with
  | case3 inner ih => exact ih
  | _ => decide

theorem TypeExpr.whole_of_form {isName : String → Prop} {type : TypeExpr} {text : String}
    (h : Derives isName type.form text) : Derives isName .whole text := by
  cases hform : type.form with
  | simple => exact .alone (hform ▸ h)
  | whole => exact hform ▸ h
  | arguments => exact absurd hform type.form_ne_arguments

/-- The names that the mapping itself brings into a facade. -/
def vocabulary : List String :=
  keywordTypes.map Prod.snd ++ libraryTypes.map Prod.snd
    ++ ["Int", "js.Function0", "js.Function1", "js.Function2"]

theorem lookup_getD_mem (table : List (String × String)) (name default : String) :
    (table.lookup name).getD default ∈ default :: table.map Prod.snd := by
  cases hl : table.lookup name with
  | none => exact List.mem_cons_self
  | some text =>
    obtain ⟨before, after, rfl, _⟩ := List.lookup_eq_some_iff.mp hl
    simp

section

variable {isName : String → Prop} (hwords : ∀ word ∈ vocabulary, isName word)

include hwords

theorem isName_keywordText (name : String) : isName (keywordText name) := by
  apply hwords
  have hmem := lookup_getD_mem keywordTypes name anyType
  rcases List.mem_cons.mp hmem with hany | htable
  · rw [keywordText, hany]
    decide
  · exact List.mem_append_left _ (List.mem_append_left _ htable)

theorem isName_literalText (kind : LiteralKind) (text : String) :
    isName (literalText kind text) := by
  apply hwords
  unfold literalText
  split <;> try decide
  split <;> decide

theorem isName_lookup_libraryTypes {name : String} (hname : isName name) :
    isName ((libraryTypes.lookup name).getD name) := by
  rcases List.mem_cons.mp (lookup_getD_mem libraryTypes name name) with hown | htable
  · rwa [hown]
  · exact hwords _ (List.mem_append_left _ (List.mem_append_right _ htable))

theorem derives_refText {name : String} (hname : isName name) {args : List String}
    (hargs : ∀ text ∈ args, Derives isName .whole text) :
    Derives isName .simple (refText name args) := by
  have hlookup := isName_lookup_libraryTypes hwords hname
  unfold refText
  split
  · exact .name hlookup
  · rename_i hsome
    have hinside : Derives isName .arguments (commaList args) :=
      .commaList (by simpa using hsome) hargs
    split
    · exact .applied (hwords "js.Array" (by decide)) hinside
    · split
      · exact .bounded hinside
      · exact .applied hlookup hinside

theorem derives_unionText {members : List TypeExpr}
    (h : ∀ text ∈ mappedTypes members, Derives isName .whole text) :
    Derives isName .whole (unionText members (mappedTypes members)) := by
  apply Derives.intercalate (by decide) (shownAlternatives_ne_nil members)
  intro text ht
  by_cases hne : members = []
  · subst hne
    have hstring : text = "String" := List.mem_singleton.mp ht
    rw [hstring]
    exact .alone (.name (hwords _ (by decide)))
  · rw [mappedTypes_eq_map] at h
    exact h text ((mem_shownAlternatives hne).mp ht)

theorem derives_funcText {params : List String}
    (hparams : ∀ text ∈ params, Derives isName .whole text) {ret : String}
    (hret : Derives isName .whole ret) : Derives isName .simple (funcText params ret) := by
  match params with
  | [] => exact .applied (hwords "js.Function0" (by decide)) (.argument hret)
  | [a] =>
    have hinside : Derives isName .arguments (a ++ ", " ++ ret) :=
      .more (hparams a (by simp)) (.argument hret)
    have hopen : "js.Function1[" = "js.Function1" ++ "[" := rfl
    have htext : "js.Function1[" ++ a ++ ", " ++ ret ++ "]" =
        "js.Function1" ++ "[" ++ (a ++ ", " ++ ret) ++ "]" := by
      rw [hopen]
      simp only [String.append_assoc]
    show Derives isName .simple ("js.Function1[" ++ a ++ ", " ++ ret ++ "]")
    rw [htext]
    exact .applied (hwords "js.Function1" (by decide)) hinside
  | [a, b] =>
    have hinside : Derives isName .arguments (a ++ ", " ++ (b ++ ", " ++ ret)) :=
      .more (hparams a (by simp)) (.more (hparams b (by simp)) (.argument hret))
    have hopen : "js.Function2[" = "js.Function2" ++ "[" := rfl
    have htext : "js.Function2[" ++ a ++ ", " ++ b ++ ", " ++ ret ++ "]" =
        "js.Function2" ++ "[" ++ (a ++ ", " ++ (b ++ ", " ++ ret)) ++ "]" := by
      rw [hopen]
      simp only [String.append_assoc]
    show Derives isName .simple ("js.Function2[" ++ a ++ ", " ++ b ++ ", " ++ ret ++ "]")
    rw [htext]
    exact .applied (hwords "js.Function2" (by decide)) hinside
  | _ :: _ :: _ :: _ => exact .name (hwords "js.Function" (by decide))

end

mutual

/-- A declared type with admitted names becomes a text of its form. -/
theorem TypeExpr.mapped_derives {isName : String → Prop} (hwords : ∀ word ∈ vocabulary, isName word)
    (type : TypeExpr) (h : type.Legible isName) :
    Derives isName type.form type.mapped := by
  match type with
  | .absent => exact .name (hwords anyType (by decide))
  | .unknown => exact .name (hwords anyType (by decide))
  | .keyword name => exact .name (isName_keywordText hwords name)
  | .literal kind text => exact .name (isName_literalText hwords kind text)
  | .ref name args =>
    rw [TypeExpr.Legible] at h
    rw [TypeExpr.mapped]
    exact derives_refText hwords h.1 (mappedTypes_derive hwords args h.2)
  | .array element =>
    rw [TypeExpr.Legible] at h
    rw [TypeExpr.mapped]
    have helement := element.whole_of_form (element.mapped_derives hwords h)
    exact .applied (hwords "js.Array" (by decide)) (.argument helement)
  | .union members =>
    rw [TypeExpr.Legible] at h
    rw [TypeExpr.mapped]
    exact derives_unionText hwords (mappedTypes_derive hwords members h)
  | .inter members =>
    rw [TypeExpr.Legible] at h
    have hmembers := mappedTypes_derive hwords members h.2
    rw [mappedTypes_eq_map] at hmembers
    rw [mapped_inter]
    exact .intercalate (by decide) (distinct_mapped_ne_nil h.1) fun text ht =>
      hmembers text (Text.mem_distinct.mp ht)
  | .func params ret =>
    rw [TypeExpr.Legible] at h
    rw [TypeExpr.mapped]
    apply derives_funcText hwords (mappedParamTypes_derive hwords params h.1)
    split
    · exact .alone (.name (hwords "Unit" (by decide)))
    · exact ret.whole_of_form (ret.mapped_derives hwords h.2)
  | .paren inner =>
    rw [TypeExpr.Legible] at h
    rw [TypeExpr.mapped]
    exact inner.mapped_derives hwords h
  | .object _ => exact .name (hwords anyType (by decide))
  | .keyOf _ => exact .name (hwords "String" (by decide))
  | .unsupported _ => exact .name (hwords anyType (by decide))

theorem mappedTypes_derive {isName : String → Prop} (hwords : ∀ word ∈ vocabulary, isName word)
    (types : List TypeExpr) (h : AllLegible isName types) :
    ∀ text ∈ mappedTypes types, Derives isName .whole text := by
  match types with
  | [] =>
    intro text ht
    cases ht
  | type :: rest =>
    rw [AllLegible] at h
    rw [mappedTypes, List.forall_mem_cons]
    exact ⟨type.whole_of_form (type.mapped_derives hwords h.1), mappedTypes_derive hwords rest h.2⟩

theorem mappedParamTypes_derive {isName : String → Prop} (hwords : ∀ word ∈ vocabulary, isName word)
    (params : List Param) (h : ParamsLegible isName params) :
    ∀ text ∈ mappedParamTypes params, Derives isName .whole text := by
  match params with
  | [] =>
    intro text ht
    cases ht
  | ⟨_, type, _, _⟩ :: rest =>
    rw [ParamsLegible] at h
    rw [mappedParamTypes, List.forall_mem_cons]
    exact ⟨type.whole_of_form (type.mapped_derives hwords h.1),
      mappedParamTypes_derive hwords rest h.2⟩

end

/-! ## Paths -/

/-- A letter, `_` or `$`, and then letters, digits, `_` and `$`. -/
def IsIdent (text : String) : Prop :=
  Name.hasShape Name.isIdentStart Name.isIdentRest text.toList = true

/-- Identifiers with points between them. -/
def IsPath (text : String) : Prop :=
  ∀ segment ∈ Text.segments '.' text, IsIdent segment

instance (text : String) : Decidable (IsIdent text) :=
  inferInstanceAs (Decidable (_ = true))

instance (text : String) : Decidable (IsPath text) :=
  List.decidableBAll IsIdent (Text.segments '.' text)

theorem vocabulary_isPath : ∀ word ∈ vocabulary, IsPath word := by
  decide +kernel

theorem Name.isIdentRest_of_hasShape {chars : List Char}
    (h : Name.hasShape Name.isIdentStart Name.isIdentRest chars = true) :
    ∀ c ∈ chars, Name.isIdentRest c = true := by
  cases chars with
  | nil => simp
  | cons first rest =>
    rw [Name.hasShape, Bool.and_eq_true, List.all_eq_true] at h
    rw [List.forall_mem_cons]
    refine ⟨?_, h.2⟩
    have hstart := h.1
    simp only [Name.isIdentStart, Name.isIdentRest, Char.isAlphanum, Bool.or_eq_true] at hstart ⊢
    tauto

theorem IsIdent.bracketFree {text : String} (h : IsIdent text) : BracketFree text := by
  intro c hc
  have hrest := Name.isIdentRest_of_hasShape h c hc
  constructor <;> rintro rfl <;> exact absurd hrest (by decide)

theorem IsPath.balanced {text : String} (h : IsPath text) : Balanced text := by
  have hpoint : Balanced "." := by decide
  have htext : ".".intercalate (Text.segments '.' text) = text := Text.intercalate_segments rfl text
  rw [← htext]
  exact balanced_intercalate hpoint fun segment hs => (h segment hs).bracketFree.balanced

theorem IsPath.ne_empty {text : String} (h : IsPath text) : text ≠ "" := by
  rintro rfl
  exact absurd h (by decide)

/-! ## The laws -/

/-- A type parameter as it stands between brackets: its name, with the bound that it has. -/
inductive TypeParam.Written : TypeParam → String → Prop where
  | free {name : String} : IsIdent name → TypeParam.Written ⟨name, .absent⟩ name
  | bounded {name text : String} {bound : TypeExpr} : IsIdent name → bound.isAbsent = false →
      Derives IsPath .whole text → TypeParam.Written ⟨name, bound⟩ (name ++ " <: " ++ text)

theorem TypeParam.text_written {param : TypeParam} (hname : IsIdent param.name)
    (hbound : param.bound.Legible IsPath) : param.Written param.text := by
  obtain ⟨name, bound⟩ := param
  unfold TypeParam.text
  cases habsent : bound.isAbsent with
  | true =>
    cases bound with
    | absent => exact .free hname
    | _ => cases habsent
  | false =>
    exact .bounded hname habsent (bound.whole_of_form (bound.mapped_derives vocabulary_isPath hbound))

/-- Every declared type whose names are paths becomes a type of the grammar, which is not empty and
whose brackets match. Type parameters become a list of identifiers, each with its bound. -/
theorem every_type_is_written_in_the_grammar :
    (∀ type : TypeExpr, type.Legible IsPath →
      Derives IsPath .whole type.mapped ∧ type.mapped ≠ "" ∧ Balanced type.mapped) ∧
    (∀ params : List TypeParam, params ≠ [] →
      (∀ param ∈ params, IsIdent param.name ∧ param.bound.Legible IsPath) →
      ∃ texts, List.Forall₂ TypeParam.Written params texts ∧
        typeParamList params = "[" ++ ", ".intercalate texts ++ "]") := by
  constructor
  · intro type h
    have hwhole := type.whole_of_form (type.mapped_derives vocabulary_isPath h)
    exact ⟨hwhole, hwhole.ne_empty fun _ => IsPath.ne_empty, hwhole.balanced fun _ => IsPath.balanced⟩
  · intro params hne h
    refine ⟨params.map TypeParam.text, ?_, ?_⟩
    · rw [List.forall₂_map_right_iff, List.forall₂_same]
      exact fun param hp => TypeParam.text_written (h param hp).1 (h param hp).2
    · unfold typeParamList
      rw [if_neg (by simpa using hne)]
      rfl

/-- An array with a bound beside a function of an intersection, and two type parameters. -/
theorem an_array_beside_a_function_is_written_in_the_grammar :
    let type : TypeExpr :=
      .union [.ref "ReadonlyArray" [.ref "NodeJS.Timer" [], .keyword "this"],
        .func [⟨"x", .inter [.ref "$A" [], .paren (.array .unknown)], false, false⟩] .absent]
    let params : List TypeParam := [⟨"T", .absent⟩, ⟨"U", .ref "Base" [.ref "T" []]⟩]
    type.mapped =
        "js.Array[_ <: NodeJS.Timer, this.type] | js.Function1[$A with js.Array[js.Any], Unit]" ∧
      Derives IsPath .whole type.mapped ∧ Balanced type.mapped ∧
      typeParamList params = "[T, U <: Base[T]]" ∧
      ∃ texts, List.Forall₂ TypeParam.Written params texts ∧
        "[T, U <: Base[T]]" = "[" ++ ", ".intercalate texts ++ "]" := by
  intro type params
  have htype : type.Legible IsPath := by
    refine ⟨⟨by decide, ⟨by decide, trivial⟩, trivial, trivial⟩, ⟨⟨?_, trivial⟩, trivial⟩, trivial⟩
    exact ⟨by simp, ⟨by decide, trivial⟩, trivial, trivial⟩
  have hparams : ∀ param ∈ params, IsIdent param.name ∧ param.bound.Legible IsPath := by
    rw [List.forall_mem_cons, List.forall_mem_singleton]
    exact ⟨⟨by decide, trivial⟩, by decide, by decide, ⟨by decide, trivial⟩, trivial⟩
  obtain ⟨htypes, hlists⟩ := every_type_is_written_in_the_grammar
  obtain ⟨hderives, -, hbalanced⟩ := htypes type htype
  have hlist : typeParamList params = "[T, U <: Base[T]]" := by decide +kernel
  have htexts := hlists params (by simp [params]) hparams
  rw [hlist] at htexts
  exact ⟨by decide +kernel, hderives, hbalanced, hlist, htexts⟩

end Facade
