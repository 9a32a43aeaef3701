-- Rest parameters. A parameter that takes any number of arguments is written with the element type
-- of its array: the text of the type without `js.Array[` at its start and `]` at its end. Where these
-- two belong together, one layer is lost. Where they belong to two arrays with a mark between them,
-- both arrays are torn open, and the brackets of the parameter list do not match.
import Facade.Proofs.CodeLines
import Facade.Proofs.TypeSyntax

namespace Facade

/-! ## The text of an array -/

/-- The text of an array with this inside. -/
def arrayOf (inside : String) : String :=
  "js.Array[" ++ inside ++ "]"

theorem toList_arrayOf (inside : String) :
    (arrayOf inside).toList = "js.Array[".toList ++ (inside.toList ++ [']']) := by
  unfold arrayOf
  rw [String.toList_append, String.toList_append, List.append_assoc]
  rfl

theorem dropStart_append (start rest : List Char) : dropStart start (start ++ rest) = some rest := by
  induction start with
  | nil => rfl
  | cons s start ih => rw [List.cons_append, dropStart, if_pos rfl, ih]

theorem dropFinalLineFeed_eq_self {chars : List Char} (h : '\n' ∉ chars) :
    Name.dropFinalLineFeed chars = chars := by
  unfold Name.dropFinalLineFeed
  split
  · rename_i hlast
    exact absurd (List.mem_of_getLast? (eq_of_beq hlast)) h
  · rfl

theorem elementType_arrayOf {inside : String} (hne : inside ≠ "") (hline : '\n' ∉ inside.toList) :
    elementType (arrayOf inside) = inside := by
  have hbody : '\n' ∉ inside.toList ++ [']'] := by
    simp [hline]
  have hsome : inside.toList ≠ [] := by
    simpa using hne
  unfold elementType
  rw [toList_arrayOf, dropStart_append]
  simp [dropFinalLineFeed_eq_self hbody, hsome, hline]

theorem elementType_eq_self {type : String} (hline : '\n' ∉ type.toList)
    (h : ∀ inside, type ≠ arrayOf inside) : elementType type = type := by
  unfold elementType
  split
  · rfl
  · rename_i body hstart
    have hbody := dropStart_eq_some hstart
    have hfeed : '\n' ∉ body := by
      rw [hbody] at hline
      exact fun hmem => hline (List.mem_append_right _ hmem)
    have hlast : body.getLast? ≠ some ']' := by
      intro hlast
      obtain ⟨front, hfront⟩ := List.getLast?_eq_some_iff.mp hlast
      have hchars : (String.ofList front).toList = front := String.toList_ofList
      apply h (String.ofList front)
      rw [← String.toList_inj, toList_arrayOf, hbody, hfront, hchars]
    simp [dropFinalLineFeed_eq_self hfeed, hlast]

/-! ## Which brackets belong together -/

/-- A name that has characters, and no brackets and line feeds among them. -/
structure IsBareName (name : String) : Prop where
  ne_empty : name ≠ ""
  bracketFree : BracketFree name
  on_one_line : '\n' ∉ name.toList

instance (name : String) : Decidable (IsBareName name) :=
  decidable_of_iff (name ≠ "" ∧ BracketFree name ∧ '\n' ∉ name.toList)
    ⟨fun h => ⟨h.1, h.2.1, h.2.2⟩, fun h => ⟨h.1, h.2, h.3⟩⟩

theorem vocabulary_isBareName : ∀ word ∈ vocabulary, IsBareName word := by
  decide +kernel

/-- Two types with a mark between them. -/
def IsJoined (text : String) : Prop :=
  ∃ mark ∈ typeMarks, ∃ first last, Derives IsBareName .whole first ∧
    Derives IsBareName .simple last ∧ text = first ++ mark ++ last

theorem eq_of_append_eq_append {a b c d : List Char} {mark : Char} (ha : mark ∉ a) (hc : mark ∉ c)
    (h : a ++ mark :: b = c ++ mark :: d) : a = c ∧ b = d := by
  induction a generalizing c with
  | nil =>
    cases c with
    | nil => exact ⟨rfl, (List.cons.inj h).2⟩
    | cons e c => exact absurd ((List.cons.inj h).1 ▸ List.mem_cons_self) hc
  | cons e a ih =>
    cases c with
    | nil => exact absurd ((List.cons.inj h).1 ▸ List.mem_cons_self) ha
    | cons f c =>
      obtain ⟨hef, hrest⟩ := List.cons.inj h
      obtain ⟨hac, hbd⟩ := ih (fun hm => ha (List.mem_cons_of_mem e hm))
        (fun hm => hc (List.mem_cons_of_mem f hm)) hrest
      exact ⟨by rw [hef, hac], hbd⟩

theorem Derives.isBareName_balanced {form : TypeForm} {text : String}
    (h : Derives IsBareName form text) : Balanced text :=
  h.balanced fun _ hname => hname.bracketFree.balanced

theorem arrayOf_inj {a b : String} (h : arrayOf a = arrayOf b) : a = b := by
  rw [← String.toList_inj, toList_arrayOf, toList_arrayOf, List.append_cancel_left_eq,
    List.append_cancel_right_eq, String.toList_inj] at h
  exact h

theorem applied_eq_arrayOf {name a b : String} (hname : BracketFree name)
    (h : name ++ "[" ++ a ++ "]" = arrayOf b) : a = b := by
  have hleft : (name ++ "[" ++ a ++ "]").toList = name.toList ++ '[' :: (a.toList ++ [']']) := by
    simp only [String.toList_append, List.append_assoc]
    rfl
  have hright : (arrayOf b).toList = "js.Array".toList ++ '[' :: (b.toList ++ [']']) :=
    toList_arrayOf b
  rw [← String.toList_inj, hleft, hright] at h
  have hsame := (eq_of_append_eq_append (fun hm => (hname _ hm).1 rfl) (by decide) h).2
  rwa [List.append_cancel_right_eq, String.toList_inj] at hsame

/-- The first and the last bracket of a simple type belong together. -/
theorem Derives.inside_of_simple {text inside : String} (h : Derives IsBareName .simple text)
    (htext : text = arrayOf inside) : Balanced inside ∧ inside ≠ "" := by
  have hname : ∀ name, IsBareName name → name ≠ "" := fun _ => IsBareName.ne_empty
  cases h with
  | name hbare =>
    have hmem : '[' ∈ text.toList := by
      rw [htext, toList_arrayOf]
      exact List.mem_append_left _ (by decide)
    exact absurd rfl (hbare.bracketFree _ hmem).1
  | applied hbare hinside =>
    rw [← applied_eq_arrayOf hbare.bracketFree htext]
    exact ⟨hinside.isBareName_balanced, hinside.ne_empty hname⟩
  | @bounded rest hrest =>
    have hbound : Balanced "_ <: " := by decide
    have harray : "js.Array[_ <: " ++ rest ++ "]" = arrayOf ("_ <: " ++ rest) := by
      unfold arrayOf
      rw [← String.append_assoc]
      rfl
    rw [← arrayOf_inj (harray.symm.trans htext)]
    refine ⟨hbound.append hrest.isBareName_balanced, ?_⟩
    simp [String.append_eq_empty_iff]

/-- A mark never stands inside `js.Array[`, so the first of two types has all of it. -/
theorem exists_of_joined {mark first last inside : String} (hmark : mark ∈ typeMarks)
    (hfirst : Balanced first) (htext : arrayOf inside = first ++ mark ++ last) :
    ∃ body more, first = "js.Array[" ++ body ∧ inside = body ++ more := by
  have hblank : ∃ rest, mark.toList = ' ' :: rest := by
    have hmarks : ∀ m ∈ typeMarks, m.toList.head? = some ' ' := by decide
    exact List.head?_eq_some_iff.mp (hmarks mark hmark)
  obtain ⟨rest, hrest⟩ := hblank
  rw [← String.toList_inj, toList_arrayOf, String.toList_append, String.toList_append,
    List.append_assoc, hrest, List.append_eq_append_iff] at htext
  rcases htext with ⟨body, hbody, hinside⟩ | ⟨body, hbody, hinside⟩
  · have hcut : inside.toList = body ++ (' ' :: rest ++ last.toList).dropLast := by
      rw [← List.dropLast_append_of_ne_nil (by simp), ← hinside, List.dropLast_concat]
    refine ⟨String.ofList body, String.ofList (' ' :: rest ++ last.toList).dropLast, ?_, ?_⟩
    · rw [← String.toList_inj, hbody, String.toList_append, @String.toList_ofList body]
    · rw [← String.toList_inj, hcut, String.toList_append, String.toList_ofList,
        String.toList_ofList]
  · cases body with
    | nil =>
      -- All of `js.Array[` is the first type, which leaves its bracket open.
      rw [List.append_nil, String.toList_inj] at hbody
      rw [← hbody] at hfirst
      exact absurd hfirst (by decide)
    | cons c body =>
      have hc : c = ' ' := (List.cons.inj hinside).1.symm
      have hmem : ' ' ∈ "js.Array[".toList := by
        rw [hbody, hc]
        simp
      exact absurd hmem (by decide)

/-- The first and the last bracket of two types with a mark between them do not belong together. -/
theorem IsJoined.overclosed {inside : String} (h : IsJoined (arrayOf inside)) :
    Overclosed inside := by
  obtain ⟨mark, hmark, first, last, hfirst, -, htext⟩ := h
  have hbalanced := hfirst.isBareName_balanced
  obtain ⟨body, more, hbody, rfl⟩ := exists_of_joined hmark hbalanced htext
  rw [hbody, Balanced, bracketsAfter_append] at hbalanced
  exact (overclosed_of_after hbalanced).append more

/-- An array's inside is balanced, or two types are joined where it seems to stand. -/
theorem Derives.inside_cases {form : TypeForm} {text inside : String}
    (h : Derives IsBareName form text) (hform : form ≠ .arguments) (htext : text = arrayOf inside) :
    (Balanced inside ∧ inside ≠ "") ∨ (IsJoined text ∧ form = .whole) := by
  cases form with
  | simple => exact .inl (h.inside_of_simple htext)
  | whole =>
    cases h with
    | alone hsimple => exact .inl (hsimple.inside_of_simple htext)
    | joined hmark hfirst hlast => exact .inr ⟨⟨_, hmark, _, _, hfirst, hlast, rfl⟩, rfl⟩
  | arguments => exact absurd rfl hform

/-! ## Rest parameters -/

/-- The text of the type starts and ends like an array, with brackets that do not belong together. -/
def TypeExpr.IsTorn (type : TypeExpr) : Prop :=
  ∃ inside, type.mapped = arrayOf inside ∧ ¬Balanced inside

section

variable {type : TypeExpr} (h : type.Legible IsBareName)

include h

theorem TypeExpr.mapped_derives_bare : Derives IsBareName type.form type.mapped :=
  type.mapped_derives vocabulary_isBareName h

theorem TypeExpr.inside_cases {inside : String} (htext : type.mapped = arrayOf inside) :
    (Balanced inside ∧ inside ≠ "") ∨
      (Overclosed inside ∧ IsJoined type.mapped ∧ type.form = .whole) := by
  have hcases := (type.mapped_derives_bare h).inside_cases type.form_ne_arguments htext
  rcases hcases with hin | ⟨hjoined, hform⟩
  · exact .inl hin
  · exact .inr ⟨(htext ▸ hjoined).overclosed, hjoined, hform⟩

theorem TypeExpr.mapped_on_one_line : '\n' ∉ type.mapped.toList :=
  (type.mapped_derives_bare h).on_one_line fun _ => IsBareName.on_one_line

theorem TypeExpr.elementType_of_arrayOf {inside : String} (htext : type.mapped = arrayOf inside) :
    elementType type.mapped = inside := by
  have hline := type.mapped_on_one_line h
  have hne : inside ≠ "" := by
    rcases type.inside_cases h htext with hin | hover
    · exact hin.2
    · rintro rfl
      exact absurd hover.1 (by decide)
  rw [htext] at hline ⊢
  apply elementType_arrayOf hne
  rw [toList_arrayOf] at hline
  exact fun hmem => hline (List.mem_append_right _ (List.mem_append_left _ hmem))

/-- An array is torn exactly where two types are joined. -/
theorem TypeExpr.not_balanced_iff {inside : String} (htext : type.mapped = arrayOf inside) :
    ¬Balanced inside ↔ IsJoined type.mapped := by
  constructor
  · intro hnot
    rcases type.inside_cases h htext with hin | hover
    · exact absurd hin.1 hnot
    · exact hover.2.1
  · intro hjoined
    exact (htext ▸ hjoined).overclosed.not_balanced

theorem TypeExpr.overclosed_of_isTorn (htorn : type.IsTorn) :
    Overclosed (elementType type.mapped) ∧ type.form = .whole := by
  obtain ⟨inside, htext, hnot⟩ := htorn
  rw [type.elementType_of_arrayOf h htext]
  rcases type.inside_cases h htext with hin | hover
  · exact absurd hin.1 hnot
  · exact ⟨hover.1, hover.2.2⟩

theorem TypeExpr.balanced_of_not_isTorn (htorn : ¬type.IsTorn) :
    Balanced (elementType type.mapped) := by
  by_cases harray : ∃ inside, type.mapped = arrayOf inside
  · obtain ⟨inside, htext⟩ := harray
    rw [type.elementType_of_arrayOf h htext]
    by_contra hnot
    exact htorn ⟨inside, htext, hnot⟩
  · rw [elementType_eq_self (type.mapped_on_one_line h) (not_exists.mp harray)]
    exact (type.mapped_derives_bare h).isBareName_balanced

end

theorem Param.text_of_rest {param : Param} (hrest : param.rest = true) :
    param.text = Name.written param.name ++ ": " ++ elementType param.type.mapped ++ "*" := by
  unfold Param.text
  simp only [hrest, if_true]

theorem Balanced.written {name : String} (h : Balanced name) : Balanced (Name.written name) := by
  have hquote : Balanced "`" := by decide
  unfold Name.written
  split
  · exact h
  · exact (hquote.append h).append hquote

theorem Param.balanced_text {param : Param} (hname : Balanced param.name)
    (h : param.type.Legible IsBareName) (htorn : param.rest = true → ¬param.type.IsTorn) :
    Balanced param.text := by
  have hcolon : Balanced ": " := by decide
  have hstar : Balanced "*" := by decide
  have hdefault : Balanced " = ???" := by decide
  have hhead : Balanced (Name.written param.name ++ ": ") := hname.written.append hcolon
  have htype : Balanced param.type.mapped := (param.type.mapped_derives_bare h).isBareName_balanced
  cases hrest : param.rest with
  | true =>
    rw [Param.text_of_rest hrest]
    exact (hhead.append (param.type.balanced_of_not_isTorn h (htorn hrest))).append hstar
  | false =>
    unfold Param.text
    simp only [hrest, Bool.false_eq_true, if_false]
    split
    · exact (hhead.append htype).append hdefault
    · exact hhead.append htype

theorem Param.overclosed_text {param : Param} (hname : Balanced param.name)
    (h : param.type.Legible IsBareName) (hrest : param.rest = true) (htorn : param.type.IsTorn) :
    Overclosed param.text := by
  have hcolon : Balanced ": " := by decide
  rw [Param.text_of_rest hrest]
  exact ((hname.written.append hcolon).append_overclosed
    (param.type.overclosed_of_isTorn h htorn).1).append "*"

/-- The brackets of a parameter list match as long as no rest parameter is torn. -/
theorem balanced_paramList_iff {params : List Param}
    (h : ∀ param ∈ params, param.type.Legible IsBareName)
    (hnames : ∀ param ∈ params, Balanced param.name) :
    Balanced (paramList params) ↔ ∀ param ∈ params, param.rest = true → ¬param.type.IsTorn := by
  have hcomma : Balanced ", " := by decide
  have hcases : ∀ text ∈ params.map Param.text, Balanced text ∨ Overclosed text := by
    intro text ht
    obtain ⟨param, hp, rfl⟩ := List.mem_map.mp ht
    by_cases htorn : param.rest = true ∧ param.type.IsTorn
    · exact .inr (Param.overclosed_text (hnames param hp) (h param hp) htorn.1 htorn.2)
    · exact .inl (Param.balanced_text (hnames param hp) (h param hp) (not_and.mp htorn))
  unfold paramList commaList
  rw [balanced_intercalate_iff hcomma hcases, List.forall_mem_map]
  constructor
  · intro hall param hp hrest htorn
    have hover := Param.overclosed_text (hnames param hp) (h param hp) hrest htorn
    exact hover.not_balanced (hall param hp)
  · intro hall param hp
    exact Param.balanced_text (hnames param hp) (h param hp) (hall param hp)

/-! ## The laws -/

/-- A rest parameter loses the layer of its array, and any other type stays as it is, unless the type
is torn. A torn type is a union or an intersection, its text is made of two types with a mark between
them, and what is left of it closes a bracket too many. A list of parameters is balanced exactly when
no rest parameter in it is torn. -/
theorem a_rest_parameter_loses_one_layer_unless_torn (params : List Param)
    (h : ∀ param ∈ params, param.type.Legible IsBareName) :
    (∀ param ∈ params, param.rest = true → ¬param.type.IsTorn →
      (∀ inside, param.type.mapped = arrayOf inside → Balanced inside →
        param.text = Name.written param.name ++ ": " ++ inside ++ "*") ∧
      ((¬∃ inside, param.type.mapped = arrayOf inside ∧ Balanced inside) →
        param.text = Name.written param.name ++ ": " ++ param.type.mapped ++ "*")) ∧
    (∀ param ∈ params, param.rest = true → param.type.IsTorn →
      ∃ inside, param.type.mapped = arrayOf inside ∧ Overclosed inside ∧
        param.text = Name.written param.name ++ ": " ++ inside ++ "*") ∧
    (∀ param ∈ params, param.type.IsTorn ↔
      (∃ inside, param.type.mapped = arrayOf inside) ∧ IsJoined param.type.mapped) ∧
    (∀ param ∈ params, param.type.IsTorn → param.type.form = .whole) ∧
    ((∀ param ∈ params, Balanced param.name) →
      (Balanced (paramList params) ↔ ∀ param ∈ params, param.rest = true → ¬param.type.IsTorn)) := by
  refine ⟨?_, ?_, ?_, ?_, balanced_paramList_iff h⟩
  · intro param hp hrest htorn
    rw [Param.text_of_rest hrest]
    constructor
    · intro inside htext _
      rw [param.type.elementType_of_arrayOf (h param hp) htext]
    · intro hno
      rw [elementType_eq_self (param.type.mapped_on_one_line (h param hp))]
      intro inside htext
      by_cases hbalanced : Balanced inside
      · exact hno ⟨inside, htext, hbalanced⟩
      · exact htorn ⟨inside, htext, hbalanced⟩
  · intro param hp hrest htorn
    have hover := (param.type.overclosed_of_isTorn (h param hp) htorn).1
    obtain ⟨inside, htext, -⟩ := htorn
    rw [param.type.elementType_of_arrayOf (h param hp) htext] at hover
    rw [Param.text_of_rest hrest, param.type.elementType_of_arrayOf (h param hp) htext]
    exact ⟨inside, htext, hover, rfl⟩
  · intro param hp
    constructor
    · rintro ⟨inside, htext, hnot⟩
      exact ⟨⟨inside, htext⟩, (param.type.not_balanced_iff (h param hp) htext).mp hnot⟩
    · rintro ⟨⟨inside, htext⟩, hjoined⟩
      exact ⟨inside, htext, (param.type.not_balanced_iff (h param hp) htext).mpr hjoined⟩
  · intro param hp htorn
    exact (param.type.overclosed_of_isTorn (h param hp) htorn).2

/-- An array of arrays loses one layer. Two arrays with a mark between them lose the start of the
first and the end of the second, and the brackets of the list do not match. -/
theorem a_union_of_arrays_is_torn_in_a_rest_parameter :
    let rows : Param := ⟨"rows", .array (.array (.keyword "string")), false, true⟩
    let pairs : Param :=
      ⟨"pairs", .paren (.union [.array (.ref "A" []), .array (.ref "B" [])]), false, true⟩
    rows.text = "rows: js.Array[String]*" ∧ pairs.type.IsTorn ∧
      pairs.text = "pairs: A] | js.Array[B*" ∧ ¬Balanced (paramList [rows, pairs]) := by
  intro rows pairs
  have hlegible : ∀ param ∈ [rows, pairs], param.type.Legible IsBareName := by
    rw [List.forall_mem_cons, List.forall_mem_singleton]
    exact ⟨trivial, ⟨by decide, trivial⟩, ⟨by decide, trivial⟩, trivial⟩
  have hnames : ∀ param ∈ [rows, pairs], Balanced param.name := by
    rw [List.forall_mem_cons, List.forall_mem_singleton]
    exact ⟨by decide, by decide⟩
  have hrows : rows.type.mapped = arrayOf "js.Array[String]" := by decide
  have hpairs : pairs.type.mapped = arrayOf "A] | js.Array[B" := by decide
  have huntorn : ¬rows.type.IsTorn := by
    rintro ⟨inside, htext, hnot⟩
    rw [arrayOf_inj (hrows.symm.trans htext).symm] at hnot
    exact hnot (by decide)
  have htorn : pairs.type.IsTorn := ⟨_, hpairs, by decide⟩
  obtain ⟨hlayer, hopen, -, -, hlist⟩ :=
    a_rest_parameter_loses_one_layer_unless_torn [rows, pairs] hlegible
  refine ⟨?_, htorn, ?_, fun hbalanced => ?_⟩
  · rw [(hlayer rows (by simp) rfl huntorn).1 _ hrows (by decide)]
    decide
  · obtain ⟨inside, htext, -, hshown⟩ := hopen pairs (by simp) rfl htorn
    rw [hshown, arrayOf_inj (hpairs.symm.trans htext).symm]
    decide
  · exact (hlist hnames).mp hbalanced pairs (by simp) rfl htorn

end Facade
