-- The lines of a facade as lines of code. Each starts at the left edge of its block, and where
-- the names of the tree have no braces, the only braces are those that a block is made with.
import Facade.Proofs.BraceFree
import Facade.Text.Blank

namespace Facade

/-! ## Lines -/

/-- A text without braces and line feeds, whose first character passes a test. -/
def Begins (test : Char → Bool) (text : String) : Prop :=
  BraceFree text ∧ text.toList.head?.any test = true

instance (test : Char → Bool) (text : String) : Decidable (Begins test text) :=
  inferInstanceAs (Decidable (BraceFree text ∧ text.toList.head?.any test = true))

theorem Begins.exists_cons {test : Char → Bool} {text : String} (h : Begins test text) :
    ∃ c rest, text.toList = c :: rest ∧ test c = true := by
  have hstart := h.2
  cases hchars : text.toList with
  | nil => simp [hchars] at hstart
  | cons c rest => exact ⟨c, rest, rfl, by simpa [hchars] using hstart⟩

theorem Begins.append {test : Char → Bool} {a b : String} (ha : Begins test a)
    (hb : BraceFree b) : Begins test (a ++ b) := by
  obtain ⟨c, rest, hchars, hc⟩ := ha.exists_cons
  refine ⟨ha.1.append hb, ?_⟩
  rw [String.toList_append, hchars]
  exact hc

/-- A character that leaves a mark. -/
def isInk (c : Char) : Bool :=
  !Text.isBlank c

/-- A line of code. -/
def CodeLine (text : String) : Prop :=
  Begins isInk text

instance (text : String) : Decidable (CodeLine text) :=
  inferInstanceAs (Decidable (Begins isInk text))

theorem CodeLine.exists_cons {text : String} (h : CodeLine text) :
    ∃ c rest, text.toList = c :: rest ∧ c ≠ ' ' := by
  obtain ⟨c, rest, hchars, hc⟩ := Begins.exists_cons h
  refine ⟨c, rest, hchars, ?_⟩
  rintro rfl
  exact absurd hc (by decide)

/-- Lines of code. -/
def CodeLines (lines : List String) : Prop :=
  ∀ line ∈ lines, CodeLine line

theorem codeLines_nil : CodeLines [] := by
  intro line hl
  cases hl

theorem codeLines_singleton {line : String} (h : CodeLine line) : CodeLines [line] := by
  intro text ht
  rwa [List.mem_singleton.mp ht]

theorem codeLines_append {xs ys : List String} (hx : CodeLines xs) (hy : CodeLines ys) :
    CodeLines (xs ++ ys) :=
  List.forall_mem_append.mpr ⟨hx, hy⟩

theorem codeLines_flatMap {α : Type} {items : List α} {f : α → List String}
    (h : ∀ item ∈ items, CodeLines (f item)) : CodeLines (items.flatMap f) := by
  intro line hl
  obtain ⟨item, hi, hl⟩ := List.mem_flatMap.mp hl
  exact h item hi line hl

/-! ## Parameters -/

theorem dropStart_eq_some {start chars body : List Char} (h : dropStart start chars = some body) :
    chars = start ++ body := by
  fun_induction dropStart start chars with
  | case1 chars => simpa using h
  | case2 => cases h
  | case3 s start chars ih => rw [ih h, List.cons_append]
  | case4 => cases h

theorem mem_of_mem_dropFinalLineFeed {c : Char} {chars : List Char}
    (h : c ∈ Name.dropFinalLineFeed chars) : c ∈ chars := by
  unfold Name.dropFinalLineFeed at h
  split at h
  · exact List.dropLast_subset chars h
  · exact h

theorem braceFree_elementType {type : String} (h : BraceFree type) :
    BraceFree (elementType type) := by
  unfold elementType
  split
  · exact h
  · rename_i body hbody
    dsimp only
    split
    · rw [braceFree_ofList]
      intro c hc
      apply h c
      rw [dropStart_eq_some hbody]
      exact List.mem_append_right _ (mem_of_mem_dropFinalLineFeed (List.dropLast_subset _ hc))
    · exact h

theorem Param.text_braceFree {param : Param} (hname : BraceFree param.name)
    (htype : BraceFree param.type.mapped) : BraceFree param.text := by
  have hstart : BraceFree (Name.written param.name ++ ": ") :=
    (braceFree_written hname).append (by decide)
  unfold Param.text
  dsimp only
  split
  · exact (hstart.append (braceFree_elementType htype)).append (by decide)
  · split
    · exact (hstart.append htype).append (by decide)
    · exact hstart.append htype

theorem braceFree_paramList {params : List Param} (h : AllBraceFree (namesOfParams params)) :
    BraceFree (paramList params) := by
  apply braceFree_commaList
  induction params with
  | nil => exact allBraceFree_nil
  | cons param rest ih =>
    obtain ⟨name, type, optional, rest'⟩ := param
    rw [namesOfParams, allBraceFree_append, allBraceFree_cons] at h
    rw [List.map_cons, allBraceFree_cons]
    exact ⟨Param.text_braceFree h.1.1 (TypeExpr.mapped_braceFree type h.1.2), ih h.2⟩

theorem TypeParam.text_braceFree {param : TypeParam} (hname : BraceFree param.name)
    (hbound : BraceFree param.bound.mapped) : BraceFree param.text := by
  unfold TypeParam.text
  split
  · exact hname
  · exact (hname.append (by decide)).append hbound

theorem braceFree_typeParamList {params : List TypeParam}
    (h : AllBraceFree (namesOfTypeParams params)) : BraceFree (typeParamList params) := by
  have htexts : AllBraceFree (params.map TypeParam.text) := by
    induction params with
    | nil => exact allBraceFree_nil
    | cons param rest ih =>
      obtain ⟨name, bound⟩ := param
      rw [namesOfTypeParams, allBraceFree_append, allBraceFree_cons] at h
      rw [List.map_cons, allBraceFree_cons]
      exact ⟨TypeParam.text_braceFree h.1.1 (TypeExpr.mapped_braceFree bound h.1.2), ih h.2⟩
  unfold typeParamList
  split
  · decide
  · exact (BraceFree.append (by decide) (braceFree_commaList htexts)).append (by decide)

theorem braceFree_mappedReturn {ret : TypeExpr} (h : AllBraceFree ret.names) {default : String}
    (hd : BraceFree default) : BraceFree (ret.mappedReturn default) := by
  unfold TypeExpr.mappedReturn
  split
  · exact hd
  · exact TypeExpr.mapped_braceFree ret h

theorem braceFree_signatureText {typeParams : List TypeParam} {params : List Param} {ret : String}
    (htypeParams : AllBraceFree (namesOfTypeParams typeParams))
    (hparams : AllBraceFree (namesOfParams params)) (hret : BraceFree ret) :
    BraceFree (signatureText typeParams params ret) :=
  ((((braceFree_typeParamList htypeParams).append (by decide)).append
    (braceFree_paramList hparams)).append (by decide)).append hret

/-! ## Members -/

theorem Place.binding_braceFree (place : Place) : BraceFree place.binding := by
  cases place <;> decide

theorem Place.defaultReturn_braceFree (place : Place) : BraceFree place.defaultReturn := by
  cases place <;> decide

theorem bindingWord_codeLine (readonly : Bool) (place : Place) :
    CodeLine (bindingWord readonly place ++ " ") := by
  cases readonly <;> cases place <;> decide

theorem braceFree_setterType {params : List Param} (h : AllBraceFree (namesOfParams params)) :
    BraceFree (setterType params) := by
  cases params with
  | nil => decide
  | cons param rest =>
    obtain ⟨name, type, optional, rest'⟩ := param
    rw [namesOfParams, allBraceFree_append, allBraceFree_cons] at h
    exact TypeExpr.mapped_braceFree type h.1.2

theorem codeLines_indexLines {keyName : String} {keyType valueType : TypeExpr}
    (hname : BraceFree keyName) (hkey : AllBraceFree keyType.names)
    (hvalue : AllBraceFree valueType.names) (readonly : Bool) :
    CodeLines (indexLines keyName keyType valueType readonly) := by
  have hkey : BraceFree (Name.written keyName ++ ": " ++ keyType.mapped) :=
    ((braceFree_written hname).append (by decide)).append (TypeExpr.mapped_braceFree keyType hkey)
  have hvalue : BraceFree valueType.mapped := TypeExpr.mapped_braceFree valueType hvalue
  have hmark : CodeLine "@JSBracketAccess" := by decide
  have hread : CodeLine ("def apply(" ++ (Name.written keyName ++ ": " ++ keyType.mapped) ++ "): "
      ++ valueType.mapped ++ fromPlatform) :=
    (((Begins.append (by decide) hkey).append (by decide)).append hvalue).append (by decide)
  have hwrite : CodeLine ("def update(" ++ (Name.written keyName ++ ": " ++ keyType.mapped)
      ++ ", v: " ++ valueType.mapped ++ "): Unit" ++ fromPlatform) :=
    ((((Begins.append (by decide) hkey).append (by decide)).append hvalue).append
      (by decide)).append (by decide)
  have hreads := codeLines_append (codeLines_singleton hmark) (codeLines_singleton hread)
  unfold indexLines
  dsimp only
  split
  · exact hreads
  · exact codeLines_append hreads
      (codeLines_append (codeLines_singleton hmark) (codeLines_singleton hwrite))

/-- The lines of a member are lines of code, in every place. -/
theorem Member.lines_code {member : Member} (h : AllBraceFree member.names) (place : Place) :
    CodeLines (member.lines place) := by
  have hbinding := place.binding_braceFree
  unfold Member.lines
  split
  · rename_i name type readonly _ _
    rw [Member.names, allBraceFree_cons] at h
    apply codeLines_singleton
    exact ((((bindingWord_codeLine readonly place).append (braceFree_written h.1)).append
      (by decide)).append (TypeExpr.mapped_braceFree type h.2)).append hbinding
  · rw [Member.names, allBraceFree_append, allBraceFree_append, allBraceFree_cons] at h
    apply codeLines_singleton
    exact (((Begins.append (by decide) (braceFree_written h.1.1.1)).append (by decide)).append
      (braceFree_mappedReturn h.2 (by decide))).append hbinding
  · rw [Member.names, allBraceFree_append, allBraceFree_append, allBraceFree_cons] at h
    apply codeLines_singleton
    exact ((((Begins.append (by decide) (braceFree_setter h.1.1.1)).append (by decide)).append
      (braceFree_setterType h.1.2)).append (by decide)).append hbinding
  · rename_i name typeParams params ret _ _ _ _ _
    rw [Member.names, allBraceFree_append, allBraceFree_append, allBraceFree_cons] at h
    have hword : CodeLine ((if inheritedMethods.contains name then "override " else "")
        ++ "def ") := by
      split <;> decide
    apply codeLines_singleton
    exact ((hword.append (braceFree_written h.1.1.1)).append (braceFree_signatureText h.1.1.2 h.1.2
      (braceFree_mappedReturn h.2 place.defaultReturn_braceFree))).append hbinding
  · rw [Member.names, allBraceFree_append, allBraceFree_cons] at h
    exact codeLines_indexLines h.1.1 h.1.2 h.2 _
  · rw [Member.names, allBraceFree_append, allBraceFree_append] at h
    apply codeLines_singleton
    exact (Begins.append (by decide) (braceFree_signatureText h.1.1 h.1.2
      (braceFree_mappedReturn h.2 (by decide)))).append (by decide)
  · exact codeLines_nil
  · exact codeLines_nil
  · exact codeLines_nil

theorem Member.render_code {member : Member} (h : AllBraceFree member.names) (place : Place) :
    CodeLines (member.render place) := by
  unfold Member.render
  split
  · exact Member.lines_code h place
  · exact codeLines_nil

theorem allBraceFree_names_of_mem {members : List Member}
    (h : AllBraceFree (namesOfMembers members)) {member : Member} (hm : member ∈ members) :
    AllBraceFree member.names := by
  induction members with
  | nil => cases hm
  | cons first rest ih =>
    rw [namesOfMembers, allBraceFree_append] at h
    rcases List.mem_cons.mp hm with rfl | hm
    · exact h.1
    · exact ih h.2 hm

theorem nestedPropertyLine_code {name owner : String} (hname : BraceFree name)
    (howner : BraceFree owner) (readonly : Bool) :
    CodeLine (nestedPropertyLine name readonly owner) := by
  have hword : CodeLine ((if readonly then "def" else "var") ++ " ") := by
    cases readonly <;> decide
  exact (((((hword.append (braceFree_written hname)).append (by decide)).append howner).append
    (by decide)).append (braceFree_nestedTrait hname)).append (by decide)

theorem Member.traitLines_code {member : Member} (h : AllBraceFree member.names) {owner : String}
    (howner : BraceFree owner) : CodeLines (member.traitLines owner) := by
  unfold Member.traitLines
  split
  · rw [Member.names, allBraceFree_cons] at h
    exact codeLines_singleton (nestedPropertyLine_code h.1 howner _)
  · exact Member.render_code h .trait

end Facade
