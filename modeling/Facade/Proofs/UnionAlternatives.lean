-- The alternatives that a union shows: each type of its members, and nothing else. A union of
-- literals of one type shows that type alone, and a type beside `null` and `undefined` goes first.
-- An intersection shows each type of its members once.
import Facade.TypeMapping
import Facade.Proofs.Text
import Mathlib.Data.List.Perm.Basic
import Mathlib.Tactic.SplitIfs
import Mathlib.Tactic.Tauto

namespace Facade

/-! ## The model -/

theorem mappedTypes_eq_map (types : List TypeExpr) :
    mappedTypes types = types.map TypeExpr.mapped := by
  induction types with
  | nil => rfl
  | cons type rest ih => rw [mappedTypes, ih, List.map_cons]

/-- The alternatives that a union of these members shows. -/
def shownAlternatives (members : List TypeExpr) : List String :=
  unionAlternatives members (mappedTypes members)

theorem mapped_union (members : List TypeExpr) :
    (TypeExpr.union members).mapped = " | ".intercalate (shownAlternatives members) := by
  rw [TypeExpr.mapped, unionText, shownAlternatives]

/-- The members have three types: `Null`, `Unit` and a third one. -/
structure IsNullable (third : String) (members : List TypeExpr) : Prop where
  ne_null : third ≠ "Null"
  ne_unit : third ≠ "Unit"
  types : ∀ text, text ∈ members.map TypeExpr.mapped ↔ text ∈ [third, "Null", "Unit"]

/-- Some members are string literals and some are not. -/
def MixesStrings (members : List TypeExpr) : Prop :=
  (∃ member ∈ members, member.isLiteral .string) ∧ ∃ member ∈ members, !member.isLiteral .string

/-! ## Literals -/

theorem TypeExpr.mapped_of_isLiteral {type : TypeExpr} {kind : LiteralKind}
    (h : type.isLiteral kind = true) : type.mapped = Facade.literalText kind type.literalText := by
  cases type with
  | literal own text =>
    rw [TypeExpr.isLiteral, beq_iff_eq] at h
    subst h
    rw [TypeExpr.mapped, TypeExpr.literalText]
  | _ => cases h

theorem mapped_of_all_literal {kind : LiteralKind} {text : String} {members : List TypeExpr}
    (hkind : ∀ member ∈ members, member.isLiteral kind = true)
    (htext : ∀ member ∈ members, literalText kind member.literalText = text) :
    ∀ member ∈ members, member.mapped = text := by
  intro member hm
  rw [TypeExpr.mapped_of_isLiteral (hkind member hm), htext member hm]

/-! ## Three types -/

theorem perm_of_three {texts : List String} (hnodup : texts.Nodup) (hnull : "Null" ∈ texts)
    (hunit : "Unit" ∈ texts) (hlength : texts.length = 3) :
    ∃ third, third ≠ "Null" ∧ third ≠ "Unit" ∧ texts.Perm [third, "Null", "Unit"] := by
  have hunit' : "Unit" ∈ texts.erase "Null" :=
    (List.mem_erase_of_ne (by decide)).mpr hunit
  have hperm : texts.Perm ("Null" :: "Unit" :: (texts.erase "Null").erase "Unit") :=
    (List.perm_cons_erase hnull).trans ((List.perm_cons_erase hunit').cons "Null")
  have hrest : ((texts.erase "Null").erase "Unit").length = 1 := by
    have hcount := hperm.length_eq
    simp only [List.length_cons] at hcount
    omega
  obtain ⟨third, hthird⟩ := List.length_eq_one_iff.mp hrest
  rw [hthird] at hperm
  have hlast : texts.Perm [third, "Null", "Unit"] :=
    hperm.trans (@List.perm_append_comm _ ["Null", "Unit"] [third])
  have hfresh := hlast.nodup_iff.mp hnodup
  simp only [List.nodup_cons, List.mem_cons, not_or] at hfresh
  exact ⟨third, hfresh.1.1, hfresh.1.2.1, hlast⟩

/-- What stands beside `Null` and `Unit` when there are three. -/
theorem filter_of_perm {texts : List String} {third : String} (hnull : third ≠ "Null")
    (hunit : third ≠ "Unit") (hperm : texts.Perm [third, "Null", "Unit"]) :
    texts.filter (fun t => t != "Null" && t != "Unit") = [third] := by
  have hfilter := hperm.filter (fun t => t != "Null" && t != "Unit")
  have hthird : [third, "Null", "Unit"].filter (fun t => t != "Null" && t != "Unit") = [third] := by
    simp [hnull, hunit]
  rw [hthird] at hfilter
  exact List.perm_singleton.mp hfilter

theorem IsNullable.perm {third : String} {members : List TypeExpr} (h : IsNullable third members) :
    (Text.distinct (members.map TypeExpr.mapped)).Perm [third, "Null", "Unit"] := by
  have hnodup : [third, "Null", "Unit"].Nodup := by
    simp [h.ne_null, h.ne_unit]
  rw [List.perm_ext_iff_of_nodup (Text.distinct_nodup _) hnodup]
  intro text
  rw [Text.mem_distinct, h.types]

theorem isNullable_of_perm {third : String} {members : List TypeExpr} (hnull : third ≠ "Null")
    (hunit : third ≠ "Unit")
    (hperm : (Text.distinct (members.map TypeExpr.mapped)).Perm [third, "Null", "Unit"]) :
    IsNullable third members := by
  refine ⟨hnull, hunit, fun text => ?_⟩
  rw [← Text.mem_distinct, hperm.mem_iff]

/-- The check for three types finds those members and no others. -/
theorem isNullable_iff (members : List TypeExpr) :
    let types := Text.distinct (members.map TypeExpr.mapped)
    (types.contains "Null" && types.contains "Unit" && types.length == 3) = true ↔
      ∃ third, IsNullable third members := by
  intro types
  simp only [Bool.and_eq_true, List.contains_iff_mem, beq_iff_eq]
  constructor
  · rintro ⟨⟨hnull, hunit⟩, hlength⟩
    obtain ⟨third, hn, hu, hperm⟩ := perm_of_three (Text.distinct_nodup _) hnull hunit hlength
    exact ⟨third, isNullable_of_perm hn hu hperm⟩
  · rintro ⟨third, h⟩
    refine ⟨⟨?_, ?_⟩, h.perm.length_eq⟩
    · exact h.perm.mem_iff.mpr (by simp)
    · exact h.perm.mem_iff.mpr (by simp)

/-! ## The rules in turn -/

theorem map_snd_filter_zip (members : List TypeExpr) :
    ((members.zip (members.map TypeExpr.mapped)).filter (!·.1.isLiteral .string)).map (·.2) =
      (members.filter (!·.isLiteral .string)).map TypeExpr.mapped := by
  induction members with
  | nil => rfl
  | cons member rest ih =>
    rw [List.map_cons, List.zip_cons_cons, List.filter_cons, List.filter_cons]
    split
    · rw [List.map_cons, List.map_cons, ih]
    · exact ih

/-- A union shows the one type that all members have, or `Null` and `Unit` after a third type, or
the type of strings before the types of the other members, or each type once. -/
theorem shownAlternatives_cases (members : List TypeExpr) :
    (∃ text, (∀ member ∈ members, member.mapped = text) ∧ shownAlternatives members = [text]) ∨
    (∃ third, IsNullable third members ∧ shownAlternatives members = [third, "Null", "Unit"]) ∨
    ((¬∃ third, IsNullable third members) ∧ MixesStrings members ∧
      shownAlternatives members =
        "String" :: (members.filter (!·.isLiteral .string)).map TypeExpr.mapped) ∨
    ((¬∃ third, IsNullable third members) ∧
      shownAlternatives members = Text.distinct (members.map TypeExpr.mapped)) := by
  unfold shownAlternatives unionAlternatives
  rw [mappedTypes_eq_map, map_snd_filter_zip]
  dsimp only
  split_ifs with hstrings hwhole hfractional hnullable hsome
  · rw [List.all_eq_true] at hstrings
    exact .inl ⟨_, mapped_of_all_literal hstrings fun _ _ => rfl, rfl⟩
  · rw [Bool.and_eq_true, List.all_map, List.all_eq_true, List.all_eq_true] at hwhole
    refine .inl ⟨_, mapped_of_all_literal hwhole.1 fun member hm => ?_, rfl⟩
    have hpoint : isFractional member.literalText = false := by simpa using hwhole.2 member hm
    simp [literalText, hpoint]
  · rw [Bool.and_eq_true, List.all_map, List.all_eq_true, List.all_eq_true] at hfractional
    refine .inl ⟨_, mapped_of_all_literal hfractional.1 fun member hm => ?_, rfl⟩
    have hpoint : isFractional member.literalText = true := by simpa using hfractional.2 member hm
    simp [literalText, hpoint]
  · obtain ⟨third, h⟩ := (isNullable_iff members).mp hnullable
    refine .inr (.inl ⟨third, h, ?_⟩)
    rw [filter_of_perm h.ne_null h.ne_unit h.perm]
    rfl
  · refine .inr (.inr (.inl ⟨fun h => hnullable ((isNullable_iff members).mpr h), ?_, rfl⟩))
    rw [List.any_eq_true] at hsome
    rw [List.all_eq_true] at hstrings
    exact ⟨hsome, by simpa using hstrings⟩
  · exact .inr (.inr (.inr ⟨fun h => hnullable ((isNullable_iff members).mpr h), rfl⟩))

/-! ## What follows from the rules -/

/-- The alternatives are the types of the members. -/
theorem mem_shownAlternatives {members : List TypeExpr} (hne : members ≠ []) {text : String} :
    text ∈ shownAlternatives members ↔ text ∈ members.map TypeExpr.mapped := by
  rcases shownAlternatives_cases members with
    ⟨only, hall, h⟩ | ⟨third, hthird, h⟩ | ⟨-, hmix, h⟩ | ⟨-, h⟩
  · obtain ⟨first, hfirst⟩ := List.exists_mem_of_ne_nil members hne
    rw [h, List.mem_singleton, List.mem_map]
    constructor
    · rintro rfl
      exact ⟨first, hfirst, hall first hfirst⟩
    · rintro ⟨member, hm, rfl⟩
      exact hall member hm
  · rw [h, hthird.types]
  · obtain ⟨⟨literal, hliteral, hstring⟩, -⟩ := hmix
    have hword : literal.mapped = "String" := TypeExpr.mapped_of_isLiteral hstring
    rw [h, List.mem_cons, List.mem_map, List.mem_map]
    constructor
    · rintro (rfl | ⟨member, hm, rfl⟩)
      · exact ⟨literal, hliteral, hword⟩
      · exact ⟨member, (List.mem_filter.mp hm).1, rfl⟩
    · rintro ⟨member, hm, rfl⟩
      cases hs : member.isLiteral .string with
      | true => exact .inl (TypeExpr.mapped_of_isLiteral hs)
      | false => exact .inr ⟨member, List.mem_filter.mpr ⟨hm, by rw [hs]; rfl⟩, rfl⟩
  · rw [h, Text.mem_distinct]

theorem shownAlternatives_ne_nil (members : List TypeExpr) : shownAlternatives members ≠ [] := by
  cases members with
  | nil => simp [shownAlternatives, unionAlternatives]
  | cons first rest =>
    apply List.ne_nil_of_mem
    exact (mem_shownAlternatives (List.cons_ne_nil first rest)).mpr List.mem_cons_self

/-- Only strings beside other types are shown more than once. -/
theorem shownAlternatives_nodup {members : List TypeExpr}
    (h : ¬(MixesStrings members ∧ ¬∃ third, IsNullable third members)) :
    (shownAlternatives members).Nodup := by
  rcases shownAlternatives_cases members with
    ⟨only, -, hs⟩ | ⟨third, hthird, hs⟩ | ⟨hno, hmix, -⟩ | ⟨-, hs⟩
  · rw [hs]
    exact List.pairwise_singleton _ only
  · rw [hs]
    exact hthird.perm.nodup_iff.mp (Text.distinct_nodup _)
  · exact absurd ⟨hmix, hno⟩ h
  · rw [hs]
    exact Text.distinct_nodup _

theorem IsNullable.shownAlternatives_eq {third : String} {members : List TypeExpr}
    (h : IsNullable third members) : shownAlternatives members = [third, "Null", "Unit"] := by
  rcases shownAlternatives_cases members with
    ⟨only, hall, -⟩ | ⟨other, hother, hs⟩ | ⟨hno, -⟩ | ⟨hno, -⟩
  · -- All members have one type, and `Null` and `Unit` are two.
    have hsame {text : String} (ht : text ∈ [third, "Null", "Unit"]) : text = only := by
      obtain ⟨member, hm, rfl⟩ := List.mem_map.mp ((h.types text).mpr ht)
      exact hall member hm
    exact absurd ((hsame (by simp)).trans (hsame (by simp)).symm) h.ne_null
  · have hthird : third ∈ [other, "Null", "Unit"] :=
      (hother.types third).mp ((h.types third).mpr (by simp))
    simp only [List.mem_cons, List.not_mem_nil, or_false, h.ne_null, h.ne_unit] at hthird
    rw [hs, hthird]
  · exact absurd ⟨third, h⟩ hno
  · exact absurd ⟨third, h⟩ hno

/-! ## Intersections -/

theorem mapped_inter (members : List TypeExpr) : (TypeExpr.inter members).mapped =
    " with ".intercalate (Text.distinct (members.map TypeExpr.mapped)) := by
  rw [TypeExpr.mapped, interText, mappedTypes_eq_map]

theorem distinct_mapped_ne_nil {members : List TypeExpr} (hne : members ≠ []) :
    Text.distinct (members.map TypeExpr.mapped) ≠ [] := by
  obtain ⟨first, hfirst⟩ := List.exists_mem_of_ne_nil members hne
  exact List.ne_nil_of_mem (Text.mem_distinct.mpr (List.mem_map_of_mem hfirst))

/-! ## The laws -/

/-- A union shows the types of its members and no others. One of them is shown again only where
string literals stand beside other types. `Null` and `Unit` beside a third type stand after it. The
order of the members has no say in which alternatives there are. -/
theorem a_union_shows_the_types_of_its_members {members : List TypeExpr} (hne : members ≠ []) :
    (TypeExpr.union members).mapped = " | ".intercalate (shownAlternatives members) ∧
    (∀ text, text ∈ shownAlternatives members ↔ text ∈ members.map TypeExpr.mapped) ∧
    ((shownAlternatives members).Nodup ∨
      MixesStrings members ∧ ¬∃ third, IsNullable third members) ∧
    (∀ third, IsNullable third members →
      shownAlternatives members = [third, "Null", "Unit"]) ∧
    (∀ others, members.Perm others →
      ∀ text, text ∈ shownAlternatives others ↔ text ∈ shownAlternatives members) := by
  refine ⟨mapped_union members, fun _ => mem_shownAlternatives hne, ?_,
    fun _ => IsNullable.shownAlternatives_eq, fun others hperm text => ?_⟩
  · by_cases hmix : MixesStrings members ∧ ¬∃ third, IsNullable third members
    · exact .inr hmix
    · exact .inl (shownAlternatives_nodup hmix)
  · have hothers : others ≠ [] := fun h => hne (List.perm_nil.mp (h ▸ hperm))
    rw [mem_shownAlternatives hothers, mem_shownAlternatives hne, (hperm.map _).mem_iff]

/-- Strings, literal and not, beside `null` and `undefined`: of the rules for literals and for three
types the second one is taken, and each type is shown once. -/
theorem strings_beside_null_and_undefined_are_shown_once :
    let members : List TypeExpr :=
      [.literal .string "'a'", .keyword "null", .keyword "string", .literal .undefined "undefined"]
    MixesStrings members ∧ IsNullable "String" members ∧
      (TypeExpr.union members).mapped = "String | Null | Unit" ∧
      ∀ text, text ∈ shownAlternatives members.reverse ↔ text ∈ ["String", "Null", "Unit"] := by
  intro members
  have hne : members ≠ [] := by simp [members]
  have hnullable : IsNullable "String" members := by
    refine ⟨by decide, by decide, fun text => ?_⟩
    have htypes : members.map TypeExpr.mapped = ["String", "Null", "String", "Unit"] := by decide
    rw [htypes]
    simp only [List.mem_cons, List.not_mem_nil, or_false]
    tauto
  obtain ⟨htext, -, -, hthree, horder⟩ := a_union_shows_the_types_of_its_members hne
  refine ⟨⟨by decide, by decide⟩, hnullable, ?_, fun text => ?_⟩
  · rw [htext, hthree "String" hnullable]
    decide
  · rw [horder members.reverse members.reverse_perm.symm, hthree "String" hnullable]

end Facade
