-- What unions and intersections mean. A type made of names stands for a set, once each name does, and
-- so does its text. Since no parentheses are written, a union inside of an intersection is read in
-- pieces. A text never stands for less than its type, and for the same set wherever no such union is
-- written.
import Facade.Proofs.BraceFree
import Facade.Proofs.SumTexts
import Facade.Proofs.TypeSyntax
import Mathlib.Data.List.Nodup
import Mathlib.Data.List.Pairwise

namespace Facade

/-! ## Types made of names -/

/-- A type made of names, unions, intersections and parentheses. No name has a facade type of its
own. -/
inductive IsCombination : TypeExpr → Prop where
  | name {name : String} : IsWord name → libraryTypes.lookup name = none →
      IsCombination (.ref name [])
  | union {members : List TypeExpr} : members ≠ [] → (∀ member ∈ members, IsCombination member) →
      IsCombination (.union members)
  | inter {members : List TypeExpr} : members ≠ [] → (∀ member ∈ members, IsCombination member) →
      IsCombination (.inter members)
  | paren {inner : TypeExpr} : IsCombination inner → IsCombination (.paren inner)

theorem Name.mem_dropFinalLineFeed {c : Char} {chars : List Char} (hc : c ≠ '\n') (h : c ∈ chars) :
    c ∈ Name.dropFinalLineFeed chars := by
  unfold Name.dropFinalLineFeed
  split
  · rename_i hlast
    obtain ⟨front, rfl⟩ := List.getLast?_eq_some_iff.mp (eq_of_beq hlast)
    rw [List.dropLast_concat]
    simpa [hc] using h
  · exact h

/-- A name that is written without backticks is a word. -/
theorem isWord_of_isPlain {name : String} (h : Name.isPlain name = true) : IsWord name := by
  rw [Name.isPlain, Bool.and_eq_true, Name.isIdentifier] at h
  have hrest := Name.isIdentRest_of_hasShape h.2
  refine ⟨?_, fun hblank => ?_, fun hbar => ?_⟩
  · rintro rfl
    exact absurd h.2 (by decide)
  · exact absurd (hrest _ (Name.mem_dropFinalLineFeed (by decide) hblank)) (by decide)
  · exact absurd (hrest _ (Name.mem_dropFinalLineFeed (by decide) hbar)) (by decide)

theorem isCombination_of_isPlain {name : String} (h : Name.isPlain name = true)
    (hown : libraryTypes.lookup name = none) : IsCombination (.ref name []) :=
  .name (isWord_of_isPlain h) hown

section

variable {a b : TypeExpr} (ha : IsCombination a) (hb : IsCombination b)

include ha hb

theorem isCombination_union_pair : IsCombination (.union [a, b]) :=
  .union (by simp) (by simp [ha, hb])

theorem isCombination_inter_pair : IsCombination (.inter [a, b]) :=
  .inter (by simp) (by simp [ha, hb])

end

mutual

/-- The set that a type stands for when each name stands for one. -/
def TypeExpr.denoted {α : Type} (sets : String → Set α) : TypeExpr → Set α
  | .ref name _ => sets name
  | .union members => someDenoted sets members
  | .inter members => allDenoted sets members
  | .paren inner => inner.denoted sets
  | _ => ∅

/-- What at least one of the types stands for. -/
def someDenoted {α : Type} (sets : String → Set α) : List TypeExpr → Set α
  | [] => ∅
  | type :: rest => type.denoted sets ∪ someDenoted sets rest

/-- What all of the types stand for. -/
def allDenoted {α : Type} (sets : String → Set α) : List TypeExpr → Set α
  | [] => Set.univ
  | type :: rest => type.denoted sets ∩ allDenoted sets rest

end

mutual

/-- No intersection of two or more texts has a union in one of them. -/
def TypeExpr.Unmixed : TypeExpr → Prop
  | .union members => AllUnmixed members
  | .inter members =>
    ((Text.distinct (mappedTypes members)).length ≤ 1 ∨
      ∀ text ∈ mappedTypes members, '|' ∉ text.toList) ∧ AllUnmixed members
  | .paren inner => inner.Unmixed
  | _ => True

def AllUnmixed : List TypeExpr → Prop
  | [] => True
  | type :: rest => type.Unmixed ∧ AllUnmixed rest

end

theorem mem_someDenoted {α : Type} {sets : String → Set α} {x : α} {types : List TypeExpr} :
    x ∈ someDenoted sets types ↔ ∃ type ∈ types, x ∈ type.denoted sets := by
  induction types with
  | nil => simp [someDenoted]
  | cons type rest ih => rw [someDenoted, Set.mem_union, ih, List.exists_mem_cons_iff]

theorem mem_allDenoted {α : Type} {sets : String → Set α} {x : α} {types : List TypeExpr} :
    x ∈ allDenoted sets types ↔ ∀ type ∈ types, x ∈ type.denoted sets := by
  induction types with
  | nil => simp [allDenoted]
  | cons type rest ih => rw [allDenoted, Set.mem_inter_iff, ih, List.forall_mem_cons]

theorem allUnmixed_iff {types : List TypeExpr} :
    AllUnmixed types ↔ ∀ type ∈ types, type.Unmixed := by
  induction types with
  | nil => simp [AllUnmixed]
  | cons type rest ih => rw [AllUnmixed, ih, List.forall_mem_cons]

theorem mapped_of_plain {name : String} (h : libraryTypes.lookup name = none) :
    (TypeExpr.ref name []).mapped = name := by
  rw [TypeExpr.mapped, mappedTypes, refText, h]
  rfl

theorem namesOfTypes_eq_flatMap (types : List TypeExpr) :
    namesOfTypes types = types.flatMap TypeExpr.names := by
  induction types with
  | nil => rfl
  | cons type rest ih => rw [namesOfTypes, ih, List.flatMap_cons]

theorem mem_namesOfTypes {name : String} {member : TypeExpr} {members : List TypeExpr}
    (hm : member ∈ members) (hname : name ∈ member.names) : name ∈ namesOfTypes members := by
  rw [namesOfTypes_eq_flatMap]
  exact List.mem_flatMap.mpr ⟨member, hm, hname⟩

/-- The text of such a type is the text of a sum over its names. -/
theorem IsCombination.isSumText {type : TypeExpr} (h : IsCombination type) :
    IsSumText (fun name => IsWord name ∧ name ∈ type.names) type.mapped := by
  induction h with
  | name hword hplain =>
    rw [mapped_of_plain hplain]
    exact isSumText_name ⟨hword, by simp [TypeExpr.names]⟩
  | @union members hne _ ih =>
    rw [mapped_union]
    apply Text.intercalate_induction (fun _ _ => .union) (shownAlternatives_ne_nil members)
    intro text ht
    obtain ⟨member, hm, rfl⟩ := List.mem_map.mp ((mem_shownAlternatives hne).mp ht)
    exact (ih member hm).mono fun name hname => ⟨hname.1, mem_namesOfTypes hm hname.2⟩
  | @inter members hne _ ih =>
    rw [mapped_inter]
    apply Text.intercalate_induction (fun _ _ => .inter) (distinct_mapped_ne_nil hne)
    intro text ht
    obtain ⟨member, hm, rfl⟩ := List.mem_map.mp (Text.mem_distinct.mp ht)
    exact (ih member hm).mono fun name hname => ⟨hname.1, mem_namesOfTypes hm hname.2⟩
  | paren _ ih => exact ih

theorem IsCombination.isWordText {type : TypeExpr} (h : IsCombination type) :
    IsSumText IsWord type.mapped :=
  h.isSumText.mono fun _ hname => hname.1

section

variable {α : Type} {sets : String → Set α} {x : α} {members : List TypeExpr}

theorem mem_readSet_mapped_union (hne : members ≠ [])
    (h : ∀ member ∈ members, IsCombination member) :
    x ∈ readSet sets (TypeExpr.union members).mapped ↔
      ∃ member ∈ members, x ∈ readSet sets member.mapped := by
  have htexts : ∀ text ∈ shownAlternatives members, IsSumText IsWord text := by
    intro text ht
    obtain ⟨member, hm, rfl⟩ := List.mem_map.mp ((mem_shownAlternatives hne).mp ht)
    exact (h member hm).isWordText
  rw [mapped_union, mem_readSet_unions (shownAlternatives_ne_nil members) htexts]
  simp only [mem_shownAlternatives hne, List.mem_map, exists_exists_and_eq_and]

theorem isWordText_of_mem_distinct (h : ∀ member ∈ members, IsCombination member) :
    ∀ text ∈ Text.distinct (members.map TypeExpr.mapped), IsSumText IsWord text := by
  intro text ht
  obtain ⟨member, hm, rfl⟩ := List.mem_map.mp (Text.mem_distinct.mp ht)
  exact (h member hm).isWordText

theorem mem_readSet_mapped_inter (hne : members ≠ [])
    (h : ∀ member ∈ members, IsCombination member)
    (hx : ∀ member ∈ members, x ∈ readSet sets member.mapped) :
    x ∈ readSet sets (TypeExpr.inter members).mapped := by
  rw [mapped_inter]
  apply mem_readSet_inters (distinct_mapped_ne_nil hne) (isWordText_of_mem_distinct h)
  intro text ht
  obtain ⟨member, hm, rfl⟩ := List.mem_map.mp (Text.mem_distinct.mp ht)
  exact hx member hm

theorem mem_readSet_mapped_inter_iff (hne : members ≠ [])
    (h : ∀ member ∈ members, IsCombination member)
    (hunmixed : (Text.distinct (members.map TypeExpr.mapped)).length ≤ 1 ∨
      ∀ text ∈ members.map TypeExpr.mapped, '|' ∉ text.toList) :
    x ∈ readSet sets (TypeExpr.inter members).mapped ↔
      ∀ member ∈ members, x ∈ readSet sets member.mapped := by
  have hall : (∀ text ∈ Text.distinct (members.map TypeExpr.mapped), x ∈ readSet sets text) ↔
      ∀ member ∈ members, x ∈ readSet sets member.mapped := by
    simp only [Text.mem_distinct, List.forall_mem_map]
  rw [mapped_inter, ← hall]
  rcases hunmixed with hshort | hbars
  · -- One text stands for all members.
    match htexts : Text.distinct (members.map TypeExpr.mapped) with
    | [] => exact absurd htexts (distinct_mapped_ne_nil hne)
    | [only] => simp
    | _ :: _ :: _ => simp [htexts] at hshort
  · exact mem_readSet_inters_iff (distinct_mapped_ne_nil hne) (isWordText_of_mem_distinct h)
      fun text ht => hbars text (Text.mem_distinct.mp ht)

end

/-- A text never stands for less than its type. -/
theorem IsCombination.mem_readSet {α : Type} {sets : String → Set α} {x : α} {type : TypeExpr}
    (h : IsCombination type) (hx : x ∈ type.denoted sets) : x ∈ readSet sets type.mapped := by
  induction h with
  | name hword hplain =>
    rw [mapped_of_plain hplain, mem_readSet_name hword]
    exact hx
  | union hne hmembers ih =>
    rw [TypeExpr.denoted, mem_someDenoted] at hx
    rw [mem_readSet_mapped_union hne hmembers]
    obtain ⟨member, hm, hx⟩ := hx
    exact ⟨member, hm, ih member hm hx⟩
  | inter hne hmembers ih =>
    rw [TypeExpr.denoted, mem_allDenoted] at hx
    exact mem_readSet_mapped_inter hne hmembers fun member hm => ih member hm (hx member hm)
  | paren _ ih => exact ih hx

/-- Without unions inside of intersections, a text stands for what its type does. -/
theorem IsCombination.mem_readSet_iff {α : Type} {sets : String → Set α} {x : α} {type : TypeExpr}
    (h : IsCombination type) (hunmixed : type.Unmixed) :
    x ∈ readSet sets type.mapped ↔ x ∈ type.denoted sets := by
  induction h with
  | name hword hplain =>
    rw [mapped_of_plain hplain, mem_readSet_name hword]
    rfl
  | union hne hmembers ih =>
    rw [TypeExpr.Unmixed, allUnmixed_iff] at hunmixed
    rw [TypeExpr.denoted, mem_someDenoted, mem_readSet_mapped_union hne hmembers]
    exact exists_congr fun member => and_congr_right fun hm => ih member hm (hunmixed member hm)
  | inter hne hmembers ih =>
    rw [TypeExpr.Unmixed, allUnmixed_iff, mappedTypes_eq_map] at hunmixed
    rw [TypeExpr.denoted, mem_allDenoted, mem_readSet_mapped_inter_iff hne hmembers hunmixed.1]
    exact forall_congr' fun member => imp_congr_right fun hm => ih member hm (hunmixed.2 member hm)
  | paren _ ih => exact ih hunmixed

/-! ## Unions inside of intersections -/

/-- Each of the names stands for the whole set, and all others for nothing. -/
def onlyNames (names : List String) (name : String) : Set Unit :=
  {_x | name ∈ names}

theorem IsCombination.not_mem_denoted {names : List String} {type : TypeExpr} (h : IsCombination type)
    (hnames : ∀ name ∈ type.names, name ∉ names) : () ∉ type.denoted (onlyNames names) := by
  induction h with
  | name => exact hnames _ (by simp [TypeExpr.names])
  | union _ _ ih =>
    rw [TypeExpr.denoted, mem_someDenoted]
    rintro ⟨member, hm, hx⟩
    exact ih member hm (fun name hn => hnames name (mem_namesOfTypes hm hn)) hx
  | inter hne _ ih =>
    obtain ⟨first, hfirst⟩ := List.exists_mem_of_ne_nil _ hne
    rw [TypeExpr.denoted, mem_allDenoted]
    intro hall
    exact ih first hfirst (fun name hn => hnames name (mem_namesOfTypes hfirst hn))
      (hall first hfirst)
  | paren _ ih => exact ih hnames

/-- Where no name occurs twice, two members have no name in common. -/
theorem not_mem_names_of_ne {members : List TypeExpr} (hnodup : (namesOfTypes members).Nodup)
    {a b : TypeExpr} (ha : a ∈ members) (hb : b ∈ members) (hne : a ≠ b) {name : String}
    (hname : name ∈ a.names) : name ∉ b.names := by
  rw [namesOfTypes_eq_flatMap, List.nodup_flatMap] at hnodup
  have hsymm : Std.Symm (Function.onFun List.Disjoint TypeExpr.names) :=
    ⟨fun _ _ hdisjoint _ hleft hright => hdisjoint hright hleft⟩
  exact hnodup.2.forall ha hb hne hname

theorem names_nodup_of_mem {members : List TypeExpr} (hnodup : (namesOfTypes members).Nodup)
    {member : TypeExpr} (hm : member ∈ members) : member.names.Nodup := by
  rw [namesOfTypes_eq_flatMap, List.nodup_flatMap] at hnodup
  exact hnodup.1 member hm

/-- Where a union is mixed into an intersection, a member has the mark of a union. -/
theorem exists_bar_of_not_unmixed {members : List TypeExpr}
    (hbar : ∀ member ∈ members, ¬member.Unmixed → '|' ∈ member.mapped.toList)
    (hmixed : ¬(TypeExpr.inter members).Unmixed) :
    ∃ member ∈ members, '|' ∈ member.mapped.toList := by
  rw [TypeExpr.Unmixed, allUnmixed_iff, mappedTypes_eq_map] at hmixed
  by_contra hno
  push Not at hno
  refine hmixed ⟨.inr (List.forall_mem_map.mpr hno), fun member hm => ?_⟩
  by_contra hmember
  exact hno member hm (hbar member hm hmember)

/-- A union inside of an intersection has its mark in the text. -/
theorem bar_mem_of_not_unmixed {type : TypeExpr} (h : IsCombination type) (hmixed : ¬type.Unmixed) :
    '|' ∈ type.mapped.toList := by
  induction h with
  | name => exact absurd trivial hmixed
  | union hne _ ih =>
    rw [TypeExpr.Unmixed, allUnmixed_iff] at hmixed
    push Not at hmixed
    obtain ⟨member, hm, hmember⟩ := hmixed
    rw [mapped_union]
    exact Text.mem_intercalate_of_mem
      ((mem_shownAlternatives hne).mpr (List.mem_map_of_mem hm)) (ih member hm hmember)
  | inter hne _ ih =>
    obtain ⟨member, hm, hmember⟩ := exists_bar_of_not_unmixed ih hmixed
    rw [mapped_inter]
    exact Text.mem_intercalate_of_mem (Text.mem_distinct.mpr (List.mem_map_of_mem hm)) hmember
  | paren _ ih => exact ih hmixed

/-- Two sums with the mark of an intersection between them, one of them a union: some term of what is
read comes from one side alone. -/
theorem exists_term_of_bar {isLeft isRight : String → Prop} {a b : String}
    (hleft : ∀ name, isLeft name → IsWord name) (hright : ∀ name, isRight name → IsWord name)
    (ha : IsSumText isLeft a) (hb : IsSumText isRight b)
    (hbar : '|' ∈ a.toList ∨ '|' ∈ b.toList) :
    ∃ term, ((∀ name ∈ term, isLeft name) ∨ ∀ name ∈ term, isRight name) ∧
      () ∈ readSet (onlyNames term) (a ++ " with " ++ b) := by
  obtain ⟨ts, ht, rfl⟩ := ha
  obtain ⟨us, hu, rfl⟩ := hb
  have htw := ht.mono hleft
  have huw := hu.mono hright
  have hread {term : List String} (hterm : term ∈ glue ts us) :
      () ∈ readSet (onlyNames term) (sumText ts ++ " with " ++ sumText us) := by
    rw [← sumText_glue htw huw, mem_readSet_sumText (htw.glue huw)]
    exact ⟨term, hterm, fun _ hname => hname⟩
  rw [bar_mem_sumText_iff htw, bar_mem_sumText_iff huw] at hbar
  rcases hbar with hlong | hlong
  · obtain ⟨term, hterm⟩ := List.exists_mem_of_length_pos (l := ts.dropLast) (by simp; omega)
    have hnames := ht.names term (List.dropLast_subset ts hterm)
    exact ⟨term, .inl hnames, hread (mem_glue_of_mem_dropLast hterm)⟩
  · obtain ⟨term, hterm⟩ := List.exists_mem_of_length_pos (l := us.tail) (by simp; omega)
    have hnames := hu.names term (List.mem_of_mem_tail hterm)
    exact ⟨term, .inr hnames, hread (mem_glue_of_mem_tail hterm)⟩

section

variable {members : List TypeExpr} (hmembers : ∀ member ∈ members, IsCombination member)
  (hnodup : (namesOfTypes members).Nodup)

include hmembers hnodup

/-- The names of other members say nothing about a member. -/
theorem not_mem_denoted_of_others {names : List String} {member : TypeExpr} (hm : member ∈ members)
    (hnames : ∀ name ∈ names, ∃ other ∈ members, other ≠ member ∧ name ∈ other.names) :
    () ∉ member.denoted (onlyNames names) := by
  refine (hmembers member hm).not_mem_denoted fun name hname hn => ?_
  obtain ⟨other, hother, hne, hown⟩ := hnames name hn
  exact not_mem_names_of_ne hnodup hother hm hne hown hname

/-- An intersection of two or more texts, one of them a union, is misread. -/
theorem exists_misread_inter {first second : String} {more : List String}
    (htexts : Text.distinct (members.map TypeExpr.mapped) = first :: second :: more)
    (hbar : ∃ text ∈ first :: second :: more, '|' ∈ text.toList) :
    ∃ names, (∀ name ∈ names, name ∈ namesOfTypes members) ∧
      () ∈ readSet (onlyNames names) (TypeExpr.inter members).mapped ∧
      () ∉ (TypeExpr.inter members).denoted (onlyNames names) := by
  have hmem {text : String} (ht : text ∈ first :: second :: more) :
      ∃ member ∈ members, member.mapped = text := by
    rw [← htexts, Text.mem_distinct, List.mem_map] at ht
    exact ht
  have hfresh : first ∉ second :: more :=
    (List.nodup_cons.mp (htexts ▸ Text.distinct_nodup _)).1
  obtain ⟨a, ha, hfirst⟩ := hmem List.mem_cons_self
  obtain ⟨b, hb, hsecond⟩ := hmem (List.mem_cons_of_mem first List.mem_cons_self)
  have hright : IsSumText (fun name => IsWord name ∧
      ∃ other ∈ members, other ≠ a ∧ name ∈ other.names) (" with ".intercalate (second :: more)) := by
    apply Text.intercalate_induction (fun _ _ => .inter) (List.cons_ne_nil second more)
    intro text ht
    obtain ⟨other, hother, hmapped⟩ := hmem (List.mem_cons_of_mem first ht)
    have hne : other ≠ a := by
      rintro rfl
      exact hfresh (hfirst ▸ hmapped ▸ ht)
    rw [← hmapped]
    exact (hmembers other hother).isSumText.mono fun name hname =>
      ⟨hname.1, other, hother, hne, hname.2⟩
  have hbars : '|' ∈ first.toList ∨ '|' ∈ (" with ".intercalate (second :: more)).toList := by
    obtain ⟨text, ht, hc⟩ := hbar
    rcases List.mem_cons.mp ht with rfl | ht
    · exact .inl hc
    · exact .inr (Text.mem_intercalate_of_mem ht hc)
  obtain ⟨names, hnames, hread⟩ := exists_term_of_bar (fun _ h => h.1) (fun _ h => h.1)
    (hfirst ▸ (hmembers a ha).isSumText) hright hbars
  rw [← String.intercalate_cons_cons, ← htexts, ← mapped_inter] at hread
  rcases hnames with hnames | hnames
  · -- The names are those of the first member, so the second one stands for nothing.
    have hne : a ≠ b := by
      rintro rfl
      exact hfresh (hfirst ▸ hsecond ▸ List.mem_cons_self)
    refine ⟨names, fun name hn => mem_namesOfTypes ha (hnames name hn).2, hread, fun hall => ?_⟩
    rw [TypeExpr.denoted, mem_allDenoted] at hall
    exact not_mem_denoted_of_others hmembers hnodup hb
      (fun name hn => ⟨a, ha, hne, (hnames name hn).2⟩) (hall b hb)
  · refine ⟨names, fun name hn => ?_, hread, fun hall => ?_⟩
    · obtain ⟨-, other, hother, -, hname⟩ := hnames name hn
      exact mem_namesOfTypes hother hname
    · rw [TypeExpr.denoted, mem_allDenoted] at hall
      exact not_mem_denoted_of_others hmembers hnodup ha (fun name hn => (hnames name hn).2)
        (hall a ha)

end

/-- Where no name occurs twice, a union inside of an intersection is misread for some sets. -/
theorem IsCombination.exists_misread {type : TypeExpr} (h : IsCombination type)
    (hnodup : type.names.Nodup) (hmixed : ¬type.Unmixed) :
    ∃ names, (∀ name ∈ names, name ∈ type.names) ∧
      () ∈ readSet (onlyNames names) type.mapped ∧ () ∉ type.denoted (onlyNames names) := by
  induction h with
  | name => exact absurd trivial hmixed
  | @union members hne hmembers ih =>
    rw [TypeExpr.names] at hnodup ⊢
    rw [TypeExpr.Unmixed, allUnmixed_iff] at hmixed
    push Not at hmixed
    obtain ⟨member, hm, hmember⟩ := hmixed
    obtain ⟨names, hnames, hread, hnot⟩ := ih member hm (names_nodup_of_mem hnodup hm) hmember
    refine ⟨names, fun name hn => mem_namesOfTypes hm (hnames name hn), ?_, ?_⟩
    · rw [mem_readSet_mapped_union hne hmembers]
      exact ⟨member, hm, hread⟩
    · rw [TypeExpr.denoted, mem_someDenoted]
      rintro ⟨other, hother, hx⟩
      by_cases hsame : member = other
      · exact hnot (hsame ▸ hx)
      · exact not_mem_denoted_of_others hmembers hnodup hother
          (fun name hn => ⟨member, hm, hsame, hnames name hn⟩) hx
  | @inter members hne hmembers ih =>
    rw [TypeExpr.names] at hnodup ⊢
    match htexts : Text.distinct (members.map TypeExpr.mapped) with
    | [] => exact absurd htexts (distinct_mapped_ne_nil hne)
    | [only] =>
      -- All members have one text, and one of them is misread.
      obtain ⟨member, hm, hmember⟩ : ∃ member ∈ members, ¬member.Unmixed := by
        rw [TypeExpr.Unmixed, allUnmixed_iff, mappedTypes_eq_map] at hmixed
        by_contra hno
        push Not at hno
        exact hmixed ⟨.inl (by simp [htexts]), hno⟩
      have honly : member.mapped = only := by
        have hmem := Text.mem_distinct.mpr (List.mem_map_of_mem (f := TypeExpr.mapped) hm)
        rwa [htexts, List.mem_singleton] at hmem
      obtain ⟨names, hnames, hread, hnot⟩ := ih member hm (names_nodup_of_mem hnodup hm) hmember
      refine ⟨names, fun name hn => mem_namesOfTypes hm (hnames name hn), ?_, ?_⟩
      · rwa [mapped_inter, htexts, String.intercalate_singleton, ← honly]
      · rw [TypeExpr.denoted, mem_allDenoted]
        exact fun hall => hnot (hall member hm)
    | first :: second :: more =>
      have hbar : ∀ member ∈ members, ¬member.Unmixed → '|' ∈ member.mapped.toList :=
        fun member hm => bar_mem_of_not_unmixed (hmembers member hm)
      obtain ⟨member, hm, hmember⟩ := exists_bar_of_not_unmixed hbar hmixed
      refine exists_misread_inter hmembers hnodup htexts ⟨member.mapped, ?_, hmember⟩
      rw [← htexts, Text.mem_distinct]
      exact List.mem_map_of_mem hm
  | paren _ ih => exact ih hnodup hmixed

/-! ## The laws -/

/-- A text stands for all that its type stands for. It stands for no more where no intersection of two
or more texts has a union in one of them. Of a type that has no name twice, it stands for no more only
there. -/
theorem a_text_stands_for_its_type_unless_unions_are_mixed_in {type : TypeExpr}
    (h : IsCombination type) :
    (∀ (α : Type) (sets : String → Set α), type.denoted sets ⊆ readSet sets type.mapped) ∧
    (type.Unmixed → ∀ (α : Type) (sets : String → Set α),
      readSet sets type.mapped = type.denoted sets) ∧
    (type.names.Nodup → (∀ (α : Type) (sets : String → Set α),
      readSet sets type.mapped = type.denoted sets) → type.Unmixed) := by
  refine ⟨fun α sets x => h.mem_readSet, fun hunmixed α sets => ?_, fun hnodup hsame => ?_⟩
  · ext x
    exact h.mem_readSet_iff hunmixed
  · by_contra hmixed
    obtain ⟨names, -, hread, hnot⟩ := h.exists_misread hnodup hmixed
    exact hnot (hsame Unit (onlyNames names) ▸ hread)

/-- A union of intersections, with one inside of another. -/
theorem a_union_of_intersections_keeps_its_meaning :
    let type : TypeExpr :=
      .union [.inter [.ref "A" [], .ref "B" []],
        .paren (.union [.ref "C" [], .inter [.paren (.inter [.ref "A" [], .ref "D" []]), .ref "B" []]])]
    type.mapped = "A with B | C | A with D with B" ∧
      ∀ (α : Type) (sets : String → Set α), readSet sets "A with B | C | A with D with B" =
        sets "A" ∩ sets "B" ∪ (sets "C" ∪ sets "A" ∩ sets "D" ∩ sets "B") := by
  intro type
  have hmapped : type.mapped = "A with B | C | A with D with B" := by decide
  have hA : IsCombination (.ref "A" []) := isCombination_of_isPlain (by decide) (by decide)
  have hB : IsCombination (.ref "B" []) := isCombination_of_isPlain (by decide) (by decide)
  have hC : IsCombination (.ref "C" []) := isCombination_of_isPlain (by decide) (by decide)
  have hD : IsCombination (.ref "D" []) := isCombination_of_isPlain (by decide) (by decide)
  have hnested := isCombination_inter_pair (.paren (isCombination_inter_pair hA hD)) hB
  have htype : IsCombination type :=
    isCombination_union_pair (isCombination_inter_pair hA hB)
      (.paren (isCombination_union_pair hC hnested))
  have hunmixed : type.Unmixed := by
    refine ⟨⟨.inr (by decide), trivial, trivial, trivial⟩, ⟨trivial, ⟨.inr (by decide), ?_⟩, trivial⟩,
      trivial⟩
    exact ⟨⟨.inr (by decide), trivial, trivial, trivial⟩, trivial, trivial⟩
  refine ⟨hmapped, fun α sets => ?_⟩
  rw [← hmapped, (a_text_stands_for_its_type_unless_unions_are_mixed_in htype).2.1 hunmixed α sets]
  simp [type, TypeExpr.denoted, someDenoted, allDenoted]

/-- A union in parentheses inside of an intersection: the text reads as a union of an intersection and
a name, and stands for more. -/
theorem an_intersection_takes_one_side_of_a_union :
    let type : TypeExpr := .inter [.ref "A" [], .paren (.union [.ref "B" [], .ref "C" []])]
    IsCombination type ∧ (∀ name ∈ type.names, Name.isPlain name = true) ∧
      type.mapped = "A with B | C" ∧
      readSet (onlyNames ["C"]) type.mapped ≠ type.denoted (onlyNames ["C"]) := by
  intro type
  have hmapped : type.mapped = "A with B | C" := by decide
  have hA : IsCombination (.ref "A" []) := isCombination_of_isPlain (by decide) (by decide)
  have hB : IsCombination (.ref "B" []) := isCombination_of_isPlain (by decide) (by decide)
  have hC : IsCombination (.ref "C" []) := isCombination_of_isPlain (by decide) (by decide)
  have htype : IsCombination type :=
    isCombination_inter_pair hA (.paren (isCombination_union_pair hB hC))
  refine ⟨htype, by decide, hmapped, ?_⟩
  have hread : () ∈ readSet (onlyNames ["C"]) type.mapped := by
    rw [hmapped]
    refine ⟨"C", by decide, ?_⟩
    have hcut : Text.cutAt " with " "C" = ["C"] := by decide
    rw [hcut, List.forall_mem_singleton]
    exact List.mem_singleton_self "C"
  have hnot : () ∉ type.denoted (onlyNames ["C"]) := by
    simp [type, TypeExpr.denoted, allDenoted, onlyNames]
  exact fun hsame => hnot (hsame ▸ hread)

end Facade
