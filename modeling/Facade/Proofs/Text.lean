-- Facts about texts cut at a character, and about first occurrences in a list.
import Facade.Text.Split
import Mathlib.Tactic.Common

namespace Facade.Text

/-! ## Segments -/

theorem pieces_eq_splitOn (sep : Char) (chars : List Char) :
    pieces sep chars = chars.splitOn sep := by
  induction chars with
  | nil => rfl
  | cons c rest ih =>
    rw [pieces, List.splitOn_cons_eq_if_modifyHead, ih]
    by_cases hc : c = sep
    · simp [hc]
    · simp only [hc, if_false, beq_iff_eq]
      cases h : rest.splitOn sep with
      | nil => exact absurd h (List.splitOn_ne_nil sep rest)
      | cons piece more => rfl

theorem mem_of_mem_pieces {sep c : Char} {chars piece : List Char} (hp : piece ∈ pieces sep chars)
    (hc : c ∈ piece) : c ∈ chars := by
  induction chars generalizing piece with
  | nil =>
    rw [pieces, List.mem_singleton] at hp
    subst hp
    cases hc
  | cons d rest ih =>
    rw [pieces] at hp
    split at hp
    · rcases List.mem_cons.mp hp with rfl | hp
      · cases hc
      · exact List.mem_cons_of_mem d (ih hp hc)
    · split at hp
      · rw [List.mem_singleton] at hp
        subst hp
        rw [List.mem_singleton] at hc
        exact hc ▸ List.mem_cons_self
      · rename_i first more hfirst
        rw [hfirst] at ih
        rcases List.mem_cons.mp hp with rfl | hp
        · rcases List.mem_cons.mp hc with rfl | hc
          · exact List.mem_cons_self
          · exact List.mem_cons_of_mem d (ih List.mem_cons_self hc)
        · exact List.mem_cons_of_mem d (ih (List.mem_cons_of_mem first hp) hc)

theorem not_mem_of_mem_pieces {sep : Char} {chars piece : List Char}
    (hp : piece ∈ pieces sep chars) : sep ∉ piece := by
  induction chars generalizing piece with
  | nil =>
    rw [pieces, List.mem_singleton] at hp
    subst hp
    exact List.not_mem_nil
  | cons c rest ih =>
    rw [pieces] at hp
    split at hp
    · rcases List.mem_cons.mp hp with rfl | hp
      · exact List.not_mem_nil
      · exact ih hp
    · rename_i hc
      have hsep : sep ≠ c := Ne.symm hc
      split at hp
      · rw [List.mem_singleton] at hp
        subst hp
        exact List.not_mem_cons_of_ne_of_not_mem hsep List.not_mem_nil
      · rename_i first more hfirst
        rw [hfirst] at ih
        rcases List.mem_cons.mp hp with rfl | hp
        · exact List.not_mem_cons_of_ne_of_not_mem hsep (ih List.mem_cons_self)
        · exact ih (List.mem_cons_of_mem first hp)

/-- A segment has no characters of its own. -/
theorem mem_of_mem_segments {sep c : Char} {text segment : String}
    (hs : segment ∈ segments sep text) (hc : c ∈ segment.toList) : c ∈ text.toList := by
  obtain ⟨piece, hp, rfl⟩ := List.mem_map.mp hs
  rw [String.toList_ofList] at hc
  exact mem_of_mem_pieces hp hc

/-- The separator stands between the segments only. -/
theorem not_mem_of_mem_segments {sep : Char} {text segment : String}
    (hs : segment ∈ segments sep text) : sep ∉ segment.toList := by
  obtain ⟨piece, hp, rfl⟩ := List.mem_map.mp hs
  rw [String.toList_ofList]
  exact not_mem_of_mem_pieces hp

theorem segments_ne_nil (sep : Char) (text : String) : segments sep text ≠ [] := by
  unfold segments
  rw [pieces_eq_splitOn]
  simp

theorem lastSegment_mem (sep : Char) (text : String) :
    lastSegment sep text ∈ segments sep text := by
  have hne := segments_ne_nil sep text
  unfold lastSegment
  rw [List.getLastD_eq_getLast?, List.getLast?_eq_some_getLast hne]
  exact List.getLast_mem hne

/-- A text is its segments with the separator between them. -/
theorem intercalate_segments {sep : Char} {glue : String} (hglue : glue.toList = [sep])
    (text : String) : glue.intercalate (segments sep text) = text := by
  rw [← String.toList_inj, String.toList_intercalate, hglue, segments, List.map_map]
  simp [Function.comp_def, pieces_eq_splitOn, List.intercalate_splitOn]

/-- Parts without the separator are the segments of the text that they make. -/
theorem segments_intercalate {sep : Char} {glue : String} (hglue : glue.toList = [sep])
    {parts : List String} (hne : parts ≠ []) (h : ∀ part ∈ parts, sep ∉ part.toList) :
    segments sep (glue.intercalate parts) = parts := by
  have hfree : ∀ chars ∈ parts.map String.toList, sep ∉ chars := by
    intro chars hchars
    obtain ⟨part, hpart, rfl⟩ := List.mem_map.mp hchars
    exact h part hpart
  unfold segments
  rw [pieces_eq_splitOn, String.toList_intercalate, hglue,
    List.splitOn_intercalate sep hfree (by simpa using hne), List.map_map]
  simp [Function.comp_def]

/-- Texts may be cut into their segments before they are joined. -/
theorem intercalate_flatMap_segments {sep : Char} {glue : String} (hglue : glue.toList = [sep])
    (texts more : List String) :
    glue.intercalate (texts.flatMap (segments sep) ++ more) = glue.intercalate (texts ++ more) := by
  induction texts with
  | nil => rfl
  | cons text texts ih =>
    rw [List.flatMap_cons, List.append_assoc, List.cons_append]
    cases hrest : texts ++ more with
    | nil =>
      obtain ⟨rfl, rfl⟩ := List.append_eq_nil_iff.mp hrest
      simp [intercalate_segments hglue]
    | cons first others =>
      have hne : texts.flatMap (segments sep) ++ more ≠ [] := by
        intro hnil
        obtain ⟨hflat, rfl⟩ := List.append_eq_nil_iff.mp hnil
        rw [List.append_nil] at hrest
        rw [hrest, List.flatMap_cons, List.append_eq_nil_iff] at hflat
        exact segments_ne_nil sep first hflat.1
      rw [String.intercalate_append_of_ne_nil (segments_ne_nil sep text) hne, ih, hrest,
        intercalate_segments hglue, String.intercalate_cons_cons]

/-- The lines of a text that ends with a line feed. -/
def lines (text : String) : List String :=
  (segments '\n' text).dropLast

/-- Lines without line feeds are found again in the text that they make. -/
theorem lines_intercalate {rows : List String} (hne : rows ≠ [])
    (h : ∀ row ∈ rows, '\n' ∉ row.toList) : lines ("\n".intercalate rows ++ "\n") = rows := by
  have htext : "\n".intercalate rows ++ "\n" = "\n".intercalate (rows ++ [""]) := by
    rw [String.intercalate_append_of_ne_nil hne (by simp), String.intercalate_singleton,
      String.append_empty]
  have hfree : ∀ row ∈ rows ++ [""], '\n' ∉ row.toList := by
    rw [List.forall_mem_append]
    exact ⟨h, by simp⟩
  unfold lines
  rw [htext, segments_intercalate rfl (by simp) hfree, List.dropLast_concat]

/-! ## Lists of texts -/

/-- A property that two texts with a mark between them keep is kept by a list of texts. -/
theorem intercalate_induction {holds : String → Prop} {mark : String}
    (hstep : ∀ a b, holds a → holds b → holds (a ++ mark ++ b)) {texts : List String}
    (hne : texts ≠ []) (h : ∀ text ∈ texts, holds text) : holds (mark.intercalate texts) := by
  induction texts with
  | nil => exact absurd rfl hne
  | cons text rest ih =>
    obtain ⟨htext, hrest⟩ := List.forall_mem_cons.mp h
    cases rest with
    | nil => rwa [String.intercalate_singleton]
    | cons next more =>
      rw [String.intercalate_cons_cons]
      exact hstep _ _ htext (ih (List.cons_ne_nil next more) hrest)

/-! ## First occurrences -/

/-- Of the second list, those items are left whose key the first list does not have. -/
theorem distinctBy_append {α β : Type} [BEq β] (key : α → β) (xs ys : List α) :
    distinctBy key (xs ++ ys) = distinctBy key xs
      ++ (distinctBy key ys).filter (fun y => !(xs.map key).contains (key y)) := by
  induction xs with
  | nil =>
    rw [List.nil_append, distinctBy, List.nil_append, List.filter_eq_self.mpr]
    intro y _
    rfl
  | cons x xs ih =>
    rw [List.cons_append, distinctBy, distinctBy, ih, List.filter_append, List.filter_filter,
      List.cons_append]
    congr 2
    apply List.filter_congr
    intro y _
    simp only [List.map_cons, List.contains_cons, Bool.not_or]
    rfl

theorem mem_of_mem_distinctBy {α β : Type} [BEq β] {key : α → β} {x : α} {items : List α}
    (h : x ∈ distinctBy key items) : x ∈ items := by
  induction items with
  | nil => cases h
  | cons item rest ih =>
    rw [distinctBy] at h
    rcases List.mem_cons.mp h with rfl | h
    · exact List.mem_cons_self
    · exact List.mem_cons_of_mem item (ih (List.mem_filter.mp h).1)

/-- Of the items with one key, the first stays. -/
theorem filter_distinctBy {α β : Type} [BEq β] [LawfulBEq β] (key : α → β) (k : β)
    (items : List α) :
    (distinctBy key items).filter (key · == k) = (items.find? (key · == k)).toList := by
  induction items with
  | nil => rfl
  | cons item rest ih =>
    rw [distinctBy, List.filter_cons, List.filter_filter, List.find?_cons]
    cases hk : key item == k with
    | true =>
      have hrest : (distinctBy key rest).filter
          (fun x => key x == k && key x != key item) = [] := by
        rw [List.filter_eq_nil_iff, eq_of_beq hk]
        simp
      rw [if_pos rfl, hrest]
      rfl
    | false =>
      have hrest : (distinctBy key rest).filter (fun x => key x == k && key x != key item) =
          (distinctBy key rest).filter (key · == k) := by
        apply List.filter_congr
        intro x _
        by_cases hx : key x = k
        · simpa [hx] using Ne.symm (ne_of_beq_false hk)
        · simp [hx]
      rw [if_neg Bool.false_ne_true, hrest, ih]

/-- For each item there is one with its key that stays. -/
theorem exists_mem_distinctBy {α β : Type} [BEq β] [LawfulBEq β] (key : α → β) {item : α}
    {items : List α} (h : item ∈ items) : ∃ x ∈ distinctBy key items, key x = key item := by
  have hfirst := filter_distinctBy key (key item) items
  cases hf : items.find? (key · == key item) with
  | none => exact absurd (beq_self_eq_true _) (List.find?_eq_none.mp hf item h)
  | some x =>
    have hx : x ∈ (distinctBy key items).filter (key · == key item) := by
      rw [hfirst, hf]
      exact List.mem_singleton_self x
    exact ⟨x, (List.mem_filter.mp hx).1, eq_of_beq (List.mem_filter.mp hx).2⟩

/-- Items whose keys have come before change nothing. -/
theorem distinctBy_append_of_keys {α β : Type} [BEq β] [LawfulBEq β] (key : α → β) {xs ys : List α}
    (h : ∀ y ∈ ys, key y ∈ xs.map key) (zs : List α) :
    distinctBy key (xs ++ ys ++ zs) = distinctBy key (xs ++ zs) := by
  have hnone : (distinctBy key ys).filter (fun y => !(xs.map key).contains (key y)) = [] := by
    rw [List.filter_eq_nil_iff]
    intro y hy
    simpa using h y (mem_of_mem_distinctBy hy)
  have hkeys : ∀ k, ((xs ++ ys).map key).contains k = (xs.map key).contains k := by
    intro k
    rw [Bool.eq_iff_iff, List.contains_iff_mem, List.contains_iff_mem, List.map_append,
      List.mem_append]
    refine or_iff_left_of_imp fun hk => ?_
    obtain ⟨y, hy, rfl⟩ := List.mem_map.mp hk
    exact h y hy
  rw [distinctBy_append key (xs ++ ys) zs, distinctBy_append key xs ys, hnone, List.append_nil,
    distinctBy_append key xs zs]
  simp only [hkeys]

/-- The keys of the items that stay are the distinct keys. -/
theorem map_distinctBy {α β : Type} [BEq β] (key : α → β) (items : List α) :
    (distinctBy key items).map key = distinct (items.map key) := by
  induction items with
  | nil => rfl
  | cons item rest ih =>
    rw [distinctBy, List.map_cons, List.map_cons]
    change _ = key item :: (distinct (rest.map key)).filter (· != key item)
    rw [← ih, List.filter_map]
    rfl

theorem distinctBy_map {α β γ : Type} [BEq γ] (key : β → γ) (f : α → β) (items : List α) :
    distinctBy key (items.map f) = (distinctBy (fun item => key (f item)) items).map f := by
  induction items with
  | nil => rfl
  | cons item rest ih =>
    rw [List.map_cons, distinctBy, ih, distinctBy, List.map_cons, List.filter_map]
    rfl

theorem distinct_cons {α : Type} [BEq α] (item : α) (rest : List α) :
    distinct (item :: rest) = item :: (distinct rest).filter (· != item) := rfl

theorem distinct_append {α : Type} [BEq α] (xs ys : List α) :
    distinct (xs ++ ys) = distinct xs ++ (distinct ys).filter (!xs.contains ·) := by
  have h := distinctBy_append id xs ys
  rw [List.map_id] at h
  exact h

section

variable {α : Type} [BEq α] [LawfulBEq α]

theorem mem_distinct {x : α} {items : List α} : x ∈ distinct items ↔ x ∈ items := by
  induction items with
  | nil => rfl
  | cons item rest ih =>
    rw [distinct_cons, List.mem_cons, List.mem_filter, ih, List.mem_cons, bne_iff_ne]
    constructor
    · rintro (h | ⟨h, _⟩)
      · exact Or.inl h
      · exact Or.inr h
    · intro h
      by_cases hx : x = item
      · exact Or.inl hx
      · exact Or.inr ⟨h.resolve_left hx, hx⟩

theorem distinct_nodup (items : List α) : (distinct items).Nodup := by
  induction items with
  | nil => exact List.nodup_nil
  | cons item rest ih =>
    rw [distinct_cons, List.nodup_cons]
    refine ⟨?_, ih.sublist List.filter_sublist⟩
    intro h
    simpa using (List.mem_filter.mp h).2

/-- Items stand in the order of their first occurrences. -/
theorem distinct_pairwise_idxOf (items : List α) :
    (distinct items).Pairwise fun x y => items.idxOf x < items.idxOf y := by
  induction items with
  | nil => exact List.Pairwise.nil
  | cons item rest ih =>
    have hlater : ∀ y ∈ (distinct rest).filter (· != item),
        (item :: rest).idxOf y = rest.idxOf y + 1 := by
      intro y hy
      have hne : (item == y) = false := by
        rw [beq_eq_false_iff_ne]
        rintro rfl
        simpa using (List.mem_filter.mp hy).2
      rw [List.idxOf_cons, hne]
      rfl
    rw [distinct_cons, List.pairwise_cons]
    constructor
    · intro y hy
      rw [hlater y hy, List.idxOf_cons_self]
      omega
    · apply (ih.filter _).imp_of_mem
      intro x y hx hy hlt
      rw [hlater x hx, hlater y hy]
      omega

/-- Nothing is dropped between lists that share no item. -/
theorem distinct_append_of_disjoint {xs ys : List α} (h : ∀ y ∈ ys, y ∉ xs) :
    distinct (xs ++ ys) = distinct xs ++ distinct ys := by
  rw [distinct_append, List.filter_eq_self.mpr]
  intro y hy
  simpa using h y (mem_distinct.mp hy)

end

end Facade.Text
