-- The laws of file trees. What stands at a place after a change is known from what stood there before,
-- and a file or folder that stands somewhere is never taken away.
import Facade.FileTree
import Mathlib.Data.List.Induction

namespace Facade

namespace FileTree

variable {tree other made : FileTree} {place target : Location}

/-! ## Trees in good order -/

/-- What stands below the top stands in a folder. -/
def Closed (tree : FileTree) : Prop :=
  ∀ place, place ≠ [] → tree.get? place ≠ none → tree.get? place.dropLast = some .folder

/-- No place is listed twice. -/
def Distinct (tree : FileTree) : Prop :=
  (tree.entries.map (·.1)).Nodup

/-- The same stands at every place. -/
def Same (tree other : FileTree) : Prop :=
  ∀ place, tree.get? place = other.get? place

/-- Files stay files and folders stay folders. -/
structure Grows (before after : FileTree) : Prop where
  file : ∀ {place}, before.isFile place → after.isFile place
  folder : ∀ {place}, before.get? place = some .folder → after.get? place = some .folder

theorem grows_refl (tree : FileTree) : Grows tree tree := ⟨id, id⟩

theorem Grows.trans {before middle after : FileTree} (h : Grows before middle)
    (h' : Grows middle after) : Grows before after :=
  ⟨fun hfile => h'.file (h.file hfile), fun hfolder => h'.folder (h.folder hfolder)⟩

@[simp] theorem get?_nil (tree : FileTree) : tree.get? [] = some .folder := rfl

theorem get?_of_ne_nil (hplace : place ≠ []) : tree.get? place = tree.entries.lookup place := by
  rw [get?, if_neg (by simpa using hplace)]

theorem file?_eq_some_iff {bytes : List UInt8} :
    tree.file? place = some bytes ↔ tree.get? place = some (.file bytes) := by
  unfold file?
  split <;> simp_all

theorem isFile_iff : tree.isFile place ↔ ∃ bytes, tree.get? place = some (.file bytes) := by
  rw [isFile, Option.isSome_iff_exists]
  simp only [file?_eq_some_iff]

theorem isFolder_iff : tree.isFolder place ↔ tree.get? place = some .folder := by
  rw [isFolder, beq_iff_eq]

theorem file?_congr (h : tree.get? place = other.get? place) :
    tree.file? place = other.file? place := by
  rw [file?, h, file?]

theorem isFile_congr (h : tree.get? place = other.get? place) :
    tree.isFile place = other.isFile place := by
  rw [isFile, file?_congr h, isFile]

theorem get?_cases (tree : FileTree) (place : Location) :
    tree.get? place = none ∨ tree.get? place = some .folder ∨ tree.isFile place := by
  rw [isFile_iff]
  rcases tree.get? place with _ | (bytes | _)
  · exact .inl rfl
  · exact .inr (.inr ⟨bytes, rfl⟩)
  · exact .inr (.inl rfl)

theorem Same.grows (h : Same tree other) : Grows tree other :=
  ⟨fun {place} hfile => isFile_congr (h place) ▸ hfile, fun {place} hfolder => h place ▸ hfolder⟩

theorem Same.closed (h : Same tree other) (hclosed : tree.Closed) : other.Closed := by
  intro place hplace hsome
  rw [← h] at hsome ⊢
  exact hclosed place hplace hsome

/-- All that is above a place where something stands is a folder. -/
theorem Closed.above (hclosed : tree.Closed) {above : Location} (h : tree.get? place ≠ none)
    (habove : above <+: place) (hne : above ≠ place) : tree.get? above = some .folder := by
  induction place using List.reverseRecOn with
  | nil => exact absurd (List.prefix_nil.mp habove) hne
  | append_singleton places part ih =>
    have hparent : tree.get? places = some .folder := by
      simpa using hclosed (places ++ [part]) (by simp) h
    rcases List.prefix_concat_iff.mp habove with rfl | hstart
    · exact absurd rfl hne
    · by_cases heq : above = places
      · exact heq ▸ hparent
      · exact ih (by simp [hparent]) hstart heq

/-- Nothing stands below a file. -/
theorem Closed.below_file (hclosed : tree.Closed) {above : Location} (hfile : tree.isFile above)
    (habove : above <+: place) (hne : above ≠ place) : tree.get? place = none := by
  by_contra hsome
  obtain ⟨bytes, hbytes⟩ := isFile_iff.mp hfile
  rw [hclosed.above hsome habove hne] at hbytes
  cases hbytes

/-! ## Putting an entry -/

theorem lookup_filter_ne {α : Type} {key : Location} (hne : place ≠ key)
    (entries : List (Location × α)) :
    (entries.filter (·.1 != key)).lookup place = entries.lookup place := by
  induction entries with
  | nil => rfl
  | cons entry entries ih =>
    obtain ⟨spot, value⟩ := entry
    by_cases hkey : spot = key
    · subst hkey
      rw [List.filter_cons_of_neg (by simp), ih, List.lookup_cons, beq_eq_false_iff_ne.mpr hne]
    · rw [List.filter_cons_of_pos (by simpa using hkey), List.lookup_cons, List.lookup_cons, ih]

theorem get?_put (htarget : target ≠ []) (entry : Entry) :
    (tree.put target entry).get? place = if place = target then some entry else tree.get? place := by
  by_cases hnil : place = []
  · subst hnil
    rw [if_neg htarget.symm, get?_nil, get?_nil]
  · rw [get?_of_ne_nil hnil, get?_of_ne_nil hnil, put, List.lookup_cons]
    by_cases heq : place = target
    · subst heq
      simp
    · rw [beq_eq_false_iff_ne.mpr heq, if_neg heq]
      exact lookup_filter_ne heq tree.entries

theorem Distinct.put (h : tree.Distinct) (target : Location) (entry : Entry) :
    (tree.put target entry).Distinct := by
  unfold Distinct FileTree.put
  rw [List.map_cons, List.nodup_cons]
  refine ⟨by simp, ?_⟩
  exact h.sublist (List.filter_sublist.map _)

theorem mem_iff_lookup {α : Type} {entries : List (Location × α)} {entry : α}
    (h : (entries.map (·.1)).Nodup) : (place, entry) ∈ entries ↔ entries.lookup place = some entry := by
  induction entries with
  | nil => simp
  | cons first entries ih =>
    obtain ⟨spot, value⟩ := first
    rw [List.map_cons, List.nodup_cons] at h
    rw [List.mem_cons, List.lookup_cons]
    by_cases heq : place = spot
    · subst heq
      have hfresh : (place, entry) ∉ entries := fun hmem => h.1 (List.mem_map.mpr ⟨_, hmem, rfl⟩)
      simp [hfresh, eq_comm]
    · rw [beq_eq_false_iff_ne.mpr heq, ← ih h.2]
      simp [heq]

theorem Distinct.mem_entries (h : tree.Distinct) (hplace : place ≠ []) {entry : Entry} :
    (place, entry) ∈ tree.entries ↔ tree.get? place = some entry := by
  rw [get?_of_ne_nil hplace]
  exact mem_iff_lookup h

/-! ## Making folders -/

theorem mem_ancestors {above : Location} :
    above ∈ ancestors place ↔ above ≠ [] ∧ above <+: place ∧ above ≠ place := by
  rw [ancestors, List.mem_map]
  constructor
  · rintro ⟨n, hn, rfl⟩
    rw [List.mem_range] at hn
    refine ⟨?_, List.take_prefix _ _, ?_⟩
    · rw [Ne, List.take_eq_nil_iff]
      rintro (hzero | rfl)
      · omega
      · simp at hn
    · intro heq
      have hlength := congrArg List.length heq
      rw [List.length_take] at hlength
      omega
  · rintro ⟨hne, hstart, hproper⟩
    have hpositive := List.length_pos_iff.mpr hne
    have hshorter : above.length < place.length :=
      Nat.lt_of_le_of_ne hstart.length_le fun hlength => hproper (hstart.eq_of_length hlength)
    refine ⟨above.length - 1, List.mem_range.mpr (by omega), ?_⟩
    rw [Nat.sub_add_cancel hpositive]
    exact (List.prefix_iff_eq_take.mp hstart).symm

theorem get?_addFolder (target : Location) :
    (tree.addFolder target).get? place =
      (tree.get? place).or (if place = target then some .folder else none) := by
  unfold addFolder
  split
  · rename_i hsome
    by_cases heq : place = target
    · subst heq
      rw [if_pos rfl]
      obtain ⟨entry, hentry⟩ := Option.isSome_iff_exists.mp hsome
      rw [hentry, Option.some_or]
    · rw [if_neg heq, Option.or_none]
  · rename_i hnone
    rw [Option.not_isSome_iff_eq_none] at hnone
    have htarget : target ≠ [] := by
      rintro rfl
      cases hnone
    rw [get?_put htarget]
    by_cases heq : place = target
    · subst heq
      rw [if_pos rfl, if_pos rfl, hnone, Option.none_or]
    · rw [if_neg heq, if_neg heq, Option.or_none]

theorem Distinct.addFolder (h : tree.Distinct) (target : Location) :
    (tree.addFolder target).Distinct := by
  unfold FileTree.addFolder
  split
  · exact h
  · exact h.put target .folder

theorem get?_foldl_addFolder (places : List Location) (tree : FileTree) :
    (places.foldl addFolder tree).get? place =
      (tree.get? place).or (if place ∈ places then some .folder else none) := by
  induction places generalizing tree with
  | nil => simp
  | cons first places ih =>
    rw [List.foldl_cons, ih, get?_addFolder, Option.or_assoc]
    by_cases hfirst : place = first
    · simp [hfirst]
    · simp [hfirst]

theorem Distinct.foldl_addFolder (places : List Location) (h : tree.Distinct) :
    (places.foldl FileTree.addFolder tree).Distinct := by
  induction places generalizing tree with
  | nil => exact h
  | cons first places ih => exact ih (h.addFolder first)

theorem any_ancestors : (ancestors place).any tree.isFile ↔
    ∃ above, above <+: place ∧ above ≠ place ∧ tree.isFile above := by
  rw [List.any_eq_true]
  constructor
  · rintro ⟨above, hmem, hfile⟩
    exact ⟨above, (mem_ancestors.mp hmem).2.1, (mem_ancestors.mp hmem).2.2, hfile⟩
  · rintro ⟨above, hstart, hne, hfile⟩
    refine ⟨above, mem_ancestors.mpr ⟨?_, hstart, hne⟩, hfile⟩
    rintro rfl
    cases hfile

/-- A folder cannot be made where a file stands in its place or on the way to it. -/
theorem makeFolders_eq_error (hclosed : tree.Closed) {fault : Fault} :
    tree.makeFolders place = .error fault ↔
      tree.isFile place ∧ fault = .fileExists place ∨
        (∃ above, above <+: place ∧ above ≠ place ∧ tree.isFile above) ∧
          fault = .notAFolder place := by
  have hway {above : Location} (hsome : tree.get? place ≠ none) (hstart : above <+: place)
      (hne : above ≠ place) : ¬tree.isFile above := fun hfile =>
    hsome (hclosed.below_file hfile hstart hne)
  rw [← any_ancestors, isFile_iff]
  unfold makeFolders
  split
  · rename_i hfolder
    have hnone : ¬(ancestors place).any tree.isFile := by
      rw [any_ancestors]
      rintro ⟨above, hstart, hne, hfile⟩
      exact hway (by simp [hfolder]) hstart hne hfile
    simp [hfolder, hnone]
  · rename_i bytes hfile
    have hnone : ¬(ancestors place).any tree.isFile := by
      rw [any_ancestors]
      rintro ⟨above, hstart, hne, habove⟩
      exact hway (by simp [hfile]) hstart hne habove
    simp [hfile, hnone, eq_comm]
  · rename_i hnone
    split
    · rename_i hany
      simp [hnone, hany, eq_comm]
    · rename_i hany
      simp [hnone, hany]

/-- Where no file is on the way, a folder stands or is made. -/
theorem get?_on_way (hnone : tree.get? place = none)
    (hway : ¬∃ above, above <+: place ∧ above ≠ place ∧ tree.isFile above) {above : Location}
    (hstart : above <+: place) :
    (tree.get? above).or (if above ∈ ancestors place ++ [place] then some .folder else none) =
      some .folder := by
  by_cases heq : above = place
  · subst heq
    rw [hnone, if_pos (by simp), Option.none_or]
  · rcases tree.get?_cases above with hempty | hfolder | hfile
    · have hne : above ≠ [] := by
        rintro rfl
        cases hempty
      have hmem : above ∈ ancestors place ++ [place] :=
        List.mem_append_left _ (mem_ancestors.mpr ⟨hne, hstart, heq⟩)
      rw [hempty, if_pos hmem, Option.none_or]
    · rw [hfolder, Option.some_or]
    · exact absurd ⟨above, hstart, heq, hfile⟩ hway

/-- Made folders stand at the place and above it, and nothing else changes. -/
theorem get?_makeFolders (hclosed : tree.Closed) (h : tree.makeFolders place = .ok made)
    (spot : Location) :
    made.get? spot = if spot <+: place then some .folder else tree.get? spot := by
  unfold makeFolders at h
  split at h
  · rename_i hfolder
    cases h
    split
    · rename_i hstart
      by_cases heq : spot = place
      · rw [heq, hfolder]
      · exact hclosed.above (by simp [hfolder]) hstart heq
    · rfl
  · cases h
  · rename_i hnone
    split at h
    · cases h
    · rename_i hany
      cases h
      rw [get?_foldl_addFolder]
      by_cases hstart : spot <+: place
      · rw [if_pos hstart, get?_on_way hnone (any_ancestors.not.mp hany) hstart]
      · have hmem : spot ∉ ancestors place ++ [place] := by
          simp only [List.mem_append, mem_ancestors, List.mem_singleton]
          rintro (hmem | rfl)
          · exact hstart hmem.2.1
          · exact hstart (List.prefix_refl _)
        rw [if_neg hstart, if_neg hmem, Option.or_none]

theorem Distinct.makeFolders (h : tree.Distinct) (hmade : tree.makeFolders place = .ok made) :
    made.Distinct := by
  unfold FileTree.makeFolders at hmade
  split at hmade
  · cases hmade
    exact h
  · cases hmade
  · split at hmade
    · cases hmade
    · cases hmade
      exact h.foldl_addFolder _

section Made

variable (hclosed : tree.Closed) (h : tree.makeFolders place = .ok made)

include hclosed h

/-- No file stands where a folder could be made, or on the way to it. -/
theorem not_isFile_of_makeFolders {above : Location} (hstart : above <+: place) :
    ¬tree.isFile above := by
  intro hfile
  by_cases heq : above = place
  · have herror := (makeFolders_eq_error hclosed).mpr (.inl ⟨heq ▸ hfile, rfl⟩)
    rw [h] at herror
    cases herror
  · have herror := (makeFolders_eq_error hclosed).mpr (.inr ⟨⟨above, hstart, heq, hfile⟩, rfl⟩)
    rw [h] at herror
    cases herror

theorem grows_makeFolders : Grows tree made where
  file {above} hfile := by
    have hsame : made.get? above = tree.get? above := by
      rw [get?_makeFolders hclosed h, if_neg]
      exact fun hstart => not_isFile_of_makeFolders hclosed h hstart hfile
    rw [isFile_congr hsame]
    exact hfile
  folder {above} hfolder := by
    rw [get?_makeFolders hclosed h, hfolder, ite_self]

theorem closed_makeFolders : made.Closed := by
  intro spot hat hsome
  rw [get?_makeFolders hclosed h] at hsome ⊢
  by_cases hparent : spot.dropLast <+: place
  · rw [if_pos hparent]
  · rw [if_neg hparent]
    rw [if_neg fun hstart => hparent ((List.dropLast_prefix spot).trans hstart)] at hsome
    exact hclosed spot hat hsome

theorem file?_makeFolders (spot : Location) : made.file? spot = tree.file? spot := by
  by_cases hstart : spot <+: place
  · have hfile := not_isFile_of_makeFolders hclosed h hstart
    rw [isFile, Option.not_isSome_iff_eq_none] at hfile
    rw [hfile, file?, get?_makeFolders hclosed h, if_pos hstart]
  · exact file?_congr (by rw [get?_makeFolders hclosed h, if_neg hstart])

end Made

/-- Folders that stand are there to be made. -/
theorem makeFolders_of_folder (h : tree.get? place = some .folder) :
    tree.makeFolders place = .ok tree := by
  rw [makeFolders, h]

/-! ## Writing files -/

theorem writeFile_eq_error {bytes : List UInt8} {fault : Fault} :
    tree.writeFile target bytes = .error fault ↔
      tree.get? target = some .folder ∧ fault = .isAFolder target := by
  rw [writeFile, ← isFolder_iff]
  split
  · rename_i hfolder
    simp [hfolder, eq_comm]
  · rename_i hfolder
    simp [hfolder]

theorem writeFile_eq_ok {bytes : List UInt8} {written : FileTree} :
    tree.writeFile target bytes = .ok written ↔
      tree.get? target ≠ some .folder ∧ written = tree.put target (.file bytes) := by
  rw [writeFile, Ne, ← isFolder_iff]
  split
  · rename_i hfolder
    simp [hfolder]
  · rename_i hfolder
    simp [hfolder, eq_comm]

section Put

variable (bytes : List UInt8) (hfolder : tree.get? target ≠ some .folder)

include hfolder

theorem grows_put : Grows tree (tree.put target (.file bytes)) := by
  have htarget : target ≠ [] := by
    rintro rfl
    exact hfolder rfl
  constructor
  · intro place hfile
    rw [isFile_iff, get?_put htarget]
    split
    · exact ⟨bytes, rfl⟩
    · exact isFile_iff.mp hfile
  · intro place hplace
    rw [get?_put htarget, if_neg, hplace]
    rintro rfl
    exact hfolder hplace

theorem closed_put (hclosed : tree.Closed) (hparent : tree.get? target.dropLast = some .folder) :
    (tree.put target (.file bytes)).Closed := by
  intro place hplace hsome
  have hgrows := grows_put bytes hfolder
  apply hgrows.folder
  by_cases heq : place = target
  · rw [heq, hparent]
  · have htarget : target ≠ [] := by
      rintro rfl
      exact hfolder rfl
    rw [get?_put htarget, if_neg heq] at hsome
    exact hclosed place hplace hsome

end Put

end FileTree

end Facade
