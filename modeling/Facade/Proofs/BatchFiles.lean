-- The files that a batch finds, and where their facades go. A facade's name is the name of its
-- declaration file and more, so no two facades go to one place and none goes to a declaration file.
import Facade.Batch
import Facade.Proofs.FileTrees
import Facade.Proofs.Text
import Mathlib.Data.List.Nodup
import Mathlib.Data.String.Basic

namespace Facade

/-! ## Names -/

/-- Whether a text can be the name of a file or folder. -/
def IsFileName (name : String) : Prop :=
  name ≠ "" ∧ name ≠ "." ∧ name ≠ ".." ∧ '/' ∉ name.toList

instance (name : String) : Decidable (IsFileName name) :=
  inferInstanceAs (Decidable (name ≠ "" ∧ name ≠ "." ∧ name ≠ ".." ∧ '/' ∉ name.toList))

/-- A tree of files and folders as it can be on a disk. -/
structure FileTree.WellFormed (tree : FileTree) : Prop where
  /-- Every part of a place has a proper name. -/
  names : ∀ place, tree.get? place ≠ none → ∀ name ∈ place, IsFileName name
  distinct : tree.Distinct
  closed : tree.Closed

/-- It is enough to look at what is listed. -/
theorem FileTree.wellFormed_of_entries {tree : FileTree} (hdistinct : tree.Distinct)
    (h : ∀ listed ∈ tree.entries, (∀ name ∈ listed.1, IsFileName name) ∧
      tree.get? listed.1.dropLast = some .folder) : tree.WellFormed := by
  have hlisted {place : Location} (hplace : place ≠ []) (hsome : tree.get? place ≠ none) :
      ∃ entry, (place, entry) ∈ tree.entries := by
    obtain ⟨entry, hentry⟩ := Option.ne_none_iff_exists'.mp hsome
    exact ⟨entry, (hdistinct.mem_entries hplace).mpr hentry⟩
  refine ⟨fun place hsome name hname => ?_, hdistinct, fun place hplace hsome => ?_⟩
  · obtain ⟨entry, hmem⟩ := hlisted (List.ne_nil_of_mem hname) hsome
    exact (h _ hmem).1 name hname
  · obtain ⟨entry, hmem⟩ := hlisted hplace hsome
    exact (h _ hmem).2

/-- How a facade's name goes on after that of the declaration file. -/
def facadeSuffix : String := ".scala"

/-- A relative path to a declaration file, by its names. -/
structure IsDeclarationPath (relative : Path) : Prop where
  root : relative.root = ""
  names : ∀ name ∈ relative.parts, IsFileName name
  suffix : ∃ folders name, relative.parts = folders ++ [name] ∧
    declarationSuffix.toList <:+ name.toList

variable {relative other : Path} {folders : List String} {name : String} {out : Location}

theorem Path.text_eq (hroot : relative.root = "") (hparts : relative.parts = folders ++ [name]) :
    relative.text = "/".intercalate (folders ++ [name]) := by
  rw [Path.text, hroot, hparts]
  simp

theorem intercalate_concat_append (glue suffix : String) :
    glue.intercalate (folders ++ [name]) ++ suffix =
      glue.intercalate (folders ++ [name ++ suffix]) := by
  cases folders with
  | nil => simp
  | cons first rest =>
    rw [String.intercalate_append_of_ne_nil (by simp) (by simp),
      String.intercalate_append_of_ne_nil (by simp) (by simp), String.intercalate_singleton,
      String.intercalate_singleton, String.append_assoc]

theorem suffix_intercalate (glue : String) {suffix : List Char} (h : suffix <:+ name.toList) :
    suffix <:+ (glue.intercalate (folders ++ [name])).toList := by
  cases folders with
  | nil => simpa using h
  | cons first rest =>
    rw [String.intercalate_append_of_ne_nil (by simp) (by simp), String.intercalate_singleton,
      String.toList_append]
    exact h.trans (List.suffix_append _ _)

/-- What is left when an ending is dropped makes the text again with it. -/
theorem dropEnding?_append {ending text : String} (h : ending.toList <:+ text.toList) :
    ∃ start, dropEnding? ending text = some start ∧ start ++ ending = text := by
  obtain ⟨start, hstart⟩ := h
  refine ⟨String.ofList start, ?_, ?_⟩
  · rw [dropEnding?, ← hstart, if_pos (by simp)]
    simp
  · rw [← String.toList_inj, String.toList_append, String.toList_ofList, hstart]

/-- A declaration path without its ending, and with that of a facade. -/
theorem declarationStem_append (hroot : relative.root = "")
    (hparts : relative.parts = folders ++ [name])
    (hsuffix : declarationSuffix.toList <:+ name.toList) :
    declarationStem relative ++ outputSuffix =
      "/".intercalate (folders ++ [name ++ facadeSuffix]) := by
  have htext := Path.text_eq hroot hparts
  have hending : outputSuffix = declarationSuffix ++ facadeSuffix := rfl
  obtain ⟨stem, hstem, happend⟩ := dropEnding?_append
    (htext ▸ suffix_intercalate "/" hsuffix : declarationSuffix.toList <:+ relative.text.toList)
  rw [declarationStem, hstem, Option.getD_some, hending, ← String.append_assoc, happend, htext,
    intercalate_concat_append]

theorem isFileName_facade (h : IsFileName name) : IsFileName (name ++ facadeSuffix) := by
  have hlong : facadeSuffix.length < (name ++ facadeSuffix).length := by
    have hpos : name.length ≠ 0 := by simpa using h.1
    rw [String.length_append]
    omega
  refine ⟨?_, ?_, ?_, ?_⟩
  · intro heq
    rw [heq] at hlong
    exact absurd hlong (by decide)
  · intro heq
    rw [heq] at hlong
    exact absurd hlong (by decide)
  · intro heq
    rw [heq] at hlong
    exact absurd hlong (by decide)
  · rw [String.toList_append, List.mem_append]
    rintro (hmem | hmem)
    · exact h.2.2.2 hmem
    · exact absurd hmem (by decide)

/-- A path of proper names is read back from its text. -/
theorem Path.ofText_intercalate {parts : List String} (hne : parts ≠ [])
    (hnames : ∀ part ∈ parts, IsFileName part) :
    Path.ofText ("/".intercalate parts) = ⟨"", parts⟩ := by
  have hsegments : Text.segments '/' ("/".intercalate parts) = parts :=
    Text.segments_intercalate rfl hne fun part hpart => (hnames part hpart).2.2.2
  have hkept : parts.filter (fun part => part != "" && part != ".") = parts := by
    rw [List.filter_eq_self]
    intro part hpart
    simp [(hnames part hpart).1, (hnames part hpart).2.1]
  have hstart : Path.rootOf ("/".intercalate parts).toList = "" := by
    obtain ⟨first, rest, rfl⟩ := List.exists_cons_of_ne_nil hne
    obtain ⟨more, hmore⟩ : ∃ more, "/".intercalate (first :: rest) = first ++ more := by
      cases rest with
      | nil => exact ⟨"", by simp⟩
      | cons second rest => exact ⟨_, by rw [String.intercalate_cons_cons, String.append_assoc]⟩
    have hfirst := hnames first List.mem_cons_self
    obtain ⟨c, chars, hchars⟩ := List.exists_cons_of_ne_nil (String.toList_eq_nil_iff.not.mpr hfirst.1)
    have hc : c ≠ '/' := by
      rintro rfl
      exact hfirst.2.2.2 (hchars ▸ List.mem_cons_self)
    rw [hmore, String.toList_append, hchars, Path.rootOf]
    simp [hc]
  rw [Path.ofText, hsegments, hkept, hstart]

/-- The facade of a declaration file stands below the output folder as the file below the root,
under a longer name. -/
theorem targetOf_eq (hroot : relative.root = "") (hparts : relative.parts = folders ++ [name])
    (hnames : ∀ part ∈ relative.parts, IsFileName part)
    (hsuffix : declarationSuffix.toList <:+ name.toList) :
    targetOf out relative = out ++ folders ++ [name ++ facadeSuffix] := by
  have hfacade : ∀ part ∈ folders ++ [name ++ facadeSuffix], IsFileName part := by
    rw [hparts, List.forall_mem_append, List.forall_mem_singleton] at hnames
    rw [List.forall_mem_append, List.forall_mem_singleton]
    exact ⟨hnames.1, isFileName_facade hnames.2⟩
  rw [targetOf, outputOf, declarationStem_append hroot hparts hsuffix,
    Path.ofText_intercalate (by simp) hfacade]
  simp [Path.join]

section Targets

variable (h : IsDeclarationPath relative)

include h

theorem targetOf_ne_nil : targetOf out relative ≠ [] := by
  obtain ⟨folders, name, hparts, hsuffix⟩ := h.suffix
  rw [targetOf_eq h.root hparts h.names hsuffix]
  simp

/-- Two declaration files have their facades at two places. -/
theorem targetOf_injective (hother : IsDeclarationPath other)
    (heq : targetOf out relative = targetOf out other) : relative = other := by
  obtain ⟨folders, name, hparts, hsuffix⟩ := h.suffix
  obtain ⟨folders', name', hparts', hsuffix'⟩ := hother.suffix
  rw [targetOf_eq h.root hparts h.names hsuffix,
    targetOf_eq hother.root hparts' hother.names hsuffix', List.append_assoc, List.append_assoc,
    List.append_cancel_left_eq] at heq
  obtain ⟨hfolders, hname⟩ := List.append_inj' heq rfl
  have hname : name = name' := by
    rw [List.singleton_inj, ← String.toList_inj, String.toList_append, String.toList_append,
      List.append_cancel_right_eq, String.toList_inj] at hname
    exact hname
  have hroot : relative.root = other.root := h.root.trans hother.root.symm
  have hsame : relative.parts = other.parts := by rw [hparts, hparts', hfolders, hname]
  cases relative
  cases other
  cases hroot
  cases hsame
  rfl

/-- A facade's name does not end like that of a declaration file. -/
theorem isDeclarationBelow_targetOf (root : Location) :
    isDeclarationBelow root (targetOf out relative) = false := by
  obtain ⟨folders, name, hparts, hsuffix⟩ := h.suffix
  have hlast : declarationSuffix.toList.isSuffixOf (name ++ facadeSuffix).toList = false := by
    rw [Bool.eq_false_iff, Ne, List.isSuffixOf_iff_suffix]
    intro hends
    have hshort : facadeSuffix.toList <:+ (name ++ facadeSuffix).toList := by
      rw [String.toList_append]
      exact List.suffix_append _ _
    exact absurd (List.suffix_of_suffix_length_le hends hshort (by decide)) (by decide)
  rw [targetOf_eq h.root hparts h.names hsuffix, isDeclarationBelow, List.getLastD_concat,
    hlast, Bool.and_false]

end Targets

/-! ## Files that are found -/

variable {tree : FileTree} {root place : Location}

theorem isDeclarationBelow_append {parts : List String} :
    isDeclarationBelow root (root ++ parts) ↔
      ∃ folders name, parts = folders ++ [name] ∧ declarationSuffix.toList <:+ name.toList := by
  rw [isDeclarationBelow]
  constructor
  · intro h
    simp only [Bool.and_eq_true, decide_eq_true_eq, List.isSuffixOf_iff_suffix,
      List.length_append] at h
    obtain ⟨⟨-, hlength⟩, hsuffix⟩ := h
    have hne : parts ≠ [] := by
      rintro rfl
      simp at hlength
    refine ⟨parts.dropLast, parts.getLast hne, (List.dropLast_append_getLast hne).symm, ?_⟩
    rwa [List.getLastD_eq_getLast?, List.getLast?_append_of_ne_nil _ hne,
      List.getLast?_eq_some_getLast hne] at hsuffix
  · rintro ⟨folders, name, rfl, hsuffix⟩
    rw [← List.append_assoc, List.getLastD_concat]
    simp [hsuffix, List.isSuffixOf_iff_suffix]

/-- No facade goes to the place of a declaration file. -/
theorem source_ne_target (h : IsDeclarationPath relative) (hother : IsDeclarationPath other) :
    root ++ relative.parts ≠ targetOf out other := by
  intro heq
  have hbelow : isDeclarationBelow root (root ++ relative.parts) :=
    isDeclarationBelow_append.mpr h.suffix
  rw [heq, isDeclarationBelow_targetOf hother] at hbelow
  cases hbelow

theorem isDeclarationBelow_split (h : isDeclarationBelow root place) :
    place = root ++ place.drop root.length := by
  rw [isDeclarationBelow, Bool.and_eq_true, Bool.and_eq_true, List.isPrefixOf_iff_prefix] at h
  exact (List.prefix_iff_eq_append.mp h.1.1).symm

theorem ne_nil_of_isDeclarationBelow (h : isDeclarationBelow root place) : place ≠ [] := by
  rintro rfl
  simp [isDeclarationBelow] at h

/-- What is listed below a root as a declaration file. -/
def isListed (root : Location) (listed : Location × Entry) : Bool :=
  listed.2 != .folder && isDeclarationBelow root listed.1

/-- A listed declaration file is a file. -/
theorem isFile_of_isListed (h : tree.Distinct) {listed : Location × Entry} (hmem : listed ∈ tree.entries)
    (hlisted : isListed root listed) : tree.isFile listed.1 := by
  obtain ⟨place, entry⟩ := listed
  rw [isListed, Bool.and_eq_true, bne_iff_ne] at hlisted
  have hget := (h.mem_entries (ne_nil_of_isDeclarationBelow hlisted.2)).mp hmem
  cases entry with
  | file bytes => exact FileTree.isFile_iff.mpr ⟨bytes, hget⟩
  | folder => exact absurd rfl hlisted.1

theorem declarationFiles_eq (tree : FileTree) (root : Location) :
    declarationFiles tree root =
      if tree.isFolder root then
        (((tree.entries.filter (isListed root)).map (·.1.drop root.length)).mergeSort locationLE).map
          (⟨"", ·⟩)
      else [] := rfl

/-- The files that are found are the files below the root with the ending of declaration files. -/
theorem mem_declarationFiles (h : tree.Distinct) :
    relative ∈ declarationFiles tree root ↔
      tree.isFolder root ∧ relative.root = "" ∧ isDeclarationBelow root (root ++ relative.parts) ∧
        tree.isFile (root ++ relative.parts) := by
  rw [declarationFiles_eq]
  by_cases hroot : tree.isFolder root
  · rw [if_pos hroot, List.mem_map]
    simp only [List.mem_mergeSort, List.mem_map, List.mem_filter]
    constructor
    · rintro ⟨parts, ⟨listed, ⟨hmem, hlisted⟩, rfl⟩, rfl⟩
      have hfile := isFile_of_isListed h hmem hlisted
      rw [isListed, Bool.and_eq_true] at hlisted
      have hsplit := isDeclarationBelow_split hlisted.2
      exact ⟨hroot, rfl, hsplit ▸ hlisted.2, hsplit ▸ hfile⟩
    · rintro ⟨-, hempty, hbelow, hfile⟩
      obtain ⟨bytes, hbytes⟩ := FileTree.isFile_iff.mp hfile
      have hmem := (h.mem_entries (ne_nil_of_isDeclarationBelow hbelow)).mpr hbytes
      refine ⟨relative.parts, ⟨_, ⟨hmem, ?_⟩, by simp⟩, ?_⟩
      · rw [isListed, hbelow]
        rfl
      · cases relative
        cases hempty
        rfl
  · simp [hroot]

theorem declarationFiles_nodup (h : tree.Distinct) (root : Location) :
    (declarationFiles tree root).Nodup := by
  rw [declarationFiles_eq]
  split
  · have hlisted : (tree.entries.filter (isListed root)).Nodup :=
      (List.Nodup.of_map _ h).filter _
    refine List.Nodup.map (fun _ _ heq => (Path.mk.inj heq).2) ?_
    rw [(List.mergeSort_perm _ _).nodup_iff]
    refine hlisted.map_on fun first hfirst second hsecond heq => ?_
    rw [List.mem_filter, isListed, Bool.and_eq_true] at hfirst hsecond
    have hplace : first.1 = second.1 := by
      rw [isDeclarationBelow_split hfirst.2.2, isDeclarationBelow_split hsecond.2.2, heq]
    exact List.inj_on_of_nodup_map h hfirst.1 hsecond.1 hplace
  · exact List.nodup_nil

theorem isDeclarationPath_of_mem (h : tree.WellFormed) (hmem : relative ∈ declarationFiles tree root) :
    IsDeclarationPath relative := by
  rw [mem_declarationFiles h.distinct] at hmem
  obtain ⟨-, hroot, hbelow, hfile⟩ := hmem
  obtain ⟨bytes, hbytes⟩ := FileTree.isFile_iff.mp hfile
  refine ⟨hroot, fun name hname => ?_, isDeclarationBelow_append.mp hbelow⟩
  exact h.names (root ++ relative.parts) (by simp [hbytes]) name (List.mem_append_right root hname)

end Facade
