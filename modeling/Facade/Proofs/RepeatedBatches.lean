-- A batch that is run again. What the first run made stands in the way of nothing that was done and
-- clears the way for nothing that failed, so the second run does the same and changes nothing.
import Facade.Proofs.Batches

namespace Facade

open FileTree (Closed Distinct Grows Same)

variable {tree later : FileTree} {root out target place : Location} {relative : Path}

/-! ## The order of files -/

theorem locationLE_total (first second : Location) :
    (locationLE first second || locationLE second first) = true := by
  induction first generalizing second with
  | nil => rfl
  | cons a first ih =>
    cases second with
    | nil => rfl
    | cons b second =>
      rw [locationLE, locationLE]
      by_cases heq : a = b
      · simpa [heq] using ih second
      · rcases lt_or_gt_of_ne heq with hlt | hgt
        · simp [heq, hlt]
        · simp [heq, Ne.symm heq, hgt]

theorem locationLE_trans (first second third : Location) (h : locationLE first second = true)
    (h' : locationLE second third = true) : locationLE first third = true := by
  induction first generalizing second third with
  | nil => rfl
  | cons a first ih =>
    cases second with
    | nil => cases h
    | cons b second =>
      cases third with
      | nil => cases h'
      | cons c third =>
        rw [locationLE] at h h' ⊢
        by_cases hab : a = b
        · subst hab
          by_cases hac : a = c
          · subst hac
            simp only [beq_self_eq_true, if_true] at h h' ⊢
            exact ih second third h h'
          · simpa [hac] using h'
        · by_cases hbc : b = c
          · subst hbc
            simpa [hab] using h
          · have hlt : a < b := by simpa [hab] using h
            have hlt' : b < c := by simpa [hbc] using h'
            have hlast := lt_trans hlt hlt'
            simp [hlast.ne, hlast]

theorem locationLE_antisymm {first second : Location} (h : locationLE first second = true)
    (h' : locationLE second first = true) : first = second := by
  induction first generalizing second with
  | nil =>
    cases second with
    | nil => rfl
    | cons b second => cases h'
  | cons a first ih =>
    cases second with
    | nil => cases h
    | cons b second =>
      rw [locationLE] at h h'
      by_cases heq : a = b
      · subst heq
        simp only [beq_self_eq_true, if_true] at h h'
        rw [ih h h']
      · have hlt : a < b := by simpa [heq] using h
        have hgt : b < a := by simpa [Ne.symm heq] using h'
        exact absurd (lt_trans hlt hgt) (lt_irrefl a)

theorem declarationFiles_sorted (tree : FileTree) (root : Location) :
    (declarationFiles tree root).Pairwise fun first second =>
      locationLE first.parts second.parts = true := by
  rw [declarationFiles_eq]
  split
  · rw [List.pairwise_map]
    exact List.pairwise_mergeSort locationLE_trans locationLE_total _
  · exact List.Pairwise.nil

/-- Trees with the same declaration files give them in the same order. -/
theorem declarationFiles_congr (h : tree.Distinct) (hlater : later.Distinct)
    (hroot : tree.isFolder root = later.isFolder root)
    (hfiles : ∀ place, isDeclarationBelow root place → later.isFile place = tree.isFile place) :
    declarationFiles later root = declarationFiles tree root := by
  refine List.Perm.eq_of_pairwise ?_ (declarationFiles_sorted later root)
    (declarationFiles_sorted tree root) ?_
  · intro first second hfirst hsecond hle hge
    rw [mem_declarationFiles hlater] at hfirst
    rw [mem_declarationFiles h] at hsecond
    have hparts := locationLE_antisymm hle hge
    have hroots := hfirst.2.1.trans hsecond.2.1.symm
    cases first
    cases second
    cases hparts
    cases hroots
    rfl
  · rw [List.perm_ext_iff_of_nodup (declarationFiles_nodup hlater root)
      (declarationFiles_nodup h root)]
    intro relative
    rw [mem_declarationFiles hlater, mem_declarationFiles h, hroot]
    refine and_congr_right fun _ => and_congr_right fun _ => and_congr_right fun hbelow => ?_
    rw [hfiles _ hbelow]

/-! ## One file again -/

/-- A facade that was written is written again where it stands. -/
theorem writeFacade_again {written : FileTree} {facade : String} (hclosed : tree.Closed)
    (htarget : target ≠ []) (h : writeFacade tree target facade = .ok written)
    (hgrows : Grows written later) (hfile : later.file? target = written.file? target) :
    ∃ again, writeFacade later target facade = .ok again ∧ Same later again := by
  obtain ⟨made, hmade, hfolder, rfl⟩ := writeFacade_eq_ok.mp h
  have hparent : later.get? target.dropLast = some .folder := by
    refine hgrows.folder ((FileTree.grows_put _ hfolder).folder ?_)
    rw [FileTree.get?_makeFolders hclosed hmade, if_pos (List.prefix_refl _)]
  have hbytes : later.get? target = some (.file (Text.encodeUtf8 facade)) := by
    rw [← FileTree.file?_eq_some_iff, hfile, FileTree.file?_eq_some_iff,
      FileTree.get?_put htarget, if_pos rfl]
  refine ⟨_, writeFacade_eq_ok.mpr ⟨later, FileTree.makeFolders_of_folder hparent, by simp [hbytes],
    rfl⟩, fun place => ?_⟩
  rw [FileTree.get?_put htarget]
  split
  · rename_i heq
    rw [heq, hbytes]
  · rfl

/-- A facade that could not be written cannot be written again, for the same reason. -/
theorem writeFacade_fails_again {facade : String} {fault : BatchFault} (hclosed : tree.Closed)
    (hlater : later.Closed) (h : writeFacade tree target facade = .error fault)
    (hgrows : Grows (afterFailedWrite tree target) later) :
    writeFacade later target facade = .error fault ∧ afterFailedWrite later target = later := by
  rcases writeFacade_eq_error.mp h with ⟨reason, hreason, rfl⟩ | ⟨made, hmade, hfolder, rfl⟩
  · have hstay : Grows tree later := by
      rwa [afterFailedWrite, hreason] at hgrows
    have hagain : later.makeFolders target.dropLast = .error reason := by
      rw [FileTree.makeFolders_eq_error hclosed] at hreason
      rw [FileTree.makeFolders_eq_error hlater]
      rcases hreason with ⟨hfile, rfl⟩ | ⟨⟨above, hstart, hne, hfile⟩, rfl⟩
      · exact .inl ⟨hstay.file hfile, rfl⟩
      · exact .inr ⟨⟨above, hstart, hne, hstay.file hfile⟩, rfl⟩
    refine ⟨writeFacade_eq_error.mpr (.inl ⟨reason, hagain, rfl⟩), ?_⟩
    rw [afterFailedWrite, hagain]
    rfl
  · have hstay : Grows made later := by
      rwa [afterFailedWrite, hmade] at hgrows
    have hparent : later.get? target.dropLast = some .folder := by
      apply hstay.folder
      rw [FileTree.get?_makeFolders hclosed hmade, if_pos (List.prefix_refl _)]
    have hagain := FileTree.makeFolders_of_folder hparent
    refine ⟨writeFacade_eq_error.mpr (.inr ⟨later, hagain, hstay.folder hfolder, rfl⟩), ?_⟩
    rw [afterFailedWrite, hagain]
    rfl

/-- A file that was converted or failed does so again, and nothing changes. -/
theorem convertFile_again {run : BatchRun} (hclosed : run.tree.Closed) (hlater : later.Closed)
    (hpath : IsDeclarationPath relative)
    (hsource : later.file? (root ++ relative.parts) = run.tree.file? (root ++ relative.parts))
    (hgrows : Grows (run.convertFile root out relative).tree later)
    (hfile : later.file? (targetOf out relative) =
      (run.convertFile root out relative).tree.file? (targetOf out relative))
    (events : List BatchEvent) :
    ∃ again more, (run.convertFile root out relative).events = run.events ++ more ∧
      (BatchRun.mk later events).convertFile root out relative = ⟨again, events ++ more⟩ ∧
      Same later again := by
  have hread : readDeclarations later root relative = readDeclarations run.tree root relative :=
    readDeclarations_congr hsource
  rcases convertFile_cases root out run relative with
    ⟨fault, hfault, hstep⟩ | ⟨file, fault, hfound, hwrite, hstep⟩ | ⟨file, written, hfound, hwrite, hstep⟩
  · refine ⟨later, [.failed relative fault], by rw [hstep], ?_, fun _ => rfl⟩
    rw [BatchRun.convertFile, hread, hfault]
  · rw [hstep] at hgrows
    dsimp only at hgrows
    obtain ⟨hagain, hstays⟩ := writeFacade_fails_again hclosed hlater hwrite hgrows
    refine ⟨later, file.notices.map .noticed ++ [.failed relative fault], ?_, ?_, fun _ => rfl⟩
    · rw [hstep, List.append_assoc]
    · simp only [BatchRun.convertFile, hread, hfound, hagain, hstays, List.append_assoc]
  · rw [hstep] at hgrows hfile
    dsimp only at hgrows hfile
    obtain ⟨again, hagain, hsame⟩ :=
      writeFacade_again hclosed (targetOf_ne_nil hpath) hwrite hgrows hfile
    refine ⟨again, file.notices.map .noticed ++ [.converted relative (targetOf out relative)],
      ?_, ?_, hsame⟩
    · rw [hstep, List.append_assoc]
    · simp only [BatchRun.convertFile, hread, hfound, hagain, List.append_assoc]

/-! ## All files again -/

/-- Files that are taken again over what all of them left do as they did. The induction carries the
tree of the second run, which looks the same after every file. -/
theorem convertFiles_again {relatives : List Path} {run : BatchRun}
    (hpaths : ∀ relative ∈ relatives, IsDeclarationPath relative) (hnodup : relatives.Nodup)
    (hsources : ∀ relative ∈ relatives, run.tree.isFile (root ++ relative.parts))
    (hclosed : run.tree.Closed) (hdistinct : run.tree.Distinct) (hlater : later.Closed)
    (hgrows : Grows (relatives.foldl (BatchRun.convertFile root out) run).tree later)
    (hread : ∀ relative ∈ relatives,
      later.file? (root ++ relative.parts) = run.tree.file? (root ++ relative.parts))
    (hwritten : ∀ relative ∈ relatives, later.file? (targetOf out relative) =
      (relatives.foldl (BatchRun.convertFile root out) run).tree.file? (targetOf out relative))
    (events : List BatchEvent) :
    ∃ more, (relatives.foldl (BatchRun.convertFile root out) run).events = run.events ++ more ∧
      (relatives.foldl (BatchRun.convertFile root out) ⟨later, events⟩).events = events ++ more ∧
      Same later (relatives.foldl (BatchRun.convertFile root out) ⟨later, events⟩).tree := by
  induction relatives generalizing run later events with
  | nil => exact ⟨[], by simp, by simp, fun _ => rfl⟩
  | cons relative relatives ih =>
    rw [List.nodup_cons] at hnodup
    rw [List.forall_mem_cons] at hread hwritten
    rw [List.foldl_cons] at hgrows hwritten ⊢
    have hpath := hpaths relative List.mem_cons_self
    have hrestPaths : ∀ other ∈ relatives, IsDeclarationPath other := fun other hmem =>
      hpaths other (List.mem_cons_of_mem _ hmem)
    obtain ⟨first, hfirst⟩ : ∃ first,
        FileDone root out relative first run (run.convertFile root out relative) :=
      convertFile_done hclosed hdistinct hpath (hsources relative List.mem_cons_self)
    obtain ⟨bytes, hwrites, -⟩ := hfirst.writes
    have hrestSources : ∀ other ∈ relatives,
        (run.convertFile root out relative).tree.isFile (root ++ other.parts) := fun other hmem =>
      hwrites.grows.file (hsources other (List.mem_cons_of_mem _ hmem))
    obtain ⟨done, hrest⟩ := convertFiles_done hrestPaths hnodup.2 hrestSources hwrites.closed
      hwrites.distinct
    -- no file after the first has the first one's target
    have hkept := hrest.kept (targetOf out relative) fun other hmem _ heq =>
      hnodup.1 (targetOf_injective hpath (hrestPaths other hmem) heq ▸ hmem)
    obtain ⟨again, new, hnew, hagain, hsame⟩ := convertFile_again hclosed hlater hpath hread.1
      (hrest.grows.trans hgrows) (hwritten.1.trans hkept) events
    have hfile : ∀ place, later.file? place = again.file? place := fun place =>
      FileTree.file?_congr (hsame place)
    obtain ⟨more, hmore, hmoreAgain, hsameAgain⟩ := ih hrestPaths hnodup.2
      hrestSources hwrites.closed hwrites.distinct (hsame.closed hlater)
      (hgrows.trans hsame.grows)
      (fun other hmem => by
        rw [← hfile, hread.2 other hmem]
        exact (hfirst.file? fun _ => source_ne_target (hrestPaths other hmem) hpath).symm)
      (fun other hmem => by rw [← hfile, hwritten.2 other hmem]) (events ++ new)
    refine ⟨new ++ more, ?_, ?_, ?_⟩
    · rw [hmore, hnew, List.append_assoc]
    · rw [List.foldl_cons, hagain, hmoreAgain, List.append_assoc]
    · rw [List.foldl_cons, hagain]
      exact fun place => (hsame place).trans (hsameAgain place)

/-- A batch finds what it would have found before it ran. -/
theorem declarationFiles_convertFolder (h : tree.WellFormed) (root out : Location) :
    declarationFiles (convertFolder tree root out).tree root = declarationFiles tree root := by
  obtain ⟨done, hdone⟩ := convertFolder_done h root out
  by_cases hroot : tree.isFolder root
  · refine declarationFiles_congr h.distinct hdone.distinct ?_ fun place hbelow => ?_
    · rw [FileTree.isFolder_iff] at hroot
      rw [(FileTree.isFolder_iff).mpr hroot, (FileTree.isFolder_iff).mpr (hdone.grows.folder hroot)]
    · have hfile : (convertFolder tree root out).tree.file? place = tree.file? place := by
        refine hdone.kept place fun relative hmem _ heq => ?_
        have hpath := isDeclarationPath_of_mem h ((List.takeWhile_sublist _).mem hmem)
        rw [heq, isDeclarationBelow_targetOf hpath] at hbelow
        cases hbelow
      rw [FileTree.isFile, hfile, FileTree.isFile]
  · have hnone : declarationFiles tree root = [] := by
      rw [declarationFiles_eq, if_neg hroot]
    rw [convertFolder, hnone]
    exact hnone

/-! ## The law -/

/-- A batch that is run again finds the same files, tells the same of each of them, breaks off at
the same file or at none, and leaves every place as the first run left it. -/
theorem a_repeated_batch_changes_nothing (tree : FileTree) (root out : Location)
    (h : tree.WellFormed) :
    let first := convertFolder tree root out
    let second := convertFolder first.tree root out
    declarationFiles first.tree root = declarationFiles tree root ∧
      second.events = first.events ∧ second.converted = first.converted ∧
      second.failed = first.failed ∧ second.brokeOff = first.brokeOff ∧
      ∀ place, second.tree.get? place = first.tree.get? place := by
  intro first second
  obtain ⟨done, hdone⟩ := convertFolder_done h root out
  have hfound : declarationFiles first.tree root = declarationFiles tree root :=
    declarationFiles_convertFolder h root out
  have hpaths : ∀ relative ∈ declarationFiles tree root, IsDeclarationPath relative :=
    fun _ hmem => isDeclarationPath_of_mem h hmem
  have hsources : ∀ relative ∈ declarationFiles tree root,
      tree.isFile (root ++ relative.parts) := fun _ hmem =>
    ((mem_declarationFiles h.distinct).mp hmem).2.2.2
  have htaken : ∀ relative ∈ (declarationFiles tree root).takeWhile (!breaksOff tree root ·),
      relative ∈ declarationFiles tree root := fun _ hmem => (List.takeWhile_sublist _).mem hmem
  have hread : ∀ relative ∈ declarationFiles tree root,
      first.tree.file? (root ++ relative.parts) = tree.file? (root ++ relative.parts) :=
    fun relative hmem => hdone.kept _ fun other hother _ =>
      source_ne_target (hpaths relative hmem) (hpaths other (htaken other hother))
  have hfirst := convertFolder_eq h root out
  have hsecond : second =
      ⟨((declarationFiles tree root).takeWhile (!breaksOff tree root ·)).foldl
          (BatchRun.convertFile root out) ⟨first.tree, []⟩,
        (declarationFiles tree root).find? (breaksOff tree root)⟩ := by
    change convertFolder first.tree root out = _
    rw [convertFolder, hfound]
    exact convertFiles_eq (fun relative hmem => breaksOff_congr (hread relative hmem)) hpaths
      (fun relative hmem => hdone.grows.file (hsources relative hmem)) hdone.closed hdone.distinct
  have htree : (((declarationFiles tree root).takeWhile (!breaksOff tree root ·)).foldl
      (BatchRun.convertFile root out) ⟨tree, []⟩).tree = first.tree :=
    congrArg (·.tree) hfirst.symm
  obtain ⟨more, hmore, hmoreAgain, hsame⟩ := convertFiles_again
    (fun relative hmem => hpaths relative (htaken relative hmem))
    ((declarationFiles_nodup h.distinct root).sublist (List.takeWhile_sublist _))
    (fun relative hmem => hsources relative (htaken relative hmem)) h.closed h.distinct
    hdone.closed (by rw [htree]; exact FileTree.grows_refl first.tree)
    (fun relative hmem => hread relative (htaken relative hmem)) (fun _ _ => by rw [htree]) []
  have hevents : second.events = first.events := by
    rw [hsecond, hmoreAgain, ← hmore]
    exact congrArg (·.events) hfirst.symm
  refine ⟨hfound, hevents, ?_, ?_, ?_, ?_⟩
  · rw [BatchRun.converted, hevents, BatchRun.converted]
  · rw [BatchRun.failed, hevents, BatchRun.failed]
  · rw [hsecond]
    exact congrArg (·.brokeOff) hfirst.symm
  · intro place
    rw [hsecond]
    exact (hsame place).symm

/-- A batch into the folder that it reads, where a folder stands in place of one facade. -/
theorem a_repeated_batch_fails_on_the_same_file :
    let tree : FileTree := ⟨[(["in"], .folder), (["in", "a.d.ts.scala"], .folder),
      (["in", "a.d.ts"], .file "type A = string;".toUTF8.toList),
      (["in", "b.d.ts"], .file "type B = A[];".toUTF8.toList)]⟩
    let first := convertFolder tree ["in"] ["in"]
    let second := convertFolder first.tree ["in"] ["in"]
    tree.WellFormed ∧
      first.failed = [(⟨"", ["a.d.ts"]⟩, .unwritable (.isAFolder ["in", "a.d.ts.scala"]))] ∧
      first.converted = [["in", "b.d.ts.scala"]] ∧
      second.failed = first.failed ∧ second.converted = first.converted ∧
      second.tree.file? ["in", "b.d.ts.scala"] = first.tree.file? ["in", "b.d.ts.scala"] := by
  intro tree first second
  have hdistinct : tree.Distinct := by
    unfold FileTree.Distinct
    decide
  have hformed : tree.WellFormed := FileTree.wellFormed_of_entries hdistinct (by decide)
  have hfound : declarationFiles tree ["in"] = [⟨"", ["a.d.ts"]⟩, ⟨"", ["b.d.ts"]⟩] := by
    rw [declarationFiles_eq, if_pos (by decide), List.mergeSort_of_pairwise (by decide)]
    decide
  have hfirst : first = BatchRun.convertFiles ["in"] ["in"] ⟨tree, []⟩
      [⟨"", ["a.d.ts"]⟩, ⟨"", ["b.d.ts"]⟩] := by
    rw [← hfound]
    rfl
  obtain ⟨-, -, hconverted, hfailed, -, hsame⟩ :=
    a_repeated_batch_changes_nothing tree ["in"] ["in"] hformed
  refine ⟨hformed, ?_, ?_, hfailed, hconverted, FileTree.file?_congr (hsame ["in", "b.d.ts.scala"])⟩
  · rw [hfirst]
    decide +kernel
  · rw [hfirst]
    decide +kernel

end Facade
