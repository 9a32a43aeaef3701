-- The laws of batches. A batch takes the files that it found one after the other, up to one that
-- breaks it off. Each is converted or left out, and what one file changes is its own facade and the
-- folders on the way to it.
import Facade.Proofs.BatchFiles
import Mathlib.Data.List.TakeWhile

namespace Facade

open FileTree (Closed Distinct Grows)

variable {tree other made written : FileTree} {root out target place : Location} {relative : Path}

/-! ## Writing a facade -/

theorem prefix_of_dropLast {above : Location} (h : above <+: target.dropLast) :
    above <+: target :=
  h.trans (List.dropLast_prefix target)

theorem writeFacade_eq_ok {facade : String} :
    writeFacade tree target facade = .ok written ↔
      ∃ made, tree.makeFolders target.dropLast = .ok made ∧ made.get? target ≠ some .folder ∧
        written = made.put target (.file (Text.encodeUtf8 facade)) := by
  unfold writeFacade
  cases tree.makeFolders target.dropLast with
  | error fault => simp
  | ok made =>
    simp only [Except.ok.injEq, exists_eq_left', ← FileTree.writeFile_eq_ok]
    cases made.writeFile target (Text.encodeUtf8 facade) <;> simp

theorem writeFacade_eq_error {facade : String} {fault : BatchFault} :
    writeFacade tree target facade = .error fault ↔
      (∃ reason, tree.makeFolders target.dropLast = .error reason ∧ fault = .unwritable reason) ∨
        ∃ made, tree.makeFolders target.dropLast = .ok made ∧ made.get? target = some .folder ∧
          fault = .unwritable (.isAFolder target) := by
  unfold writeFacade
  cases tree.makeFolders target.dropLast with
  | error reason => simp [eq_comm]
  | ok made =>
    have herror := @FileTree.writeFile_eq_error made target (Text.encodeUtf8 facade)
    cases hwrite : made.writeFile target (Text.encodeUtf8 facade) with
    | error reason =>
      obtain ⟨hfolder, rfl⟩ := herror.mp hwrite
      simp [hwrite, hfolder, eq_comm]
    | ok written =>
      have hfolder : made.get? target ≠ some .folder := (FileTree.writeFile_eq_ok.mp hwrite).1
      simp [hwrite, hfolder]

/-- What writing does to a tree: files stay files and folders stay folders, a file changes only at the
place that is written, and all that changes stands on the way to it. -/
structure WritesAt (target : Location) (bytes : Option (List UInt8)) (before after : FileTree) :
    Prop where
  grows : Grows before after
  closed : after.Closed
  distinct : after.Distinct
  file? : ∀ place, after.file? place =
    if place = target then bytes.or (before.file? place) else before.file? place
  changed : ∀ place, after.get? place ≠ before.get? place → place <+: target

theorem writesAt_refl (hclosed : tree.Closed) (hdistinct : tree.Distinct) (target : Location) :
    WritesAt target none tree tree where
  grows := FileTree.grows_refl tree
  closed := hclosed
  distinct := hdistinct
  file? place := by simp
  changed place hchanged := absurd rfl hchanged

theorem writesAt_makeFolders (hclosed : tree.Closed) (hdistinct : tree.Distinct)
    (hmade : tree.makeFolders target.dropLast = .ok made) : WritesAt target none tree made where
  grows := FileTree.grows_makeFolders hclosed hmade
  closed := FileTree.closed_makeFolders hclosed hmade
  distinct := hdistinct.makeFolders hmade
  file? place := by simp [FileTree.file?_makeFolders hclosed hmade]
  changed place hchanged := by
    by_contra hstart
    apply hchanged
    rw [FileTree.get?_makeFolders hclosed hmade,
      if_neg fun habove => hstart (prefix_of_dropLast habove)]

theorem writesAt_writeFacade (hclosed : tree.Closed) (hdistinct : tree.Distinct)
    (htarget : target ≠ []) {facade : String} (h : writeFacade tree target facade = .ok written) :
    WritesAt target (some (Text.encodeUtf8 facade)) tree written := by
  obtain ⟨made, hmade, hfolder, rfl⟩ := writeFacade_eq_ok.mp h
  have hfolders := writesAt_makeFolders hclosed hdistinct hmade
  have hparent : made.get? target.dropLast = some .folder := by
    rw [FileTree.get?_makeFolders hclosed hmade, if_pos (List.prefix_refl _)]
  refine ⟨hfolders.grows.trans (FileTree.grows_put _ hfolder),
    FileTree.closed_put _ hfolder hfolders.closed hparent, hfolders.distinct.put _ _, ?_, ?_⟩
  · intro place
    by_cases heq : place = target
    · rw [if_pos heq, Option.some_or, FileTree.file?_eq_some_iff, FileTree.get?_put htarget,
        if_pos heq]
    · have hput : (made.put target (.file (Text.encodeUtf8 facade))).get? place = made.get? place := by
        rw [FileTree.get?_put htarget, if_neg heq]
      rw [if_neg heq, FileTree.file?_congr hput, FileTree.file?_makeFolders hclosed hmade]
  · intro place hchanged
    by_cases heq : place = target
    · exact heq ▸ List.prefix_refl place
    · rw [FileTree.get?_put htarget, if_neg heq] at hchanged
      exact hfolders.changed place hchanged

theorem writesAt_afterFailedWrite (hclosed : tree.Closed) (hdistinct : tree.Distinct)
    (target : Location) : WritesAt target none tree (afterFailedWrite tree target) := by
  unfold afterFailedWrite
  cases hmade : tree.makeFolders target.dropLast with
  | error fault => exact writesAt_refl hclosed hdistinct target
  | ok made => exact writesAt_makeFolders hclosed hdistinct hmade

/-! ## Reading a file -/

/-- The text of the declaration file converts to the facade. -/
def Converts (tree : FileTree) (root : Location) (relative : Path) (facade : String) : Prop :=
  ∃ bytes text, tree.file? (root ++ relative.parts) = some bytes ∧ sourceText bytes = .ok text ∧
    convert text (packageOf relative) = .ok facade

theorem Converts.congr {facade : String}
    (hfile : tree.file? (root ++ relative.parts) = other.file? (root ++ relative.parts)) :
    Converts tree root relative facade ↔ Converts other root relative facade := by
  rw [Converts, hfile, Converts]

theorem readDeclarations_congr
    (hfile : tree.file? (root ++ relative.parts) = other.file? (root ++ relative.parts)) :
    readDeclarations tree root relative = readDeclarations other root relative := by
  rw [readDeclarations, hfile, readDeclarations]

theorem breaksOff_congr
    (hfile : tree.file? (root ++ relative.parts) = other.file? (root ++ relative.parts)) :
    breaksOff tree root relative = breaksOff other root relative := by
  rw [breaksOff, readDeclarations_congr hfile, breaksOff]

/-- The only error that is not reported: a text is read to the end, but a type in it is about
nothing. -/
theorem parseFor_unreported_iff {text package : String} :
    (∃ error, parseFor text package = .error error ∧ error.isReported = false) ↔
      package ≠ "" ∧ parse text = .error .missingOperand := by
  unfold parseFor
  split
  · rename_i hempty
    rw [String.isEmpty_iff] at hempty
    simp [hempty, ConvertError.isReported]
  · rename_i hempty
    rw [String.isEmpty_iff] at hempty
    cases hparse : parse text with
    | ok file => simp
    | error error => cases error <;> simp [hempty, ConvertError.isReported]

theorem isReported_of_sourceText {bytes : List UInt8} {fault : BatchFault}
    (h : sourceText bytes = .error fault) : fault.isReported := by
  unfold sourceText at h
  split at h
  · cases h
  · cases h
    rfl

theorem breaksOff_iff {bytes : List UInt8}
    (hbytes : tree.file? (root ++ relative.parts) = some bytes) :
    breaksOff tree root relative ↔ ∃ text, sourceText bytes = .ok text ∧ packageOf relative ≠ "" ∧
      parse text = .error .missingOperand := by
  rw [breaksOff, readDeclarations, hbytes, Option.getD_some]
  cases htext : sourceText bytes with
  | error fault => simp [bind, Except.bind, isReported_of_sourceText htext]
  | ok text =>
    simp only [Except.ok.injEq, exists_eq_left', ← parseFor_unreported_iff]
    cases hparse : parseFor text (packageOf relative) with
    | ok file => simp [hparse, bind, Except.bind]
    | error error => simp [hparse, bind, Except.bind, BatchFault.isReported]

/-- What is read is what converts. -/
theorem converts_of_readDeclarations (hsource : tree.isFile (root ++ relative.parts))
    {file : DeclarationFile} (h : readDeclarations tree root relative = .ok file) :
    Converts tree root relative (file.facade (packageOf relative)) := by
  obtain ⟨bytes, hbytes⟩ := Option.isSome_iff_exists.mp hsource
  rw [readDeclarations, hbytes, Option.getD_some] at h
  cases htext : sourceText bytes with
  | error fault => simp [htext, bind, Except.bind] at h
  | ok text =>
    cases hparse : parseFor text (packageOf relative) with
    | error error => simp [htext, hparse, bind, Except.bind] at h
    | ok found =>
      simp only [htext, hparse, bind, Except.bind, Except.ok.injEq] at h
      subst h
      exact ⟨bytes, text, hbytes, htext, by rw [convert, hparse]; rfl⟩

/-! ## One file -/

/-- What can happen to a file: it cannot be read, its facade cannot be written, or it is converted. -/
theorem convertFile_cases (root out : Location) (run : BatchRun) (relative : Path) :
    (∃ fault, readDeclarations run.tree root relative = .error fault ∧
      run.convertFile root out relative = ⟨run.tree, run.events ++ [.failed relative fault]⟩) ∨
    (∃ file fault, readDeclarations run.tree root relative = .ok file ∧
      writeFacade run.tree (targetOf out relative) (file.facade (packageOf relative)) =
        .error fault ∧
      run.convertFile root out relative =
        ⟨afterFailedWrite run.tree (targetOf out relative),
          run.events ++ file.notices.map .noticed ++ [.failed relative fault]⟩) ∨
    ∃ file written, readDeclarations run.tree root relative = .ok file ∧
      writeFacade run.tree (targetOf out relative) (file.facade (packageOf relative)) =
        .ok written ∧
      run.convertFile root out relative =
        ⟨written, run.events ++ file.notices.map .noticed
          ++ [.converted relative (targetOf out relative)]⟩ := by
  unfold BatchRun.convertFile
  split
  · rename_i fault hread
    exact .inl ⟨fault, hread, rfl⟩
  · rename_i file hread
    right
    dsimp only
    split
    · rename_i fault hwrite
      exact .inl ⟨file, fault, hread, hwrite, rfl⟩
    · rename_i written hwrite
      exact .inr ⟨file, written, hread, hwrite, rfl⟩

theorem converted_mk_append (tree : FileTree) (run : BatchRun) (events : List BatchEvent) :
    (BatchRun.mk tree (run.events ++ events)).converted =
      run.converted ++ (BatchRun.mk tree events).converted :=
  List.filterMap_append

theorem failed_mk_append (tree : FileTree) (run : BatchRun) (events : List BatchEvent) :
    (BatchRun.mk tree (run.events ++ events)).failed =
      run.failed ++ (BatchRun.mk tree events).failed :=
  List.filterMap_append

theorem converted_noticed (tree : FileTree) (notices : List Notice) (event : BatchEvent) :
    (BatchRun.mk tree (notices.map .noticed ++ [event])).converted =
      (BatchRun.mk tree [event]).converted := by
  simp [BatchRun.converted, List.filterMap_append, List.filterMap_map]

theorem failed_noticed (tree : FileTree) (notices : List Notice) (event : BatchEvent) :
    (BatchRun.mk tree (notices.map .noticed ++ [event])).failed =
      (BatchRun.mk tree [event]).failed := by
  simp [BatchRun.failed, List.filterMap_append, List.filterMap_map]

/-- What the conversion of one file does to a batch, whether it is done or fails. -/
structure FileDone (root out : Location) (relative : Path) (done : Bool) (before after : BatchRun) :
    Prop where
  converted : after.converted =
    before.converted ++ if done then [targetOf out relative] else []
  failed : after.failed.map (·.1) = before.failed.map (·.1) ++ if done then [] else [relative]
  writes : ∃ bytes, WritesAt (targetOf out relative) bytes before.tree after.tree ∧
    bytes.isSome = done ∧
    ∀ facade, bytes = some facade → ∃ text, facade = Text.encodeUtf8 text ∧
      Converts before.tree root relative text

theorem convertFile_done {run : BatchRun} (hclosed : run.tree.Closed) (hdistinct : run.tree.Distinct)
    (hpath : IsDeclarationPath relative) (hsource : run.tree.isFile (root ++ relative.parts)) :
    ∃ done, FileDone root out relative done run (run.convertFile root out relative) := by
  have htarget : targetOf out relative ≠ [] := targetOf_ne_nil hpath
  rcases convertFile_cases root out run relative with
    ⟨fault, hread, hstep⟩ | ⟨file, fault, hread, hwrite, hstep⟩ | ⟨file, written, hread, hwrite, hstep⟩
  · have hwrites := writesAt_refl hclosed hdistinct (targetOf out relative)
    rw [hstep]
    refine ⟨false, ?_, ?_, ⟨none, hwrites, rfl, by simp⟩⟩
    · rw [converted_mk_append]
      rfl
    · rw [failed_mk_append, List.map_append]
      rfl
  · have hwrites := writesAt_afterFailedWrite hclosed hdistinct (targetOf out relative)
    rw [hstep, List.append_assoc]
    refine ⟨false, ?_, ?_, ?_⟩
    · rw [converted_mk_append, converted_noticed]
      rfl
    · rw [failed_mk_append, failed_noticed, List.map_append]
      rfl
    · dsimp only
      exact ⟨none, hwrites, rfl, by simp⟩
  · have hwrites := writesAt_writeFacade hclosed hdistinct htarget hwrite
    have hconverts := converts_of_readDeclarations hsource hread
    rw [hstep, List.append_assoc]
    refine ⟨true, ?_, ?_, ⟨_, hwrites, rfl, fun facade hfacade => ?_⟩⟩
    · rw [converted_mk_append, converted_noticed]
      rfl
    · rw [failed_mk_append, failed_noticed, List.map_append]
      rfl
    · exact ⟨_, (Option.some.inj hfacade).symm, hconverts⟩

/-- A file that does not convert creates nothing. -/
theorem tree_convertFile_of_not_converts {run : BatchRun}
    (hsource : run.tree.isFile (root ++ relative.parts))
    (h : ¬∃ facade, Converts run.tree root relative facade) :
    (run.convertFile root out relative).tree = run.tree := by
  rcases convertFile_cases root out run relative with
    ⟨fault, -, hstep⟩ | ⟨file, fault, hread, -, -⟩ | ⟨file, written, hread, -, -⟩
  · rw [hstep]
  · exact absurd ⟨_, converts_of_readDeclarations hsource hread⟩ h
  · exact absurd ⟨_, converts_of_readDeclarations hsource hread⟩ h

theorem FileDone.file? {done : Bool} {before after : BatchRun}
    (h : FileDone root out relative done before after)
    (hplace : done = true → place ≠ targetOf out relative) :
    after.tree.file? place = before.tree.file? place := by
  obtain ⟨bytes, hwrites, hdone, -⟩ := h.writes
  rw [hwrites.file?]
  split
  · rename_i heq
    cases bytes with
    | none => rfl
    | some facade => exact absurd heq (hplace hdone.symm)
  · rfl

/-! ## All files -/

/-- What a batch does to the files that it takes, of which some are done and the others fail. -/
structure BatchDone (root out : Location) (relatives : List Path) (done : Path → Bool)
    (before after : BatchRun) : Prop where
  converted : after.converted = before.converted ++ (relatives.filter done).map (targetOf out)
  failed : after.failed.map (·.1) = before.failed.map (·.1) ++ relatives.filter (!done ·)
  written : ∀ relative ∈ relatives, done relative → ∃ facade,
    Converts before.tree root relative facade ∧
      after.tree.file? (targetOf out relative) = some (Text.encodeUtf8 facade)
  kept : ∀ place, (∀ relative ∈ relatives, done relative → place ≠ targetOf out relative) →
    after.tree.file? place = before.tree.file? place
  changed : ∀ place, after.tree.get? place ≠ before.tree.get? place →
    ∃ relative ∈ relatives, (∃ facade, Converts before.tree root relative facade) ∧
      place <+: targetOf out relative
  grows : Grows before.tree after.tree
  closed : after.tree.Closed
  distinct : after.tree.Distinct

theorem batchDone_nil {run : BatchRun} (hclosed : run.tree.Closed) (hdistinct : run.tree.Distinct)
    (done : Path → Bool) : BatchDone root out [] done run run where
  converted := by simp
  failed := by simp
  written := by simp
  kept _ _ := rfl
  changed _ hchanged := absurd rfl hchanged
  grows := FileTree.grows_refl run.tree
  closed := hclosed
  distinct := hdistinct

/-- A file more in front of those that a batch takes. -/
theorem BatchDone.cons {relatives : List Path} {done : Path → Bool} {before middle after : BatchRun}
    (hfirst : FileDone root out relative (done relative) before middle)
    (hunchanged : (¬∃ facade, Converts before.tree root relative facade) → middle.tree = before.tree)
    (hrest : BatchDone root out relatives done middle after)
    (hpaths : ∀ other ∈ relative :: relatives, IsDeclarationPath other)
    (hnew : relative ∉ relatives) : BatchDone root out (relative :: relatives) done before after := by
  have hsource : ∀ other ∈ relative :: relatives,
      middle.tree.file? (root ++ other.parts) = before.tree.file? (root ++ other.parts) :=
    fun other hother => hfirst.file? fun _ =>
      source_ne_target (hpaths other hother) (hpaths relative List.mem_cons_self)
  obtain ⟨bytes, hwrites, hdone, hconverts⟩ := hfirst.writes
  refine ⟨?_, ?_, ?_, ?_, ?_, hwrites.grows.trans hrest.grows, hrest.closed, hrest.distinct⟩
  · rw [hrest.converted, hfirst.converted, List.append_assoc, List.filter_cons]
    cases done relative <;> simp
  · rw [hrest.failed, hfirst.failed, List.append_assoc, List.filter_cons]
    cases done relative <;> simp
  · intro other hother hdoneOther
    rcases List.mem_cons.mp hother with rfl | hmem
    · rw [hdoneOther] at hdone
      obtain ⟨facade, rfl⟩ := Option.isSome_iff_exists.mp hdone
      obtain ⟨text, rfl, htext⟩ := hconverts facade rfl
      refine ⟨text, htext, ?_⟩
      rw [hrest.kept, hwrites.file?, if_pos rfl, Option.some_or]
      intro later hlater _ heq
      have hsame := targetOf_injective (hpaths other hother)
        (hpaths later (List.mem_cons_of_mem _ hlater)) heq
      exact hnew (hsame ▸ hlater)
    · obtain ⟨facade, hfacade, hfile⟩ := hrest.written other hmem hdoneOther
      exact ⟨facade, (Converts.congr (hsource other hother)).mp hfacade, hfile⟩
  · intro place hplace
    rw [List.forall_mem_cons] at hplace
    rw [hrest.kept place hplace.2, hfirst.file? hplace.1]
  · intro place hchanged
    by_cases hmiddle : middle.tree.get? place = before.tree.get? place
    · obtain ⟨other, hmem, ⟨facade, hfacade⟩, hstart⟩ :=
        hrest.changed place (by rwa [hmiddle])
      have hother := List.mem_cons_of_mem relative hmem
      exact ⟨other, hother, ⟨facade, (Converts.congr (hsource other hother)).mp hfacade⟩, hstart⟩
    · refine ⟨relative, List.mem_cons_self, ?_, hwrites.changed place hmiddle⟩
      by_contra hconverts
      rw [hunchanged hconverts] at hmiddle
      exact hmiddle rfl

theorem BatchDone.congr {relatives : List Path} {done other : Path → Bool} {before after : BatchRun}
    (h : BatchDone root out relatives done before after)
    (heq : ∀ relative ∈ relatives, done relative = other relative) :
    BatchDone root out relatives other before after where
  converted := by rw [h.converted, List.filter_congr heq]
  failed := by
    rw [h.failed, List.filter_congr fun relative hmem => congrArg (!·) (heq relative hmem)]
  written relative hmem hdone := h.written relative hmem (heq relative hmem ▸ hdone)
  kept place hplace :=
    h.kept place fun relative hmem hdone => hplace relative hmem (heq relative hmem ▸ hdone)
  changed := h.changed
  grows := h.grows
  closed := h.closed
  distinct := h.distinct

theorem convertFiles_done {relatives : List Path} {run : BatchRun}
    (hpaths : ∀ relative ∈ relatives, IsDeclarationPath relative) (hnodup : relatives.Nodup)
    (hsources : ∀ relative ∈ relatives, run.tree.isFile (root ++ relative.parts))
    (hclosed : run.tree.Closed) (hdistinct : run.tree.Distinct) :
    ∃ done, BatchDone root out relatives done run
      (relatives.foldl (BatchRun.convertFile root out) run) := by
  induction relatives generalizing run with
  | nil => exact ⟨fun _ => false, batchDone_nil hclosed hdistinct _⟩
  | cons relative relatives ih =>
    rw [List.nodup_cons] at hnodup
    have hpath := hpaths relative List.mem_cons_self
    have hsource := hsources relative List.mem_cons_self
    obtain ⟨first, hfirst⟩ : ∃ first,
        FileDone root out relative first run (run.convertFile root out relative) :=
      convertFile_done hclosed hdistinct hpath hsource
    obtain ⟨bytes, hwrites, -⟩ := hfirst.writes
    obtain ⟨done, hrest⟩ := ih (fun other hmem => hpaths other (List.mem_cons_of_mem _ hmem))
      hnodup.2 (fun other hmem => hwrites.grows.file (hsources other (List.mem_cons_of_mem _ hmem)))
      hwrites.closed hwrites.distinct
    refine ⟨fun other => if other = relative then first else done other, ?_⟩
    refine BatchDone.cons (by rwa [if_pos rfl]) (tree_convertFile_of_not_converts hsource)
      (hrest.congr ?_) hpaths hnodup.1
    intro other hmem
    rw [if_neg]
    rintro rfl
    exact hnodup.1 hmem

/-- A batch takes the files up to the first that breaks it off. Which one that is does not change
while it runs, since no facade is written where a declaration file stands. -/
theorem convertFiles_eq {relatives : List Path} {run : BatchRun} {breaks : Path → Bool}
    (hbreaks : ∀ relative ∈ relatives, breaksOff run.tree root relative = breaks relative)
    (hpaths : ∀ relative ∈ relatives, IsDeclarationPath relative)
    (hsources : ∀ relative ∈ relatives, run.tree.isFile (root ++ relative.parts))
    (hclosed : run.tree.Closed) (hdistinct : run.tree.Distinct) :
    run.convertFiles root out relatives =
      ⟨(relatives.takeWhile (!breaks ·)).foldl (BatchRun.convertFile root out) run,
        relatives.find? breaks⟩ := by
  induction relatives generalizing run with
  | nil => rfl
  | cons relative relatives ih =>
    rw [List.forall_mem_cons] at hbreaks hpaths hsources
    rw [BatchRun.convertFiles, hbreaks.1, List.takeWhile_cons, List.find?_cons]
    cases breaks relative with
    | true => rfl
    | false =>
      obtain ⟨first, hfirst⟩ : ∃ first,
          FileDone root out relative first run (run.convertFile root out relative) :=
        convertFile_done hclosed hdistinct hpaths.1 hsources.1
      obtain ⟨bytes, hwrites, -⟩ := hfirst.writes
      refine ih (fun other hmem => ?_) hpaths.2
        (fun other hmem => hwrites.grows.file (hsources.2 other hmem)) hwrites.closed
        hwrites.distinct
      rw [← hbreaks.2 other hmem]
      exact breaksOff_congr
        (hfirst.file? fun _ => source_ne_target (hpaths.2 other hmem) hpaths.1)

theorem convertFolder_eq (h : tree.WellFormed) (root out : Location) :
    convertFolder tree root out =
      ⟨((declarationFiles tree root).takeWhile (!breaksOff tree root ·)).foldl
          (BatchRun.convertFile root out) ⟨tree, []⟩,
        (declarationFiles tree root).find? (breaksOff tree root)⟩ :=
  convertFiles_eq (fun _ _ => rfl) (fun _ hmem => isDeclarationPath_of_mem h hmem)
    (fun _ hmem => ((mem_declarationFiles h.distinct).mp hmem).2.2.2) h.closed h.distinct

theorem result?_eq_none {batch : BatchEnd} : batch.result? = none ↔ batch.brokeOff.isSome := by
  unfold BatchEnd.result?
  split <;> simp [*]

theorem convertFolder_done (h : tree.WellFormed) (root out : Location) :
    ∃ done, BatchDone root out ((declarationFiles tree root).takeWhile (!breaksOff tree root ·))
      done ⟨tree, []⟩ (convertFolder tree root out).toBatchRun := by
  rw [convertFolder_eq h]
  have htaken := (declarationFiles tree root).takeWhile_sublist (!breaksOff tree root ·)
  exact convertFiles_done (fun _ hmem => isDeclarationPath_of_mem h (htaken.mem hmem))
    ((declarationFiles_nodup h.distinct root).sublist htaken)
    (fun _ hmem => ((mem_declarationFiles h.distinct).mp (htaken.mem hmem)).2.2.2) h.closed
    h.distinct

/-! ## The laws -/

/-- A batch accounts for the files that it finds, once and in order, either as converted or as left
out, up to the first that breaks it off: one whose text is read to the end, but in which a type is
about nothing. Then it gives nothing back, and the files behind are not looked at. No two facades go
to one place. At the end, each facade that was converted stands as the conversion of what its source
held at the start. No other file has changed, all that is new stands on the way to the facade of a
file that converts, and a file that does not convert creates nothing. -/
theorem a_batch_accounts_for_its_files_up_to_one_that_breaks_it_off (tree : FileTree)
    (root out : Location) (h : tree.WellFormed) :
    let found := declarationFiles tree root
    let taken := found.takeWhile (!breaksOff tree root ·)
    let run := convertFolder tree root out
    (found.map (targetOf out)).Nodup ∧ run.total = taken.length ∧
    run.brokeOff = found.find? (breaksOff tree root) ∧
    (run.result? = none ↔ ∃ relative ∈ found, breaksOff tree root relative) ∧
    (run.result? ≠ none → run.result? = some (run.converted, run.failed) ∧ taken = found) ∧
    (∀ relative ∈ found, ∃ bytes, tree.file? (root ++ relative.parts) = some bytes ∧
      (breaksOff tree root relative ↔ ∃ text, sourceText bytes = .ok text ∧
        packageOf relative ≠ "" ∧ parse text = .error .missingOperand)) ∧
    ∃ done : Path → Bool,
      run.converted = (taken.filter done).map (targetOf out) ∧
      run.failed.map (·.1) = taken.filter (!done ·) ∧
      (∀ relative ∈ taken, done relative → ∃ facade, Converts tree root relative facade ∧
        run.tree.file? (targetOf out relative) = some (Text.encodeUtf8 facade)) ∧
      (∀ place, (∀ relative ∈ taken, done relative → place ≠ targetOf out relative) →
        run.tree.file? place = tree.file? place) ∧
      (∀ relative ∈ found,
        run.tree.file? (root ++ relative.parts) = tree.file? (root ++ relative.parts)) ∧
      (∀ place, run.tree.get? place ≠ tree.get? place → ∃ relative ∈ taken,
        (∃ facade, Converts tree root relative facade) ∧ place <+: targetOf out relative) ∧
      ∀ (step : BatchRun) (relative : Path), step.tree.isFile (root ++ relative.parts) →
        (¬∃ facade, Converts step.tree root relative facade) →
        (step.convertFile root out relative).tree = step.tree := by
  intro found taken run
  obtain ⟨done, hdone⟩ := convertFolder_done h root out
  have hpaths : ∀ relative ∈ found, IsDeclarationPath relative := fun _ hmem =>
    isDeclarationPath_of_mem h hmem
  have htaken : ∀ relative ∈ taken, relative ∈ found := fun _ hmem =>
    (List.takeWhile_sublist _).mem hmem
  have hbroke : run.brokeOff = found.find? (breaksOff tree root) :=
    congrArg BatchEnd.brokeOff (convertFolder_eq h root out)
  have hconverted : run.converted = (taken.filter done).map (targetOf out) := hdone.converted
  have hfailed : run.failed.map (·.1) = taken.filter (!done ·) := hdone.failed
  refine ⟨?_, ?_, hbroke, ?_, ?_, ?_, done, hconverted, hfailed, hdone.written, hdone.kept, ?_,
    hdone.changed, fun _ _ => tree_convertFile_of_not_converts⟩
  · refine (declarationFiles_nodup h.distinct root).map_on fun first hfirst second hsecond heq => ?_
    exact targetOf_injective (hpaths first hfirst) (hpaths second hsecond) heq
  · have hlength := congrArg List.length hfailed
    rw [List.length_map] at hlength
    rw [BatchRun.total, hconverted, List.length_map, hlength, ← List.length_append]
    exact (List.filter_append_perm done taken).length_eq
  · rw [result?_eq_none, hbroke, List.find?_isSome]
  · intro hresult
    rw [ne_eq, result?_eq_none, hbroke, List.find?_isSome] at hresult
    refine ⟨if_neg ?_, List.takeWhile_eq_self_iff.mpr fun relative hmem => ?_⟩
    · rwa [hbroke, List.find?_isSome]
    · rw [Bool.not_eq_true', ← Bool.not_eq_true]
      exact fun hbreaks => hresult ⟨relative, hmem, hbreaks⟩
  · intro relative hmem
    have hsource := ((mem_declarationFiles h.distinct).mp hmem).2.2.2
    obtain ⟨bytes, hbytes⟩ := Option.isSome_iff_exists.mp hsource
    exact ⟨bytes, hbytes, breaksOff_iff hbytes⟩
  · intro relative hmem
    refine hdone.kept _ fun other hother _ => ?_
    exact source_ne_target (hpaths relative hmem) (hpaths other (htaken other hother))

/-- A batch that writes into the folder that it reads. It converts the first file, leaves out the
second, which is no text, and does not come past the third. -/
theorem a_batch_breaks_off_at_a_type_about_nothing :
    let tree : FileTree := ⟨[(["in"], .folder),
      (["in", "a.d.ts"], .file "type A = string;".toUTF8.toList), (["in", "b.d.ts"], .file [255]),
      (["in", "c.d.ts"], .file "type C = (const);".toUTF8.toList),
      (["in", "d.d.ts"], .file "type D = A;".toUTF8.toList)]⟩
    let run := convertFolder tree ["in"] ["in"]
    tree.WellFormed ∧ run.total = 2 ∧ run.converted = [["in", "a.d.ts.scala"]] ∧
      run.failed = [(⟨"", ["b.d.ts"]⟩, .undecodable ⟨0, 0, 255, .badStart⟩)] ∧
      run.brokeOff = some ⟨"", ["c.d.ts"]⟩ ∧ run.result? = none ∧
      run.tree.file? ["in", "a.d.ts.scala"] = some (Text.encodeUtf8
        ("\nimport scala.scalajs.js\nimport js.annotation._\nimport js.|\n\npackage a \x7b\n\n"
          ++ "@js.native\n@JSGlobalScope\nobject A extends js.Object \x7b\n"
          ++ "  type A = String\n\x7d\n\n\x7d\n")) ∧
      run.tree.file? ["in", "b.d.ts"] = some [255] ∧
      run.tree.file? ["in", "d.d.ts.scala"] = none := by
  intro tree run
  have hdistinct : tree.Distinct := by
    unfold FileTree.Distinct
    decide
  have hformed : tree.WellFormed := FileTree.wellFormed_of_entries hdistinct (by decide)
  have hfound : declarationFiles tree ["in"] =
      [⟨"", ["a.d.ts"]⟩, ⟨"", ["b.d.ts"]⟩, ⟨"", ["c.d.ts"]⟩, ⟨"", ["d.d.ts"]⟩] := by
    rw [declarationFiles_eq, if_pos (by decide), List.mergeSort_of_pairwise (by decide)]
    decide
  have hbreaks : breaksOff tree ["in"] ⟨"", ["c.d.ts"]⟩ := by decide +kernel
  obtain ⟨-, htotal, hbroke, hnone, -, -, _, -, -, -, -, hsources, -⟩ :=
    a_batch_accounts_for_its_files_up_to_one_that_breaks_it_off tree ["in"] ["in"] hformed
  rw [hfound] at htotal hbroke hnone hsources
  have hrun : run = BatchRun.convertFiles ["in"] ["in"] ⟨tree, []⟩
      [⟨"", ["a.d.ts"]⟩, ⟨"", ["b.d.ts"]⟩, ⟨"", ["c.d.ts"]⟩, ⟨"", ["d.d.ts"]⟩] := by
    rw [← hfound]
    rfl
  refine ⟨hformed, htotal.trans (by decide +kernel), ?_, ?_, hbroke.trans (by decide +kernel),
    hnone.mpr ⟨_, by simp, hbreaks⟩, ?_, hsources ⟨"", ["b.d.ts"]⟩ (by simp), ?_⟩
  all_goals
    rw [hrun]
    decide +kernel

end Facade
