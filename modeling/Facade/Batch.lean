-- Converting all declaration files below a folder. Each file is converted on its own, and
-- one that fails is noted and left out. A failure that is not reported breaks the batch off.
import Facade.Conversion
import Facade.FileTree
import Facade.Notice
namespace Facade

/-! ## Finding files -/

/-- Whether a place is that of a declaration file below a root, by its name. -/
def isDeclarationBelow (root place : Location) : Bool :=
  root.isPrefixOf place && root.length < place.length
    && declarationSuffix.toList.isSuffixOf (place.getLastD "").toList

/-- The order of places: part by part. -/
def locationLE : Location → Location → Bool
  | [], _ => true
  | _ :: _, [] => false
  | a :: as, b :: bs => if a == b then locationLE as bs else decide (a < b)

/-- The declaration files below a root, as relative paths in order. -/
def declarationFiles (tree : FileTree) (root : Location) : List Path :=
  if tree.isFolder root then
    ((tree.entries.filter fun (place, entry) =>
        entry != .folder && isDeclarationBelow root place).map
      fun (place, _) => place.drop root.length).mergeSort locationLE
      |>.map fun parts => ⟨"", parts⟩
  else []

/-! ## One file -/

/-- Why a file of a batch is left out. -/
inductive BatchFault where
  /-- Its bytes are no text. -/
  | undecodable (fault : Text.Utf8Fault)
  /-- Its text does not convert. -/
  | unconvertible (error : ConvertError)
  /-- Its facade cannot be written. -/
  | unwritable (fault : FileTree.Fault)
  deriving DecidableEq, Repr

/-- The wording of a fault. -/
def BatchFault.message : BatchFault → String
  | .undecodable fault => fault.message
  | .unconvertible error => error.message
  | .unwritable fault => fault.message

/-- Whether a fault is reported, and leaves out its file only. -/
def BatchFault.isReported : BatchFault → Bool
  | .unconvertible error => error.isReported
  | _ => true

/-- The text of a file, with a line feed at each line end. -/
def sourceText (bytes : List UInt8) : Except BatchFault String :=
  match Text.decodeUtf8 bytes with
  | .ok text => .ok (String.ofList (Text.unifyLineEnds text.toList))
  | .error fault => .error (.undecodable fault)

/-- Where the facade of a relative path goes below an output folder. -/
def targetOf (out : Location) (relative : Path) : Location :=
  (outputOf relative ⟨"/", out⟩).parts

/-- The declaration tree of a file. -/
def readDeclarations (tree : FileTree) (root : Location) (relative : Path) :
    Except BatchFault DeclarationFile := do
  let text ← sourceText ((tree.file? (root ++ relative.parts)).getD [])
  match parseFor text (packageOf relative) with
  | .ok file => .ok file
  | .error error => .error (.unconvertible error)

/-- Whether a file breaks a batch off. -/
def breaksOff (tree : FileTree) (root : Location) (relative : Path) : Bool :=
  match readDeclarations tree root relative with
  | .ok _ => false
  | .error fault => !fault.isReported

/-- Writes a facade, with the folders on the way to it. -/
def writeFacade (tree : FileTree) (target : Location) (facade : String) :
    Except BatchFault FileTree :=
  match tree.makeFolders target.dropLast with
  | .error fault => .error (.unwritable fault)
  | .ok made =>
    match made.writeFile target (Text.encodeUtf8 facade) with
    | .error fault => .error (.unwritable fault)
    | .ok written => .ok written

/-- The tree in which the folders of a target that cannot be written are made. -/
def afterFailedWrite (tree : FileTree) (target : Location) : FileTree :=
  (tree.makeFolders target.dropLast).toOption.getD tree

/-! ## All files -/

/-- What happened to a file. -/
inductive BatchEvent where
  | noticed (notice : Notice)
  | converted (relative : Path) (target : Location)
  | failed (relative : Path) (fault : BatchFault)

/-- A batch while it runs: the tree, and what happened so far. -/
structure BatchRun where
  tree : FileTree
  events : List BatchEvent

namespace BatchRun

/-- Converts one file. -/
def convertFile (root out : Location) (run : BatchRun) (relative : Path) : BatchRun :=
  match readDeclarations run.tree root relative with
  | .error fault => { run with events := run.events ++ [.failed relative fault] }
  | .ok file =>
    let target := targetOf out relative
    let noticed := run.events ++ file.notices.map .noticed
    match writeFacade run.tree target (file.facade (packageOf relative)) with
    | .error fault => ⟨afterFailedWrite run.tree target, noticed ++ [.failed relative fault]⟩
    | .ok tree => ⟨tree, noticed ++ [.converted relative target]⟩

/-- The targets that were written, in order. -/
def converted (run : BatchRun) : List Location :=
  run.events.filterMap fun
    | .converted _ target => some target
    | _ => none

/-- The files that were left out, in order, with the reason. -/
def failed (run : BatchRun) : List (Path × BatchFault) :=
  run.events.filterMap fun
    | .failed relative fault => some (relative, fault)
    | _ => none

/-- How many files were found. -/
def total (run : BatchRun) : Nat :=
  run.converted.length + run.failed.length

end BatchRun

/-- A batch at its end. -/
structure BatchEnd extends BatchRun where
  /-- The file that the batch broke off at, if it did. -/
  brokeOff : Option Path

/-- What a batch gives back: the targets that were written and the files that were left out. One
that broke off gives nothing back. -/
def BatchEnd.result? (batch : BatchEnd) : Option (List Location × List (Path × BatchFault)) :=
  if batch.brokeOff.isSome then none else some (batch.converted, batch.failed)

/-- Converts files one after the other, up to the first that breaks the batch off. -/
def BatchRun.convertFiles (root out : Location) (run : BatchRun) : List Path → BatchEnd
  | [] => ⟨run, none⟩
  | relative :: rest =>
    if breaksOff run.tree root relative then ⟨run, some relative⟩
    else (run.convertFile root out relative).convertFiles root out rest

/-- Converts every declaration file below a root into an output folder. -/
def convertFolder (tree : FileTree) (root out : Location) : BatchEnd :=
  BatchRun.convertFiles root out ⟨tree, []⟩ (declarationFiles tree root)

/-- The wording of an event in the log. -/
def BatchEvent.message (root : Location) : BatchEvent → String
  | .noticed notice => notice.message
  | .converted relative target =>
    "INFO dts2scala.batch: converted " ++ FileTree.placeText (root ++ relative.parts) ++ " -> "
      ++ FileTree.placeText target
  | .failed relative fault =>
    "INFO dts2scala.batch: failed " ++ FileTree.placeText (root ++ relative.parts) ++ ": "
      ++ fault.message

end Facade
