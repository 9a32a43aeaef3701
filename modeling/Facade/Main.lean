-- The program. What a run may look at is read from the disk into a file tree, the run itself
-- is a function, and what it changed is written back.
import Facade.CommandLine
namespace Facade.CommandLine

/-! ## From the disk -/

/-- The places that a path text passes on its way. -/
def waypoints (current : Location) (text : String) : List Location :=
  let parts := Text.segments '/' text
  (List.range (parts.length + 1)).map fun n =>
    FileTree.namedPlace current ("/".intercalate (parts.take n))

/-- The bytes of a file, or none where it cannot be read. -/
def bytesAt? (place : Location) : IO (Option (List UInt8)) := do
  try
    return some (← IO.FS.readBinFile (FileTree.placeText place)).toList
  catch _ =>
    return none

/-- Notes what stands at a place. The bytes of a file are read only on demand. -/
def note (read : Bool) (tree : FileTree) (place : Location) : IO FileTree := do
  let path := (← IO.currentDir) / FileTree.placeText place
  if ← path.isDir then
    return (tree.makeFolders place).toOption.getD tree
  else if ← path.pathExists then
    if read then
      match ← bytesAt? place with
      | some bytes => return tree.put place (.file bytes)
      | none => return tree
    else
      return tree.put place (.file [])
  else
    return tree

/-- Notes what a path text passes and leads to. -/
def noteWay (read : Bool) (current : Location) (tree : FileTree) (text : String) : IO FileTree :=
  (waypoints current text).foldlM (note read) tree

/-- Notes all that stands below a folder. Links to folders are not followed. -/
partial def noteBelow (tree : FileTree) (place : Location) : IO FileTree := do
  let path := (← IO.currentDir) / FileTree.placeText place
  unless ← path.isDir do
    return tree
  let mut tree := tree
  for entry in ← path.readDir do
    let inner := place ++ [entry.fileName]
    tree ← note (isDeclarationBelow place inner) tree inner
    if (← entry.path.symlinkMetadata).type == .dir then
      tree ← noteBelow tree inner
  return tree

/-- Notes what a request may look at. -/
def noteFor (world : World) : Request → IO FileTree
  | .single input output _ _ => do
    let tree ← input.toList.foldlM (noteWay true world.current) world.tree
    output.toList.foldlM (noteWay false world.current) tree
  | .batch folders _ => do
    let named := [world.inputFolder folders, world.outputFolder folders]
    let tree ← named.foldlM (noteWay false world.current) world.tree
    (named.map (FileTree.namedPlace world.current)).foldlM noteBelow tree
  | _ => return world.tree

/-! ## To the disk -/

/-- The places that are the standard output itself. -/
def outlets : List Location := [["dev", "stdout"], ["dev", "fd", "1"], ["proc", "self", "fd", "1"]]

/-- Writes the folders and files that a run added or changed. -/
def writeChanges (before after : FileTree) : IO Unit := do
  for (place, entry) in after.entries do
    if before.get? place != some entry then
      match entry with
      | .folder => IO.FS.createDirAll (FileTree.placeText place)
      | .file bytes =>
        IO.FS.createDirAll (FileTree.placeText place.dropLast)
        IO.FS.writeBinFile (FileTree.placeText place) ⟨bytes.toArray⟩

/-! ## The standard input and the environment -/

/-- All bytes that are left in a stream. -/
partial def readAll (stream : IO.FS.Stream) (bytes : ByteArray) : IO ByteArray := do
  let more ← stream.read 65536
  if more.isEmpty then return bytes else readAll stream (bytes ++ more)

/-- The standard input, if the request needs it. -/
def inputFor : Request → IO (List UInt8)
  | .single none _ _ _ => do
    return (← readAll (← IO.getStdin) .empty).toList
  | _ => return []

/-- The variables that a run looks up. -/
def readEnvironment : IO (List (String × String)) :=
  [inputVariable, outputVariable].filterMapM fun name => do
    return (← IO.getEnv name).map (name, ·)

end Facade.CommandLine

open Facade in
open Facade.CommandLine in
/-- Runs the program on the disk. -/
def main (args : List String) : IO UInt32 := do
  let request := Request.ofArgs args
  let current := FileTree.namedPlace [] (← IO.currentDir).toString
  let start : World := ⟨← readEnvironment, ← inputFor request, current, .empty, outlets, false⟩
  let grounded := { start with tree := ← note false start.tree current }
  let world := { grounded with tree := ← noteFor grounded request }
  let outcome := world.run args
  writeChanges world.tree outcome.tree
  IO.print outcome.output
  IO.eprint outcome.errors
  return outcome.exit.toUInt32
