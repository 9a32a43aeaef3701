-- Files and folders as a value. A place is a list of names from the top; the top itself is
-- always a folder.
import Facade.Path
import Facade.Text.Quoted
import Facade.Text.Utf8
namespace Facade

/-! ## Trees -/

/-- A place in a tree, from the top. -/
abbrev Location := List String

/-- What stands at a place. -/
inductive Entry where
  | file (bytes : List UInt8)
  | folder
  deriving DecidableEq, Repr

/-- Files and folders by their places. -/
structure FileTree where
  entries : List (Location × Entry)
  deriving DecidableEq, Repr

namespace FileTree

/-- A tree with nothing in it. -/
def empty : FileTree := ⟨[]⟩

/-- What stands at a place. -/
def get? (tree : FileTree) (place : Location) : Option Entry :=
  if place.isEmpty then some .folder else tree.entries.lookup place

/-- Puts an entry at a place, in place of what stood there. -/
def put (tree : FileTree) (place : Location) (entry : Entry) : FileTree :=
  ⟨(place, entry) :: tree.entries.filter (·.1 != place)⟩

/-- The bytes of the file at a place. -/
def file? (tree : FileTree) (place : Location) : Option (List UInt8) :=
  match tree.get? place with
  | some (.file bytes) => some bytes
  | _ => none

/-- Whether a folder stands at a place. -/
def isFolder (tree : FileTree) (place : Location) : Bool :=
  tree.get? place == some .folder

/-- Whether a file stands at a place. -/
def isFile (tree : FileTree) (place : Location) : Bool :=
  (tree.file? place).isSome

/-! ## Faults -/

/-- Why a folder or file cannot be made. -/
inductive Fault where
  /-- A file stands where a folder should. -/
  | fileExists (place : Location)
  /-- A file stands on the way. -/
  | notAFolder (place : Location)
  /-- A folder stands where a file should. -/
  | isAFolder (place : Location)
  deriving DecidableEq, Repr

/-- The text of a place. -/
def placeText (place : Location) : String :=
  Path.text ⟨"/", place⟩

/-- The wording of a fault. -/
def Fault.message : Fault → String
  | .fileExists place => "[Errno 17] File exists: " ++ Text.quoted (placeText place)
  | .notAFolder place => "[Errno 20] Not a directory: " ++ Text.quoted (placeText place)
  | .isAFolder place => "[Errno 21] Is a directory: " ++ Text.quoted (placeText place)

/-! ## Making folders and files -/

/-- The places on the way to a place, the top and the place itself left out. -/
def ancestors (place : Location) : List Location :=
  (List.range (place.length - 1)).map fun n => place.take (n + 1)

/-- Makes a folder where nothing stands. -/
def addFolder (tree : FileTree) (place : Location) : FileTree :=
  if (tree.get? place).isSome then tree else tree.put place .folder

/-- Makes a folder and those on the way to it. -/
def makeFolders (tree : FileTree) (place : Location) : Except Fault FileTree :=
  match tree.get? place with
  | some .folder => .ok tree
  | some (.file _) => .error (.fileExists place)
  | none =>
    if (ancestors place).any tree.isFile then .error (.notAFolder place)
    else .ok ((ancestors place ++ [place]).foldl addFolder tree)

/-- Writes a file into a folder that stands. -/
def writeFile (tree : FileTree) (place : Location) (bytes : List UInt8) :
    Except Fault FileTree :=
  if tree.isFolder place then .error (.isAFolder place) else .ok (tree.put place (.file bytes))

/-! ## Finding places -/

/-- One part of a path text, from a folder. -/
def walk (tree : FileTree) (place : Location) (part : String) : Option Location :=
  if !tree.isFolder place then none
  else if part == "" || part == "." then some place
  else if part == ".." then some place.dropLast
  else some (place ++ [part])

/-- Where a path text starts. -/
def startOf (current : Location) (text : String) : Location :=
  if text.toList.head? == some '/' then [] else current

/-- The place that a path text leads to, if folders stand all the way. -/
def resolve? (tree : FileTree) (current : Location) (text : String) : Option Location :=
  if text.isEmpty then none
  else (Text.segments '/' text).foldlM tree.walk (startOf current text)

/-- The place that a path text names, whatever stands there. -/
def namedPlace (current : Location) (text : String) : Location :=
  (Text.segments '/' text).foldl
    (fun place part =>
      if part == "" || part == "." then place
      else if part == ".." then place.dropLast
      else place ++ [part])
    (startOf current text)

end FileTree

end Facade
