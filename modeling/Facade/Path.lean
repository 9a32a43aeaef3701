-- Paths of files as texts with slashes, and the package and output that belong to the path
-- of a declaration file.
import Facade.Text.Split
namespace Facade

/-! ## Paths -/

/-- A path: what stands in front of the first part (nothing for a relative path), and the parts.
Parts may be `..`, but never `.` or empty. -/
structure Path where
  root : String
  parts : List String
  deriving DecidableEq, Repr

namespace Path

/-- The root of a path text. Two slashes are a root of their own, more are one. -/
def rootOf (chars : List Char) : String :=
  match (chars.takeWhile (· == '/')).length with
  | 0 => ""
  | 2 => "//"
  | _ => "/"

/-- The path that a text names. Repeated and trailing slashes and `.` parts are dropped. -/
def ofText (text : String) : Path :=
  ⟨rootOf text.toList, (Text.segments '/' text).filter fun part => part != "" && part != "."⟩

/-- The text of a path. The path with nothing in it is `.`. -/
def text (path : Path) : String :=
  if path.root.isEmpty && path.parts.isEmpty then "."
  else path.root ++ "/".intercalate path.parts

/-- The path without its last part. -/
def parent (path : Path) : Path :=
  { path with parts := path.parts.dropLast }

/-- A path below another. One with a root of its own stands alone. -/
def join (path below : Path) : Path :=
  if below.root.isEmpty then { path with parts := path.parts ++ below.parts } else below

/-- The rest of a path below another, if it is below. -/
def relativeTo? (path base : Path) : Option Path :=
  if path.root == base.root && base.parts.isPrefixOf path.parts then
    some ⟨"", path.parts.drop base.parts.length⟩
  else none

end Path

/-! ## Declaration files -/

/-- How the name of a declaration file ends. -/
def declarationSuffix : String := ".d.ts"

/-- How the name of a facade ends. -/
def outputSuffix : String := ".d.ts.scala"

/-- A text without an ending, if it has that ending. -/
def dropEnding? (ending text : String) : Option String :=
  if ending.toList.isSuffixOf text.toList then
    some (String.ofList (text.toList.take (text.toList.length - ending.toList.length)))
  else none

/-- A relative path without the ending of declaration files. -/
def declarationStem (relative : Path) : String :=
  (dropEnding? declarationSuffix relative.text).getD relative.text

/-- A character of a package name for a character of a path. -/
def packageChar (c : Char) : Char :=
  if c == '/' || c == '\\' then '.'
  else if c.isAlphanum || c == '_' || c == '.' then c
  else '_'

/-- The package for a relative path. -/
def packageOf (relative : Path) : String :=
  String.ofList ((declarationStem relative).toList.map packageChar)

/-- The package for a file below a root. -/
def packageName? (path root : Path) : Option String :=
  (path.relativeTo? root).map packageOf

/-- Where the facade of a relative path goes. -/
def outputOf (relative out : Path) : Path :=
  out.join (.ofText (declarationStem relative ++ outputSuffix))

/-- Where the facade of a file below a root goes. -/
def outputPath? (path root out : Path) : Option Path :=
  (path.relativeTo? root).map (outputOf · out)

/-- The package when nothing better is known. -/
def fallbackPackage : String := "custom"

/-- The package for a single file, from its name alone. -/
def defaultPackage : Option String → String
  | none => fallbackPackage
  | some input =>
    let path := Path.ofText input
    let relative : Path := ⟨"", path.parts.drop path.parent.parts.length⟩
    let name := packageOf relative
    let short := (dropEnding? ".ts" name).getD name
    if short.isEmpty then fallbackPackage else short

end Facade
