-- Names in a facade. A name that is a reserved word, or that is not made of identifier
-- characters, is written between backticks.
import Facade.Text.Split
import Facade.Text.UpperCase
namespace Facade.Name

/-! ## Identifiers -/

/-- The words that may not stand as a name. -/
def reservedWords : List String :=
  ["abstract", "case", "catch", "class", "def", "do", "else", "extends", "false", "final",
   "finally", "for", "forSome", "if", "implicit", "import", "lazy", "macro", "match", "new",
   "null", "object", "override", "package", "private", "protected", "return", "sealed", "super",
   "then", "this", "throw", "trait", "try", "true", "type", "val", "var", "while", "with",
   "yield"]

/-- Whether a name is a reserved word. -/
def isReserved (name : String) : Bool :=
  reservedWords.contains name

/-- Whether an identifier may start with the character. -/
def isIdentStart (c : Char) : Bool :=
  c.isAlpha || c == '_' || c == '$'

/-- Whether an identifier may go on with the character. -/
def isIdentRest (c : Char) : Bool :=
  c.isAlphanum || c == '_' || c == '$'

/-- The characters without one line feed at the end. -/
def dropFinalLineFeed (chars : List Char) : List Char :=
  if chars.getLast? == some '\n' then chars.dropLast else chars

/-- A first character of one class and then characters of another. -/
def hasShape (start rest : Char → Bool) : List Char → Bool
  | [] => false
  | c :: more => start c && more.all rest

/-- Whether a name reads as an identifier. One line feed at its end is overlooked. -/
def isIdentifier (name : String) : Bool :=
  hasShape isIdentStart isIdentRest (dropFinalLineFeed name.toList)

/-- Whether a name can be written without backticks. -/
def isPlain (name : String) : Bool :=
  !isReserved name && isIdentifier name

/-! ## Writing names -/

/-- A name between backticks. -/
def backticked (name : String) : String :=
  "`" ++ name ++ "`"

/-- A name as it stands in the facade. -/
def written (name : String) : String :=
  if isPlain name then name else backticked name

/-- A dotted name, each segment written on its own. -/
def writtenPath (path : String) : String :=
  ".".intercalate ((Text.segments '.' path).map written)

/-- Whether a package name needs no quotes: letters, digits and underscores that are no
reserved word. One line feed at its end is overlooked. -/
def isPlainPackage (name : String) : Bool :=
  hasShape (fun c => c.isAlpha || c == '_') (fun c => c.isAlphanum || c == '_')
    (dropFinalLineFeed name.toList) && !isReserved name

/-- The package clause of a file. A dotted or hyphenated name is quoted as a whole. -/
def packageClause (name : String) : String :=
  if isPlainPackage name then "package " ++ name else "package " ++ backticked name

/-- The name of a setter for a property. -/
def setter (name : String) : String :=
  if isPlain name then name ++ "_=" else written (name ++ "_=")

/-- The name of the trait that stands for a property's object literal type. -/
def nestedTrait (property : String) : String :=
  written (Text.capitalize property)

/-- The object of a scope: the scope's last segment, capitalized. -/
def container (scope : String) : String :=
  written (Text.capitalize (Text.lastSegment '.' scope))

end Facade.Name
