-- Conversion: declaration text, or a declaration tree, becomes a facade in a package.
import Facade.Emission
import Facade.Grammar.File
namespace Facade

/-- Why a conversion fails. -/
inductive ConvertError where
  /-- A facade needs a package. -/
  | emptyPackage
  /-- The text cannot be read. -/
  | unreadable (error : ReadError)
  deriving DecidableEq, Repr

/-- The wording of an error. -/
def ConvertError.message : ConvertError → String
  | .emptyPackage => "package name must not be empty"
  | .unreadable error => error.message

/-- Whether an error is reported. One that is not ends the whole run. -/
def ConvertError.isReported : ConvertError → Bool
  | .unreadable .missingOperand => false
  | _ => true

/-- The facade of a declaration tree. -/
def convertTree (file : DeclarationFile) (package : String) : Except ConvertError String :=
  if package.isEmpty then .error .emptyPackage else .ok (file.facade package)

/-- The declaration tree of a text that is to go into a package. The package is looked at
first. -/
def parseFor (text package : String) : Except ConvertError DeclarationFile :=
  if package.isEmpty then .error .emptyPackage
  else
    match parse text with
    | .ok file => .ok file
    | .error error => .error (.unreadable error)

/-- The facade of a declaration text. -/
def convert (text package : String) : Except ConvertError String :=
  (parseFor text package).map (·.facade package)

end Facade
