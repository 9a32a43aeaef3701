-- From a declared type to a facade type. Every type has a facade type: what has no
-- counterpart becomes `js.Any`, so a facade always compiles.
import Facade.Declaration
import Facade.Text.Split
namespace Facade

/-! ## Tables -/

/-- The type of anything that has no type of its own. -/
def anyType : String := "js.Any"

/-- Facade types of the predefined words. -/
def keywordTypes : List (String × String) :=
  [("string", "String"), ("number", "Double"), ("boolean", "Boolean"), ("void", "Unit"),
   ("undefined", "Unit"), ("null", "Null"), ("never", "Nothing"), ("any", "js.Any"),
   ("unknown", "js.Any"), ("object", "js.Object"), ("this", "this.type"),
   ("symbol", "js.Symbol"), ("bigint", "js.BigInt")]

/-- Library types with a facade type of their own. -/
def libraryTypes : List (String × String) :=
  [("null", "Null"), ("undefined", "Unit"),
   ("Float32Array", "js.typedarray.Float32Array"), ("Float64Array", "js.typedarray.Float64Array"),
   ("Uint8Array", "js.typedarray.Uint8Array"), ("Uint16Array", "js.typedarray.Uint16Array"),
   ("Uint32Array", "js.typedarray.Uint32Array"), ("Int8Array", "js.typedarray.Int8Array"),
   ("Int16Array", "js.typedarray.Int16Array"), ("Int32Array", "js.typedarray.Int32Array"),
   ("Uint8ClampedArray", "js.typedarray.Uint8ClampedArray"),
   ("ArrayBuffer", "js.typedarray.ArrayBuffer"),
   ("ArrayBufferView", "js.typedarray.ArrayBufferView"), ("DataView", "js.typedarray.DataView"),
   ("ReadonlyArray", "js.Array"), ("PromiseLike", "js.Thenable"), ("Promise", "js.Promise"),
   ("Function", "js.Function"), ("Date", "js.Date"), ("RegExp", "js.RegExp"),
   ("Error", "js.Error")]

/-! ## The rule of each form, given the texts of its parts -/

/-- The text of several types, separated by commas. -/
def commaList (texts : List String) : String :=
  ", ".intercalate texts

/-- A predefined word. -/
def keywordText (name : String) : String :=
  (keywordTypes.lookup name).getD anyType

/-- Whether a number is written with a point. -/
def isFractional (text : String) : Bool :=
  text.toList.contains '.'

/-- A literal has the type of its values; a number is whole unless it has a point. -/
def literalText (kind : LiteralKind) (text : String) : String :=
  match kind with
  | .string => "String"
  | .number => if isFractional text then "Double" else "Int"
  | .boolean => "Boolean"
  | .null => "Null"
  | .undefined => "Unit"
  | .other _ => anyType

/-- A name with the texts of its arguments. -/
def refText (name : String) (args : List String) : String :=
  if args.isEmpty then (libraryTypes.lookup name).getD name
  else if name == "Array" then "js.Array[" ++ commaList args ++ "]"
  else if name == "ReadonlyArray" then "js.Array[_ <: " ++ commaList args ++ "]"
  else (libraryTypes.lookup name).getD name ++ "[" ++ commaList args ++ "]"

/-- The alternatives of a union whose member texts are `texts`. String literals are one
alternative, and so are number literals when all are whole or all are fractional. A type beside
`null` and `undefined` goes first. -/
def unionAlternatives (members : List TypeExpr) (texts : List String) : List String :=
  let fractional := members.map (isFractional ·.literalText)
  let types := Text.distinct texts
  if members.all (·.isLiteral .string) then ["String"]
  else if members.all (·.isLiteral .number) && fractional.all (!·) then ["Int"]
  else if members.all (·.isLiteral .number) && fractional.all id then ["Double"]
  else if types.contains "Null" && types.contains "Unit" && types.length == 3 then
    types.filter (fun t => t != "Null" && t != "Unit") ++ ["Null", "Unit"]
  else if members.any (·.isLiteral .string) then
    "String" :: ((members.zip texts).filter (!·.1.isLiteral .string)).map (·.2)
  else types

/-- A union. -/
def unionText (members : List TypeExpr) (texts : List String) : String :=
  " | ".intercalate (unionAlternatives members texts)

/-- An intersection names each of its types once. -/
def interText (texts : List String) : String :=
  " with ".intercalate (Text.distinct texts)

/-- A function of up to two parameters has a type of its own. -/
def funcText (params : List String) (ret : String) : String :=
  match params with
  | [] => "js.Function0[" ++ ret ++ "]"
  | [a] => "js.Function1[" ++ a ++ ", " ++ ret ++ "]"
  | [a, b] => "js.Function2[" ++ a ++ ", " ++ b ++ ", " ++ ret ++ "]"
  | _ => "js.Function"

/-! ## The mapping -/

mutual

/-- The facade type of a declared type. -/
def TypeExpr.mapped : TypeExpr → String
  | .absent => anyType
  | .unknown => anyType
  | .keyword name => keywordText name
  | .literal kind text => literalText kind text
  | .ref name args => refText name (mappedTypes args)
  | .array element => "js.Array[" ++ element.mapped ++ "]"
  | .union members => unionText members (mappedTypes members)
  | .inter members => interText (mappedTypes members)
  | .func params ret =>
    funcText (mappedParamTypes params) (if ret.isAbsent then "Unit" else ret.mapped)
  | .paren inner => inner.mapped
  | .object _ => anyType
  | .keyOf _ => "String"
  | .unsupported _ => anyType

/-- The facade types of several types. -/
def mappedTypes : List TypeExpr → List String
  | [] => []
  | type :: rest => type.mapped :: mappedTypes rest

/-- The facade types of parameters. -/
def mappedParamTypes : List Param → List String
  | [] => []
  | ⟨_, type, _, _⟩ :: rest => type.mapped :: mappedParamTypes rest

end

/-- The facade type of a result, with a default where none is written. -/
def TypeExpr.mappedReturn (ret : TypeExpr) (default : String) : String :=
  if ret.isAbsent then default else ret.mapped

/-! ## Type parameters -/

/-- A type parameter with its bound, if it has one. -/
def TypeParam.text (param : TypeParam) : String :=
  if param.bound.isAbsent then param.name else param.name ++ " <: " ++ param.bound.mapped

/-- A list of type parameters in brackets, nothing when there are none. -/
def typeParamList (params : List TypeParam) : String :=
  if params.isEmpty then "" else "[" ++ commaList (params.map TypeParam.text) ++ "]"

end Facade
