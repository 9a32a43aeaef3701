-- Members of classes, traits and objects as lines of a facade.
import Facade.Name
import Facade.TypeMapping
namespace Facade

/-! ## Where a member lives -/

/-- The kind of block that a member is written into. -/
inductive Place where
  | trait
  | classBody
  | abstractClass
  | object
  | other
  deriving DecidableEq, Repr

/-- What stands after a binding that the platform provides. -/
def fromPlatform : String := " = js.native"

/-- What stands above a declaration that the platform provides. -/
def nativeMark : String := "@js.native"

/-- What stands after a binding in a place: nothing in an abstract class. -/
def Place.binding (place : Place) : String :=
  if place == .abstractClass then "" else fromPlatform

/-! ## Parameters -/

/-- The rest of a text after a start, if it has that start. -/
def dropStart : List Char → List Char → Option (List Char)
  | [], chars => some chars
  | _ :: _, [] => none
  | s :: start, c :: chars => if s = c then dropStart start chars else none

/-- The element type of a variable number of arguments: an array type without its outermost
layer, any other type as it is. One line feed at the end is dropped with the layer. -/
def elementType (type : String) : String :=
  match dropStart "js.Array[".toList type.toList with
  | none => type
  | some body =>
    let layer := Name.dropFinalLineFeed body
    let element := layer.dropLast
    if layer.getLast? == some ']' && !element.isEmpty && !element.contains '\n' then
      String.ofList element
    else type

/-- One parameter: a rest parameter takes any number of arguments, an optional one has a
placeholder for its default. -/
def Param.text (param : Param) : String :=
  let name := Name.written param.name
  let type := param.type.mapped
  if param.rest then name ++ ": " ++ elementType type ++ "*"
  else if param.optional then name ++ ": " ++ type ++ " = ???"
  else name ++ ": " ++ type

/-- Parameters, separated by commas. -/
def paramList (params : List Param) : String :=
  commaList (params.map Param.text)

/-! ## Members -/

/-- The word that binds a property. -/
def bindingWord (readonly : Bool) (place : Place) : String :=
  if !readonly then "var" else if place == .object then "val" else "def"

/-- Methods that every object has already. -/
def inheritedMethods : List String := ["toString", "clone"]

/-- The type that a setter takes. -/
def setterType : List Param → String
  | [] => anyType
  | param :: _ => param.type.mapped

/-- What a method with no result type returns in a place. -/
def Place.defaultReturn (place : Place) : String :=
  if place == .trait then "js.Dynamic" else "Unit"

/-- Type parameters, parameters and result of a definition. -/
def signatureText (typeParams : List TypeParam) (params : List Param) (ret : String) : String :=
  typeParamList typeParams ++ "(" ++ paramList params ++ "): " ++ ret

/-- The two accessors of an index signature; one when it is read-only. -/
def indexLines (keyName : String) (keyType valueType : TypeExpr) (readonly : Bool) :
    List String :=
  let key := Name.written keyName ++ ": " ++ keyType.mapped
  let value := valueType.mapped
  let read := ["@JSBracketAccess", "def apply(" ++ key ++ "): " ++ value ++ fromPlatform]
  let write :=
    ["@JSBracketAccess", "def update(" ++ key ++ ", v: " ++ value ++ "): Unit" ++ fromPlatform]
  if readonly then read else read ++ write

/-- The lines of a member, whoever may use it. Constructors belong to the head of their class,
and the rest has no facade form. -/
def Member.lines (place : Place) : Member → List String
  | .property _ _ name type readonly _ _ =>
    [bindingWord readonly place ++ " " ++ Name.written name ++ ": " ++ type.mapped
      ++ place.binding]
  | .method _ _ name _ _ ret .getter _ _ =>
    ["def " ++ Name.written name ++ ": " ++ ret.mappedReturn anyType ++ place.binding]
  | .method _ _ name _ params _ .setter _ _ =>
    ["def " ++ Name.setter name ++ "(v: " ++ setterType params ++ "): Unit" ++ place.binding]
  | .method _ _ name typeParams params ret _ _ _ =>
    [(if inheritedMethods.contains name then "override " else "") ++ "def " ++ Name.written name
      ++ signatureText typeParams params (ret.mappedReturn place.defaultReturn) ++ place.binding]
  | .index _ _ keyName keyType valueType readonly =>
    indexLines keyName keyType valueType readonly
  | .call _ _ typeParams params ret =>
    ["def apply" ++ signatureText typeParams params (ret.mappedReturn "js.Dynamic") ++ fromPlatform]
  | .construct .. => []
  | .other .. => []
  | .unknown .. => []

/-- The lines of a member in a place: none when it is hidden. -/
def Member.render (member : Member) (place : Place) : List String :=
  if member.isVisible then member.lines place else []

/-! ## Properties with an object literal type -/

/-- A property whose type is the trait named after it inside its owner. -/
def nestedPropertyLine (name : String) (readonly : Bool) (owner : String) : String :=
  (if readonly then "def" else "var") ++ " " ++ Name.written name ++ ": " ++ owner ++ "."
    ++ Name.nestedTrait name ++ fromPlatform

/-- A visible property with an object literal type: its name and the members of that type. -/
def Member.nested? : Member → Option (String × List Member)
  | .property .everyone _ name (.object members) _ _ _ => some (name, members)
  | _ => none

/-- The trait that a visible property with an object literal type refers to. -/
def Member.nestedTrait? (member : Member) : Option String :=
  member.nested?.map fun (name, _) => Name.nestedTrait name

end Facade
