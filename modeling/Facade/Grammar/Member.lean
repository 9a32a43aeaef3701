-- Members of interfaces, object literal types and classes.
import Facade.Grammar.Type
namespace Facade.Grammar
open Reader

/-! ## Words in front of a name -/

/-- Whether a member's name may start with the token. -/
def startsName (token : Token) : Bool :=
  token.kind == .word || token.kind == .string || token.kind == .number
    || token.kind == .privateName || token.isMark "["

/-- The words that may stand in front of a name in an interface or object literal type. -/
def objectModifiers : List String :=
  accessWords ++ ["static", "override", "readonly", "async", "get", "set"]

/-- The words that may stand in front of a name in a class. -/
def classModifiers : List String :=
  objectModifiers ++ ["declare", "abstract", "accessor"]

/-- The words in front of a name that are never a name themselves. -/
def pureModifiers : List String := ["abstract", "accessor"]

/-- Whether a method has to follow these words. -/
def announcesMethod (words : List String) : Bool :=
  words.any ["async", "get", "set", "*"].contains
    || (words.contains "abstract" && words.contains "override")

/-- Whether the next token modifies a name. A word that is not followed by a name is a name itself,
and so is one that the line ends after, unless a method has to follow. -/
def modifierNext (ending : Ending) (words found : List String) (here : Cursor) : Bool :=
  let after := if ending == .enclosed then here.next.withMarkup else here.next
  if here.token.isMark "*" then startsName after.token
  else
    here.token.isAnyWord words && (startsName after.token || after.token.isMark "*")
      && (pureModifiers.contains here.token.text || announcesMethod found || !ending.isAt after)

/-- The words in front of a name, in order. -/
def modifiers (ending : Ending) (words : List String) : Reader (List String) :=
  loop (fun found => do
    let here ← look
    if modifierNext ending words found here then
      goTo here.next
      return .again (found ++ [here.token.text])
    return .done found) []

/-- Whether words fill some of these slots, in order. -/
def fillsSlots : List (List String) → List String → Bool
  | _, [] => true
  | [], _ :: _ => false
  | slot :: slots, word :: words =>
    if slot.contains word then fillsSlots slots words else fillsSlots slots (word :: words)

/-- The slots of a property's words in an interface or object literal type. -/
def propertySlots : List (List String) :=
  [accessWords, ["static"], ["override"], ["readonly"]]

/-- The slots of a method's words. -/
def methodSlots : List (List String) :=
  propertySlots ++ [["async"], ["get", "set", "*"]]

/-- The slots of an abstract method's words. -/
def abstractMethodSlots : List (List String) :=
  [accessWords, ["abstract"], ["override"], ["get", "set", "*"]]

/-- The slots of a field's words: several orders are allowed. -/
def fieldSlots : List (List (List String)) :=
  let starts := [[["declare"], accessWords], [accessWords, ["declare"]]]
  let ends := [[["static"], ["override"], ["readonly"]], [["abstract"], ["readonly"]],
    [["readonly"], ["abstract"]], [["accessor"]]]
  starts.flatMap fun start => ends.map (start ++ ·)

/-! ## Names -/

/-- The name of a member. -/
inductive MemberName where
  | plain (text : String)
  | secret (text : String)
  /-- A name in brackets, which has no text of its own. -/
  | computed

/-- A text without the quotes around it. -/
def unquoted (text : String) : String :=
  match text.toList with
  | [] => text
  | first :: rest =>
    if (first == '"' || first == '\'' || first.toNat == 0x60) && rest.getLast? == some first then
      String.ofList rest.dropLast
    else text

/-- A member's name. -/
def memberName (g : Productions) : Reader MemberName := do
  if ← nextIs (·.isMark "[") then
    computedName g
    return .computed
  let token ← take startsName
  return match token.kind with
    | .string => .plain (unquoted token.text)
    | .privateName => .secret token.text
    | _ => .plain token.text

/-- A member's name after its words. A method's name never ends with its line. -/
def nameAfter (g : Productions) (words : List String) : Reader MemberName := do
  let name ← memberName g
  unless announcesMethod words do leave .held
  return name

/-- Takes a question mark after a name, if it comes next. -/
def acceptOptional (words : List String) : Reader Bool := do
  let optional ← acceptMark "?"
  unless announcesMethod words do leave .held
  return optional

/-- Whether a method's signature follows its name. On the next line it only does where nothing else
can follow. -/
def signatureNext (words : List String) : Reader Bool := do
  if announcesMethod words then return true
  continuesWith (.line .type) startsSignature

/-- Who may use a member, by the words in front of it and its name. -/
def accessOf (words : List String) (name : MemberName) : Access :=
  match words.find? accessWords.contains, name with
  | some "public", _ => .everyone
  | some "private", _ => .owner
  | some "protected", _ => .heirs
  | some word, _ => .other word
  | none, .secret _ => .owner
  | none, _ => .everyone

/-- What a method is called for, by the words in front of it. -/
def roleOf (words : List String) : MethodRole :=
  if words.contains "get" then .getter else if words.contains "set" then .setter else .plain

/-- A property as it is written. -/
def propertyMember (words : List String) (name : MemberName) (optional : Bool)
    (type : TypeExpr) : Member :=
  let access := accessOf words name
  let static := words.contains "static"
  let property (text : String) : Member :=
    .property access static text type (words.contains "readonly") optional
      (words.contains "abstract")
  match name with
  | .plain text => property text
  | .secret text => property text
  | .computed => .other access static "computed_property"

/-- A method as it is written. One called `constructor` is a constructor. -/
def methodMember (words : List String) (name : MemberName) (optional : Bool)
    (signature : Signature) : Member :=
  let access := accessOf words name
  let static := words.contains "static"
  let method (text : String) : Member :=
    if text == "constructor" then .construct access static signature.params
    else
      .method access static text signature.typeParams signature.params signature.ret
        (roleOf words) optional (words.contains "abstract")
  match name with
  | .plain text => method text
  | .secret text => method text
  | .computed => .other access static "computed_method"

/-- The members that lines of markup in front of a token stand for. -/
def markupMembers (token : Token) : List Member :=
  List.replicate (Trivia.markupCount token.leading) (.other .everyone false Trivia.markupKind)

/-! ## Index signatures -/

/-- Whether an index signature starts at this bracket: a name and then a colon or `in`. -/
def indexNext (here : Cursor) : Bool :=
  let name := here.next.withMarkup
  let after := name.next
  here.token.isMark "[" &&
    ((name.token.isWordBut valueWords && after.token.isMark ":")
      || (name.token.isWordBut (softWords ++ valueWords) && after.token.isWord "in"))

/-- The length of the mark between an index and its type: a colon, possibly with a question mark
and a sign right before it. -/
def indexColonSize? (chars : List Char) : Option Nat :=
  ["-?:", "+?:", "?:", ":"].findSome? fun text =>
    if text.toList.isPrefixOf chars then some text.length else none

/-- The mark between an index and its type. -/
def indexColon : Reader Unit := do
  let here ← look
  match indexColonSize? here.chars with
  | some size => goTo (here.skip size)
  | none => fail

/-- An index signature or, with `in`, a type made from the keys of another. -/
def indexMember (g : Productions) (readonly : Bool) : Reader Member := do
  mark "["
  let name ← word
  if ← follow (·.isWord "in") then
    let _ ← g.type .plain .enclosed
    if ← acceptWord "as" then
      let _ ← g.type .plain .enclosed
    mark "]"
    indexColon
    let _ ← g.type .plain (.line .type)
    return .other .everyone false "mapped_type"
  else
    mark ":"
    let keyType := (← g.type .plain .enclosed).type
    mark "]"
    indexColon
    let valueType := (← annotation g .plain (.line .type)).type
    return .index .everyone false name keyType valueType readonly

/-- The `readonly` of an index signature, with or without a sign, and whether it is there. A sign
is only allowed with it. -/
def indexReadonly : Reader Bool := do
  if ← accept fun t => t.isMark "-" || t.isMark "+" then
    keyword "readonly"
    return true
  else acceptWord "readonly"

/-- Whether an index signature starts here, with or without `readonly`. -/
def indexStarts (here : Cursor) : Bool :=
  here.token.isAnyMark ["-", "+"] || indexNext here
    || (here.token.isWord "readonly" && indexNext here.next && !here.next.mayEnd .type)

/-- An index signature with what stands in front of it. -/
def indexSignature (g : Productions) : Reader Member := do
  let readonly ← indexReadonly
  indexMember g readonly

/-! ## Interfaces and object literal types -/

/-- A member with how it ends. -/
structure ReadMember where
  member : Member
  form : Form

/-- A property or method of an interface. -/
def namedObjectMember (g : Productions) (start : Start) : Reader ReadMember := do
  let words ← modifiers (.line .type) objectModifiers
  let name ← nameAfter g words
  let optional ← acceptOptional words
  if ← signatureNext words then
    require (fillsSlots methodSlots words)
    return ⟨methodMember words name optional (← signature g (.line .type)), .type⟩
  else
    require (fillsSlots propertySlots words)
    if ← acceptMark ":" then
      let start := if words.isEmpty && !optional then start else .plain
      let read ← annotation g start (.line .type)
      return ⟨propertyMember words name optional read.type, if read.shared then .value else .type⟩
    else return ⟨propertyMember words name optional .absent, .type⟩

/-- Whether a construct signature starts here. -/
def constructNext (here : Cursor) : Bool :=
  (here.token.isWord "new" && startsSignature here.next.token && !here.next.mayEnd .type)
    || here.token.isWord "abstract"

/-- A construct signature. -/
def constructSignature (g : Productions) : Reader Member := do
  let isAbstract ← acceptWord "abstract"
  keyword "new"
  unless isAbstract do leave .held
  let _ ← typeParams g
  let _ ← params g .plain
  leave .held
  let _ ← colonType g (.line .type)
  return .other .everyone false "construct_signature"

/-- Whether an export starts here, and not a member called `export`. -/
def exportNext (here : Cursor) : Bool :=
  here.token.isMark "@" || (here.token.isWord "export" && !here.next.atEnd
    && !here.next.token.isAnyMark ["(", "<", "?", ":", ",", ";", "|", "\x7d"]
    && !here.next.mayEnd .type)

/-- A member of an interface or object literal type. -/
def objectMember (g : Productions) (start : Start) : Reader ReadMember := do
  let here ← look
  if startsSignature here.token then
    let found ← signature g (.line .type)
    return ⟨.call .everyone false found.typeParams found.params found.ret, .type⟩
  else if constructNext here then return ⟨← constructSignature g, .type⟩
  else if indexStarts here then return ⟨← indexSignature g, .type⟩
  else if exportNext here then
    let _ ← g.exportStatement
    leave .held
    return ⟨.other .everyone false "export_statement", .type⟩
  else namedObjectMember g start

/-- Takes the closing brace of an object literal type, with a bar right before it or without. -/
def acceptClosingBrace : Reader Bool := do
  let here ← look
  if here.token.isMark "|" && here.touches "\x7d" then
    goTo (here.skip 2)
    return true
  else acceptMark "\x7d"

/-- The members so far, and where the next one starts. -/
structure MemberList where
  start : Start
  members : List Member

/-- The members of an interface or object literal type, up to and with its closing brace. A mark
may stand in front of the first. Lines of markup count as members. -/
def objectMembers (g : Productions) (start : Start) : Reader (List Member) := do
  let lead ← peek
  let led ← accept (·.isAnyMark [",", ";"])
  let markup := if led then markupMembers lead else []
  require !(led && (← nextIs (·.isAnyMark ["\x7d", "|"])))
  loop (fun list => do
    startNew
    let members := list.members ++ markupMembers (← peek)
    if ← acceptClosingBrace then return .done members
    if (← look).atEnd then missing "\x7d"
    let read ← objectMember g list.start
    let members := members ++ [read.member]
    if ← mayEnd read.form then return .again ⟨.plain, members⟩
    let after ← peek
    if ← accept (·.isAnyMark [",", ";"]) then
      return .again ⟨.plain, members ++ markupMembers after⟩
    require (← acceptClosingBrace)
    return .done members) (⟨if led then .plain else start, markup⟩ : MemberList)

/-! ## Classes -/

/-- A member of a class, with how it has to end: nothing is needed after a body. -/
structure ClassMember where
  member : Member
  ending : Option Form

/-- A block in braces. -/
def bracedBlock (g : Productions) : Reader Unit := do
  mark "\x7b"
  let _ ← g.block

/-- A method of a class after its name. Only one with a body may have decorators. -/
def classMethod (g : Productions) (decorated : Bool) (words : List String) (name : MemberName)
    (optional : Bool) : Reader ClassMember := do
  let isAbstract := words.contains "abstract"
  let form : Form := if isAbstract then .type else .signature
  let member := methodMember words name optional (← signature g (.line form))
  if !isAbstract && (← continuesWith (.line form) (·.isMark "\x7b")) then
    require (fillsSlots methodSlots words)
    bracedBlock g
    return ⟨member, none⟩
  else
    require !decorated
    require (fillsSlots (if isAbstract then abstractMethodSlots else methodSlots) words)
    return ⟨member, some form⟩

/-- A field of a class after its name. -/
def classField (g : Productions) (words : List String) (name : MemberName) (optional : Bool) :
    Reader ClassMember := do
  require (fieldSlots.any (fillsSlots · words))
  unless optional do
    if ← continueWith (.line .type) (·.isMark "!") then leave .held
  let type ← colonType g (.line .type)
  let valued ← initializer g (.line .value)
  return ⟨propertyMember words name optional type, some (if valued then .value else .type)⟩

/-- A property or method of a class. -/
def namedClassMember (g : Productions) (decorated : Bool) : Reader ClassMember := do
  let words ← modifiers (.line .type) classModifiers
  require !(← nextIs (·.isAnyWord pureModifiers))
  let name ← nameAfter g words
  let optional ← acceptOptional words
  if ← signatureNext words then classMethod g decorated words name optional
  else classField g words name optional

/-- A member of a class. -/
def classMember (g : Productions) : Reader ClassMember := do
  let decorated ← decorators g
  let here ← look
  if !decorated && here.token.isWord "static" && here.next.token.isMark "\x7b" then
    goTo here.next
    bracedBlock g
    return ⟨.other .everyone true "class_static_block", none⟩
  else if !decorated && indexStarts here then
    return ⟨← indexSignature g, some .type⟩
  else namedClassMember g decorated

/-- The end of a class member. -/
def classMemberEnd : Option Form → Reader Unit
  | none => return ()
  | some form => do
    unless ← mayEnd form do
      let _ ← take (·.isAnyMark [",", ";"])

/-- The members of a class, up to and with its closing brace. Lines of markup count as members. -/
def classMembers (g : Productions) : Reader (List Member) :=
  loop (fun members => do
    startNew
    let members := members ++ markupMembers (← peek)
    if ← acceptMark "\x7d" then return .done members
    if (← look).atEnd then missing "\x7d"
    if ← acceptMark ";" then return .again members
    let found ← classMember g
    classMemberEnd found.ending
    return .again (members ++ [found.member])) []

/-! ## Heads -/

/-- The lines of markup in front of a token. -/
def markupTexts (token : Token) : List String :=
  token.leading.filterMap fun
    | .markup text => some text
    | _ => none

/-- A value that a class extends, as it is written, with its type arguments. A line of markup in
front of it counts as one of its own. -/
def baseClass (g : Productions) : Reader (List TypeExpr) := do
  let first ← look
  g.expression .head
  let text := first.textUpTo (← place) 0
  let after ← place
  let args ←
    if after.token.isMark "<" && !after.touches "<" then (do goTo after.next; typeArgs g .valued)
    else pure []
  return (markupTexts first.token).map (.ref · []) ++ [.ref text args]

/-- Whether a type is a reference. -/
def isReference : TypeExpr → Bool
  | .ref _ _ => true
  | _ => false

/-- Whether a type that a class implements is kept: it is a reference, or it is about one that is not
there. -/
def isKept (type : TypeExpr) : Bool :=
  isReference type || type.hasUnknown

/-- A class after the word `class`. Where it need not be named, its name is not a word that could
follow the name. -/
def classTail (g : Productions) (named isAbstract : Bool) : Reader ClassDecl := do
  let hasName ← nextIs (·.isWordBut (if named then [] else ["extends", "implements"]))
  require (hasName || !named)
  let name ← if hasName then word else pure "AnonymousClass"
  let typeParams ← typeParams g
  let bases ←
    if ← acceptWord "extends" then (do return (← commaSeparated1 (baseClass g)).flatten)
    else pure []
  let interfaces ←
    if ← acceptWord "implements" then commaSeparated1 (g.type .plain .enclosed) else pure []
  mark "\x7b"
  let members ← classMembers g
  return ⟨name, typeParams, bases, (interfaces.map (·.type)).filter isKept, members, isAbstract⟩

/-- An interface after the word `interface`. -/
def interfaceTail (g : Productions) : Reader InterfaceDecl := do
  let name ← word
  let typeParams ← typeParams g
  let bases ←
    if ← acceptWord "extends" then commaSeparated1 (reference g .plain .enclosed) else pure []
  openingBrace
  let members ← g.objectMembers .plain
  return ⟨name, typeParams, bases.map (·.type), members⟩

end Facade.Grammar
