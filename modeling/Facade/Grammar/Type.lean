-- Types. `[]` and `[K]` bind tightest, then the words in front such as `keyof`, then `&`,
-- then `|`; a function type reaches as far to the right as it can.
import Facade.Grammar.Signature
namespace Facade.Grammar
open Reader

/-! ## Types as they are written -/

/-- A type that brackets may follow, read where no value could stand. -/
def simple (type : TypeExpr) : ReadType := ⟨type, .simple, false⟩

/-- A type that no brackets may follow. -/
def loose (type : TypeExpr) : ReadType := ⟨type, .loose, false⟩

/-- The ending of what follows a type: where the type could be a value, the value could go on. -/
def endingAfter (read : ReadType) (ending : Ending) : Ending :=
  if read.shared then ending.ofValue else ending

/-- The words that are no names where a type starts: where a value could start too, its keywords. -/
def barredWords : Start → List String
  | .plain => []
  | _ => softWords ++ valueWords

/-- Where a type starts in parentheses, or after three dots. -/
def inParentheses : Start → Start
  | .plain => .shared
  | _ => .grouped

/-- Where a type starts after `readonly`, which may stand in front of a parameter too. -/
def afterReadonly (start : Start) (next : Token) : Start :=
  if (start == .shared || start == .grouped) && !next.isWord "readonly" then .shared else .plain

/-- Where the first type starts in other brackets. -/
def inBrackets : Start → Start
  | .plain => .plain
  | _ => .valued

/-- Whether a type ends here that starts with a call of `import`, where a value could stand: what
follows must not be able to follow the call as a value. -/
def importEnds (start : Start) (ending : Ending) : Reader Bool := do
  let here ← place
  return start == .plain || here.token.isWord "extends"
    || (start == .shared && here.token.isAnyMark [")", "]", ","])
    || match ending with
      | .line _ => here.token.isMark ";" || here.mayEnd .value
      | _ => false

/-- Takes a mark that joins types if it comes next and belongs to the same form. Where a value could
go on, a longer operator is not such a mark. -/
def acceptJoint? (ending : Ending) (text : String) : Reader (Option Token) := do
  let here ← if ending == .enclosed then look else place
  if here.token.isMark text && !ending.isAt here && !here.touches "\x7d"
      && !(ending.isValue && (here.touches text || here.touches "=")) then
    goTo here.next
    return some here.token
  else return none

/-- A type in front of which a word stands. A remark right after the word takes its place. -/
def typeAfterWord (type : Reader ReadType) : Reader ReadType := do
  let remark ← remarkType?
  let read ← type
  return { read with type := remark.getD read.type }

/-! ## Names and words -/

/-- A segment of a name after a dot, if there is one more. -/
def nextSegment (ending : Ending) : Reader (Round Unit Unit) := do
  if ← continueWith ending (·.isMark ".") then
    let _ ← word
    return .again ()
  return .done ()

/-- A name with segments after dots, as it is written. -/
def dottedName (ending : Ending) : Reader String := do
  let first ← look
  let _ ← word
  loop (fun _ => nextSegment ending) ()
  settle ending
  return first.textUpTo (← place) 0

/-- A segment of a type's name, if there is one more. A name with segments is no value. -/
def nextNamePart (ending : Ending) (shared : Bool) : Reader (Round Bool Bool) := do
  if ← continueWith (if shared then ending.ofValue else ending) (·.isMark ".") then
    let _ ← word
    return .again false
  return .done shared

/-- A type by its name, with type arguments or without. -/
def namedType (g : Productions) (ending : Ending) (name : String) (shared : Bool) :
    Reader ReadType := do
  match ← acceptJoint? (if shared then ending.ofValue else ending) "<" with
  | some _ => return simple (.ref name (← typeArgs g .plain))
  | none => return ⟨.ref name [], .simple, shared⟩

/-- A name with segments and type arguments, or without. -/
def reference (g : Productions) (start : Start) (ending : Ending) : Reader ReadType := do
  let first ← look
  let _ ← wordBut (barredWords start)
  let shared ← loop (nextNamePart ending) (start != .plain)
  namedType g ending (first.textUpTo (← place) 0) shared

/-- The words that are literals. -/
def literalWord? : String → Option LiteralKind
  | "true" => some .boolean
  | "false" => some .boolean
  | "null" => some .null
  | "undefined" => some .undefined
  | _ => none

/-- The predefined words that are no values. -/
def valuelessWords : List String := ["void", "unknown", "never"]

/-! ## Values asked for their type -/

/-- What has been read of a value that is asked for its type. -/
inductive QueryShape where
  | name
  | receiver
  | imported
  | part
  | called
  | applied
  deriving DecidableEq

/-- The shape of a query that starts with a word. -/
def QueryShape.ofWord : String → QueryShape
  | "this" => .receiver
  | "import" => .imported
  | _ => .name

/-- A part of a value that is asked for its type, after `?.`. -/
def optionalQueryPart : Reader Unit := do
  if ← acceptMark "[" then
    if ← acceptWord "unique" then keyword "symbol"
    else
      let _ ← take fun t => t.isAnyWord predefinedWords || t.kind == .string || t.kind == .number
    mark "]"
  else
    let _ ← take fun t => t.kind == .word || t.kind == .privateName

/-- What follows in a query, if the query goes on here. -/
def queryTail (g : Productions) (ending : Ending) (shape : QueryShape) :
    Reader (Round QueryShape QueryShape) := do
  let here ← if ending == .enclosed then look else place
  let callable := shape != .receiver && shape != .called
  if ending.isAt here then return .done shape
  else if here.token.isMark "." && shape != .imported then
    goTo here.next
    let _ ← take fun t => t.kind == .word || t.kind == .privateName
    return .again .part
  else if here.token.isMark "?" && here.touches "." && shape != .imported then
    goTo (here.skip 2)
    optionalQueryPart
    return .again .part
  else if here.token.isMark "(" && callable then
    goTo here.next
    arguments g
    return .again .called
  else if here.token.isMark "<" && callable then
    goTo here.next
    let _ ← typeArgs g .plain
    return .done .applied
  else return .done shape

/-- The type of a value. -/
def typeQuery (g : Productions) (start : Start) (ending : Ending) : Reader ReadType := do
  keyword "typeof"
  let head ← take fun t =>
    t.isAnyWord ["this", "import"] || t.isWordBut (barredWords start)
  let isShared (shape : QueryShape) : Bool :=
    start != .plain && (shape == .name || shape == .receiver)
  let shape ← loop (fun shape =>
    queryTail g (if isShared shape then ending.ofValue else ending) shape) (.ofWord head.text)
  require (shape != .imported)
  require (head.text != "import" || (← importEnds start ending))
  return ⟨.unsupported "type_query", .simple, isShared shape⟩

/-- What an imported module is called when it is called last, or else a place in it. -/
def importKind (called : Bool) : String :=
  if called then "call_expression" else "member_expression"

/-- What follows in an imported module or a place in it, and whether it is called last. -/
def importTail (g : Productions) (ending : Ending) (called : Bool) : Reader Bool :=
  loop (fun called => do
    if ← continueWith ending (·.isMark ".") then
      let _ ← take fun t => t.kind == .word || t.kind == .privateName
      return .again false
    if !called then
      if ← continueWith ending (·.isMark "(") then
        arguments g
        return .again true
    return .done called) called

/-- An imported module or a place in it. -/
def importType (g : Productions) (start : Start) (ending : Ending) : Reader ReadType := do
  keyword "import"
  if ← acceptMark "(" then
    arguments g
    if start == .plain then
      return loose (.unsupported (importKind (← importTail g ending true)))
    else
      require (← importEnds start ending)
      return ⟨.unsupported (importKind true), .loose, true⟩
  else
    require (start == .plain)
    mark "."
    let _ ← take fun t => t.kind == .word || t.kind == .privateName
    return loose (.unsupported (importKind (← importTail g ending false)))

/-- What the word `const` is as a type, by what comes after it. In front of empty brackets a remark
takes its place. -/
def constBefore (ending : Ending) (here : Cursor) : TypeExpr :=
  let close := here.next.withMarkup.token
  if here.token.isMark "[" && !ending.isAt here && close.isMark "]" then
    standIn [here.token, close]
  else constType

/-- The word `const` as a type. -/
def constWord (ending : Ending) : Reader ReadType := do
  keyword "const"
  let after ← place
  let here := if ending == .enclosed then after.withMarkup else after
  return simple (constBefore ending here)

/-- A type that is one word, or starts with one. -/
def wordType (g : Productions) (start : Start) (ending : Ending) (first : Token) :
    Reader ReadType := do
  let here ← look
  if predefinedWords.contains first.text then
    let _ ← next
    return ⟨.keyword first.text, .simple,
      start != .plain && !valuelessWords.contains first.text⟩
  else if first.text == "unique" then
    keyword "unique"
    keyword "symbol"
    return simple (.keyword (here.textUpTo (← place) 0))
  else if first.text == "this" then
    let _ ← next
    return ⟨.keyword "this", .simple, start != .plain⟩
  else if first.text == "typeof" then typeQuery g start ending
  else if first.text == "const" then constWord ending
  else
    match literalWord? first.text with
    | some kind =>
      let _ ← next
      return ⟨.literal kind first.text, .simple, start != .plain⟩
    | none => reference g start ending

/-! ## Brackets -/

/-- Takes the brace that opens an object literal type, with a bar right after it or without. -/
def openingBrace : Reader Unit := do
  let here ← look
  mark "\x7b"
  if here.touches "|" then goTo (here.skip 2)

/-- An object literal type. -/
def objectType (g : Productions) (start : Start) : Reader ReadType := do
  openingBrace
  let members ← g.objectMembers (inBrackets start)
  return ⟨.object members, .simple, start != .plain && members.isEmpty⟩

/-- Takes the label of a place of a tuple with its colon, if there is one. -/
def acceptLabel (start : Start) : Reader Bool := do
  let here ← look
  if here.token.isWordBut (typeWords ++ barredWords start) then
    let second := if start != .plain then here.next else here.next.withMarkup
    let third := second.next.withMarkup
    if second.token.isMark ":" then
      goTo second.next
      return true
    else if second.token.isMark "?" && third.token.isMark ":"
        && !(start != .plain && second.isChoice) then
      goTo third.next
      return true
    else return false
  else return false

/-- The rest of a tuple after three dots, with a label or without. -/
def tupleRest (g : Productions) (start : Start) : Reader Unit :=
  orElse
    (do
      let _ ← g.pattern .plain
      mark ":"
      let _ ← g.type .plain .enclosed)
    (do
      let start := if ← nextIs (·.isWord "readonly") then .valued else inParentheses start
      let _ ← g.type start .enclosed)

/-- One place of a tuple: a type, with a label or without, possibly optional, or the rest. -/
def tuplePart (g : Productions) (start : Start) : Reader Unit := do
  if ← acceptMark "..." then tupleRest g start
  else if ← acceptLabel start then
    let _ ← g.type .plain .enclosed
  else
    let read ← g.type start .enclosed
    require !(read.shared && (← place).isChoice)
    let _ ← acceptMark "?"

/-- A tuple. A comma may stand alone in it. -/
def tupleType (g : Productions) (start : Start) : Reader ReadType := do
  mark "["
  if ← acceptMark "]" then return ⟨.unsupported "tuple_type", .simple, start != .plain⟩
  if ← acceptMark "," then mark "]"
  else
    loop (fun start => do
      tuplePart g start
      if ← acceptMark "," then
        if ← acceptMark "]" then return .done ()
        return .again .plain
      mark "]"
      return .done ()) (inBrackets start)
  return simple (.unsupported "tuple_type")

/-- A type after an opening parenthesis. A remark takes the place of the word `const`, if nothing
else stands in the parentheses. -/
def typeInParentheses (g : Productions) (start : Start) : Reader ReadType := do
  let here ← look
  let close := here.next.withMarkup.token
  let read ← g.type (inParentheses start) .enclosed
  if here.token.isWord "const" && close.isMark ")" then
    return { read with type := standIn [close] }
  return read

/-- A type in parentheses. -/
def groupedType (g : Productions) (start : Start) : Reader ReadType := do
  mark "("
  let read ← typeAfterWord (typeInParentheses g start)
  mark ")"
  return simple (.paren read.type)

/-- A number with a sign. -/
def signedNumber (start : Start) : Reader ReadType := do
  let here ← look
  let _ ← next
  let _ ← take (·.kind == .number)
  return ⟨.literal .number (here.textUpTo (← place) 0), .simple, start != .plain⟩

/-- A template with types in it. -/
def templateType (g : Productions) (start : Start) : Reader ReadType := do
  loop (fun (here, start) => do
    match here.templateStop? false with
    | none => fail
    | some (.close, rest) =>
      goTo rest
      return .done ()
    | some (.code, rest) =>
      goTo rest
      let first ← peek
      let read ← g.type start .enclosed
      require (read.shape != .loose || first.isWord "infer")
      let close ← look
      require (close.token.isMark "\x7d")
      return .again (close, Start.plain)) (← look, inBrackets start)
  return simple (.unsupported "template_literal_type")

/-- A type without anything in front of it or behind it. -/
def simpleType (g : Productions) (start : Start) (ending : Ending) : Reader ReadType := do
  let first ← peek
  match first.kind with
  | .word => wordType g start ending first
  | .string =>
    let _ ← next
    return ⟨.literal .string first.text, .simple, start != .plain⟩
  | .number =>
    let _ ← next
    return ⟨.literal .number first.text, .simple, start != .plain⟩
  | .mark =>
    match first.text with
    | "(" => groupedType g start
    | "[" => tupleType g start
    | "\x7b" => objectType g start
    | "+" => signedNumber start
    | "-" => signedNumber start
    | "`" => templateType g start
    | "*" =>
      let _ ← next
      return simple (.unsupported "existential_type")
    | _ => fail
  | _ => fail

/-- A type with one pair of brackets more behind it, if there is one. -/
def nextBrackets (g : Productions) (ending : Ending) (read : ReadType) :
    Reader (Round ReadType ReadType) := do
  if ← continueWith (endingAfter read ending) (·.isMark "[") then
    if ← acceptMark "]" then return .again (simple (.array read.type))
    let _ ← g.type .plain .enclosed
    mark "]"
    return .again (simple (.unsupported "lookup_type"))
  return .done read

/-- A type with the brackets behind it: an array of it, or a part of it. -/
def withBrackets (g : Productions) (ending : Ending) (first : ReadType) : Reader ReadType :=
  loop (nextBrackets g ending) first

/-! ## Operators -/

/-- The types that a type adds to others which are joined to a type of a shape. -/
def partsFor (shape : TypeShape) (read : ReadType) : List TypeExpr :=
  match shape == read.shape, read.type with
  | true, .union members => members
  | true, .inter members => members
  | _, type => [type].filter (!isConstType ·)

/-- What joins types to one, and what it makes of them. -/
structure Joint where
  mark : String
  shape : TypeShape
  join : List TypeExpr → TypeExpr

/-- The joint of the members of a union. -/
def unionJoint : Joint := ⟨"|", .union, .union⟩

/-- The joint of the members of an intersection. -/
def intersectionJoint : Joint := ⟨"&", .intersection, .inter⟩

/-- A type with a joint in front of it. -/
def ledType (joint : Joint) (part : Reader ReadType) : Reader ReadType := do
  mark joint.mark
  let first ← peek
  let read ← part
  return ⟨joint.join (markupTypes first ++ partsFor joint.shape read), joint.shape, false⟩

/-- A type joined to the one after it, if a joint comes next. A line of markup between them counts
as one. Brackets that cannot belong to the last type belong to all of them. -/
def joinedType? (g : Productions) (joint : Joint) (ending : Ending) (part : Reader ReadType)
    (left : ReadType) : Reader (Option ReadType) := do
  match ← acceptJoint? (endingAfter left ending) joint.mark with
  | some mark =>
    let start ← peek
    let right ← part
    let joined := joint.join (partsFor joint.shape left ++ markupTypes mark ++ markupTypes start
      ++ partsFor joint.shape right)
    return some (← withBrackets g ending ⟨joined, joint.shape, false⟩)
  | none => return none

/-- A type with the one after it, if a joint comes next. -/
def nextJoined (g : Productions) (joint : Joint) (ending : Ending) (part : Reader ReadType)
    (left : ReadType) : Reader (Round ReadType ReadType) := do
  match ← joinedType? g joint ending part left with
  | some joined => return .again joined
  | none => return .done left

/-- Types with a joint between them: a form of its own when the joint occurs, else the one type. -/
def joinedTypes (g : Productions) (joint : Joint) (ending : Ending) (part : Reader ReadType)
    (first : ReadType) : Reader ReadType :=
  loop (nextJoined g joint ending part) first

/-- A choice that depends on a type, after the word `extends`. -/
def conditionalType (g : Productions) (ending : Ending) : Reader ReadType := do
  let _ ← g.type .plain .enclosed
  mark "?"
  let _ ← g.type .plain .enclosed
  mark ":"
  let _ ← g.type .plain ending
  return simple (.unsupported "conditional_type")

/-! ## Words in front -/

/-- A larger type from a type that no brackets may follow. -/
def largerType (g : Productions) (ending : Ending) (read : ReadType) : Reader ReadType := do
  if ← continueWith (endingAfter read ending) (·.isWord "extends") then conditionalType g ending
  else
    match ← joinedType? g intersectionJoint ending (g.operand .plain ending) read with
    | some joined => return joined
    | none =>
      match ← joinedType? g unionJoint ending (g.conjunction ending) read with
      | some joined => return joined
      | none => fail

/-- A type of keys. A type that no brackets may follow is only a part of what it is about. -/
def keysType (g : Productions) (ending : Ending) : Reader ReadType := do
  keyword "keyof"
  let read ← typeAfterWord do
    let read ← g.operand .plain ending
    if read.shape == .loose then largerType g ending read else return read
  return simple (.keyOf (operandOf read.type))

/-- A type whose parts cannot be set. -/
def readonlyType (g : Productions) (start : Start) (ending : Ending) : Reader ReadType := do
  keyword "readonly"
  require (start == .plain
    || !((← nextIs (·.isAnyWord operatorWords)) || (← place).isChoice))
  let start := afterReadonly start (← peek)
  return loose (operandOf (← typeAfterWord (g.type start ending)).type)

/-- A type that may be left out. -/
def maybeType (g : Productions) (ending : Ending) : Reader ReadType := do
  mark "?"
  let read ← g.type .plain ending
  require (read.shape != .loose)
  return simple (.unsupported "flow_maybe_type")

/-- Type parameters. Where a value could stand, the first is not named by a keyword of types. -/
def typeParamsAt (g : Productions) (start : Start) : Reader (List TypeParam) := do
  let here ← look
  let first := here.next.withMarkup
  require !(start != .plain && here.token.isMark "<" && first.token.isAnyWord typeWords
    && !(first.token.isWord "const" && first.next.token.kind == .word))
  typeParams g

/-- A function type. -/
def functionType (g : Productions) (start : Start) (ending : Ending) : Reader ReadType := do
  let typeParams ← typeParamsAt g start
  let params ← params g (if typeParams.isEmpty then inParentheses start else .plain)
  mark "=>"
  return loose (.func params (← result g ending))

/-- The type of a constructor. -/
def constructorType (g : Productions) (start : Start) (ending : Ending) : Reader ReadType := do
  let isAbstract ← acceptWord "abstract"
  keyword "new"
  let _ ← typeParamsAt g (if isAbstract then .plain else start)
  let _ ← params g .plain
  mark "=>"
  let _ ← g.operand .plain ending
  return loose (.unsupported "constructor_type")

/-- A type that is found by matching. -/
def inferredType (g : Productions) (ending : Ending) : Reader ReadType := do
  keyword "infer"
  let _ ← word
  if ← continueWith ending (·.isWord "extends") then
    let _ ← g.type .plain ending
  return loose (.unsupported "infer_type")

/-! ## Types by how tightly they bind -/

/-- Whether an arrow follows the parenthesis that closes the one at a place. -/
def arrowFollows (here : Cursor) : Bool :=
  here.closing?.any (·.withMarkup.token.isMark "=>")

/-- A type that binds tighter than `&`. -/
def operandType (g : Productions) (start : Start) (ending : Ending) : Reader ReadType := do
  let here ← look
  let first := here.token
  let read ←
    if first.isWord "keyof" then keysType g ending
    else if first.isWord "readonly" then readonlyType g start ending
    else if first.isAnyWord ["new", "abstract"] then constructorType g start ending
    else if first.isWord "infer" then inferredType g ending
    else if first.isWord "import" then importType g start ending
    else if first.isMark "?" then maybeType g ending
    else if first.isMark "|" then
      withBrackets g ending (← ledType unionJoint (g.conjunction ending))
    else if first.isMark "&" then
      withBrackets g ending (← ledType intersectionJoint (g.operand .plain ending))
    else if first.isMark "<" || (first.isMark "(" && arrowFollows here) then
      functionType g start ending
    else withBrackets g ending (← simpleType g start ending)
  settle (endingAfter read ending)
  return read

/-- Types joined by `&`, from the first on. -/
def intersectionFrom (g : Productions) (ending : Ending) (first : ReadType) : Reader ReadType :=
  joinedTypes g intersectionJoint ending (operandType g .plain ending) first

/-- Types joined by `&`. -/
def intersectionType (g : Productions) (start : Start) (ending : Ending) : Reader ReadType := do
  intersectionFrom g ending (← operandType g start ending)

/-- Types joined by `|`, from the first on. -/
def unionFrom (g : Productions) (ending : Ending) (first : ReadType) : Reader ReadType := do
  joinedTypes g unionJoint ending (intersectionType g .plain ending)
    (← intersectionFrom g ending first)

/-- A type: a union, or a choice that depends on one. Behind brackets that belong to a choice the
type may go on. -/
def type (g : Productions) (start : Start) (ending : Ending) : Reader ReadType := do
  let first ← operandType g start ending
  let found ← loop (fun first => do
    let left ← unionFrom g ending first
    if ← continueWith (endingAfter left ending) (·.isWord "extends") then
      let found ← conditionalType g ending
      if ← continuesWith ending (·.isMark "[") then
        return .again (← withBrackets g ending found)
      return .done found
    return .done left) first
  settle (endingAfter found ending)
  return found

end Facade.Grammar
