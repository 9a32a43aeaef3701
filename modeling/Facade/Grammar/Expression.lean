-- Values. A facade shows no values, so they are only recognised: an initial value, a base
-- class or a decorator has to be read to know where it ends.
import Facade.Grammar.Member
namespace Facade.Grammar
open Reader

/-! ## Operators -/

/-- The operators between two values that are made of marks, the longer ones first. -/
def binaryOperators : List String :=
  [">>>", "===", "!==", "==", "!=", "<=", ">=", "&&", "||", "??", "<<", ">>", "**", "+", "-", "*",
   "/", "%", "<", ">", "&", "|", "^"]

/-- The operators that assign and compute, the longer ones first. -/
def updatingOperators : List String :=
  [">>>=", "**=", "<<=", ">>=", "&&=", "||=", "??=", "+=", "-=", "*=", "/=", "%=", "&=", "|=",
   "^="]

/-- What an operator does with the value before it. -/
inductive Operator where
  /-- It sets the value. -/
  | assigns
  /-- It sets the value to something computed from it. -/
  | updates (size : Nat)
  /-- It computes something new. -/
  | computes (size : Nat)

/-- The length of the first of these texts that comes first. -/
def sizeOfAny? (texts : List String) (chars : List Char) : Option Nat :=
  texts.findSome? fun text => if text.toList.isPrefixOf chars then some text.length else none

/-- The operator that comes next, if there is one. -/
def operator? (here : Cursor) : Option Operator :=
  if here.token.kind != .mark || here.token.isMark "=>" then none
  else
    match sizeOfAny? updatingOperators here.chars, sizeOfAny? binaryOperators here.chars with
    | some size, _ => some (.updates size)
    | none, some size => some (.computes size)
    | none, none => if here.token.isMark "=" then some .assigns else none

/-- Whether a type starts here and no value, where both could start. -/
def startsOnlyType (here : Cursor) : Bool :=
  here.token.isAnyWord pureTypeWords || (here.token.isWord "readonly"
    && (here.next.token.isWordBut operatorWords || here.next.token.isAnyMark ["\x7b", "[", "("]))

/-- Whether a value may be set. -/
def isAssignable : ValueShape → Bool
  | .name => true
  | .nothing => true
  | .part => true
  | .group => true
  | _ => false

/-- Whether a value may be set to something computed from it. -/
def isUpdatable (shape : ValueShape) : Bool :=
  isAssignable shape && shape != .nothing

/-- Whether a value is no operator's. -/
def isPrimary : ValueShape → Bool
  | .created => false
  | .compound => false
  | _ => true

/-- Whether a value may start here. -/
def startsValue (here : Cursor) : Bool :=
  here.token.isWordBut operatorWords || here.token.kind == .string || here.token.kind == .number
    || here.token.isAnyMark ["(", "[", "\x7b", "~", "@", "`"]
    || (here.token.isAnyMark ["+", "-", "!", "/"] && !here.touches "=")
    || (here.token.isMark "<" && !here.touches "=" && !here.touches "<")

/-! ## Lists of values -/

/-- One value or more. -/
def sequence (g : Productions) (ending : Ending) : Reader Unit := do
  let _ ← commaSeparated1 (g.expression ending)

/-- The elements of an array after the opening bracket. -/
def arrayElements (g : Productions) : Reader Unit :=
  sparse "]" (do let _ ← acceptMark "..."; g.expression .value)

/-- A part of an object: a spread, a method, a property with a value, or a name. -/
def objectPart (g : Productions) : Reader Unit := do
  if ← acceptMark "..." then g.expression .value
  else
    let words ← modifiers .enclosed objectModifiers
    let isWord ← nextIs (·.kind == .word)
    let _ ← memberName g
    let optional ← acceptMark "?"
    if optional || !words.isEmpty || (← nextIs startsSignature) then
      require (fillsSlots methodSlots words)
      let _ ← signature g .enclosed
      bracedBlock g
    else if ← acceptMark ":" then g.expression .value
    else require isWord

/-- The parts of an object after the opening brace. -/
def objectParts (g : Productions) : Reader Unit :=
  sparse "\x7d" (objectPart g)

/-- A template with values in it. -/
def templateValue (g : Productions) : Reader Unit := do
  loop (fun (here : Cursor) => do
    match here.templateStop? true with
    | none => fail
    | some (.close, rest) =>
      goTo rest
      return .done ()
    | some (.code, rest) =>
      goTo rest
      sequence g .value
      let close ← look
      require (close.token.isMark "\x7d")
      return .again close) (← place)

/-! ## Functions -/

/-- A function after the word `function`. -/
def functionTail (g : Productions) : Reader Unit := do
  let _ ← acceptMark "*"
  let _ ← accept (·.kind == .word)
  let _ ← signature g .enclosed
  bracedBlock g

/-- Whether a word at the start of a block is a keyword, so that it names no part of an object. -/
def startsBlock (first : Token) : Bool :=
  first.isAnyWord (valueWords ++ statementWords)

/-- What stands after an arrow: a block or a value. -/
def arrowBody (g : Productions) (ending : Ending) : Reader Unit := do
  mark "=>"
  let here ← look
  if !here.token.isMark "\x7b" then g.expression ending.inside
  else if startsBlock here.next.withMarkup.token then bracedBlock g
  else orElse (bracedBlock g) (g.expression ending.inside)

/-- The result and the body of a function with an arrow, after a colon. A result in parentheses is
not the parameters of a function type when the arrow is this function's. -/
def annotatedArrow (g : Productions) (ending : Ending) : Reader Unit := do
  let full : Reader Unit := do
    let _ ← annotatedResult g .enclosed
    arrowBody g ending
  if ← nextIs (·.isMark "(") then
    orElse full do
      let _ ← groupedType g .plain
      arrowBody g ending
  else full
  require (ending != .choice || (← followsAs (·.isMark ":")))

/-- A function with an arrow and parameters in parentheses. -/
def arrowFunction (g : Productions) (ending : Ending) : Reader ValueShape := do
  let _ ← typeParams g
  let _ ← params g .plain
  if ← acceptMark ":" then annotatedArrow g ending else arrowBody g ending
  return .simple

/-- Whether an arrow, or a colon that may announce one, follows the closing parenthesis. -/
def arrowLikely (here : Cursor) : Bool :=
  here.token.isMark "<" || (here.token.isMark "("
    && here.closing?.any fun after => after.withMarkup.token.isAnyMark ["=>", ":"])

/-! ## Accesses -/

/-- What may follow `?.`. -/
def optionalPart (g : Productions) (shape : ValueShape) : Reader ValueShape := do
  let here ← look
  if here.token.isMark "[" then
    goTo here.next
    sequence g .value
    mark "]"
    return .part
  else if startsSignature here.token then
    require (isPrimary shape)
    if ← acceptMark "<" then
      let _ ← typeArgs g .plain
    mark "("
    arguments g
    return .simple
  else
    let _ ← take fun t => t.kind == .word || t.kind == .privateName
    return .part

/-- Whether `?.` comes next. -/
def optionalNext (here : Cursor) : Bool :=
  here.token.isMark "?" && here.touches "." && !(here.after.drop 1).head?.any Char.isDigit

/-- What follows a value to give a part of it, if something does, and what that makes of it. -/
def accessTail? (g : Productions) (shape : ValueShape) : Reader (Option ValueShape) := do
  let here ← place
  if here.token.isMark "." then
    goTo here.next
    let _ ← take fun t => t.kind == .word || t.kind == .privateName
    return some .part
  else if optionalNext here then
    goTo (here.skip 2)
    return some (← optionalPart g shape)
  else if here.token.isMark "[" then
    goTo here.next
    sequence g .value
    mark "]"
    return some .part
  else if here.token.isMark "`" && (isPrimary shape || shape == .created) then
    templateValue g
    return some .simple
  else if here.token.isMark "!" && !here.touches "=" then
    goTo here.next
    return some .part
  else return none

/-! ## Values without operators -/

/-- Takes a word that stands for itself. -/
def wordItself (here : Cursor) (shape : ValueShape) : Reader ValueShape := do
  goTo here.next
  return shape

/-- A value that starts with `async`. -/
def asyncValue (g : Productions) (ending : Ending) (here : Cursor) : Reader ValueShape := do
  let after := here.next
  if ending.isAt after then wordItself here .name
  else if after.token.isWord "function" then
    goTo after.next
    functionTail g
    return .simple
  else if after.token.kind == .word && after.next.token.isMark "=>" then
    goTo after.next
    arrowBody g ending
    return .simple
  else if arrowLikely after then
    orElse (do goTo after; arrowFunction g ending) (wordItself here .name)
  else wordItself here .name

/-- What is constructed after `new`: a value with the accesses behind it. -/
def constructor (g : Productions) (ending : Ending) (here : Cursor) : Reader Unit := do
  let shape ←
    if here.token.isWord "new" then (do
      require !startsValue here.next
      wordItself here .name)
    else if here.token.isWord "namespace" then wordItself here .name
    else (do
      goTo here
      g.simpleValue ending)
  loop (fun shape => do
    let here ← place
    if ending.isAt here then return .done ()
    match ← accessTail? g shape with
    | some shape => return .again shape
    | none => return .done ()) shape

/-- A value that starts with `new`. The word is a name when no value follows. -/
def newValue (g : Productions) (ending : Ending) (here : Cursor) : Reader ValueShape := do
  let after := here.next
  if after.token.isMark "." then
    require (after.next.token.isWord "target")
    wordItself here .simple
  else if startsValue after && !ending.isAt after
      && !(ending.isInHead && after.token.isWord "implements") then
    constructor g ending.inside after
    let opening ← place
    if ending.isAt opening then return .created
    if opening.token.isMark "<" && !opening.touches "<" && !opening.touches "=" then
      goTo opening.next
      let _ ← typeArgs g .plain
    if ← continueWith ending (·.isMark "(") then arguments g
    return .created
  else wordItself here .name

/-- A value that starts with `import`. -/
def importValue (g : Productions) (here : Cursor) : Reader ValueShape := do
  let after := here.next.withMarkup
  if after.token.isMark "<" then
    goTo after.next
    let _ ← typeArgs g .plain
    require (← followsAs (·.isMark "("))
    return .simple
  else
    require (after.token.isMark "(" || (after.token.isMark "?" && after.touches ".")
      || (after.token.isMark "." && after.next.token.isWord "meta"))
    goTo after
    return .simple

/-- A namespace as a value. -/
def namespaceValue (g : Productions) (ending : Ending) (here : Cursor) : Reader ValueShape := do
  let after := here.next
  if (after.token.isWordBut operatorWords || after.token.kind == .string)
      && !ending.isAt after && !(ending.isInHead && after.token.isWord "implements") then
    goTo after
    if after.token.kind == .string then goTo after.next
    else
      let _ ← dottedName ending
    if ← continuesWith ending (·.isMark "\x7b") then bracedBlock g
    return .compound
  else wordItself here .name

/-- A value that starts with a word. -/
def wordValue (g : Productions) (ending : Ending) (here : Cursor) : Reader ValueShape := do
  let after := here.next
  match here.token.text with
  | "function" =>
    goTo after
    functionTail g
    return .simple
  | "class" =>
    goTo after
    let _ ← classTail g false false
    return .simple
  | "import" => importValue g here
  | "undefined" => wordItself here .nothing
  | word =>
    if valueWords.contains word then
      require (["this", "super", "null", "true", "false"].contains word)
      wordItself here .simple
    else if after.token.isMark "=>" then
      goTo after
      arrowBody g ending
      return .simple
    else
      match word with
      | "async" => asyncValue g ending here
      | "new" => newValue g ending here
      | "namespace" => namespaceValue g ending here
      | _ => wordItself here .name

/-- A value in parentheses. -/
def groupedValue (g : Productions) : Reader ValueShape := do
  mark "("
  g.expression .value
  if ← acceptMark ":" then
    let _ ← g.type .plain .enclosed
  else if ← acceptMark "," then sequence g .value
  mark ")"
  return .group

/-- Whether an equals sign follows the bracket that closes the one at a place. -/
def isAssigned (here : Cursor) : Bool :=
  here.closing?.any fun after => after.token.isMark "=" && !after.touches "="

/-- A value that starts with a mark. -/
def markValue (g : Productions) (ending : Ending) (here : Cursor) : Reader ValueShape := do
  match here.token.text with
  | "(" =>
    if arrowLikely here then orElse (arrowFunction g ending) (groupedValue g)
    else groupedValue g
  | "[" =>
    if isAssigned here then
      let _ ← arrayPattern g .plain
      return .nothing
    else
      goTo here.next
      arrayElements g
      return .simple
  | "\x7b" =>
    if isAssigned here then
      let _ ← objectPattern g .plain
      return .nothing
    else
      goTo here.next
      objectParts g
      return .simple
  | "@" =>
    let _ ← decorators g
    keyword "class"
    let _ ← classTail g false false
    return .simple
  | "`" =>
    templateValue g
    return .simple
  | "/" =>
    match Lexer.regexSize? here.after with
    | some size =>
      goTo (here.skip (1 + size))
      return .simple
    | none => fail
  | _ => fail

/-- A value with nothing in front of it or behind it. -/
def simpleValue (g : Productions) (ending : Ending) : Reader ValueShape := do
  let here ← look
  match here.token.kind with
  | .word => wordValue g ending here
  | .mark => do
    goTo here
    markValue g ending here
  | .string => wordItself here .simple
  | .number => wordItself here .simple
  | _ => fail

/-! ## Calls -/

/-- Whether what follows type arguments belongs to a class after its base. -/
def headGoesOn (token : Token) : Bool :=
  token.isMark "\x7b" || token.isMark "," || token.isWord "implements"

/-- Whether type arguments come next that belong to the head of a class. -/
def headArgsNext (g : Productions) (ending : Ending) : Reader Bool := do
  let here ← place
  if ending == .head && here.token.isMark "<" && !here.touches "<" && !here.touches "=" then
    let found ← orElse
      (do
        goTo here.next
        let _ ← typeArgs g .valued
        return headGoesOn (← place).token)
      (return false)
    goTo here
    return found
  else return false

/-- Whether a mark comes twice without a gap. -/
def doubled (here : Cursor) (text : String) : Bool :=
  here.token.isMark text && here.touches text

/-- Whether a value starts here that an operator before it could take. -/
def operandNext (here : Cursor) : Bool :=
  if doubled here "+" || doubled here "-" then startsValue (here.skip 2) else startsValue here

/-- What type arguments after a value make of it: a call, or a value with type arguments. Where a
value follows them they are comparisons. -/
def appliedValue (g : Productions) (ending : Ending) (shape : ValueShape) :
    Reader (Round ValueShape ValueShape) := do
  let here ← place
  orElse
    (do
      goTo here.next
      let _ ← typeArgs g .valued
      let after ← place
      let ends := ending.isAt after
      if after.token.isMark "(" && !ends && !arrowFollows after then
        goTo after.next
        arguments g
        return .again .simple
      require (!operandNext after || startsOnlyType here.next
        || (ending == .insideHead && headGoesOn after.token)
        || (ends && after.token.isAnyWord statementWords))
      return .again .compound)
    (return .done shape)

/-- What follows a value, if something does. -/
def valueTail (g : Productions) (ending : Ending) (shape : ValueShape) :
    Reader (Round ValueShape ValueShape) := do
  let here ← place
  if ending.isAt here then return .done shape
  else if here.token.isMark "(" then
    goTo here.next
    arguments g
    return .again .simple
  else if doubled here "+" || doubled here "-" then
    goTo (here.skip 2)
    return .again .compound
  else if here.token.isMark "<" && !here.touches "<" && !here.touches "=" then
    if ← headArgsNext g ending then return .done shape
    appliedValue g ending shape
  else
    match ← accessTail? g shape with
    | some shape => return .again shape
    | none => return .done shape

/-- What follows a value. -/
def valueTails (g : Productions) (ending : Ending) (shape : ValueShape) : Reader ValueShape :=
  loop (valueTail g ending) shape

/-- A value with the calls and accesses behind it. -/
def target (g : Productions) (ending : Ending) : Reader ValueShape := do
  let shape ← valueTails g ending (← simpleValue g ending)
  settle ending
  return shape

/-! ## Values with operators -/

/-- The words in front of a value. -/
def leadingWords : List String := ["typeof", "void", "delete", "await"]

/-- A value that a generator gives. -/
def yieldedValue (g : Productions) (ending : Ending) : Reader ValueShape := do
  let after ← place
  if after.token.isMark "*" && !after.touches "*" then
    goTo after.next
    g.expression ending.inside
  else if startsValue after && !ending.isAt after
      && !(ending.isInHead && after.token.isWord "implements") then
    g.expression ending.inside
  return .compound

/-- A value that is let go of at the end. -/
def usedValue (g : Productions) (ending : Ending) : Reader ValueShape := do
  if startsBracketPattern (← look) then
    let _ ← bracketPattern g .plain
  else require (isAssignable (← g.target .value))
  require (← acceptEquals)
  g.expression ending.inside
  return .compound

/-- A value without an operator between two. -/
def unary (g : Productions) (ending : Ending) : Reader ValueShape := do
  let here ← look
  if here.token.isAnyMark ["!", "~", "+", "-"] || here.token.isAnyWord leadingWords then
    goTo here.next
    g.unary ending.inside
  else if here.token.isMark "<" then
    goTo here
    orElse (do valueTails g ending (← arrowFunction g ending))
      (do
        mark "<"
        let _ ← typeArgs g .plain
        g.unary ending.inside)
  else if here.token.isWord "yield" then
    goTo here.next
    valueTails g ending (← yieldedValue g ending)
  else if here.token.isWord "using" then
    goTo here.next
    usedValue g ending
  else if here.token.kind == .privateName then
    require (here.next.token.isWord "in")
    goTo here.next
    return .compound
  else
    goTo here
    target g ending

/-- What follows a value and an operator. -/
def operatorTail (g : Productions) (ending : Ending) (shape : ValueShape) (here : Cursor) :
    Operator → Reader (Round ValueShape Unit)
  | .assigns => do
    if isAssignable shape then
      goTo here.next
      g.expression ending.inside
    return .done ()
  | .updates size => do
    if isUpdatable shape then
      goTo (here.skip size)
      g.expression ending.inside
    return .done ()
  | .computes size => do
    goTo (here.skip size)
    require !(size == 1 && here.token.isMark "<" && startsOnlyType (← look))
    return .again (← unary g ending.inside)

/-- What follows a value in a larger one, if something does. -/
def expressionTail (g : Productions) (ending : Ending) (shape : ValueShape) :
    Reader (Round ValueShape Unit) := do
  let here ← place
  if ending.isAt here || (← headArgsNext g ending) then return .done ()
  else if here.token.isAnyWord ["in", "instanceof"] then
    goTo here.next
    return .again (← unary g ending.inside)
  else if here.token.isAnyWord ["as", "satisfies"] then
    goTo here.next
    unless here.token.isWord "as" && (← acceptWord "const") do
      let _ ← g.type .plain ending.ofValue
    return .again (← valueTails g ending .compound)
  else if here.isChoice then
    goTo here.next
    g.expression .choice
    mark ":"
    g.expression ending.inside
    return .done ()
  else
    match operator? here with
    | some operator => operatorTail g ending shape here operator
    | none => return .done ()

/-- A value. -/
def expression (g : Productions) (ending : Ending) : Reader Unit := do
  loop (expressionTail g ending) (← unary g ending)
  settle ending

end Facade.Grammar
