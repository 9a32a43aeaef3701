-- Parameters, type parameters and results of functions and methods.
import Facade.Grammar.Pattern
namespace Facade.Grammar
open Reader

/-! ## Types after a mark -/

/-- The type that a line of markup among types stands for. -/
def markupType : TypeExpr := .unsupported Trivia.markupKind

/-- The types that lines of markup in front of a token stand for. -/
def markupTypes (token : Token) : List TypeExpr :=
  List.replicate (Trivia.markupCount token.leading) markupType

/-- The word `const` as a type, which counts as no type where several may stand. -/
def constType : TypeExpr := .unsupported "const"

/-- Whether a type is the word `const`. -/
def isConstType : TypeExpr → Bool
  | .unsupported kind => kind == "const"
  | _ => false

/-- The type that a remark in front of a token stands for. -/
def remarkBefore? (token : Token) : Option TypeExpr :=
  token.remark?.map fun remark => .unsupported remark.kind

/-- The type that a remark in front of the next token takes the place of. -/
def remarkType? : Reader (Option TypeExpr) :=
  return remarkBefore? (← peek)

/-- What a type is about. The word `const` is no type that another one could be about. -/
def operandOf (type : TypeExpr) : TypeExpr :=
  if isConstType type then .unknown else type

/-- What a type is about where only the word `const` is written: the first remark in front of one of
the tokens after the word. -/
def standIn (tokens : List Token) : TypeExpr :=
  (tokens.findSome? remarkBefore?).getD .unknown

/-- A type after a mark. A remark right after the mark takes the place of the type. -/
def annotation (g : Productions) (start : Start) (ending : Ending) : Reader ReadType := do
  let remark ← remarkType?
  let read ← g.type start ending
  return { read with type := remark.getD (if isConstType read.type then .absent else read.type) }

/-- A type after a colon, absent when there is no colon. -/
def colonType (g : Productions) (ending : Ending) : Reader TypeExpr := do
  if ← acceptMark ":" then return (← annotation g .plain ending).type else return .absent

/-! ## Results -/

/-- The cursor after what a result may say something about. -/
def predicateSubject? (here : Cursor) : Option Cursor :=
  if here.token.isWordBut typeWords || here.token.isWord "this"
      || here.token.isAnyWord predefinedWords then some here.next
  else if here.token.isWord "unique" && here.next.token.isWord "symbol" then some here.next.next
  else none

/-- What a result says about a parameter: `x is T` is a truth value, `asserts x` nothing. -/
def predicate? (g : Productions) (ending : Ending) : Reader (Option TypeExpr) := do
  let here ← look
  if here.token.isWord "asserts" then
    let _ ← next
    let name ← word
    if name == "unique" then keyword "symbol"
    let isType := name == "unique" || predefinedWords.contains name
    if ← continueWith (if isType then .enclosed else ending) (·.isWord "is") then
      let _ ← g.type .plain ending
    else
      require !isType
      settle ending
    return some (.keyword "void")
  else
    match predicateSubject? here with
    | some after =>
      goTo after
      if ← continueWith ending (·.isWord "is") then
        let _ ← g.type .plain ending
        return some (.keyword "boolean")
      else
        goTo here
        return none
    | none => return none

/-- The result of a function type. -/
def result (g : Productions) (ending : Ending) : Reader TypeExpr := do
  match ← predicate? g ending with
  | some type => return type
  | none => return (← g.type .plain ending).type

/-- The result of a function or method after a colon. -/
def annotatedResult (g : Productions) (ending : Ending) : Reader TypeExpr := do
  match ← predicate? g ending with
  | some type => return type
  | none => return (← annotation g .plain ending).type

/-- The result of a function or method, absent when there is no colon. -/
def colonResult (g : Productions) (ending : Ending) : Reader TypeExpr := do
  if ← continueWith ending (·.isMark ":") then annotatedResult g ending
  else
    settle ending
    return .absent

/-! ## Type parameters and arguments -/

/-- One type parameter. Its default is not kept. -/
def typeParam (g : Productions) : Reader TypeParam := do
  let _ ← acceptWord "const"
  let name ← word
  let bounded ← accept fun t => t.isWord "extends" || t.isMark ":"
  let bound ←
    if bounded then (do return (← annotation g .plain .enclosed).type) else pure .absent
  if ← acceptMark "=" then
    let _ ← g.type .plain .enclosed
  return ⟨name, bound⟩

/-- Type parameters in angle brackets, none when there are no brackets. -/
def typeParams (g : Productions) : Reader (List TypeParam) := do
  if ← acceptMark "<" then
    let params ← commaSeparated ">" (typeParam g)
    require !params.isEmpty
    return params
  else return []

/-- The types of a list so far, and where the next one starts. -/
structure TypeList where
  start : Start
  types : List TypeExpr

/-- A type argument after others, with the mark after it. A line of markup counts as one. -/
def nextTypeArg (g : Productions) (list : TypeList) : Reader (Round TypeList (List TypeExpr)) := do
  let first ← peek
  let read ← g.type list.start .enclosed
  let after ← look
  let types := list.types ++ markupTypes first ++ [read.type].filter (!isConstType ·)
    ++ markupTypes after.token
  if ← acceptMark "," then
    let close ← peek
    if ← acceptMark ">" then return .done (types ++ markupTypes close)
    return .again ⟨.plain, types⟩
  require !(read.shared && (after.touches ">" || after.touches "="))
  mark ">"
  return .done types

/-- Type arguments after the opening bracket. -/
def typeArgs (g : Productions) (start : Start) : Reader (List TypeExpr) :=
  loop (nextTypeArg g) ⟨start, []⟩

/-! ## Decorators -/

/-- What a decorator names, possibly called. -/
def decoratorTarget (g : Productions) : Reader Unit := do
  let _ ← word
  loop (fun (_ : Unit) => do
    if ← acceptMark "." then
      let _ ← word
      return .again ()
    return .done ()) ()
  if ← acceptMark "<" then
    let _ ← typeArgs g .plain
    mark "("
    arguments g
  else if ← acceptMark "(" then arguments g

/-- A decorator. -/
def decorator (g : Productions) : Reader Unit := do
  mark "@"
  if ← acceptMark "(" then
    decoratorTarget g
    mark ")"
  else decoratorTarget g

/-- Decorators, if there are any, and whether there are. -/
def decorators (g : Productions) : Reader Bool :=
  loop (fun found => do
    if ← nextIs (·.isMark "@") then
      decorator g
      return .again true
    return .done found) false

/-! ## Parameters -/

/-- How a parameter is named. -/
inductive ParamName where
  /-- `this`, which only says what the function is called on. -/
  | receiver
  | named (name : String)
  | rest (name : String)
  /-- A name that takes its argument apart. -/
  | unnamed
  /-- The rest of the arguments, taken apart or with a remark in front of its name. -/
  | unnamedRest

/-- The name that a run of text is, if it is one. -/
def nameBetween? (start stop : Cursor) : Option String :=
  if isOneToken start stop && start.token.isWordBut ["undefined", "this"] then
    some start.token.text
  else none

/-- The rest of the arguments, after the three dots. A remark in front of its name hides it, and
without a type it has no default. -/
def restName (g : Productions) : Reader ParamName := do
  let here ← look
  let _ ← g.pattern .plain
  require !(← followsAs (·.isMark "="))
  match here.token.remark?, nameBetween? here (← place) with
  | none, some name => return .rest name
  | _, _ => return .unnamedRest

/-- The name of a parameter. Where the text could be a type, a word for a type alone in parentheses
names nothing. -/
def paramName (g : Productions) (start : Start) : Reader ParamName := do
  let here ← look
  if here.token.isWord "this" then
    let shape ← g.target .value
    if isOneToken here (← place) then return .receiver
    require (shape == .part)
    return .unnamed
  else if ← acceptMark "..." then restName g
  else
    let _ ← g.pattern start
    let after ← place
    require !(start != .plain && here.token.isAnyWord sharedTypeWords && isOneToken here after
      && after.token.isMark ")")
    match nameBetween? here after with
    | some name => return .named name
    | none => return .unnamed

/-- Whether a parameter's name may start with the token, after a word that modifies it. -/
def startsParamName (token : Token) : Bool :=
  token.isWordBut operatorWords || token.isAnyMark ["\x7b", "[", "..."]

/-- Takes one of these words if a parameter's name follows it. -/
def acceptParamModifier (words : List String) : Reader Bool := do
  let here ← look
  if here.token.isAnyWord words && startsParamName here.next.token then
    goTo here.next
    return true
  else return false

/-- The words in front of a parameter's name, and whether there are any. -/
def paramModifiers : Reader Bool := do
  let access ← acceptParamModifier accessWords
  let override ← acceptParamModifier ["override"]
  let readonly ← acceptParamModifier ["readonly"]
  return access || override || readonly

/-- Takes a question mark if it comes next. It must not divide a condition from its values. -/
def optionalMark : Reader Bool := do
  require !(← place).isChoice
  acceptMark "?"

/-- A parameter as it is written. -/
structure WrittenParam where
  name : ParamName
  type : TypeExpr
  optional : Bool

/-- How a parameter with a type is kept. The receiver, which is left out otherwise, is kept when its
type is about one that is not there. -/
def ParamName.keptWith (type : TypeExpr) : ParamName → ParamName
  | .receiver => if type.hasUnknown then .unnamed else .receiver
  | name => name

/-- What follows the name of a parameter. It is optional with a question mark or a default. -/
def paramTail (g : Productions) (name : ParamName) : Reader WrittenParam := do
  let marked ← optionalMark
  let type ← colonType g .enclosed
  let hasDefault ← initializer g .value
  return ⟨name.keptWith type, type, marked || hasDefault⟩

/-- A parameter with words in front of its name. After `readonly` the text could still be a type. -/
def modifiedParam (g : Productions) (start : Start) : Reader WrittenParam := do
  let first ← peek
  require (← paramModifiers)
  paramTail g (← paramName g (if first.isWord "readonly" then start else .plain))

/-- One parameter. A word that could modify the name may be the name itself. -/
def param (g : Productions) (start : Start) : Reader WrittenParam := do
  let decorated ← decorators g
  let here ← look
  let start := if decorated then .plain else start
  let bare : Reader WrittenParam := do
    paramTail g (← paramName g start)
  if here.token.isAnyWord (accessWords ++ ["override", "readonly"])
      && startsParamName here.next.token then
    if here.next.token.isMark "[" then orElse (modifiedParam g start) bare
    else modifiedParam g start
  else bare

/-- Names parameters: one that takes its argument apart is numbered, a rest without a name is the
arguments, and the receiver is left out. `count` is the number of parameters so far. -/
def numberParams (count : Nat) : List WrittenParam → List Param
  | [] => []
  | ⟨.receiver, _, _⟩ :: more => numberParams count more
  | ⟨.named name, type, optional⟩ :: more =>
    ⟨name, type, optional, false⟩ :: numberParams (count + 1) more
  | ⟨.rest name, type, optional⟩ :: more =>
    ⟨name, type, optional, true⟩ :: numberParams (count + 1) more
  | ⟨.unnamed, type, optional⟩ :: more =>
    ⟨"arg" ++ toString count, type, optional, false⟩ :: numberParams (count + 1) more
  | ⟨.unnamedRest, type, optional⟩ :: more =>
    ⟨"args", type, optional, true⟩ :: numberParams (count + 1) more

/-- The parameters so far, and where the next one starts. -/
structure ParamList where
  start : Start
  params : List WrittenParam

/-- A parameter after others, with the mark after it, if there is one more. -/
def nextParam (g : Productions) (list : ParamList) :
    Reader (Round ParamList (List WrittenParam)) := do
  if ← acceptMark ")" then return .done list.params
  let params := list.params ++ [← param g list.start]
  if ← acceptMark "," then return .again ⟨.plain, params⟩
  mark ")"
  return .done params

/-- Parameters in parentheses. -/
def params (g : Productions) (start : Start) : Reader (List Param) := do
  mark "("
  let written ← loop (nextParam g) ⟨start, []⟩
  return numberParams 0 written

/-! ## Signatures -/

/-- What a function or method takes and gives. -/
structure Signature where
  typeParams : List TypeParam
  params : List Param
  ret : TypeExpr

/-- A signature. -/
def signature (g : Productions) (ending : Ending) : Reader Signature := do
  let typeParams ← typeParams g
  let params ← params g .plain
  let ret ← colonResult g ending
  return ⟨typeParams, params, ret⟩

/-- Whether a signature starts here. -/
def startsSignature (token : Token) : Bool :=
  token.isMark "(" || token.isMark "<"

end Facade.Grammar
