-- Names that are given to values, from one word to a pattern that takes a value apart.
import Facade.Grammar.Productions
import Facade.Grammar.Word
namespace Facade.Grammar
open Reader

/-! ## Parts of values -/

/-- Arguments of a call after the opening parenthesis. -/
def arguments (g : Productions) : Reader Unit :=
  sparse ")" (do let _ ← acceptMark "..."; g.expression .value)

/-- A property name in brackets. -/
def computedName (g : Productions) : Reader Unit := do
  mark "["
  g.expression .value
  mark "]"

/-- A value after an equals sign, and whether there is one. -/
def initializer (g : Productions) (ending : Ending) : Reader Bool := do
  if ← acceptEquals then
    g.expression ending
    return true
  else return false

/-! ## Patterns -/

/-- Whether a call or an access follows, so that brackets before it are a value. -/
def accessFollows (after : Cursor) : Bool :=
  after.token.isAnyMark [".", "[", "(", "!", "`"]
    || (after.token.isMark "?" && after.touches ".")

/-- Whether only one token stands between two places. -/
def isOneToken (start stop : Cursor) : Bool :=
  start.left == stop.left + stop.gap + start.token.text.length

/-- A pattern with a default or without, or the rest. Where the text could still be a type, a word
for a type names nothing. -/
def defaultedPattern (g : Productions) (start : Start) : Reader Start := do
  if ← acceptMark "..." then g.pattern .plain
  else
    let here ← look
    let found ← g.pattern start
    if ← initializer g .value then return .plain
    require !(start != .plain && here.token.isAnyWord sharedTypeWords
      && isOneToken here (← place))
    return found

/-- A pattern of brackets with a default. -/
def bracketedDefault (g : Productions) : Reader Start := do
  let _ ← g.pattern .plain
  require (← initializer g .value)
  return .plain

/-- What follows the name of a part: a pattern, a default or nothing. Where the text could still be
a type, the name or pattern must not be able to end. -/
def namedPatternPart (g : Productions) (start : Start) (isWord : Bool) : Reader Start := do
  if ← acceptMark ":" then
    let start ← defaultedPattern g start
    require !(start != .plain && (← mayEnd .value))
    return start
  else
    require isWord
    if ← initializer g .value then return .plain
    require !(start != .plain && (← mayEnd .type))
    return start

/-- A part of a pattern that takes an object apart. -/
def objectPatternPart (g : Productions) (start : Start) : Reader Start := do
  let here ← look
  if here.token.isMark "..." then
    let _ ← next
    let _ ← g.pattern .plain
    return .plain
  else if here.token.isMark "\x7b" then bracketedDefault g
  else if here.token.isMark "[" then
    if here.closing?.any (·.token.isMark ":") then
      computedName g
      namedPatternPart g start false
    else bracketedDefault g
  else
    require !(start != .plain && here.token.isWord "abstract")
    let name ← take fun t =>
      t.kind == .word || t.kind == .string || t.kind == .number || t.kind == .privateName
    if start != .plain then leave .held
    namedPatternPart g start (name.kind == .word)

/-- The parts of a pattern up to the closing mark, any of which may be left out. Only before the
first comma the text could still be a type, and only without parts it could still be one after the
closing mark. -/
def patternParts (close : String) (part : Start → Reader Start) (start : Start) :
    Reader Start := do
  let start ← loop (fun start => do
    if ← acceptMark close then return .done start
    if ← acceptMark "," then return .again .plain
    let _ ← part start
    if ← acceptMark "," then return .again .plain
    mark close
    return .done .plain) start
  leave .held
  return start

/-- A pattern that takes an object apart. -/
def objectPattern (g : Productions) (start : Start) : Reader Start := do
  mark "\x7b"
  patternParts "\x7d" (objectPatternPart g) start

/-- A pattern that takes an array apart. -/
def arrayPattern (g : Productions) (start : Start) : Reader Start := do
  mark "["
  patternParts "]" (defaultedPattern g) start

/-- A pattern that takes a value apart. -/
def bracketPattern (g : Productions) (start : Start) : Reader Start := do
  if ← nextIs (·.isMark "[") then arrayPattern g start else objectPattern g start

/-- Whether a pattern in brackets starts at a place. -/
def startsBracketPattern (here : Cursor) : Bool :=
  here.token.isAnyMark ["[", "\x7b"] && !here.closing?.any accessFollows

/-- A pattern: one that takes a value apart, a name, or a part of a value. -/
def pattern (g : Productions) (start : Start) : Reader Start := do
  let here ← look
  if startsBracketPattern here then bracketPattern g start
  else
    require !(start != .plain && (here.token.isAnyWord pureTypeWords
      || (here.token.isWord "readonly" && here.next.token.isMark "?")))
    let shape ← g.target .value
    require (shape == .name || shape == .nothing || shape == .part)
    return if isOneToken here (← place) then start else .plain

end Facade.Grammar
