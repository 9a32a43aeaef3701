-- Reading text. A reader takes tokens from a place on and gives a value and the place after
-- them, or says where the text stops making sense.
import Facade.Token.Cursor
namespace Facade

/-! ## Replies -/

/-- Where reading stopped: how many characters were left, how many blanks stand before them, and
the closing mark that was missing if the text ended too early. -/
structure Failure where
  left : Nat
  blanks : Nat
  missing : Option String
  deriving DecidableEq, Repr

/-- The failure that got further; the first of two that got equally far. -/
def Failure.further (first second : Failure) : Failure :=
  if second.left < first.left then second else first

/-- What a reader answers. -/
inductive Reply (α : Type) where
  /-- A value, and the place after it. -/
  | ok (value : α) (rest : Cursor)
  /-- The text does not have the form. -/
  | reject (failure : Failure)
  /-- The depth allowed for nesting is used up. -/
  | exhausted
  deriving DecidableEq, Repr

/-- A reader of values. -/
def Reader (α : Type) : Type := Cursor → Reply α

namespace Reader

instance : Monad Reader where
  pure value := fun place => .ok value place
  bind reader next := fun place =>
    match reader place with
    | .ok value rest => next value rest
    | .reject failure => .reject failure
    | .exhausted => .exhausted

/-- Rejects whatever comes. -/
def fail {α : Type} : Reader α := fun place => .reject ⟨place.left, 0, none⟩

/-- Rejects because a closing mark is missing at the end of the text. -/
def missing {α : Type} (mark : String) : Reader α := fun place =>
  .reject ⟨place.left, place.withMarkup.blanks, some mark⟩

/-- Gives up because no more nesting is allowed. -/
def exhausted {α : Type} : Reader α := fun _ => .exhausted

/-- The second reader when the first rejects. -/
def orElse {α : Type} (first second : Reader α) : Reader α := fun place =>
  match first place with
  | .reject failure =>
    match second place with
    | .reject other => .reject (failure.further other)
    | reply => reply
  | reply => reply

/-- Requires a condition. -/
def require (condition : Bool) : Reader Unit :=
  if condition then pure () else fail

/-- The place, just as it is. -/
def place : Reader Cursor := fun place => .ok place place

/-- Goes to a place. -/
def goTo (target : Cursor) : Reader Unit := fun _ => .ok () target

/-! ## Tokens where nothing can go on

Lines of markup in front of such a token are remarks. -/

/-- The place, with lines of markup as remarks. -/
def look : Reader Cursor := fun place =>
  let place := place.withMarkup
  .ok place place

/-- The next token, without taking it. -/
def peek : Reader Token := return (← look).token

/-- Whether the next token is of a kind. -/
def nextIs (test : Token → Bool) : Reader Bool := return test (← peek)

/-- Takes the next token. -/
def next : Reader Token := do
  let place ← look
  require !place.atEnd
  goTo place.next
  return place.token

/-- Takes the next token if it is of a kind, and says whether it was. -/
def accept (test : Token → Bool) : Reader Bool := do
  let place ← look
  if !place.atEnd && test place.token then
    goTo place.next
    return true
  else return false

/-- Takes a mark if it comes next. -/
def acceptMark (text : String) : Reader Bool := accept (·.isMark text)

/-- Takes a word if it comes next. -/
def acceptWord (text : String) : Reader Bool := accept (·.isWord text)

/-- Takes an equals sign that stands alone, if it comes next. -/
def acceptEquals : Reader Bool := do
  let place ← look
  if place.token.isMark "=" && !place.touches "=" then
    goTo place.next
    return true
  else return false

/-- Takes a token of a kind. -/
def take (test : Token → Bool) : Reader Token := do
  let place ← look
  if !place.atEnd && test place.token then
    goTo place.next
    return place.token
  else fail

/-- Takes a mark. At the end of the text the mark is missing. -/
def mark (text : String) : Reader Unit := do
  let place ← look
  if place.atEnd then missing text
  else if place.token.isMark text then goTo place.next
  else fail

/-- Takes this word. -/
def keyword (text : String) : Reader Unit := do
  let _ ← take (·.isWord text)

/-- Takes any word. -/
def word : Reader String := do
  let token ← take (·.kind == .word)
  return token.text

/-- Takes a word that is none of these. -/
def wordBut (words : List String) : Reader String := do
  let token ← take (·.isWordBut words)
  return token.text

/-! ## Tokens where a value could go on

Here `<!--` and `-->` are made of operators. -/

/-- Whether the next token is of a kind. -/
def followsAs (test : Token → Bool) : Reader Bool := return test (← place).token

/-- Takes the next token if it is of a kind, and says whether it was. -/
def follow (test : Token → Bool) : Reader Bool := do
  let here ← place
  if !here.atEnd && test here.token then
    goTo here.next
    return true
  else return false

/-- Says what was read before the place. -/
def leave (before : Before) : Reader Unit := do
  let here ← place
  goTo { here with before }

/-! ## Runs of tokens -/

/-- What a round of a loop decides. -/
inductive Round (σ α : Type) where
  | again (state : σ)
  | done (value : α)

/-- Repeats rounds, at most `fuel` of them. -/
def loopUpTo {σ α : Type} (round : σ → Reader (Round σ α)) : Nat → σ → Reader α
  | 0, _ => exhausted
  | fuel + 1, state => do
    match ← round state with
    | .again state => loopUpTo round fuel state
    | .done value => pure value

/-- Repeats rounds, each of which takes a token or is the last. -/
def loop {σ α : Type} (round : σ → Reader (Round σ α)) (state : σ) : Reader α := fun place =>
  loopUpTo round (place.left + 2) state place

/-- Items up to a closing mark, with commas between them and possibly after the last. The mark is
taken. -/
def commaSeparated {α : Type} (close : String) (item : Reader α) : Reader (List α) :=
  loop (fun items => do
    if ← acceptMark close then return .done items
    if (← look).atEnd then missing close
    let items := items ++ [← item]
    if ← acceptMark "," then return .again items
    mark close
    return .done items) []

/-- Items up to a closing mark, with commas between them, any of which may be left out. The mark
is taken. -/
def sparse (close : String) (item : Reader Unit) : Reader Unit :=
  loop (fun (_ : Unit) => do
    if ← acceptMark close then return .done ()
    if ← acceptMark "," then return .again ()
    item
    if ← acceptMark "," then return .again ()
    mark close
    return .done ()) ()

/-- One item or more, with commas between them. -/
def commaSeparated1 {α : Type} (item : Reader α) : Reader (List α) :=
  loop (fun items => do
    let items := items ++ [← item]
    if ← acceptMark "," then return .again items
    return .done items) []

end Reader

/-! ## Ends -/

/-- How a form ends. -/
inductive Ending where
  /-- Inside marks. -/
  | enclosed
  /-- Inside marks, where a value could go on. -/
  | value
  /-- Like a value, with a colon after it. -/
  | choice
  /-- Like a value, with type arguments of its own and the body of a class after it. -/
  | head
  /-- Inside such a value. -/
  | insideHead
  /-- Possibly with its line. -/
  | line (form : Form)
  deriving DecidableEq, Repr

/-- Whether a value could go on where the form ends. -/
def Ending.isValue : Ending → Bool
  | .enclosed => false
  | .line form => form == .value
  | _ => true

/-- The same ending, where a value could go on. -/
def Ending.ofValue : Ending → Ending
  | .enclosed => .value
  | .line _ => .line .value
  | ending => ending

/-- The ending of a part of a value, after something else in it. -/
def Ending.inside : Ending → Ending
  | .head => .insideHead
  | ending => ending

/-- Whether the form stands in the head of a class. -/
def Ending.isInHead (ending : Ending) : Bool :=
  ending == .head || ending == .insideHead

/-- What a form leaves behind at its end. -/
def Ending.before : Ending → Before
  | .enclosed => .start
  | _ => .held

/-- Whether a form ends at a place without a mark. -/
def Ending.isAt (ending : Ending) (place : Cursor) : Bool :=
  match ending with
  | .line form => place.mayEnd form
  | _ => false

namespace Reader

/-- Whether the next token is of a kind and belongs to the same form. -/
def continuesWith (ending : Ending) (test : Token → Bool) : Reader Bool := do
  if ending == .enclosed then nextIs test
  else
    let here ← place
    return test here.token && !ending.isAt here

/-- Takes the next token if it is of a kind and belongs to the same form, and says whether it
was. -/
def continueWith (ending : Ending) (test : Token → Bool) : Reader Bool := do
  if ending == .enclosed then accept test
  else if ← continuesWith ending test then follow test
  else return false

/-- Says that a form was read that ends like this. A body keeps its own mark. -/
def settle (ending : Ending) : Reader Unit := do
  if (← place).before != .body then leave ending.before

/-- Whether a statement or member may end here without a mark. -/
def mayEnd (form : Form) : Reader Bool := return (← place).mayEnd form

/-- Goes on to something new. Where what was read may end without a mark, nothing of it goes on. -/
def startNew : Reader Unit := do
  let here ← place
  if here.before != .start && here.mayEnd .value then leave .start

/-- The end of a statement: a semicolon, or a place where it may end without. -/
def semicolon (form : Form) : Reader Unit := do
  if ← follow (·.isMark ";") then return ()
  require (← mayEnd form)

end Reader

end Facade
