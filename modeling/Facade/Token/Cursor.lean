-- Cursors in a text. A cursor is the next token and the characters after it: tokens are cut off
-- one at a time, because what some characters mean depends on what was read before.
import Facade.Token.Lexer
namespace Facade

/-- What the token before leaves behind. -/
inductive Before where
  /-- Something that cannot go on or end here without a token of its own. -/
  | start
  /-- Something that could go on or end here. -/
  | held
  /-- A body, which could go on or end here. -/
  | body
  deriving DecidableEq, Repr

/-- The next token, and the characters after it. -/
structure Cursor where
  token : Token
  after : List Char
  /-- How many characters there are from the token to the end of the text. -/
  left : Nat
  before : Before
  deriving DecidableEq, Repr

namespace Cursor

/-! ## Going on -/

/-- The place where these characters start, of which there are `left`. What stands in front of
them may be known already. -/
def ofChars (before : List Trivia) (left : Nat) (chars : List Char) : Cursor :=
  let (trivia, rest) := Lexer.trivia left chars
  let (kind, size) := Lexer.token rest
  ⟨⟨before ++ trivia, kind, String.ofList (rest.take size)⟩, rest.drop size,
    left - Trivia.size trivia, .start⟩

/-- The first place of a text. -/
def ofText (text : String) : Cursor :=
  ofChars [] text.length text.toList

/-- The place after the token. -/
def next (place : Cursor) : Cursor :=
  ofChars [] (place.left - place.token.text.length) place.after

/-- The characters from the token on. -/
def chars (place : Cursor) : List Char :=
  place.token.text.toList ++ place.after

/-- Whether these characters come first after the token's own. -/
def touches (place : Cursor) (text : String) : Bool :=
  text.toList.isPrefixOf place.after

/-- The place after so many characters from the token on. -/
def skip (place : Cursor) (count : Nat) : Cursor :=
  ofChars [] (place.left - count) (place.chars.drop count)

/-- Whether the text ends here. -/
def atEnd (place : Cursor) : Bool :=
  place.token.kind == .finish

/-! ## Text between places -/

/-- How many characters stand in front of the token. -/
def gap (place : Cursor) : Nat :=
  Trivia.size place.token.leading

/-- How many blanks stand in front of the token, after the last remark. -/
def blanks (place : Cursor) : Nat :=
  Trivia.size (place.token.leading.reverse.takeWhile (!·.isRemark))

/-- The text from a place up to the token before another, with so many characters more. -/
def textUpTo (start stop : Cursor) (more : Nat) : String :=
  String.ofList (start.chars.take (start.left - (stop.left + stop.gap) + more))

end Cursor

/-! ## Ends of lines -/

/-- What may follow where a line may end: more of a value, more of a type, or a body. -/
inductive Form where
  | value
  | type
  | signature
  deriving DecidableEq, Repr

/-- What characters are skipped as. -/
inductive GapMode where
  | code
  | lineComment
  /-- The star that opens a block comment. -/
  | blockOpening
  | blockComment
  /-- The slash that closes a block comment. -/
  | blockClosing

namespace Cursor

/-- The characters after blanks and comments, none when a lone slash comes first. -/
def significant? (mode : GapMode) : List Char → Option (List Char)
  | [] => some []
  | c :: rest =>
    match mode with
    | .code =>
      if Lexer.isBreakable c then significant? .code rest
      else if c == '/' then
        if rest.head? == some '/' then significant? .lineComment rest
        else if rest.head? == some '*' then significant? .blockOpening rest
        else none
      else some (c :: rest)
    | .lineComment =>
      if c.toNat == 0 then some (c :: rest)
      else if c != '\r' && Lexer.endsLine c then significant? .code rest
      else significant? .lineComment rest
    | .blockOpening => significant? .blockComment rest
    | .blockComment =>
      if c.toNat == 0 then some (c :: rest)
      else if c == '*' && rest.head? == some '/' then significant? .blockClosing rest
      else significant? .blockComment rest
    | .blockClosing => significant? .code rest

/-- The marks that never start a statement or member. -/
def joiningMarks : List Char := "`,.;*%><=?^|&/:".toList

/-- Whether a letter may go on with the character. -/
def isLetter (c : Char) : Bool := c.isAlpha || 0x80 ≤ c.toNat

/-- Whether `in` or `instanceof` comes first, up to a character that is no letter. -/
def operatorWordNext : List Char → Bool
  | 'i' :: 'n' :: 's' :: 't' :: 'a' :: 'n' :: 'c' :: 'e' :: 'o' :: 'f' :: rest =>
    !rest.head?.any isLetter
  | 'i' :: 'n' :: rest => !rest.head?.any isLetter
  | _ => false

/-- Whether these characters start something new, when they come first on a line. -/
def startsNew (form : Form) : List Char → Bool
  | [] => true
  | c :: rest =>
    if joiningMarks.contains c then false
    else if c == '{' then form != .signature
    else if c == '(' || c == '[' then form != .value
    else if c == '+' || c == '-' then rest.head? == some c
    else if c == '!' then rest.head? != some '='
    else !operatorWordNext (c :: rest)

/-- Whether something ends where these characters follow, without a mark: at the end of the text, at
a closing brace, or at the end of a line. -/
def endsBefore (form : Form) : List Char → Bool
  | [] => true
  | c :: rest =>
    if c.toNat == 0 then true
    else if c == '}' then
      form == .value || (rest.dropWhile Lexer.isBreakable).head? != some ':'
    else if c == '\n' then (significant? .code rest).any (startsNew form)
    else Lexer.isBreakable c && endsBefore form rest

/-- How many characters in front of the token belong to what ends before it. What ends without
a mark ends at the first place where it can: after the last token or after a remark. -/
def endAfter? (form : Form) (size : Nat) (chars : List Char) : List Trivia → Option Nat
  | [] => if endsBefore form chars then some size else none
  | [.blank text] => if endsBefore form (text.toList ++ chars) then some size else none
  | .blank text :: remark :: more =>
    if endsBefore form (Trivia.chars (.blank text :: remark :: more) ++ chars) then some size
    else endAfter? form (size + text.length + remark.text.length) chars more
  | remark :: more =>
    if endsBefore form (Trivia.chars (remark :: more) ++ chars) then some size
    else endAfter? form (size + remark.text.length) chars more

/-- How many characters in front of the token belong to a form that ends here without a mark. -/
def end? (place : Cursor) (form : Form) : Option Nat :=
  endAfter? form 0 place.chars place.token.leading

/-- Whether a form may end here without a mark. -/
def mayEnd (place : Cursor) (form : Form) : Bool :=
  (place.end? form).isSome

/-! ## Lines of markup -/

/-- Whether only breakable blanks stand between the last remark and the token. -/
def afterBreakable (place : Cursor) : Bool :=
  match place.token.leading.getLast? with
  | some (.blank text) => text.toList.all Lexer.isBreakable
  | _ => true

/-- The length of a line of markup. -/
def markupSize? (chars : List Char) : Option Nat :=
  if "<!--".toList.isPrefixOf chars || "-->".toList.isPrefixOf chars then
    some (chars.takeWhile fun c =>
      c != '\n' && c.toNat != 0x2028 && c.toNat != 0x2029 && c.toNat != 0).length
  else none

/-- The place with lines of markup in front of the token, at most `fuel` of them. -/
def withMarkupUpTo : Nat → Cursor → Cursor
  | 0, place => place
  | fuel + 1, place =>
    if place.token.kind == .mark && place.afterBreakable then
      match markupSize? place.chars with
      | some size =>
        withMarkupUpTo fuel (ofChars
          (place.token.leading ++ [.markup (String.ofList (place.chars.take size))])
          (place.left - size) (place.chars.drop size))
      | none => place
    else place

/-- The place with lines of markup in front of the token. Where something could go on, they are made
of operators. -/
def withMarkup (place : Cursor) : Cursor :=
  if place.before == .start then withMarkupUpTo place.left place else place

/-! ## Looking ahead -/

/-- Whether the question mark at the place divides a condition from its values. -/
def isChoice (place : Cursor) : Bool :=
  place.token.isMark "?" && place.afterBreakable &&
    !place.after.head?.any (fun c => c == '?' || c == '.') &&
    match place.after.dropWhile Lexer.isBreakable with
    | ':' :: _ => false
    | ')' :: _ => false
    | ',' :: _ => false
    | '.' :: c :: _ => c.isDigit
    | ['.'] => false
    | _ => true

/-- The place after the text of a template that goes on after the token, and what ends the text. -/
def templateStop? (place : Cursor) (escapes : Bool) : Option (Lexer.TemplateStop × Cursor) :=
  (Lexer.templateStop? escapes 0 0 place.after).map fun (stop, size) =>
    (stop, place.skip (place.token.text.length + size))

/-- What a mark that is still open waits for. -/
inductive Opening where
  | bracket
  /-- Code in a template. -/
  | code
  deriving DecidableEq, Repr

/-- The place after the text of a template that goes on after the token, with what is open then. -/
def afterTemplateText? (opened : List Opening) (place : Cursor) : Option (List Opening × Cursor) :=
  (place.templateStop? true).map fun
    | (.close, rest) => (opened, rest)
    | (.code, rest) => (.code :: opened, rest)

/-- The place after the bracket that closes the ones that are open. At most `fuel` tokens are
passed. -/
def afterClosing? : Nat → List Opening → Cursor → Option Cursor
  | 0, _, _ => none
  | fuel + 1, opened, place =>
    let place := place.withMarkup
    if place.atEnd then none
    else if place.token.isAnyMark ["(", "[", "\x7b"] then
      afterClosing? fuel (.bracket :: opened) place.next
    else if place.token.isMark "`" then
      match afterTemplateText? opened place with
      | some (opened, rest) => afterClosing? fuel opened rest
      | none => none
    else if place.token.isAnyMark [")", "]", "\x7d"] then
      match opened with
      | [] => none
      | [.bracket] => some place.next
      | .bracket :: opened => afterClosing? fuel opened place.next
      | .code :: opened =>
        match afterTemplateText? opened place with
        | some (opened, rest) => afterClosing? fuel opened rest
        | none => none
    else afterClosing? fuel opened place.next

/-- The place after the bracket that closes the one at the place. -/
def closing? (place : Cursor) : Option Cursor :=
  afterClosing? place.left [.bracket] place.next

end Cursor

end Facade
