-- Where a token ends. Each function measures: it says how many characters at the front belong
-- together, so the text and the rest are what `take` and `drop` give.
import Facade.Token
namespace Facade.Lexer

/-! ## Character classes -/

/-- Blanks between tokens. -/
def isSpace (c : Char) : Bool :=
  let code := c.toNat
  (0x09 ≤ code && code ≤ 0x0D) || code == 0x20 || code == 0xA0
    || code == 0x1680 || (0x2000 ≤ code && code ≤ 0x200B) || code == 0x2028 || code == 0x2029
    || code == 0x202F || code == 0x205F || code == 0x2060 || code == 0x3000 || code == 0xFEFF

/-- Blanks that a line break may follow. A no-break space is not one of them. -/
def isBreakable (c : Char) : Bool :=
  let code := c.toNat
  (0x09 ≤ code && code ≤ 0x0D) || code == 0x20 || code == 0x1680
    || (0x2000 ≤ code && code ≤ 0x200A && code != 0x2007) || code == 0x2028 || code == 0x2029
    || code == 0x205F || code == 0x3000

/-- Where a line comment ends. -/
def endsLine (c : Char) : Bool :=
  c == '\n' || c == '\r' || c.toNat == 0x2028 || c.toNat == 0x2029

/-- The quote of a template. -/
def isBacktick (c : Char) : Bool := c.toNat == 0x60

/-- The characters that stand for themselves. -/
def markChars : List Char :=
  "()\x7b\x7d[]<>;:,.?!=|&^~+-*/%@`".toList

/-- Whether a word may start with the character: anything that is no blank, control, digit or
mark. -/
def isWordStart (c : Char) : Bool :=
  c.isAlpha || c == '_' || c == '$' || (0x7F ≤ c.toNat && !isSpace c)

/-- Whether a word may go on with the character. -/
def isWordChar (c : Char) : Bool :=
  isWordStart c || c.isDigit

/-- A hexadecimal digit. -/
def isHexDigit (c : Char) : Bool :=
  c.isDigit || ('a' ≤ c && c ≤ 'f') || ('A' ≤ c && c ≤ 'F')

/-- An octal digit. -/
def isOctalDigit (c : Char) : Bool := '0' ≤ c && c ≤ '7'

/-! ## Characters written as numbers -/

/-- Whether so many hexadecimal digits come first. -/
def startsWithHex : Nat → List Char → Bool
  | 0, _ => true
  | _ + 1, [] => false
  | count + 1, c :: rest => isHexDigit c && startsWithHex count rest

/-- The length of hexadecimal digits with a closing brace. -/
def bracedHexSize? (chars : List Char) : Option Nat :=
  let digits := (chars.takeWhile isHexDigit).length
  if digits != 0 && (chars.drop digits).head? == some '}' then some (digits + 1) else none

/-- The length of a character's number after `\u`. -/
def codeSize? : List Char → Option Nat
  | '{' :: rest => (bracedHexSize? rest).map (· + 1)
  | rest => if startsWithHex 4 rest then some 4 else none

/-! ## Words -/

/-- The length of a character of a word that is written as a number. -/
def wordEscapeSize? : List Char → Option Nat
  | '\\' :: 'u' :: rest => (codeSize? rest).map (· + 2)
  | _ => none

/-- The length of what a word goes on with. `skip` characters belong to it in any case. -/
def wordSize (skip : Nat) : List Char → Nat
  | [] => 0
  | c :: rest =>
    match skip with
    | skip + 1 => wordSize skip rest + 1
    | 0 =>
      if isWordChar c then wordSize 0 rest + 1
      else
        match wordEscapeSize? (c :: rest) with
        | some (size + 1) => wordSize size rest + 1
        | _ => 0

/-- Whether a word starts here. -/
def startsWord (chars : List Char) : Bool :=
  chars.head?.any isWordStart || (wordEscapeSize? chars).isSome

/-! ## Comments -/

/-- The length of a block comment after its opening. -/
def blockCommentSize? (count : Nat) : List Char → Option Nat
  | [] => none
  | '*' :: '/' :: _ => some (count + 2)
  | _ :: rest => blockCommentSize? (count + 1) rest

/-- The length of the characters before one that ends a line. -/
def lineSize (count : Nat) : List Char → Nat
  | [] => count
  | c :: rest => if endsLine c then count else lineSize (count + 1) rest

/-- The length of a comment. -/
def commentSize? : List Char → Option Nat
  | '/' :: '/' :: rest => some (lineSize 2 rest)
  | '/' :: '*' :: rest => blockCommentSize? 2 rest
  | _ => none

/-! ## Strings -/

/-- The length of what a backslash takes with it in a string. -/
def escapeSize? : List Char → Option Nat
  | [] => none
  | 'x' :: rest => if startsWithHex 2 rest then some 3 else none
  | 'u' :: rest => (codeSize? rest).map (· + 1)
  | c :: rest =>
    if isOctalDigit c then some (1 + ((rest.take 2).takeWhile isOctalDigit).length)
    else if (c == '\r' || c == '?')
        && rest.head?.any (fun d => d == '\n' || d.toNat == 0x2028 || d.toNat == 0x2029) then
      some 2
    else some 1

/-- What a string is being read as. After a line break only blanks and comments may come before
the closing quote or, after a comment, more text. -/
inductive StringMode where
  | text
  | gap
  | lineComment
  | blockComment

/-- The length of a string after its opening quote, with the closing one. `skip` characters belong
to it in any case. -/
def stringSize? (quote : Char) (mode : StringMode) (skip count : Nat) :
    List Char → Option Nat
  | [] => none
  | c :: rest =>
    match skip with
    | skip + 1 => stringSize? quote mode skip (count + 1) rest
    | 0 =>
      match mode with
      | .text =>
        if c == quote then some (count + 1)
        else if c == '\\' then
          match escapeSize? rest with
          | some size => stringSize? quote .text size (count + 1) rest
          | none => none
        else if c == '\n' || c == '\r' then stringSize? quote .gap 0 (count + 1) rest
        else stringSize? quote .text 0 (count + 1) rest
      | .gap =>
        if c == quote then some (count + 1)
        else if isSpace c then stringSize? quote .gap 0 (count + 1) rest
        else if c == '/' && rest.head? == some '/' then
          stringSize? quote .lineComment 1 (count + 1) rest
        else if c == '/' && rest.head? == some '*' then
          stringSize? quote .blockComment 1 (count + 1) rest
        else none
      | .lineComment =>
        if c == '\n' || c == '\r' then stringSize? quote .gap 0 (count + 1) rest
        else if endsLine c then stringSize? quote .text 0 (count + 1) rest
        else stringSize? quote .lineComment 0 (count + 1) rest
      | .blockComment =>
        if c == '*' && rest.head? == some '/' then stringSize? quote .text 1 (count + 1) rest
        else stringSize? quote .blockComment 0 (count + 1) rest

/-! ## Templates and regular expressions -/

/-- What ends a run of text in a template. -/
inductive TemplateStop where
  /-- The closing backtick. -/
  | close
  /-- The start of code. -/
  | code
  deriving DecidableEq, Repr

/-- What a run of text in a template ends with, and its length with that, after `count` characters.
`skip` characters belong to it in any case. -/
def templateStop? (escapes : Bool) (skip count : Nat) : List Char → Option (TemplateStop × Nat)
  | [] => none
  | c :: rest =>
    match skip with
    | skip + 1 => templateStop? escapes skip (count + 1) rest
    | 0 =>
      if isBacktick c then some (.close, count + 1)
      else if c == '$' && rest.head? == some '{' then some (.code, count + 2)
      else if c == '\\' then
        match escapeSize? rest with
        | some size =>
          if escapes then templateStop? escapes size (count + 1) rest else none
        | none => none
      else if c.toNat == 0 then none
      else templateStop? escapes 0 (count + 1) rest

/-- The length of a regular expression's pattern after the opening slash, with the closing one.
A slash in brackets does not close it. -/
def patternSize? (inClass : Bool) (skip count : Nat) : List Char → Option Nat
  | [] => none
  | c :: rest =>
    match skip with
    | skip + 1 => patternSize? inClass skip (count + 1) rest
    | 0 =>
      if c == '\n' then none
      else if c == '\\' then
        if rest.head?.any (· != '\n') then patternSize? inClass 1 (count + 1) rest else none
      else if inClass then patternSize? (c != ']') 0 (count + 1) rest
      else if c == '/' then if count == 0 then none else some (count + 1)
      else patternSize? (c == '[') 0 (count + 1) rest

/-- The length of a regular expression after its opening slash, with its flags. -/
def regexSize? (chars : List Char) : Option Nat :=
  (patternSize? false 0 0 chars).map fun size =>
    size + ((chars.drop size).takeWhile fun c => 'a' ≤ c && c ≤ 'z').length

/-! ## Numbers -/

/-- The length of the digits after a first one, with single underscores between them. -/
def moreDigits (digit : Char → Bool) : List Char → Nat
  | '_' :: c :: rest => if digit c then moreDigits digit rest + 2 else 0
  | c :: rest => if digit c then moreDigits digit rest + 1 else 0
  | [] => 0

/-- The length of digits with single underscores between them. -/
def digitsSize (digit : Char → Bool) : List Char → Nat
  | c :: rest => if digit c then moreDigits digit rest + 1 else 0
  | [] => 0

/-- The length of digits that have to be there, after so many characters. -/
def after (count size : Nat) : Nat :=
  if size == 0 then 0 else count + size

/-- The length of an exponent, zero when there is none. -/
def exponentSize : List Char → Nat
  | e :: rest =>
    if e == 'e' || e == 'E' then
      match rest with
      | sign :: digits =>
        if sign == '+' || sign == '-' then after 2 (digitsSize Char.isDigit digits)
        else after 1 (digitsSize Char.isDigit rest)
      | [] => 0
    else 0
  | [] => 0

/-- The length of digits and an exponent. -/
def fractionSize (chars : List Char) : Nat :=
  let digits := digitsSize Char.isDigit chars
  digits + exponentSize (chars.drop digits)

/-- Whether a point or an exponent may follow these digits: a zero in front stands alone or before
another digit. -/
def mayHaveFraction : List Char → Bool
  | '0' :: c :: _ => c != '0' && c != '_'
  | _ => true

/-- The length of a decimal number that starts with a digit. -/
def decimalSize (chars : List Char) : Nat :=
  let digits := digitsSize Char.isDigit chars
  match chars.drop digits with
  | 'n' :: _ => digits + 1
  | rest =>
    if mayHaveFraction (chars.take digits) then
      match rest with
      | '.' :: more => digits + 1 + fractionSize more
      | _ => digits + exponentSize rest
    else digits

/-- The digits that a letter after a zero announces. -/
def radixDigit? (c : Char) : Option (Char → Bool) :=
  if c == 'x' || c == 'X' then some isHexDigit
  else if c == 'b' || c == 'B' then some fun d => d == '0' || d == '1'
  else if c == 'o' || c == 'O' then some isOctalDigit
  else none

/-- The length of a number that starts with a digit. -/
def numberSize (chars : List Char) : Nat :=
  match chars with
  | '0' :: letter :: rest =>
    match radixDigit? letter with
    | some digit =>
      let digits := digitsSize digit rest
      if digits == 0 then decimalSize chars
      else if (rest.drop digits).head? == some 'n' then digits + 3
      else digits + 2
    | none => decimalSize chars
  | _ => decimalSize chars

/-! ## Tokens -/

/-- The kind and length of what starts with a mark. Only `...` and `=>` are longer than one
character: where other marks belong together is for the reader to say. -/
def markToken (c : Char) (rest : List Char) : TokenKind × Nat :=
  match c, rest with
  | '.', '.' :: '.' :: _ => (.mark, 3)
  | '.', d :: _ => if d.isDigit then (.number, 1 + fractionSize rest) else (.mark, 1)
  | '=', '>' :: _ => (.mark, 2)
  | '/', '*' :: _ => (.stray, 1 + (rest.takeWhile (· != '\n')).length)
  | _, _ => (.mark, 1)

/-- The kind and length of what starts with a number sign. -/
def numberSignToken (rest : List Char) : TokenKind × Nat :=
  if rest.head? == some '!' then (.interpreterLine, 1 + (rest.takeWhile (· != '\n')).length)
  else if startsWord rest then (.privateName, 1 + wordSize 0 rest)
  else (.stray, 1)

/-- The kind and length of the first token. No blank or comment comes first. -/
def token : List Char → TokenKind × Nat
  | [] => (.finish, 0)
  | c :: rest =>
    if startsWord (c :: rest) then (.word, wordSize 0 (c :: rest))
    else if c.isDigit then (.number, numberSize (c :: rest))
    else if c == '"' || c == '\'' then
      match stringSize? c .text 0 1 rest with
      | some size => (.string, size)
      | none => (.stray, 1)
    else if c == '#' then numberSignToken rest
    else if markChars.contains c then markToken c rest
    else (.stray, 1)

/-! ## Blanks and comments -/

/-- The length of blanks. -/
def blankSize (count : Nat) : List Char → Nat
  | [] => count
  | c :: rest => if isSpace c then blankSize (count + 1) rest else count

/-- The blanks and comments at the front, and the rest. There are at most `fuel` of them. -/
def trivia : Nat → List Char → List Trivia × List Char
  | 0, chars => ([], chars)
  | fuel + 1, chars =>
    let blank := blankSize 0 chars
    if blank != 0 then
      let (more, rest) := trivia fuel (chars.drop blank)
      (.blank (String.ofList (chars.take blank)) :: more, rest)
    else
      match commentSize? chars with
      | some size =>
        let (more, rest) := trivia fuel (chars.drop size)
        (.comment (String.ofList (chars.take size)) :: more, rest)
      | none => ([], chars)

end Facade.Lexer
