-- Tokens of declaration text. Each token keeps the blanks and comments in front of it, so
-- that nothing of the text is lost.
namespace Facade

/-! ## Kinds -/

/-- What a token is, as far as its characters tell. Whether a word is a keyword depends on where
it stands, so that is left to the reader of the tokens. -/
inductive TokenKind where
  | word
  | privateName
  | string
  | number
  | mark
  /-- A first line that starts with `#!`. -/
  | interpreterLine
  /-- Characters that start no token, such as a comment that never ends. -/
  | stray
  /-- The end of the text. -/
  | finish
  deriving DecidableEq, Repr

/-- What may stand between two tokens. -/
inductive Trivia where
  | blank (text : String)
  | comment (text : String)
  /-- A line that starts with `<!--` or `-->`. -/
  | markup (text : String)
  deriving DecidableEq, Repr

namespace Trivia

/-- The text of trivia. -/
def text : Trivia → String
  | .blank text => text
  | .comment text => text
  | .markup text => text

/-- The characters of trivia, one after the other. -/
def chars (trivia : List Trivia) : List Char :=
  trivia.flatMap (·.text.toList)

/-- How many characters trivia has. -/
def size (trivia : List Trivia) : Nat :=
  (chars trivia).length

/-- Whether trivia is more than blank. -/
def isRemark : Trivia → Bool
  | .blank _ => false
  | .comment _ => true
  | .markup _ => true

/-- What a line of markup is called. -/
def markupKind : String := "html_comment"

/-- What a remark is called. -/
def kind : Trivia → String
  | .markup _ => markupKind
  | _ => "comment"

/-- How many lines of markup there are. -/
def markupCount (trivia : List Trivia) : Nat :=
  trivia.countP fun
    | .markup _ => true
    | _ => false

end Trivia

/-! ## Tokens -/

/-- A token with what stands in front of it. -/
structure Token where
  leading : List Trivia
  kind : TokenKind
  text : String
  deriving DecidableEq, Repr

namespace Token

/-- Whether the token is this mark. -/
def isMark (token : Token) (text : String) : Bool :=
  token.kind == .mark && token.text == text

/-- Whether the token is one of these marks. -/
def isAnyMark (token : Token) (marks : List String) : Bool :=
  token.kind == .mark && marks.contains token.text

/-- Whether the token is this word. -/
def isWord (token : Token) (text : String) : Bool :=
  token.kind == .word && token.text == text

/-- Whether the token is one of these words. -/
def isAnyWord (token : Token) (words : List String) : Bool :=
  token.kind == .word && words.contains token.text

/-- Whether the token is a word, but none of these. -/
def isWordBut (token : Token) (words : List String) : Bool :=
  token.kind == .word && !words.contains token.text

/-- The first remark in front of the token. -/
def remark? (token : Token) : Option Trivia :=
  token.leading.find? Trivia.isRemark

end Token

end Facade
