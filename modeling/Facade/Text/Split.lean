-- Cutting a text at a character, and the line ends of a text.
namespace Facade.Text

/-! ## Segments -/

/-- The pieces between the occurrences of `sep`. There is always at least one piece. -/
def pieces (sep : Char) : List Char → List (List Char)
  | [] => [[]]
  | c :: rest =>
    if c = sep then [] :: pieces sep rest
    else
      match pieces sep rest with
      | [] => [[c]]
      | piece :: more => (c :: piece) :: more

/-- The segments of a text between the occurrences of `sep`. -/
def segments (sep : Char) (text : String) : List String :=
  (pieces sep text.toList).map String.ofList

/-- The last segment of a text. -/
def lastSegment (sep : Char) (text : String) : String :=
  (segments sep text).getLastD ""

/-! ## Line ends -/

/-- A carriage return, with or without a line feed after it, becomes a line feed. -/
def unifyLineEnds : List Char → List Char
  | '\r' :: '\n' :: rest => '\n' :: unifyLineEnds rest
  | '\r' :: rest => '\n' :: unifyLineEnds rest
  | c :: rest => c :: unifyLineEnds rest
  | [] => []

/-- The characters up to the first line feed. -/
def firstLine (chars : List Char) : List Char :=
  chars.takeWhile (· != '\n')

/-! ## First occurrences -/

/-- Drops every item whose key an earlier item has. -/
def distinctBy {α β : Type} [BEq β] (key : α → β) : List α → List α
  | [] => []
  | item :: rest => item :: (distinctBy key rest).filter (key · != key item)

/-- Drops repeats and keeps the first occurrence of each item. -/
def distinct {α : Type} [BEq α] (items : List α) : List α :=
  distinctBy id items

end Facade.Text
