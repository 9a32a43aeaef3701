-- Stray bytes: arguments and names of files are bytes, and not all bytes are characters. A byte
-- that belongs to none is written as the character with its number, after a mark of its own.
namespace Facade.Text

/-- The mark of a stray byte. It occurs in no argument and no name of a file otherwise. -/
def strayMark : Char := '\x00'

/-- Whether a text has no stray bytes. -/
def isWhole (text : String) : Bool := !text.toList.contains strayMark

/-- Each stray byte of a text as characters. -/
def replaceStray (replacement : Char → List Char) : List Char → List Char
  | [] => []
  | [c] => [c]
  | c :: byte :: rest =>
    if c == strayMark then replacement byte ++ replaceStray replacement rest
    else c :: replaceStray replacement (byte :: rest)

/-- A text as messages show it, with the numbers of its stray bytes. -/
def shown (text : String) : String :=
  String.ofList
    (replaceStray (fun byte => "\\udc".toList ++ Nat.toDigits 16 byte.toNat) text.toList)

/-- A text in which one character stands for each stray byte. -/
def masked (text : String) : String :=
  String.ofList (replaceStray (fun _ => ['?']) text.toList)

end Facade.Text
