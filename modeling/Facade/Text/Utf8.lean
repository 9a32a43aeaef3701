-- Reading UTF-8: bytes become text, or the first fault is reported with its place.
import Facade.Text.Quoted
namespace Facade.Text

/-! ## Faults -/

/-- Why bytes are not UTF-8. -/
inductive Utf8Reason where
  /-- No character starts with this byte. -/
  | badStart
  /-- A byte inside a character is not one that may follow. -/
  | badContinuation
  /-- The bytes end inside a character. -/
  | cutShort
  deriving DecidableEq, Repr

/-- A fault: the bytes from `first` to `last`, the byte at `first`, and the reason. -/
structure Utf8Fault where
  first : Nat
  last : Nat
  byte : UInt8
  reason : Utf8Reason
  deriving DecidableEq, Repr

/-- The wording of a reason. -/
def Utf8Reason.message : Utf8Reason → String
  | .badStart => "invalid start byte"
  | .badContinuation => "invalid continuation byte"
  | .cutShort => "unexpected end of data"

/-- The wording of a fault. -/
def Utf8Fault.message (fault : Utf8Fault) : String :=
  let place :=
    if fault.first == fault.last then
      "byte 0x" ++ String.ofList (hexDigits 2 fault.byte.toNat) ++ " in position "
        ++ toString fault.first
    else "bytes in position " ++ toString fault.first ++ "-" ++ toString fault.last
  "'utf-8' codec can't decode " ++ place ++ ": " ++ fault.reason.message

/-! ## Decoding -/

/-- A character that is being read: where it started, how many bytes it still needs, the bounds
of the next byte, and the bits so far. -/
structure PartialChar where
  start : Nat
  lead : UInt8
  needed : Nat
  low : Nat
  high : Nat
  bits : Nat

/-- What a first byte above ASCII announces. -/
def PartialChar.ofLead (start : Nat) (lead : UInt8) : Option PartialChar :=
  let code := lead.toNat
  if code < 0xC2 then none
  else if code < 0xE0 then some ⟨start, lead, 1, 0x80, 0xBF, code - 0xC0⟩
  else if code == 0xE0 then some ⟨start, lead, 2, 0xA0, 0xBF, 0⟩
  else if code == 0xED then some ⟨start, lead, 2, 0x80, 0x9F, 0x0D⟩
  else if code < 0xF0 then some ⟨start, lead, 2, 0x80, 0xBF, code - 0xE0⟩
  else if code == 0xF0 then some ⟨start, lead, 3, 0x90, 0xBF, 0⟩
  else if code < 0xF4 then some ⟨start, lead, 3, 0x80, 0xBF, code - 0xF0⟩
  else if code == 0xF4 then some ⟨start, lead, 3, 0x80, 0x8F, 4⟩
  else none

/-- Reads bytes from position `pos` on, with or without a character begun. -/
def decodeFrom (pos : Nat) : Option PartialChar → List UInt8 → Except Utf8Fault (List Char)
  | none, [] => .ok []
  | some open_, [] => .error ⟨open_.start, pos - 1, open_.lead, .cutShort⟩
  | none, byte :: rest =>
    if byte.toNat < 0x80 then
      (decodeFrom (pos + 1) none rest).map (Char.ofNat byte.toNat :: ·)
    else
      match PartialChar.ofLead pos byte with
      | none => .error ⟨pos, pos, byte, .badStart⟩
      | some begun => decodeFrom (pos + 1) (some begun) rest
  | some open_, byte :: rest =>
    if open_.low ≤ byte.toNat && byte.toNat ≤ open_.high then
      let bits := open_.bits * 64 + (byte.toNat - 0x80)
      if open_.needed ≤ 1 then (decodeFrom (pos + 1) none rest).map (Char.ofNat bits :: ·)
      else
        decodeFrom (pos + 1)
          (some { open_ with needed := open_.needed - 1, low := 0x80, high := 0xBF, bits := bits })
          rest
    else .error ⟨open_.start, pos - 1, open_.lead, .badContinuation⟩

/-- The text of UTF-8 bytes. -/
def decodeUtf8 (bytes : List UInt8) : Except Utf8Fault String :=
  (decodeFrom 0 none bytes).map String.ofList

/-- The UTF-8 bytes of a text. -/
def encodeUtf8 (text : String) : List UInt8 :=
  text.toByteArray.toList

/-- How many bytes characters take. -/
def byteCount (chars : List Char) : Nat :=
  (String.ofList chars).utf8ByteSize

end Facade.Text
