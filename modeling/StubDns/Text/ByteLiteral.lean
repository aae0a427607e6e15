import StubDns.Text.Basic

/-! # Bytes as printable text

Every byte is written so that the result is printable ASCII: letters, digits
and signs stand for themselves, quotes and backslashes follow a backslash, tab
and line ends have a letter, and any other byte is `\x` with two digits. `read?`
takes such a text back to its bytes.
-/

namespace StubDns.ByteLiteral

/-- A digit of a byte in base sixteen, in small letters. -/
def hexDigit (value : Nat) : Char := Nat.digitChar value

/-- One byte as printable text. -/
def escapeByte (byte : UInt8) : Text :=
  if byte = 9 then ['\\', 't']
  else if byte = 10 then ['\\', 'n']
  else if byte = 13 then ['\\', 'r']
  else if byte = 34 ∨ byte = 39 ∨ byte = 92 then ['\\', Char.ofNat byte.toNat]
  else if 32 ≤ byte ∧ byte ≤ 126 then [Char.ofNat byte.toNat]
  else ['\\', 'x', hexDigit (byte.toNat / 16), hexDigit (byte.toNat % 16)]

def escape (bytes : List UInt8) : Text := bytes.flatMap escapeByte

example : escape [0x61, 0x27, 0x5C, 0x0A, 0x00, 0xFF] = "a\\'\\\\\\n\\x00\\xff".toList := by
  decide

/-! ## Reading back -/

/-- The byte of a letter or sign behind a backslash. -/
def escapedByte? (letter : Char) : Option UInt8 :=
  if letter = 't' then some 9
  else if letter = 'n' then some 10
  else if letter = 'r' then some 13
  else if letter = '"' ∨ letter = '\'' ∨ letter = '\\' then some (UInt8.ofNat letter.toNat)
  else none

/-- The value of a digit in base sixteen, in small or capital letters. -/
def digit? (char : Char) : Option Nat :=
  if '0' ≤ char ∧ char ≤ '9' then some (char.toNat - '0'.toNat)
  else if 'a' ≤ char ∧ char ≤ 'f' then some (char.toNat - 'a'.toNat + 10)
  else if 'A' ≤ char ∧ char ≤ 'F' then some (char.toNat - 'A'.toNat + 10)
  else none

/-- Characters that stand for themselves. -/
def isPlain (char : Char) : Bool :=
  ' ' ≤ char && char ≤ '~' && char != '"' && char != '\'' && char != '\\'

def read? : Text → Option (List UInt8)
  | [] => some []
  | '\\' :: 'x' :: high :: low :: rest => do
      let high ← digit? high
      let low ← digit? low
      return UInt8.ofNat (high * 16 + low) :: (← read? rest)
  | '\\' :: letter :: rest => do
      let byte ← escapedByte? letter
      return byte :: (← read? rest)
  | char :: rest =>
      if isPlain char then (read? rest).map (UInt8.ofNat char.toNat :: ·) else none

/-- A quote must follow a backslash. -/
example : read? "it's".toList = none := by decide

end StubDns.ByteLiteral
