import StubDns.Text.Basic
import StubDns.Text.VisibleTable

/-! # Quoted text

A text as messages show it: between double quotes, with a backslash before
what would end or confuse the quotation. A character that does not show is
written by its number.
-/

namespace StubDns.Text

def quotedChar (char : Char) : Text :=
  if char = '\x00' then ['\\', '0']
  else if char = '\t' then ['\\', 't']
  else if char = '\r' then ['\\', 'r']
  else if char = '\n' then ['\\', 'n']
  else if char = '"' ∨ char = '\\' then ['\\', char]
  else if isVisible char then [char]
  else ['\\', 'u', '\x7b'] ++ Nat.toDigits 16 char.toNat ++ ['\x7d']

def quoted (text : Text) : Text := '"' :: text.flatMap quotedChar ++ ['"']

/-- An accent without a letter is written by its number. -/
example : quoted ['\u0301'] = "\"\\u\x7b301\x7d\"".toList := by decide +kernel

end StubDns.Text
