import StubDns.Text.Basic

/-! # Letter case of ASCII letters

Domain names are compared without regard to the case of the letters `A` to `Z`
and of no other letter, so that the comparison means the same on text and on
the bytes of a label.
-/

namespace StubDns.Text

/-- The small form of a letter `A` to `Z`; any other character stays. -/
def foldChar (char : Char) : Char :=
  if 'A' ≤ char ∧ char ≤ 'Z' then Char.ofNat (char.toNat + 32) else char

/-- A text with its letters `A` to `Z` made small. -/
def foldAscii (text : Text) : Text := text.map foldChar

/-- Accented letters are left alone. -/
example : foldAscii "Z.CN É".toList = "z.cn É".toList := by decide

@[simp] theorem foldAscii_nil : foldAscii [] = [] := rfl

@[simp] theorem foldAscii_append (left right : Text) :
    foldAscii (left ++ right) = foldAscii left ++ foldAscii right := by
  simp [foldAscii]

@[simp] theorem length_foldAscii (text : Text) : (foldAscii text).length = text.length := by
  simp [foldAscii]

end StubDns.Text
