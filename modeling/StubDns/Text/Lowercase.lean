import StubDns.Text.AsciiCase
import StubDns.Text.CaseTable

/-! # Small letters

The small form of a whole text by the rules of Unicode. Two characters need
more than the table of single forms: a capital I with a dot becomes two
characters, and a capital sigma becomes the final sigma at the end of a word.
-/

namespace StubDns.Text

/-- The small form of a code point, if it has one of a single character. -/
def lowerCode (code : Nat) : Nat :=
  match lowerRuns.find? (·.covers code) with
  | some run => run.lower code
  | none => code

/-- The Kelvin sign has the small form of an ordinary letter. -/
example : lowerCode 0x212A = 0x6B := by decide +kernel

/-- The small form of a character outside of any word. -/
def lowerChar (char : Char) : Text :=
  if char = '\u0130' then ['i', '\u0307'] else [Char.ofNat (lowerCode char.toNat)]

/-- The characters that follow start with a letter, once marks that do not
count are skipped. -/
def reachesLetter (text : Text) : Bool :=
  match text.dropWhile fun char => inRanges caseIgnorableRanges char.toNat with
  | [] => false
  | char :: _ => inRanges casedRanges char.toNat

/-- A capital sigma between these texts ends a word; `before` is reversed. -/
def endsWord (before after : Text) : Bool := reachesLetter before && !reachesLetter after

/-- The small form of the rest of a text, after the reversed text `before`. -/
def lowerAfter (before : Text) : Text → Text
  | [] => []
  | char :: rest =>
      let small :=
        if char = 'Σ' then [if endsWord before rest then 'ς' else 'σ'] else lowerChar char
      small ++ lowerAfter (char :: before) rest

def lower (text : Text) : Text := lowerAfter [] text

example : lower "ΑΣ.ΣΑΣ Port".toList = "ασ.σας port".toList := by decide +kernel

end StubDns.Text
