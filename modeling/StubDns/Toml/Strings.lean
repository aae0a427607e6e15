import StubDns.Text.Basic

/-! # Strings of a document

Four forms: in quotation marks with escapes, in apostrophes as they stand, and
both over several lines between triple marks. Each reader starts after the
opening mark and returns the text and what follows the closing mark.
-/

namespace StubDns.Toml

/-! ## Classes of characters -/

def isBlank (char : Char) : Bool := char = ' ' || char = '\t'

/-- Characters that may stand in a comment: the tab and all but controls. -/
def isCommentChar (char : Char) : Bool :=
  char = '\t' || (' ' ≤ char && char ≤ '~') || '\x80' ≤ char

/-- Characters that stand for themselves in quotation marks. -/
def isPlain (char : Char) : Bool := isCommentChar char && char != '"' && char != '\\'

/-- Characters that stand for themselves in apostrophes. -/
def isLiteral (char : Char) : Bool := isCommentChar char && char != '\''

/-! ## Escapes -/

/-- The character of an escape of one letter. -/
def shortEscape? (letter : Char) : Option Char :=
  if letter = 'b' then some '\x08'
  else if letter = 't' then some '\t'
  else if letter = 'n' then some '\n'
  else if letter = 'f' then some '\x0c'
  else if letter = 'r' then some '\r'
  else if letter = '"' then some '"'
  else if letter = '\\' then some '\\'
  else none

/-- The value of a digit of base two to sixteen, of either letter case. -/
def digitOfBase? (base : Nat) (char : Char) : Option Nat :=
  let value :=
    if '0' ≤ char ∧ char ≤ '9' then char.toNat - '0'.toNat
    else if 'a' ≤ char ∧ char ≤ 'f' then char.toNat - 'a'.toNat + 10
    else if 'A' ≤ char ∧ char ≤ 'F' then char.toNat - 'A'.toNat + 10
    else base
  if value < base then some value else none

/-- The number that digits stand for. -/
def valueOfBase? (base : Nat) (digits : Text) : Option Nat :=
  (digits.mapM (digitOfBase? base)).map fun values =>
    values.foldl (fun value digit => value * base + digit) 0

/-- The character of a number in base sixteen. Surrogates are none. -/
def numberedChar? (digits : Text) : Option Char := do
  let code ← valueOfBase? 16 digits
  if code < 0xD800 ∨ (0xDFFF < code ∧ code < 0x110000) then some (Char.ofNat code) else none

example : numberedChar? "d800".toList = none := by decide +kernel

/-! ## On one line -/

/-- Read up to the closing quotation mark. -/
def readBasic : Text → Option (Text × Text)
  | [] => none
  | '"' :: rest => some ([], rest)
  | '\\' :: 'u' :: a :: b :: c :: d :: rest => do
      let char ← numberedChar? [a, b, c, d]
      let (text, after) ← readBasic rest
      return (char :: text, after)
  | '\\' :: 'U' :: a :: b :: c :: d :: e :: f :: g :: h :: rest => do
      let char ← numberedChar? [a, b, c, d, e, f, g, h]
      let (text, after) ← readBasic rest
      return (char :: text, after)
  | '\\' :: letter :: rest => do
      let char ← shortEscape? letter
      let (text, after) ← readBasic rest
      return (char :: text, after)
  | char :: rest =>
      if isPlain char then do
        let (text, after) ← readBasic rest
        return (char :: text, after)
      else
        none

/-- Read up to the closing apostrophe. -/
def readLiteral : Text → Option (Text × Text)
  | [] => none
  | '\'' :: rest => some ([], rest)
  | char :: rest =>
      if isLiteral char then do
        let (text, after) ← readLiteral rest
        return (char :: text, after)
      else
        none

/-! ## On several lines -/

/-- A line end directly after the opening marks does not count. -/
def dropFirstLineEnd : Text → Text
  | '\n' :: rest => rest
  | '\r' :: '\n' :: rest => rest
  | text => text

/-- Only blanks stand before the end of the line. -/
def endsLine (text : Text) : Bool :=
  match text.dropWhile isBlank with
  | '\n' :: _ => true
  | '\r' :: '\n' :: _ => true
  | _ => false

/-- Read up to three closing quotation marks, of which up to two more may stand
in front as text. A backslash at the end of a line joins it to the next
character that is neither blank nor line end: until then `joining` holds. A
line end counts as one character. -/
def readBasicLines (joining : Bool) : Text → Option (Text × Text)
  | [] => none
  | '"' :: '"' :: '"' :: '"' :: '"' :: rest => some (['"', '"'], rest)
  | '"' :: '"' :: '"' :: '"' :: rest => some (['"'], rest)
  | '"' :: '"' :: '"' :: rest => some ([], rest)
  | '\r' :: '\n' :: rest =>
      if joining then
        readBasicLines true rest
      else do
        let (text, after) ← readBasicLines false rest
        return ('\n' :: text, after)
  | '\n' :: rest =>
      if joining then
        readBasicLines true rest
      else do
        let (text, after) ← readBasicLines false rest
        return ('\n' :: text, after)
  | '\\' :: 'u' :: a :: b :: c :: d :: rest => do
      let char ← numberedChar? [a, b, c, d]
      let (text, after) ← readBasicLines false rest
      return (char :: text, after)
  | '\\' :: 'U' :: a :: b :: c :: d :: e :: f :: g :: h :: rest => do
      let char ← numberedChar? [a, b, c, d, e, f, g, h]
      let (text, after) ← readBasicLines false rest
      return (char :: text, after)
  | '\\' :: letter :: rest =>
      if endsLine (letter :: rest) then
        readBasicLines true (letter :: rest)
      else do
        let char ← shortEscape? letter
        let (text, after) ← readBasicLines false rest
        return (char :: text, after)
  | char :: rest =>
      if joining && isBlank char then
        readBasicLines true rest
      else if isPlain char || char = '"' then do
        let (text, after) ← readBasicLines false rest
        return (char :: text, after)
      else
        none

example : readBasicLines false "q\"\"q\\ \n  r\"\"\"\"x".toList =
    some ("q\"\"qr\"".toList, ['x']) := by decide +kernel

/-- Read up to three closing apostrophes, of which up to two more may stand in
front as text. -/
def readLiteralLines : Text → Option (Text × Text)
  | [] => none
  | '\'' :: '\'' :: '\'' :: '\'' :: '\'' :: rest => some (['\'', '\''], rest)
  | '\'' :: '\'' :: '\'' :: '\'' :: rest => some (['\''], rest)
  | '\'' :: '\'' :: '\'' :: rest => some ([], rest)
  | '\r' :: '\n' :: rest => do
      let (text, after) ← readLiteralLines rest
      return ('\n' :: text, after)
  | char :: rest =>
      if isCommentChar char || char = '\n' then do
        let (text, after) ← readLiteralLines rest
        return (char :: text, after)
      else
        none

/-! ## Any form -/

/-- Read a string on one line, from its opening mark. -/
def readLineString : Text → Option (Text × Text)
  | '"' :: rest => readBasic rest
  | '\'' :: rest => readLiteral rest
  | _ => none

/-- Read a string of any form, from its opening mark. -/
def readString : Text → Option (Text × Text)
  | '"' :: '"' :: '"' :: rest => readBasicLines false (dropFirstLineEnd rest)
  | '\'' :: '\'' :: '\'' :: rest => readLiteralLines (dropFirstLineEnd rest)
  | text => readLineString text

end StubDns.Toml
