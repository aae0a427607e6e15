import StubDns.Toml.Numbers

/-! # Reading a document

A document is read line by line into a table. `read?` gives that table, or
nothing when the text is no document: when a line is malformed, or when it
defines what another line has defined.

Arrays and tables in braces may be nested to a limited depth, which is also
what makes the reading of values end.
-/

namespace StubDns.Toml

/-! ## Limits -/

/-- The number of arrays and tables in braces that may enclose a value. -/
def nestingLimit : Nat := 79

/-- A dotted key has fewer parts than this. -/
def keyPartsLimit : Nat := 80

/-! ## Blanks and comments -/

def skipBlanks (text : Text) : Text := text.dropWhile isBlank

/-- Skip blanks, line ends and comments. -/
def skipLines (inComment : Bool) : Text → Text
  | [] => []
  | '\r' :: '\n' :: rest => skipLines false rest
  | '\n' :: rest => skipLines false rest
  | char :: rest =>
      if inComment then
        if isCommentChar char then skipLines true rest else char :: rest
      else if isBlank char then
        skipLines false rest
      else if char = '#' then
        skipLines true rest
      else
        char :: rest

def readLineEnd : Text → Option Text
  | [] => some []
  | '\n' :: rest => some rest
  | '\r' :: '\n' :: rest => some rest
  | _ => none

/-- Read what may follow on a line: blanks and a comment. -/
def readTrailing (text : Text) : Option Text :=
  match skipBlanks text with
  | '#' :: rest => readLineEnd (rest.dropWhile isCommentChar)
  | rest => readLineEnd rest

/-! ## Keys -/

/-- Characters of a key without marks. -/
def isBareKey (char : Char) : Bool :=
  ('a' ≤ char && char ≤ 'z') || ('A' ≤ char && char ≤ 'Z') || ('0' ≤ char && char ≤ '9')
    || char = '-' || char = '_'

def readKeyPart (text : Text) : Option (Text × Text) :=
  match text with
  | [] => none
  | char :: _ =>
      if char = '"' ∨ char = '\'' then
        readLineString text
      else
        let key := text.takeWhile isBareKey
        if key = [] then none else some (key, text.dropWhile isBareKey)

/-- Read up to `limit` parts of a key with dots between them, and the blanks
around them. -/
def readKeyParts : (limit : Nat) → Text → Option (List Text × Text)
  | 0, _ => none
  | limit + 1, text => do
      let (part, rest) ← readKeyPart (skipBlanks text)
      match skipBlanks rest with
      | '.' :: rest =>
          let (parts, rest) ← readKeyParts limit rest
          return (part :: parts, rest)
      | rest => return ([part], rest)

/-- A key as the path to a table and the last part. -/
structure Key where
  path : List Text
  last : Text
  deriving DecidableEq, Repr

def readKey (text : Text) : Option (Key × Text) := do
  let (parts, rest) ← readKeyParts (keyPartsLimit - 1) text
  let last ← parts.getLast?
  return (⟨parts.dropLast, last⟩, rest)

/-! ## Values -/

/-- Readers take a text and return a value with the rest of the text. -/
abbrev Reader (α : Type) := Text → Option (α × Text)

/-- Read the rest of a given word. -/
def readWord : (word : Text) → Text → Option Text
  | [], text => some text
  | char :: word, other :: rest => if char = other then readWord word rest else none
  | _ :: _, [] => none

def readScalar (text : Text) : Option (Scalar × Text) :=
  match text with
  | [] => none
  | char :: _ =>
      if char = '"' ∨ char = '\'' then
        (readString text).map fun (string, rest) => (.string string, rest)
      else if char = 't' then
        (readWord "true".toList text).map fun rest => (.boolean true, rest)
      else if char = 'f' then
        (readWord "false".toList text).map fun rest => (.boolean false, rest)
      else
        match Datetime.readStart text with
        | some (value, rest) => some (.datetime value, rest)
        | none => readNumber text

/-- Read the items of an array up to its closing bracket. A comma may follow the
last one. The number of rounds bounds the number of items. -/
def readItems (item : Reader Value) : (rounds : Nat) → Reader Values
  | 0, _ => none
  | rounds + 1, text =>
      match skipLines false text with
      | ']' :: rest => some (.nil, rest)
      | text => do
          let (value, rest) ← item text
          match skipLines false rest with
          | ',' :: rest =>
              let (values, rest) ← readItems item rounds rest
              return (.cons value values, rest)
          | ']' :: rest => return (.cons value .nil, rest)
          | _ => none

def readAssignment (item : Reader Value) (text : Text) : Option ((Key × Value) × Text) := do
  let (key, rest) ← readKey text
  match rest with
  | '=' :: rest =>
      let (value, rest) ← item (skipBlanks rest)
      return ((key, value), rest)
  | _ => none

/-- Read the assignments of a table up to its closing brace, adding them to
`entries`. No comma may follow the last one. -/
def readMembers (item : Reader Value) : (rounds : Nat) → Entries → Reader Entries
  | 0, _, _ => none
  | rounds + 1, entries, text => do
      let ((key, value), rest) ← readAssignment item text
      let entries ← entries.assign key.path key.last value
      match skipBlanks rest with
      | ',' :: rest => readMembers item rounds entries rest
      | '\x7d' :: rest => return (entries, rest)
      | _ => none

/-- Read a table after its opening brace. -/
def readBraces (item : Reader Value) (text : Text) : Option (Value × Text) :=
  match skipBlanks text with
  | '\x7d' :: rest => some (.table .inlined .nil, rest)
  | text =>
      (readMembers item text.length .nil text).map fun (entries, rest) =>
        (.table .inlined entries, rest)

/-- Read a value with at most `depth` arrays and tables around its innermost
parts. -/
def readValue : (depth : Nat) → Reader Value
  | 0, text => (readScalar text).map fun (value, rest) => (.scalar value, rest)
  | depth + 1, text =>
      match text with
      | '[' :: rest =>
          (readItems (readValue depth) (rest.length + 1) rest).map fun (items, rest) =>
            (.array items, rest)
      | '\x7b' :: rest => readBraces (readValue depth) rest
      | text => (readScalar text).map fun (value, rest) => (.scalar value, rest)

/-! ## Lines -/

/-- A line that says something. -/
inductive Line
  /-- A header: what follows belongs to the table of the key. -/
  | opens (key : Key)
  /-- A header in double brackets: what follows belongs to a new element. -/
  | appends (key : Key)
  /-- A value for a key of the table of the last header. -/
  | assigns (key : Key) (value : Value)
  deriving DecidableEq, Repr

/-- Read a line that is not empty, with its end. -/
def readLine (text : Text) : Option (Line × Text) :=
  match text with
  | '[' :: '[' :: rest => do
      let (key, rest) ← readKey rest
      match rest with
      | ']' :: ']' :: rest => return (.appends key, ← readTrailing rest)
      | _ => none
  | '[' :: rest => do
      let (key, rest) ← readKey rest
      match rest with
      | ']' :: rest => return (.opens key, ← readTrailing rest)
      | _ => none
  | text => do
      let ((key, value), rest) ← readAssignment (readValue nestingLimit) text
      return (.assigns key value, ← readTrailing rest)

/-- Read all lines. Empty lines and comments say nothing. The number of rounds
bounds the number of lines. -/
def readLines : (rounds : Nat) → Text → Option (List Line)
  | 0, _ => none
  | rounds + 1, text =>
      match skipLines false text with
      | [] => some []
      | text => do
          let (line, rest) ← readLine text
          let lines ← readLines rounds rest
          return line :: lines

/-! ## The table of a document -/

/-- The table so far, and the path to the table of the last header. -/
structure Draft where
  entries : Entries
  current : List Text
  deriving DecidableEq, Repr

/-- Add a line. -/
def Draft.add (draft : Draft) : Line → Option Draft
  | .opens key => do
      let entries ← draft.entries.openTable key.path key.last
      return ⟨entries, key.path ++ [key.last]⟩
  | .appends key => do
      let entries ← draft.entries.openElement key.path key.last
      return ⟨entries, key.path ++ [key.last]⟩
  | .assigns key value => do
      let entries ← draft.entries.changeCurrent draft.current fun inner =>
        inner.assign key.path key.last value
      return ⟨entries, draft.current⟩

/-- The table of lines. -/
def ofLines (lines : List Line) : Option Entries :=
  (lines.foldlM Draft.add ⟨.nil, []⟩).map Draft.entries

/-- A mark of the encoding may stand at the start of a text. -/
def dropMark : Text → Text
  | '\uFEFF' :: rest => rest
  | text => text

def read? (text : Text) : Option Entries :=
  let text := dropMark text
  (readLines (text.length + 1) text).bind ofLines

example : read? "a.b = 1\n[c]\nd = true # on".toList =
    some (.cons "a".toList
        (.table .dotted (.cons "b".toList (.scalar (.integer 1)) .nil))
      (.cons "c".toList
        (.table .opened (.cons "d".toList (.scalar (.boolean true)) .nil)) .nil)) := by
  decide +kernel

example : read? "[a]\n[a]".toList = none := by decide +kernel

end StubDns.Toml
