import StubDns.Text.Basic

/-! # Paths

A path names a place in settings: a key, followed by keys behind dots and
positions in brackets, such as `a.b[2].c`. Keys are made of ASCII letters,
digits, blanks, underscores and hyphens.
-/

namespace StubDns

/-- A step from a setting to a part of it. -/
inductive Step
  | key (name : Text)
  | position (index : Int)
  deriving DecidableEq, Repr

/-- A path from the root of settings. -/
structure Path where
  root : Text
  steps : List Step
  deriving DecidableEq, Repr

inductive PathError
  /-- A key was expected. -/
  | key
  /-- A dot or a bracket was expected. -/
  | mark
  /-- A digit was expected. -/
  | digit
  /-- The position is too large. -/
  | number
  deriving DecidableEq, Repr

def PathError.message : PathError → String
  | .key => "IsA"
  | .mark => "Char"
  | .digit => "Digit"
  | .number => "Map on Result"

namespace Path

/-! ## Characters -/

def isKeyChar (char : Char) : Bool :=
  ('a' ≤ char && char ≤ 'z') || ('A' ≤ char && char ≤ 'Z') || ('0' ≤ char && char ≤ '9')
    || char = ' ' || char = '_' || char = '-'

def isBlank (char : Char) : Bool := char = ' ' || char = '\t'

def isDigit (char : Char) : Bool := '0' ≤ char && char ≤ '9'

/-- The value of decimal digits. -/
def valueOf (digits : Text) : Nat :=
  digits.foldl (fun value char => value * 10 + (char.toNat - '0'.toNat)) 0

/-! ## Steps -/

def readKey (text : Text) : Option (Text × Text) :=
  let key := text.takeWhile isKeyChar
  if key = [] then none else some (key, text.dropWhile isKeyChar)

/-- Positions lie between this limit and its opposite. -/
def positionLimit : Int := 0x8000000000000000

/-- Read a position after its opening bracket. Blanks may stand around the
number. -/
def readPosition (text : Text) : Except PathError (Step × Text) :=
  let unsigned := text.dropWhile isBlank
  let (negative, unsigned) := match unsigned with
    | '-' :: rest => (true, rest)
    | rest => (false, rest)
  let digits := unsigned.takeWhile isDigit
  let magnitude : Int := valueOf digits
  let value := if negative then -magnitude else magnitude
  if digits = [] then
    .error .digit
  else if value < -positionLimit ∨ positionLimit ≤ value then
    .error .number
  else
    match (unsigned.dropWhile isDigit).dropWhile isBlank with
    | ']' :: rest => .ok (.position value, rest)
    | _ => .error .mark

/-- Read one step. What is no key behind a dot is taken for a position. -/
def readStep (text : Text) : Except PathError (Step × Text) :=
  match text with
  | '.' :: rest =>
      match readKey rest with
      | some (key, rest) => .ok (.key key, rest)
      | none => .error .mark
  | '[' :: rest => readPosition rest
  | _ => .error .mark

/-- Read steps to the end of the text. The number of rounds bounds the number
of steps. -/
def readSteps : (rounds : Nat) → Text → Except PathError (List Step)
  | _, [] => .ok []
  | 0, _ => .error .mark
  | rounds + 1, text =>
      match readStep text with
      | .error error => .error error
      | .ok (step, rest) =>
          match readSteps rounds rest with
          | .error error => .error error
          | .ok steps => .ok (step :: steps)

def read (text : Text) : Except PathError Path :=
  match readKey text with
  | none => .error .key
  | some (root, rest) =>
      match readSteps rest.length rest with
      | .error error => .error error
      | .ok steps => .ok ⟨root, steps⟩

example : read "a.b[ 2 ].c".toList =
    .ok ⟨"a".toList, [.key "b".toList, .position 2, .key "c".toList]⟩ := rfl

end Path

end StubDns
