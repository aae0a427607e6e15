import StubDns.Number.Whole
import StubDns.Text.Basic

/-! # Dates and times

A date, a time of day, or both with an optional offset from universal time.
They are read only to be written again in one form: a capital T in between, a
capital Z for universal time, and no zeros at the end of a fraction.

They are read from the start of a text, as values of a document are, or as the
whole of one.
-/

namespace StubDns.Toml

structure Date where
  year : Nat
  month : Nat
  day : Nat
  deriving DecidableEq, Repr

structure Time where
  hour : Nat
  minute : Nat
  second : Nat
  nanosecond : Nat
  deriving DecidableEq, Repr

/-- The distance from universal time. -/
inductive Offset
  | universal
  | minutes (ahead : Int)
  deriving DecidableEq, Repr

inductive Datetime
  | date (date : Date)
  | time (time : Time)
  | full (date : Date) (time : Time) (offset : Option Offset)
  deriving DecidableEq, Repr

/-! ## Writing -/

/-- A number with leading zeros up to `width` digits. -/
def zeroPadded (width value : Nat) : Text :=
  let digits := Whole.render value
  List.replicate (width - digits.length) '0' ++ digits

def Date.render (date : Date) : Text :=
  zeroPadded 4 date.year ++ '-' :: zeroPadded 2 date.month ++ '-' :: zeroPadded 2 date.day

/-- The fraction of a second with its point; nothing for none. -/
def renderFraction (nanosecond : Nat) : Text :=
  if nanosecond = 0 then []
  else '.' :: ((zeroPadded 9 nanosecond).reverse.dropWhile (· = '0')).reverse

def Time.render (time : Time) : Text :=
  zeroPadded 2 time.hour ++ ':' :: zeroPadded 2 time.minute ++ ':' :: zeroPadded 2 time.second
    ++ renderFraction time.nanosecond

def Offset.render : Offset → Text
  | .universal => ['Z']
  | .minutes ahead =>
      (if ahead < 0 then '-' else '+') :: zeroPadded 2 (ahead.natAbs / 60) ++
        ':' :: zeroPadded 2 (ahead.natAbs % 60)

def Datetime.render : Datetime → Text
  | .date onDay => onDay.render
  | .time atTime => atTime.render
  | .full onDay atTime offset =>
      onDay.render ++ 'T' :: atTime.render ++ (offset.map Offset.render).getD []

/-! ## Reading -/

/-- Read exactly `count` digits. -/
def readFixed : (count : Nat) → Nat → Text → Option (Nat × Text)
  | 0, value, text => some (value, text)
  | count + 1, value, char :: rest =>
      match Whole.digit? char with
      | some digit => readFixed count (value * 10 + digit) rest
      | none => none
  | _ + 1, _, [] => none

/-- Read two digits of a value from `least` to `most`. -/
def readField (least most : Nat) (text : Text) : Option (Nat × Text) := do
  let (value, rest) ← readFixed 2 0 text
  if least ≤ value ∧ value ≤ most then some (value, rest) else none

/-- Read one given character. -/
def readMark (mark : Char) : Text → Option Text
  | char :: rest => if char = mark then some rest else none
  | [] => none

def isLeapYear (year : Nat) : Bool :=
  year % 4 = 0 && (year % 100 != 0 || year % 400 = 0)

def daysInMonth (year month : Nat) : Nat :=
  if month = 2 then (if isLeapYear year then 29 else 28)
  else if month = 4 ∨ month = 6 ∨ month = 9 ∨ month = 11 then 30
  else 31

/-- Read a date that the calendar has. -/
def Date.readStart (text : Text) : Option (Date × Text) := do
  let (year, rest) ← readFixed 4 0 text
  let rest ← readMark '-' rest
  let (month, rest) ← readField 1 12 rest
  let rest ← readMark '-' rest
  let (day, rest) ← readField 1 31 rest
  if day ≤ daysInMonth year month then some (⟨year, month, day⟩, rest) else none

example : Date.readStart "2000-02-30".toList = none := by decide +kernel

/-- Read the fraction of a second. Digits after the ninth are dropped. -/
def readFraction : Text → Option (Nat × Text)
  | '.' :: text =>
      let digits := text.takeWhile fun char => (Whole.digit? char).isSome
      let rest := text.dropWhile fun char => (Whole.digit? char).isSome
      let kept := (digits ++ List.replicate 9 '0').take 9
      if digits = [] then none
      else some ((kept.filterMap Whole.digit?).foldl (fun value digit => value * 10 + digit) 0, rest)
  | text => some (0, text)

/-- Read a time of day. A minute may have a leap second. -/
def Time.readStart (text : Text) : Option (Time × Text) := do
  let (hour, rest) ← readField 0 23 text
  let rest ← readMark ':' rest
  let (minute, rest) ← readField 0 59 rest
  let rest ← readMark ':' rest
  let (second, rest) ← readField 0 60 rest
  let (nanosecond, rest) ← readFraction rest
  return (⟨hour, minute, second, nanosecond⟩, rest)

/-- Read hours and minutes of an offset, given what they count for. -/
def readOffsetMinutes (sign : Int) (text : Text) : Option (Option Offset × Text) := do
  let (hour, rest) ← readField 0 23 text
  let rest ← readMark ':' rest
  let (minute, rest) ← readField 0 59 rest
  return (some (.minutes (sign * (hour * 60 + minute))), rest)

/-- Read an offset if there is one. -/
def readOffset : Text → Option (Option Offset × Text)
  | 'Z' :: rest => some (some .universal, rest)
  | 'z' :: rest => some (some .universal, rest)
  | '+' :: rest => readOffsetMinutes 1 rest
  | '-' :: rest => readOffsetMinutes (-1) rest
  | rest => some (none, rest)

/-- A character that may stand between date and time. -/
def separatesTime (char : Char) : Bool := char = 'T' || char = 't' || char = ' '

/-- Read what follows a date: a time with its offset, or nothing of the date. -/
def readAfterDate (onDay : Date) (text : Text) : Option (Datetime × Text) :=
  match text with
  | char :: rest =>
      if separatesTime char then
        match Time.readStart rest with
        | some (atTime, rest) => do
            let (offset, rest) ← readOffset rest
            return (.full onDay atTime offset, rest)
        | none => some (.date onDay, text)
      else
        some (.date onDay, text)
  | [] => some (.date onDay, [])

/-- Read a date, a time, or both. -/
def Datetime.readStart (text : Text) : Option (Datetime × Text) :=
  match Date.readStart text with
  | some (onDay, rest) => readAfterDate onDay rest
  | none => (Time.readStart text).map fun (atTime, rest) => (.time atTime, rest)

/-- A blank may be all that separates a date from what follows it. -/
example : Datetime.readStart "1979-05-27 # day".toList =
    some (.date ⟨1979, 5, 27⟩, " # day".toList) := by decide +kernel

/-- Read a text that is a date, a time, or both, and nothing else. -/
def Datetime.read? (text : Text) : Option Datetime :=
  match Datetime.readStart text with
  | some (value, []) => some value
  | _ => none

/-- An offset needs a date. -/
example : Datetime.read? "07:32:00Z".toList = none := by decide +kernel

end StubDns.Toml
