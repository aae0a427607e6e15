import StubDns.Text.Utf8

/-! # Domain names on the wire

A name is written label by label, each after a byte with its length, and ends
with a zero byte. Writing checks nothing: an empty label is written as a zero
byte, and a length is taken modulo 256. Reading is strict: a label has at most
63 bytes, and it must be complete.
-/

namespace StubDns

/-- The largest number of bytes in a label. -/
def Name.maxLabel : Nat := 63

/-- Why bytes are no query. -/
inductive DecodeError
  /-- The bytes end too early. -/
  | truncated
  /-- The header announces no question. -/
  | noQuestion
  /-- A label is announced longer than a label may be. -/
  | labelTooLong (length : Nat)
  deriving DecidableEq, Repr

/-- The kind of an error, in one word. -/
def DecodeError.kind : DecodeError → String
  | .truncated => "UnexpectedEof"
  | .noQuestion => "InvalidData"
  | .labelTooLong _ => "InvalidData"

def DecodeError.message : DecodeError → String
  | .truncated => "failed to fill whole buffer"
  | .noQuestion => "query carries no question"
  | .labelTooLong length => s!"label length {length} exceeds {Name.maxLabel}"

namespace Name

/-! ## Writing -/

/-- The labels of a domain. The empty domain, the root, has none. -/
def labels (domain : Text) : List Text :=
  if domain = [] then [] else Text.cut '.' domain

/-- Label bytes after the byte with their number. -/
def encodeLabel (bytes : List UInt8) : List UInt8 := UInt8.ofNat bytes.length :: bytes

/-- Labels one after the other, without the end. -/
def encodeLabels (labels : List (List UInt8)) : List UInt8 := labels.flatMap encodeLabel

def encode (domain : Text) : List UInt8 :=
  encodeLabels ((labels domain).map Utf8.encode) ++ [0]

/-- An empty label looks like the end of a name. -/
example : encode "com.".toList = [3, 0x63, 0x6F, 0x6D, 0, 0] := by decide

/-! ## Reading -/

/-- Read the labels that bytes start with, up to and with the zero byte; the
rest is what follows it. -/
def readLabels : List UInt8 → Except DecodeError (List (List UInt8) × List UInt8)
  | [] => .error .truncated
  | length :: rest =>
      if length = 0 then
        .ok ([], rest)
      else if maxLabel < length.toNat then
        .error (.labelTooLong length.toNat)
      else if rest.length < length.toNat then
        .error .truncated
      else
        match readLabels (rest.drop length.toNat) with
        | .error error => .error error
        | .ok (others, after) => .ok (rest.take length.toNat :: others, after)
termination_by bytes => bytes.length
decreasing_by simp only [List.length_drop, List.length_cons]; omega

/-- The text of labels: each is read as UTF-8 by itself, and dots go between. -/
def text (labels : List (List UInt8)) : Text := Text.join '.' (labels.map Utf8.decodeLossy)

end Name

end StubDns
