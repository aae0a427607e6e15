import StubDns.Text.Basic

/-! # UTF-8

Texts are written as bytes and bytes are read as text. Reading never fails:
`decodeLossy` puts one U+FFFD in the place of each maximal part that is not
UTF-8, that is, of the longest start of a well-formed sequence, or of one byte
that starts none. `decode?` accepts exactly the bytes that some text is written
as.
-/

namespace StubDns.Utf8

/-! ## Writing -/

/-- The one to four bytes of a character. -/
def encodeChar (char : Char) : List UInt8 :=
  let code := char.toNat
  if code < 0x80 then
    [UInt8.ofNat code]
  else if code < 0x800 then
    [UInt8.ofNat (0xC0 + code / 0x40), UInt8.ofNat (0x80 + code % 0x40)]
  else if code < 0x10000 then
    [UInt8.ofNat (0xE0 + code / 0x1000), UInt8.ofNat (0x80 + code / 0x40 % 0x40),
      UInt8.ofNat (0x80 + code % 0x40)]
  else
    [UInt8.ofNat (0xF0 + code / 0x40000), UInt8.ofNat (0x80 + code / 0x1000 % 0x40),
      UInt8.ofNat (0x80 + code / 0x40 % 0x40), UInt8.ofNat (0x80 + code % 0x40)]

def encode (text : Text) : List UInt8 := text.flatMap encodeChar

@[simp] theorem encode_nil : encode [] = [] := rfl

@[simp] theorem encode_cons (head : Char) (tail : Text) :
    encode (head :: tail) = encodeChar head ++ encode tail := rfl

@[simp] theorem encode_append (left right : Text) :
    encode (left ++ right) = encode left ++ encode right := by
  simp [encode]

/-! ## Reading -/

/-- The character that stands for bytes that are not UTF-8. -/
def replacement : Char := '\uFFFD'

/-- A byte that continues a sequence: `10xxxxxx`. -/
def isContinuation (byte : UInt8) : Bool := 0x80 ≤ byte && byte ≤ 0xBF

/-- The bytes that may follow the lead byte of a three-byte sequence. They
exclude forms that are too long and the surrogates. -/
def secondOfThree (lead second : UInt8) : Bool :=
  if lead = 0xE0 then 0xA0 ≤ second && second ≤ 0xBF
  else if lead = 0xED then 0x80 ≤ second && second ≤ 0x9F
  else isContinuation second

/-- The bytes that may follow the lead byte of a four-byte sequence. They
exclude forms that are too long and codes above `10FFFF`. -/
def secondOfFour (lead second : UInt8) : Bool :=
  if lead = 0xF0 then 0x90 ≤ second && second ≤ 0xBF
  else if lead = 0xF4 then 0x80 ≤ second && second ≤ 0x8F
  else isContinuation second

/-- The low six bits of a continuation byte. -/
def payload (byte : UInt8) : Nat := byte.toNat % 0x40

/-- Read one character after its lead byte: the character and how many of the
following bytes belong to it. A part that is no character yields the
replacement and the bytes that agreed with a sequence so far. -/
def piece (lead : UInt8) (rest : List UInt8) : Char × Nat :=
  if lead < 0x80 then
    (Char.ofNat lead.toNat, 0)
  else if 0xC2 ≤ lead && lead ≤ 0xDF then
    match rest with
    | second :: _ =>
        if isContinuation second then
          (Char.ofNat (lead.toNat % 0x20 * 0x40 + payload second), 1)
        else
          (replacement, 0)
    | [] => (replacement, 0)
  else if 0xE0 ≤ lead && lead ≤ 0xEF then
    match rest with
    | second :: third :: _ =>
        if !secondOfThree lead second then (replacement, 0)
        else if !isContinuation third then (replacement, 1)
        else
          (Char.ofNat (lead.toNat % 0x10 * 0x1000 + payload second * 0x40 + payload third), 2)
    | [second] => (replacement, if secondOfThree lead second then 1 else 0)
    | [] => (replacement, 0)
  else if 0xF0 ≤ lead && lead ≤ 0xF4 then
    match rest with
    | second :: third :: fourth :: _ =>
        if !secondOfFour lead second then (replacement, 0)
        else if !isContinuation third then (replacement, 1)
        else if !isContinuation fourth then (replacement, 2)
        else
          (Char.ofNat (lead.toNat % 0x08 * 0x40000 + payload second * 0x1000
            + payload third * 0x40 + payload fourth), 3)
    | [second, third] =>
        (replacement,
          if !secondOfFour lead second then 0 else if isContinuation third then 2 else 1)
    | [second] => (replacement, if secondOfFour lead second then 1 else 0)
    | [] => (replacement, 0)
  else
    (replacement, 0)

/-- Read bytes as text, with one replacement character for each maximal part
that is not UTF-8. -/
def decodeLossy : List UInt8 → Text
  | [] => []
  | lead :: rest =>
      let part := piece lead rest
      part.1 :: decodeLossy (rest.drop part.2)
termination_by bytes => bytes.length
decreasing_by simp only [List.length_drop, List.length_cons]; omega

/-- A sequence that ends early is one part; a byte that starts nothing is another. -/
example : decodeLossy [0x61, 0xE2, 0x82, 0xFF, 0xC3, 0xA9] =
    ['a', replacement, replacement, 'é'] := by decide +kernel

/-- Read bytes as text if they are the bytes of a text: reading with
replacement and writing again must give the same bytes. -/
def decode? (bytes : List UInt8) : Option Text :=
  let text := decodeLossy bytes
  if encode text = bytes then some text else none

example : decode? [0xED, 0xA0, 0x80] = none := by decide +kernel

end StubDns.Utf8
