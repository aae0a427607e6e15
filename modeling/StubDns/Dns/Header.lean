/-! # Message headers

A message starts with six words of two bytes, the higher byte first: an
identifier, the flags and four counts. The words are kept as they are on the
wire; only the question count is looked at when a query is read.
-/

namespace StubDns

/-- A word as two bytes, the higher one first. -/
def wordBytes (word : UInt16) : List UInt8 :=
  [UInt8.ofNat (word.toNat / 256), UInt8.ofNat (word.toNat % 256)]

/-- The word of two bytes. -/
def wordOf (high low : UInt8) : UInt16 := UInt16.ofNat (high.toNat * 256 + low.toNat)

theorem wordOf_wordBytes (word : UInt16) :
    wordOf (UInt8.ofNat (word.toNat / 256)) (UInt8.ofNat (word.toNat % 256)) = word := by
  have bound := word.toNat_lt
  apply UInt16.toNat.inj
  simp [wordOf]
  omega

theorem toNat_wordOf (high low : UInt8) :
    (wordOf high low).toNat = high.toNat * 256 + low.toNat := by
  have highBound := high.toNat_lt
  have lowBound := low.toNat_lt
  exact UInt16.toNat_ofNat_of_lt' (by simp only [UInt16.size]; omega)

theorem wordBytes_wordOf (high low : UInt8) : wordBytes (wordOf high low) = [high, low] := by
  have lowBound := low.toNat_lt
  have quotient : (high.toNat * 256 + low.toNat) / 256 = high.toNat := by omega
  have remainder : (high.toNat * 256 + low.toNat) % 256 = low.toNat := by omega
  rw [wordBytes, toNat_wordOf, quotient, remainder, UInt8.ofNat_toNat, UInt8.ofNat_toNat]

@[simp] theorem length_wordBytes (word : UInt16) : (wordBytes word).length = 2 := rfl

/-- A double word as four bytes, the highest one first. -/
def doubleWordBytes (word : UInt32) : List UInt8 :=
  [UInt8.ofNat (word.toNat / 0x1000000), UInt8.ofNat (word.toNat / 0x10000 % 256),
    UInt8.ofNat (word.toNat / 0x100 % 256), UInt8.ofNat (word.toNat % 256)]

@[simp] theorem length_doubleWordBytes (word : UInt32) : (doubleWordBytes word).length = 4 := rfl

structure Header where
  id : UInt16
  flags : UInt16
  questions : UInt16
  answers : UInt16
  authorities : UInt16
  additionals : UInt16
  deriving DecidableEq, Repr

namespace Header

/-- The number of bytes of a header. -/
def size : Nat := 12

def encode (header : Header) : List UInt8 :=
  wordBytes header.id ++ wordBytes header.flags ++ wordBytes header.questions
    ++ wordBytes header.answers ++ wordBytes header.authorities ++ wordBytes header.additionals

@[simp] theorem length_encode (header : Header) : header.encode.length = size := rfl

theorem take_encode_append (header : Header) (body : List UInt8) :
    (header.encode ++ body).take size = header.encode := rfl

theorem drop_encode_append (header : Header) (body : List UInt8) :
    (header.encode ++ body).drop size = body := rfl

/-- Read the header that bytes start with; the rest is what follows it. -/
def read? : List UInt8 → Option (Header × List UInt8)
  | a :: b :: c :: d :: e :: f :: g :: h :: i :: j :: k :: l :: rest =>
      some (⟨wordOf a b, wordOf c d, wordOf e f, wordOf g h, wordOf i j, wordOf k l⟩, rest)
  | _ => none

/-- Reading takes back what was written and leaves what follows. -/
theorem read?_encode (header : Header) (rest : List UInt8) :
    read? (header.encode ++ rest) = some (header, rest) := by
  simp [read?, encode, wordBytes, wordOf_wordBytes]

/-- Nothing else is read as a header than its bytes. -/
theorem read?_eq_some_iff {bytes body : List UInt8} {header : Header} :
    read? bytes = some (header, body) ↔ bytes = header.encode ++ body := by
  constructor
  · intro read
    unfold read? at read
    split at read
    · cases read
      simp [encode, wordBytes_wordOf]
    · cases read
  · intro equal
    rw [equal, read?_encode]

theorem encode_append_inj {left right : Header} {leftBody rightBody : List UInt8}
    (equal : left.encode ++ leftBody = right.encode ++ rightBody) :
    left = right ∧ leftBody = rightBody := by
  have read := read?_encode left leftBody
  rw [equal, read?_encode] at read
  simpa [eq_comm] using read

/-- There is a header as soon as there are enough bytes. -/
theorem read?_eq_none_iff {bytes : List UInt8} : read? bytes = none ↔ bytes.length < size := by
  rcases bytes with _ | ⟨_, _ | ⟨_, _ | ⟨_, _ | ⟨_, _ | ⟨_, _ | ⟨_, _ | ⟨_, _ | ⟨_, _ | ⟨_,
    _ | ⟨_, _ | ⟨_, _ | ⟨_, _⟩⟩⟩⟩⟩⟩⟩⟩⟩⟩⟩⟩ <;> simp [read?, size]

end Header

end StubDns
