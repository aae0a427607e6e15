import StubDns.Text.ByteLiteral

/-! # Byte literals

A text that is read as a byte literal is printable, and in it quotes and backslashes stand
behind a backslash only. Bytes that were escaped are read back, whatever follows them: an escape
is complete in itself, so that the bytes behind it cannot change its meaning.
-/

namespace StubDns.ByteLiteral

/-! ## Characters of literals -/

def IsPrintable (char : Char) : Prop := ' ' ≤ char ∧ char ≤ '~'

/-- A quote or a backslash, with which a literal would end or an escape start. -/
def IsMark (char : Char) : Prop := char = '"' ∨ char = '\'' ∨ char = '\\'

/-- The characters of a text besides the backslashes that escape the next character and the
characters that are escaped by them. -/
def bare : Text → Text
  | '\\' :: _ :: rest => bare rest
  | char :: rest => char :: bare rest
  | [] => []

/-- The second backslash is escaped, so that the quote is not. -/
example : bare "\\x41\\\\'".toList = ['4', '1', '\''] := by decide

/-- A text is printable, and its quotes and backslashes are escaped. -/
structure Clean (text : Text) : Prop where
  printable : ∀ char ∈ text, IsPrintable char
  escaped : ∀ char ∈ bare text, ¬ IsMark char

namespace Clean

theorem nil : Clean [] := ⟨List.forall_mem_nil _, List.forall_mem_nil _⟩

theorem cons {char : Char} {rest : Text} (printable : IsPrintable char) (noMark : ¬ IsMark char)
    (clean : Clean rest) : Clean (char :: rest) := by
  refine ⟨List.forall_mem_cons.mpr ⟨printable, clean.printable⟩, ?_⟩
  rw [bare]
  · exact List.forall_mem_cons.mpr ⟨noMark, clean.escaped⟩
  · intro next others equal
    exact absurd (.inr (.inr equal)) noMark

theorem escape {letter : Char} {rest : Text} (printable : IsPrintable letter)
    (clean : Clean rest) : Clean ('\\' :: letter :: rest) := by
  have backslash : IsPrintable '\\' := ⟨by decide, by decide⟩
  refine ⟨?_, clean.escaped⟩
  exact List.forall_mem_cons.mpr ⟨backslash, List.forall_mem_cons.mpr ⟨printable, clean.printable⟩⟩

end Clean

theorem isPrintable_of_between {low high char : Char} (above : low ≤ char) (below : char ≤ high)
    (printable : ' ' ≤ low ∧ high ≤ '~') : IsPrintable char :=
  ⟨Char.le_trans printable.1 above, Char.le_trans below printable.2⟩

section Digits

variable {char : Char} {value : Nat} (digit : digit? char = some value)

include digit

theorem isPrintable_of_digit? : IsPrintable char := by
  rw [digit?] at digit
  split at digit
  · next range => exact isPrintable_of_between range.1 range.2 (by decide)
  · split at digit
    · next range => exact isPrintable_of_between range.1 range.2 (by decide)
    · split at digit
      · next range => exact isPrintable_of_between range.1 range.2 (by decide)
      · cases digit

theorem not_isMark_of_digit? : ¬ IsMark char := by
  intro mark
  rcases mark with equal | equal | equal <;> simp [equal, digit?] at digit

end Digits

theorem isPrintable_of_escapedByte? {letter : Char} {byte : UInt8}
    (escaped : escapedByte? letter = some byte) : IsPrintable letter := by
  have letters : letter ∈ ['t', 'n', 'r', '"', '\'', '\\'] := by
    simp only [List.mem_cons, List.not_mem_nil, or_false]
    rw [escapedByte?] at escaped
    split at escaped
    · next equal => exact .inl equal
    · split at escaped
      · next equal => exact .inr (.inl equal)
      · split at escaped
        · next equal => exact .inr (.inr (.inl equal))
        · split at escaped
          · next mark => exact .inr (.inr (.inr mark))
          · cases escaped
  have all : (['t', 'n', 'r', '"', '\'', '\\'].all fun letter =>
      decide (' ' ≤ letter) && decide (letter ≤ '~')) = true := by decide
  have printable := List.all_eq_true.mp all letter letters
  rw [Bool.and_eq_true, decide_eq_true_eq, decide_eq_true_eq] at printable
  exact printable

theorem isPlain_iff (char : Char) : isPlain char = true ↔ IsPrintable char ∧ ¬ IsMark char := by
  simp [isPlain, IsPrintable, IsMark, and_assoc]

/-! ## Reading -/

theorem read?_code {high low : Char} {highValue lowValue : Nat}
    (highDigit : digit? high = some highValue) (lowDigit : digit? low = some lowValue)
    (rest : Text) :
    read? ('\\' :: 'x' :: high :: low :: rest) =
      (read? rest).map (UInt8.ofNat (highValue * 16 + lowValue) :: ·) := by
  rw [read?, highDigit, lowDigit]
  cases read? rest <;> rfl

theorem read?_letter {letter : Char} {byte : UInt8} (escaped : escapedByte? letter = some byte)
    (rest : Text) : read? ('\\' :: letter :: rest) = (read? rest).map (byte :: ·) := by
  have different : letter ≠ 'x' := by
    intro equal
    rw [equal] at escaped
    cases escaped
  rw [read?, escaped]
  · cases read? rest <;> rfl
  · intro high low others equal
    exact absurd equal different

theorem read?_plain {char : Char} (plain : isPlain char = true) (rest : Text) :
    read? (char :: rest) = (read? rest).map (UInt8.ofNat char.toNat :: ·) := by
  have different : char ≠ '\\' := fun equal =>
    ((isPlain_iff char).mp plain).2 (.inr (.inr equal))
  rw [read?, if_pos plain]
  · intro high low others equal
    exact absurd equal different
  · intro letter others equal
    exact absurd equal different

theorem clean_of_read? {text : Text} {bytes : List UInt8} (read : read? text = some bytes) :
    Clean text := by
  induction text using read?.induct generalizing bytes with
  | case1 => exact .nil
  | case2 high low rest induction =>
      rw [read?] at read
      simp only [Option.bind_eq_bind, Option.bind_eq_some_iff] at read
      rcases read with ⟨highValue, highDigit, lowValue, lowDigit, others, readRest, -⟩
      apply Clean.escape ⟨by decide, by decide⟩
      apply Clean.cons (isPrintable_of_digit? highDigit) (not_isMark_of_digit? highDigit)
      apply Clean.cons (isPrintable_of_digit? lowDigit) (not_isMark_of_digit? lowDigit)
      exact induction readRest
  | case3 letter rest noCode induction =>
      rw [read?] at read
      · simp only [Option.bind_eq_bind, Option.bind_eq_some_iff] at read
        rcases read with ⟨byte, escaped, others, readRest, -⟩
        exact .escape (isPrintable_of_escapedByte? escaped) (induction readRest)
      · exact noCode
  | case4 char rest noCode noLetter plain induction =>
      rw [read?_plain plain, Option.map_eq_some_iff] at read
      rcases read with ⟨others, readRest, -⟩
      rcases (isPlain_iff char).mp plain with ⟨printable, noMark⟩
      exact .cons printable noMark (induction readRest)
  | case5 char rest noCode noLetter notPlain =>
      rw [read?, if_neg notPlain] at read
      · cases read
      · exact noCode
      · exact noLetter

/-! ## Reading back -/

theorem digit?_hexDigit {value : Nat} (small : value < 16) :
    digit? (hexDigit value) = some value := by
  have all : ∀ value < 16, digit? (hexDigit value) = some value := by decide
  exact all value small

/-- Characters that stand for themselves stand for their own byte. -/
theorem isPlain_ofNat {byte : UInt8} (range : 32 ≤ byte ∧ byte ≤ 126)
    (noMark : ¬ (byte = 34 ∨ byte = 39 ∨ byte = 92)) :
    isPlain (Char.ofNat byte.toNat) = true ∧ (Char.ofNat byte.toNat).toNat = byte.toNat := by
  have all : ∀ code < 127, 32 ≤ code → ¬ (code = 34 ∨ code = 39 ∨ code = 92) →
      isPlain (Char.ofNat code) = true ∧ (Char.ofNat code).toNat = code := by
    decide +kernel
  have above : 32 ≤ byte.toNat := UInt8.le_iff_toNat_le.mp range.1
  have below : byte.toNat < 127 := Nat.lt_succ_of_le (UInt8.le_iff_toNat_le.mp range.2)
  apply all byte.toNat below above
  rw [← UInt8.toNat_inj, ← UInt8.toNat_inj, ← UInt8.toNat_inj] at noMark
  exact noMark

theorem read?_escapeByte_append (byte : UInt8) (rest : Text) :
    read? (escapeByte byte ++ rest) = (read? rest).map (byte :: ·) := by
  rw [escapeByte]
  split
  · next tab =>
      rw [tab]
      exact read?_letter rfl rest
  · split
    · next newline =>
        rw [newline]
        exact read?_letter rfl rest
    · split
      · next returns =>
          rw [returns]
          exact read?_letter rfl rest
      · split
        · next mark =>
            rcases mark with equal | equal | equal <;> rw [equal] <;> exact read?_letter rfl rest
        · next noMark =>
            split
            · next range =>
                rcases isPlain_ofNat range noMark with ⟨plain, code⟩
                rw [List.singleton_append, read?_plain plain, code, UInt8.ofNat_toNat]
            · have bound := byte.toNat_lt
              have high : byte.toNat / 16 < 16 := by omega
              have low : byte.toNat % 16 < 16 := by omega
              have whole : byte.toNat / 16 * 16 + byte.toNat % 16 = byte.toNat := by omega
              refine (read?_code (digit?_hexDigit high) (digit?_hexDigit low) rest).trans ?_
              rw [whole, UInt8.ofNat_toNat]

/-- Bytes that were escaped are read back. -/
theorem read?_escape (bytes : List UInt8) : read? (escape bytes) = some bytes := by
  induction bytes with
  | nil => rfl
  | cons byte rest induction =>
      rw [escape, List.flatMap_cons, read?_escapeByte_append]
      change (read? (escape rest)).map _ = _
      rw [induction]
      rfl

end StubDns.ByteLiteral
