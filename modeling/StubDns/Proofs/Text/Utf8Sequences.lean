import StubDns.Text.Utf8

/-! # Sequences of UTF-8

The byte sequences that are one character, as a grammar beside the reader and
the writer: a character is written as a sequence, a sequence is read as its
character whatever follows, and a part that is no sequence is read as one
replacement for one to three bytes. It follows that reading takes back what was
written, and that reading and writing again at most triples the bytes.
-/

namespace StubDns.Utf8

/-! ## Classes of bytes -/

theorem isContinuation_iff (byte : UInt8) :
    isContinuation byte = true ↔ 0x80 ≤ byte.toNat ∧ byte.toNat ≤ 0xBF := by
  simp [isContinuation, UInt8.le_iff_toNat_le]

/-- The bytes behind a lead byte continue a sequence, and two leads allow fewer of
them. -/
theorem second_iff {first last low high lead second : UInt8} (different : first ≠ last)
    (above : 0x80 ≤ low.toNat) (below : high.toNat ≤ 0xBF) :
    (if lead = first then low ≤ second && second ≤ 0xBF
      else if lead = last then 0x80 ≤ second && second ≤ high
      else isContinuation second) = true ↔
      (0x80 ≤ second.toNat ∧ second.toNat ≤ 0xBF) ∧
        (lead.toNat = first.toNat → low.toNat ≤ second.toNat) ∧
        (lead.toNat = last.toNat → second.toNat ≤ high.toNat) := by
  have apart : first.toNat ≠ last.toNat := fun equal => different (UInt8.toNat_inj.mp equal)
  have atFirst : lead = first ↔ lead.toNat = first.toNat := UInt8.toNat_inj.symm
  have atLast : lead = last ↔ lead.toNat = last.toNat := UInt8.toNat_inj.symm
  simp only [atFirst, atLast]
  split
  · simp only [Bool.and_eq_true, decide_eq_true_eq, UInt8.le_iff_toNat_le, UInt8.reduceToNat]
    omega
  · split
    · simp only [Bool.and_eq_true, decide_eq_true_eq, UInt8.le_iff_toNat_le,
        UInt8.reduceToNat]
      omega
    · rw [isContinuation_iff]
      omega

theorem secondOfThree_iff (lead second : UInt8) :
    secondOfThree lead second = true ↔
      (0x80 ≤ second.toNat ∧ second.toNat ≤ 0xBF) ∧
        (lead.toNat = 0xE0 → 0xA0 ≤ second.toNat) ∧
        (lead.toNat = 0xED → second.toNat ≤ 0x9F) :=
  second_iff (by decide) (by decide) (by decide)

theorem secondOfFour_iff (lead second : UInt8) :
    secondOfFour lead second = true ↔
      (0x80 ≤ second.toNat ∧ second.toNat ≤ 0xBF) ∧
        (lead.toNat = 0xF0 → 0x90 ≤ second.toNat) ∧
        (lead.toNat = 0xF4 → second.toNat ≤ 0x8F) :=
  second_iff (by decide) (by decide) (by decide)

theorem ofNat_eq {value : Nat} {byte : UInt8} (equal : value = byte.toNat) :
    UInt8.ofNat value = byte := by
  rw [equal, UInt8.ofNat_toNat]

theorem toNat_ofNat {value : Nat} (small : value < 0x100) :
    (UInt8.ofNat value).toNat = value :=
  UInt8.toNat_ofNat_of_lt' small

/-! ## The bytes of one character -/

theorem encodeChar_one {char : Char} (high : char.toNat < 0x80) :
    encodeChar char = [UInt8.ofNat char.toNat] := by
  simp [encodeChar, high]

theorem encodeChar_two {char : Char} (low : 0x80 ≤ char.toNat)
    (high : char.toNat < 0x800) :
    encodeChar char =
      [UInt8.ofNat (0xC0 + char.toNat / 0x40), UInt8.ofNat (0x80 + char.toNat % 0x40)] := by
  have notOne : ¬ char.toNat < 0x80 := by omega
  simp [encodeChar, notOne, high]

theorem encodeChar_three {char : Char} (low : 0x800 ≤ char.toNat)
    (high : char.toNat < 0x10000) :
    encodeChar char =
      [UInt8.ofNat (0xE0 + char.toNat / 0x1000), UInt8.ofNat (0x80 + char.toNat / 0x40 % 0x40),
        UInt8.ofNat (0x80 + char.toNat % 0x40)] := by
  have notOne : ¬ char.toNat < 0x80 := by omega
  have notTwo : ¬ char.toNat < 0x800 := by omega
  simp [encodeChar, notOne, notTwo, high]

theorem encodeChar_four {char : Char} (low : 0x10000 ≤ char.toNat) :
    encodeChar char =
      [UInt8.ofNat (0xF0 + char.toNat / 0x40000),
        UInt8.ofNat (0x80 + char.toNat / 0x1000 % 0x40),
        UInt8.ofNat (0x80 + char.toNat / 0x40 % 0x40), UInt8.ofNat (0x80 + char.toNat % 0x40)] := by
  have notOne : ¬ char.toNat < 0x80 := by omega
  have notTwo : ¬ char.toNat < 0x800 := by omega
  have notThree : ¬ char.toNat < 0x10000 := by omega
  simp [encodeChar, notOne, notTwo, notThree]

/-- The bytes of one character, with its code point. -/
inductive Sequence : List UInt8 → Nat → Prop
  | one {lead : UInt8} (ascii : lead.toNat < 0x80) : Sequence [lead] lead.toNat
  | two {lead second : UInt8} (low : 0xC2 ≤ lead.toNat) (high : lead.toNat ≤ 0xDF)
      (follows : isContinuation second = true) :
      Sequence [lead, second] (lead.toNat % 0x20 * 0x40 + payload second)
  | three {lead second third : UInt8} (low : 0xE0 ≤ lead.toNat) (high : lead.toNat ≤ 0xEF)
      (follows : secondOfThree lead second = true) (ends : isContinuation third = true) :
      Sequence [lead, second, third]
        (lead.toNat % 0x10 * 0x1000 + payload second * 0x40 + payload third)
  | four {lead second third fourth : UInt8} (low : 0xF0 ≤ lead.toNat)
      (high : lead.toNat ≤ 0xF4) (follows : secondOfFour lead second = true)
      (goesOn : isContinuation third = true) (ends : isContinuation fourth = true) :
      Sequence [lead, second, third, fourth]
        (lead.toNat % 0x08 * 0x40000 + payload second * 0x1000 + payload third * 0x40
          + payload fourth)

namespace Sequence

theorem isValidChar {bytes : List UInt8} {code : Nat} (sequence : Sequence bytes code) :
    code.isValidChar := by
  cases sequence with
  | one ascii => exact .inl (by omega)
  | two low high follows =>
      rw [isContinuation_iff] at follows
      simp only [Nat.isValidChar, payload]
      omega
  | three low high follows ends =>
      rw [secondOfThree_iff] at follows
      simp only [Nat.isValidChar, payload]
      omega
  | four low high follows goesOn ends =>
      rw [secondOfFour_iff] at follows
      simp only [Nat.isValidChar, payload]
      omega

/-! The bytes of a code point are a sequence for it, by the number of bytes. -/

theorem of_two {lead second : UInt8} {code : Nat} (low : 0x80 ≤ code) (high : code < 0x800)
    (atLead : lead.toNat = 0xC0 + code / 0x40) (atSecond : second.toNat = 0x80 + code % 0x40) :
    Sequence [lead, second] code := by
  have follows : isContinuation second = true := by
    rw [isContinuation_iff]
    omega
  have value : lead.toNat % 0x20 * 0x40 + payload second = code := by
    simp only [payload]
    omega
  exact value ▸ .two (by omega) (by omega) follows

theorem of_three {lead second third : UInt8} {code : Nat} (low : 0x800 ≤ code)
    (high : code < 0x10000) (valid : code.isValidChar)
    (atLead : lead.toNat = 0xE0 + code / 0x1000)
    (atSecond : second.toNat = 0x80 + code / 0x40 % 0x40)
    (atThird : third.toNat = 0x80 + code % 0x40) :
    Sequence [lead, second, third] code := by
  simp only [Nat.isValidChar] at valid
  have follows : secondOfThree lead second = true := by
    rw [secondOfThree_iff]
    omega
  have ends : isContinuation third = true := by
    rw [isContinuation_iff]
    omega
  have value : lead.toNat % 0x10 * 0x1000 + payload second * 0x40 + payload third = code := by
    simp only [payload]
    omega
  exact value ▸ .three (by omega) (by omega) follows ends

theorem of_four {lead second third fourth : UInt8} {code : Nat} (low : 0x10000 ≤ code)
    (valid : code.isValidChar) (atLead : lead.toNat = 0xF0 + code / 0x40000)
    (atSecond : second.toNat = 0x80 + code / 0x1000 % 0x40)
    (atThird : third.toNat = 0x80 + code / 0x40 % 0x40)
    (atFourth : fourth.toNat = 0x80 + code % 0x40) :
    Sequence [lead, second, third, fourth] code := by
  simp only [Nat.isValidChar] at valid
  have follows : secondOfFour lead second = true := by
    rw [secondOfFour_iff]
    omega
  have goesOn : isContinuation third = true := by
    rw [isContinuation_iff]
    omega
  have ends : isContinuation fourth = true := by
    rw [isContinuation_iff]
    omega
  have value : lead.toNat % 0x08 * 0x40000 + payload second * 0x1000
      + payload third * 0x40 + payload fourth = code := by
    simp only [payload]
    omega
  exact value ▸ .four (by omega) (by omega) follows goesOn ends

end Sequence

theorem sequence_encodeChar (char : Char) : Sequence (encodeChar char) char.toNat := by
  have valid : char.toNat.isValidChar := char.valid
  have bound : char.toNat < 0x110000 := by
    simp only [Nat.isValidChar] at valid
    omega
  by_cases one : char.toNat < 0x80
  · rw [encodeChar_one one]
    have lead : (UInt8.ofNat char.toNat).toNat = char.toNat := toNat_ofNat (by omega)
    have sequence : Sequence [UInt8.ofNat char.toNat] _ := .one (by omega)
    rwa [lead] at sequence
  by_cases two : char.toNat < 0x800
  · rw [encodeChar_two (by omega) two]
    exact .of_two (by omega) two (toNat_ofNat (by omega)) (toNat_ofNat (by omega))
  by_cases three : char.toNat < 0x10000
  · rw [encodeChar_three (by omega) three]
    exact .of_three (by omega) three valid (toNat_ofNat (by omega))
      (toNat_ofNat (by omega)) (toNat_ofNat (by omega))
  · rw [encodeChar_four (by omega)]
    exact .of_four (by omega) valid (toNat_ofNat (by omega)) (toNat_ofNat (by omega))
      (toNat_ofNat (by omega)) (toNat_ofNat (by omega))

namespace Sequence

theorem encodeChar_eq {bytes : List UInt8} {char : Char}
    (sequence : Sequence bytes char.toNat) : encodeChar char = bytes := by
  generalize equal : char.toNat = code at sequence
  cases sequence with
  | one ascii => rw [encodeChar_one (equal ▸ ascii), equal, UInt8.ofNat_toNat]
  | two low high follows =>
      rw [isContinuation_iff] at follows
      simp only [payload] at equal
      rw [encodeChar_two (by omega) (by omega)]
      simp only [List.cons.injEq, and_true]
      exact ⟨ofNat_eq (by omega), ofNat_eq (by omega)⟩
  | three low high follows ends =>
      rw [secondOfThree_iff] at follows
      rw [isContinuation_iff] at ends
      simp only [payload] at equal
      rw [encodeChar_three (by omega) (by omega)]
      simp only [List.cons.injEq, and_true]
      exact ⟨ofNat_eq (by omega), ofNat_eq (by omega), ofNat_eq (by omega)⟩
  | four low high follows goesOn ends =>
      rw [secondOfFour_iff] at follows
      rw [isContinuation_iff] at goesOn ends
      simp only [payload] at equal
      rw [encodeChar_four (by omega)]
      simp only [List.cons.injEq, and_true]
      exact ⟨ofNat_eq (by omega), ofNat_eq (by omega), ofNat_eq (by omega),
        ofNat_eq (by omega)⟩

theorem toNat_char {bytes : List UInt8} {code : Nat} (sequence : Sequence bytes code) :
    (Char.ofNat code).toNat = code := by
  rw [Char.ofNat, dif_pos sequence.isValidChar]
  rfl

theorem encodeChar_ofNat {bytes : List UInt8} {code : Nat} (sequence : Sequence bytes code) :
    encodeChar (Char.ofNat code) = bytes :=
  encodeChar_eq (sequence.toNat_char.symm ▸ sequence)

/-! ## Reading one part -/

theorem piece_eq {lead : UInt8} {others : List UInt8} {code : Nat}
    (sequence : Sequence (lead :: others) code) (rest : List UInt8) :
    piece lead (others ++ rest) = (Char.ofNat code, others.length) := by
  cases sequence with
  | one ascii => simp [piece, UInt8.lt_iff_toNat_lt, ascii]
  | two low high follows =>
      have notOne : ¬ lead.toNat < 0x80 := by omega
      simp [piece, UInt8.lt_iff_toNat_lt, UInt8.le_iff_toNat_le, notOne, low, high, follows]
  | three low high follows ends =>
      have notOne : ¬ lead.toNat < 0x80 := by omega
      have notTwo : ¬ lead.toNat ≤ 0xDF := by omega
      simp [piece, UInt8.lt_iff_toNat_lt, UInt8.le_iff_toNat_le, notOne, notTwo, low, high,
        follows, ends]
  | four low high follows goesOn ends =>
      have notOne : ¬ lead.toNat < 0x80 := by omega
      have notTwo : ¬ lead.toNat ≤ 0xDF := by omega
      have notThree : ¬ lead.toNat ≤ 0xEF := by omega
      simp [piece, UInt8.lt_iff_toNat_lt, UInt8.le_iff_toNat_le, notOne, notTwo, notThree,
        low, high, follows, goesOn, ends]

theorem le_code {lead : UInt8} {others : List UInt8} {code : Nat}
    (sequence : Sequence (lead :: others) code) (high : 0x80 ≤ lead.toNat) : 0x80 ≤ code := by
  cases sequence with
  | one ascii => exact high
  | two low _ follows =>
      simp only [payload]
      omega
  | three low _ follows ends =>
      rw [secondOfThree_iff] at follows
      simp only [payload]
      omega
  | four low _ follows goesOn ends =>
      rw [secondOfFour_iff] at follows
      simp only [payload]
      omega

end Sequence

/-- Bytes start with a sequence, or one to three of them are read as one
replacement. -/
theorem piece_cases (lead : UInt8) (rest : List UInt8) :
    (∃ others more code, rest = others ++ more ∧ Sequence (lead :: others) code) ∨
      ∃ count, piece lead rest = (replacement, count) ∧ count ≤ 2 ∧ count ≤ rest.length := by
  fun_cases piece lead rest with
  | case1 rest ascii =>
      exact .inl ⟨[], rest, _, rfl, .one (UInt8.lt_iff_toNat_lt.mp ascii)⟩
  | case2 _ range second more follows =>
      simp only [Bool.and_eq_true, decide_eq_true_eq, UInt8.le_iff_toNat_le] at range
      exact .inl ⟨[second], more, _, rfl, .two range.1 range.2 follows⟩
  | case7 _ _ range second third more follows ends =>
      simp only [Bool.and_eq_true, decide_eq_true_eq, UInt8.le_iff_toNat_le] at range
      simp only [Bool.not_eq_true, Bool.not_eq_false'] at follows ends
      exact .inl ⟨[second, third], more, _, rfl, .three range.1 range.2 follows ends⟩
  | case13 _ _ _ range second third fourth more follows goesOn ends =>
      simp only [Bool.and_eq_true, decide_eq_true_eq, UInt8.le_iff_toNat_le] at range
      simp only [Bool.not_eq_true, Bool.not_eq_false'] at follows goesOn ends
      exact .inl ⟨[second, third, fourth], more, _, rfl,
        .four range.1 range.2 follows goesOn ends⟩
  | case3 | case4 | case5 | case9 | case10 | case16 | case17 =>
      exact .inr ⟨0, rfl, by omega, by omega⟩
  | case6 | case11 => exact .inr ⟨1, rfl, by omega, by simp⟩
  | case12 => exact .inr ⟨2, rfl, by omega, by simp⟩
  | case8 | case15 =>
      refine .inr ⟨_, rfl, ?_, ?_⟩ <;> split <;> simp
  | case14 =>
      refine .inr ⟨_, rfl, ?_, ?_⟩ <;> split <;> try split
      all_goals simp

/-! ## Reading a text -/

theorem decodeLossy_nil : decodeLossy [] = [] := by
  rw [decodeLossy]

theorem decodeLossy_cons (lead : UInt8) (rest : List UInt8) :
    decodeLossy (lead :: rest) =
      (piece lead rest).1 :: decodeLossy (rest.drop (piece lead rest).2) := by
  rw [decodeLossy]

theorem Sequence.decodeLossy_append {bytes : List UInt8} {code : Nat}
    (sequence : Sequence bytes code) (rest : List UInt8) :
    decodeLossy (bytes ++ rest) = Char.ofNat code :: decodeLossy rest := by
  cases bytes with
  | nil => cases sequence
  | cons lead others =>
      rw [List.cons_append, decodeLossy_cons, sequence.piece_eq, List.drop_left]

/-- Reading takes back a text that was written. -/
theorem decodeLossy_encode (text : Text) : decodeLossy (encode text) = text := by
  induction text with
  | nil => exact decodeLossy_nil
  | cons head tail induction =>
      rw [encode_cons, (sequence_encodeChar head).decodeLossy_append, Char.ofNat_toNat,
        induction]

/-! ## Bytes of ASCII characters -/

/-- Only an ASCII character has a byte below 128, and that byte is its code. -/
theorem Sequence.eq_of_ascii {bytes : List UInt8} {code : Nat} (sequence : Sequence bytes code)
    {byte : UInt8} (member : byte ∈ bytes) (ascii : byte.toNat < 0x80) : code = byte.toNat := by
  cases sequence with
  | one _ => rw [List.mem_singleton.mp member]
  | two low high follows =>
      rw [isContinuation_iff] at follows
      simp only [List.mem_cons, List.not_mem_nil, or_false] at member
      rcases member with equal | equal <;> subst equal <;> omega
  | three low high follows ends =>
      rw [secondOfThree_iff] at follows
      rw [isContinuation_iff] at ends
      simp only [List.mem_cons, List.not_mem_nil, or_false] at member
      rcases member with equal | equal | equal <;> subst equal <;> omega
  | four low high follows goesOn ends =>
      rw [secondOfFour_iff] at follows
      rw [isContinuation_iff] at goesOn ends
      simp only [List.mem_cons, List.not_mem_nil, or_false] at member
      rcases member with equal | equal | equal | equal <;> subst equal <;> omega

theorem mem_encode_iff_of_ascii {char : Char} {byte : UInt8} (same : char.toNat = byte.toNat)
    (ascii : byte.toNat < 0x80) (text : Text) : byte ∈ encode text ↔ char ∈ text := by
  rw [encode, List.mem_flatMap]
  constructor
  · rintro ⟨other, member, inside⟩
    have code := (sequence_encodeChar other).eq_of_ascii inside ascii
    have equal : other = char := Char.toNat_inj.mp (code.trans same.symm)
    exact equal ▸ member
  · intro member
    refine ⟨char, member, ?_⟩
    rw [encodeChar_one (same ▸ ascii), same, UInt8.ofNat_toNat]
    exact List.mem_cons_self

/-! ## The size of what is read and written again -/

theorem length_encodeChar_replacement : (encodeChar replacement).length = 3 := by decide

/-- Bytes that are read and written again do not become fewer, and become at most three
times as many. -/
theorem length_encode_decodeLossy (bytes : List UInt8) :
    bytes.length ≤ (encode (decodeLossy bytes)).length ∧
      (encode (decodeLossy bytes)).length ≤ 3 * bytes.length := by
  fun_induction decodeLossy bytes with
  | case1 => simp
  | case2 lead rest part induction =>
      rw [encode_cons, List.length_append]
      rcases piece_cases lead rest with
        ⟨others, more, code, split, sequence⟩ | ⟨count, read, _, _⟩
      · have read : part = (Char.ofNat code, others.length) := by
          rw [← sequence.piece_eq more, ← split]
        rw [read, split, List.drop_left] at induction
        rw [read, split, List.drop_left, sequence.encodeChar_ofNat]
        simp only [List.length_cons, List.length_append] at induction ⊢
        omega
      · have read : part = (replacement, count) := read
        rw [read, List.length_drop] at induction
        rw [read, length_encodeChar_replacement, List.length_cons]
        omega

end StubDns.Utf8
