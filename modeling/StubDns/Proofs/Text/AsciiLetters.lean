import StubDns.Proofs.Text.Pieces
import StubDns.Proofs.Text.SmallLetters
import StubDns.Proofs.Text.Utf8Sequences
import StubDns.Text.AsciiCase

/-! # ASCII letters in texts and bytes

Making the letters `A` to `Z` small means the same on a text and on its bytes, since no other
character has a byte below 128. The same holds of bytes that are no text and what is read of
them. It changes no dot, so that it goes label by label. To small
letters by the rules of Unicode it is a first step: these make the same of a text before
and after it, and what they make has no letter left to change.
-/

namespace StubDns

namespace Text

/-! ## Characters -/

theorem toNat_foldChar (char : Char) :
    (foldChar char).toNat =
      if 0x41 ≤ char.toNat ∧ char.toNat ≤ 0x5A then char.toNat + 32 else char.toNat := by
  have isCapital : ('A' ≤ char ∧ char ≤ 'Z') ↔ (0x41 ≤ char.toNat ∧ char.toNat ≤ 0x5A) := by
    rw [Char.le_def, Char.le_def, UInt32.le_iff_toNat_le, UInt32.le_iff_toNat_le]
    rfl
  simp only [foldChar, isCapital]
  split
  · next capital =>
      have valid : (char.toNat + 32).isValidChar := .inl (by omega)
      rw [Char.ofNat, dif_pos valid]
      rfl
  · rfl

theorem foldChar_of_not_capital {char : Char}
    (noCapital : ¬ (0x41 ≤ char.toNat ∧ char.toNat ≤ 0x5A)) : foldChar char = char := by
  apply Char.toNat_inj.mp
  rw [toNat_foldChar, if_neg noCapital]

/-- A character that is no letter comes from itself only. -/
theorem foldChar_eq_iff {char other : Char}
    (noLetter : other.toNat < 0x41 ∨ (0x5A < other.toNat ∧ other.toNat < 0x61) ∨ 0x7A < other.toNat) :
    foldChar char = other ↔ char = other := by
  rw [← Char.toNat_inj, ← Char.toNat_inj, toNat_foldChar]
  split <;> omega

theorem foldChar_eq_dot_iff (char : Char) : foldChar char = '.' ↔ char = '.' :=
  foldChar_eq_iff (by decide)

theorem cut_foldAscii (text : Text) :
    cut '.' (foldAscii text) = (cut '.' text).map foldAscii :=
  cut_map foldChar_eq_dot_iff text

end Text

/-! ## Bytes -/

/-- The byte of a letter `A` to `Z` as the byte of the small letter; any other byte stays. -/
def foldByte (byte : UInt8) : UInt8 :=
  if 0x41 ≤ byte.toNat ∧ byte.toNat ≤ 0x5A then UInt8.ofNat (byte.toNat + 32) else byte

theorem toNat_foldByte (byte : UInt8) :
    (foldByte byte).toNat =
      if 0x41 ≤ byte.toNat ∧ byte.toNat ≤ 0x5A then byte.toNat + 32 else byte.toNat := by
  rw [foldByte]
  split
  · exact Utf8.toNat_ofNat (by omega)
  · rfl

theorem foldByte_lt_iff (byte : UInt8) :
    (foldByte byte).toNat < 0x80 ↔ byte.toNat < 0x80 := by
  rw [toNat_foldByte]
  split <;> omega

theorem map_foldByte_of_high {bytes : List UInt8} (high : ∀ byte ∈ bytes, 0x80 ≤ byte.toNat) :
    bytes.map foldByte = bytes := by
  have stays : ∀ byte ∈ bytes, foldByte byte = byte := by
    intro byte member
    have notAscii := high byte member
    exact if_neg (by omega)
  rw [List.map_congr_left stays, List.map_id']

namespace Utf8

theorem le_of_mem_encodeChar {char : Char} (high : 0x80 ≤ char.toNat) {byte : UInt8}
    (member : byte ∈ encodeChar char) : 0x80 ≤ byte.toNat := by
  apply Nat.le_of_not_lt
  intro ascii
  have code := (sequence_encodeChar char).eq_of_ascii member ascii
  omega

/-- Bytes that become those of a character above ASCII are these bytes already. -/
theorem eq_of_map_foldByte_eq {char : Char} (high : 0x80 ≤ char.toNat) {bytes : List UInt8}
    (folded : bytes.map foldByte = encodeChar char) : bytes = encodeChar char := by
  rw [← folded]
  symm
  apply map_foldByte_of_high
  intro byte member
  apply Nat.le_of_not_lt
  intro ascii
  have inside : foldByte byte ∈ encodeChar char := folded ▸ List.mem_map.mpr ⟨byte, member, rfl⟩
  exact Nat.not_le.mpr ((foldByte_lt_iff byte).mpr ascii) (le_of_mem_encodeChar high inside)

theorem encodeChar_foldChar (char : Char) :
    encodeChar (Text.foldChar char) = (encodeChar char).map foldByte := by
  by_cases ascii : char.toNat < 0x80
  · have small : (Text.foldChar char).toNat < 0x80 := by
      rw [Text.toNat_foldChar]
      split <;> omega
    rw [encodeChar_one ascii, encodeChar_one small, List.map_singleton, List.singleton_inj]
    apply UInt8.toNat_inj.mp
    rw [toNat_foldByte, toNat_ofNat (by omega), toNat_ofNat (by omega), Text.toNat_foldChar]
  · rw [Text.foldChar_of_not_capital (by omega), map_foldByte_of_high]
    intro byte member
    exact le_of_mem_encodeChar (Nat.le_of_not_lt ascii) member

theorem encode_foldAscii (text : Text) :
    encode (Text.foldAscii text) = (encode text).map foldByte := by
  induction text with
  | nil => rfl
  | cons head tail induction =>
      rw [encode_cons, List.map_append, ← encodeChar_foldChar, ← induction]
      rfl

theorem length_encode_foldAscii (text : Text) :
    (encode (Text.foldAscii text)).length = (encode text).length := by
  rw [encode_foldAscii, List.length_map]

theorem exists_encodeChar_of_map_foldByte {char : Char} {bytes : List UInt8}
    (folded : bytes.map foldByte = encodeChar char) : ∃ other, encodeChar other = bytes := by
  by_cases ascii : char.toNat < 0x80
  · rw [encodeChar_one ascii] at folded
    rcases List.map_eq_singleton_iff.mp folded with ⟨byte, equal, code⟩
    have small : byte.toNat < 0x80 := by
      rw [← foldByte_lt_iff, code, toNat_ofNat (by omega)]
      exact ascii
    exact ⟨Char.ofNat byte.toNat, by rw [equal]; exact (Sequence.one small).encodeChar_ofNat⟩
  · exact ⟨char, (eq_of_map_foldByte_eq (Nat.le_of_not_lt ascii) folded).symm⟩

/-- Bytes that become those of a text are those of a text. -/
theorem exists_encode_of_map_foldByte {text : Text} {bytes : List UInt8}
    (folded : bytes.map foldByte = encode text) : ∃ other, encode other = bytes := by
  induction text generalizing bytes with
  | nil =>
      rw [encode_nil, List.map_eq_nil_iff] at folded
      exact ⟨[], by rw [folded]; rfl⟩
  | cons head tail induction =>
      rcases List.map_eq_append_iff.mp folded with ⟨front, back, split, frontFolded, backFolded⟩
      rcases exists_encodeChar_of_map_foldByte frontFolded with ⟨first, firstEqual⟩
      rcases induction backFolded with ⟨others, othersEqual⟩
      exact ⟨first :: others, by rw [split, encode_cons, firstEqual, othersEqual]⟩

/-! ### Reading bytes whose letters are small -/

theorem foldByte_of_continuation {byte : UInt8} (follows : isContinuation byte = true) :
    foldByte byte = byte := by
  rw [isContinuation_iff] at follows
  exact if_neg (by omega)

theorem isContinuation_foldByte (byte : UInt8) :
    isContinuation (foldByte byte) = isContinuation byte := by
  rw [Bool.eq_iff_iff, isContinuation_iff, isContinuation_iff, toNat_foldByte]
  split <;> omega

theorem secondOfThree_foldByte (lead second : UInt8) :
    secondOfThree lead (foldByte second) = secondOfThree lead second := by
  rw [Bool.eq_iff_iff, secondOfThree_iff, secondOfThree_iff, toNat_foldByte]
  split <;> omega

theorem secondOfFour_foldByte (lead second : UInt8) :
    secondOfFour lead (foldByte second) = secondOfFour lead second := by
  rw [Bool.eq_iff_iff, secondOfFour_iff, secondOfFour_iff, toNat_foldByte]
  split <;> omega

theorem foldByte_of_secondOfThree {lead second : UInt8}
    (follows : secondOfThree lead second = true) : foldByte second = second :=
  foldByte_of_continuation
    ((isContinuation_iff second).mpr ((secondOfThree_iff lead second).mp follows).1)

theorem foldByte_of_secondOfFour {lead second : UInt8}
    (follows : secondOfFour lead second = true) : foldByte second = second :=
  foldByte_of_continuation
    ((isContinuation_iff second).mpr ((secondOfFour_iff lead second).mp follows).1)

/-- Behind a lead byte above ASCII the case of letters is not seen: a letter continues no
sequence, be it small or not. -/
theorem piece_map_foldByte {lead : UInt8} (high : 0x80 ≤ lead.toNat) (rest : List UInt8) :
    piece lead (rest.map foldByte) = piece lead rest := by
  have notAscii : ¬ lead < 0x80 := by
    rw [UInt8.lt_iff_toNat_lt]
    exact Nat.not_lt.mpr high
  rw [piece.eq_def lead (rest.map foldByte), piece.eq_def lead rest, if_neg notAscii,
    if_neg notAscii]
  -- The lead byte alone decides how many bytes are looked at.
  congr 1
  · cases rest with
    | nil => rfl
    | cons second rest =>
        simp only [List.map_cons, isContinuation_foldByte]
        split
        · next follows => rw [foldByte_of_continuation follows]
        · rfl
  congr 1
  · rcases rest with _ | ⟨second, _ | ⟨third, rest⟩⟩
    · rfl
    · simp only [List.map_cons, List.map_nil, secondOfThree_foldByte]
    · simp only [List.map_cons, secondOfThree_foldByte, isContinuation_foldByte]
      split
      · rfl
      split
      · rfl
      next follows ends =>
        simp only [Bool.not_eq_true, Bool.not_eq_false'] at follows ends
        rw [foldByte_of_secondOfThree follows, foldByte_of_continuation ends]
  congr 1
  · rcases rest with _ | ⟨second, _ | ⟨third, _ | ⟨fourth, rest⟩⟩⟩
    · rfl
    · simp only [List.map_cons, List.map_nil, secondOfFour_foldByte]
    · simp only [List.map_cons, List.map_nil, secondOfFour_foldByte, isContinuation_foldByte]
    · simp only [List.map_cons, secondOfFour_foldByte, isContinuation_foldByte]
      split
      · rfl
      split
      · rfl
      split
      · rfl
      next follows goesOn ends =>
        simp only [Bool.not_eq_true, Bool.not_eq_false'] at follows goesOn ends
        rw [foldByte_of_secondOfFour follows, foldByte_of_continuation goesOn,
          foldByte_of_continuation ends]

theorem foldChar_piece {lead : UInt8} (high : 0x80 ≤ lead.toNat) (rest : List UInt8) :
    Text.foldChar (piece lead rest).1 = (piece lead rest).1 := by
  rcases piece_cases lead rest with ⟨others, more, code, split, sequence⟩ | ⟨count, read, _, _⟩
  · have above := sequence.le_code high
    rw [split, sequence.piece_eq]
    apply Text.foldChar_of_not_capital
    rw [sequence.toNat_char]
    omega
  · rw [read]
    rfl

theorem foldChar_ofNat {byte : UInt8} (ascii : byte.toNat < 0x80) :
    Text.foldChar (Char.ofNat byte.toNat) = Char.ofNat (foldByte byte).toNat := by
  have small := (foldByte_lt_iff byte).mpr ascii
  apply Char.toNat_inj.mp
  rw [Text.toNat_foldChar, (Sequence.one ascii).toNat_char, (Sequence.one small).toNat_char,
    toNat_foldByte]

/-- Making letters small means the same before and after reading, also among bytes that are
no text. -/
theorem foldAscii_decodeLossy (bytes : List UInt8) :
    Text.foldAscii (decodeLossy bytes) = decodeLossy (bytes.map foldByte) := by
  fun_induction decodeLossy bytes with
  | case1 => exact decodeLossy_nil.symm
  | case2 lead rest part induction =>
      change Text.foldChar part.1 :: Text.foldAscii (decodeLossy (rest.drop part.2)) = _
      rw [induction, List.map_drop, List.map_cons, decodeLossy_cons (foldByte lead)]
      by_cases ascii : lead.toNat < 0x80
      · have small := (foldByte_lt_iff lead).mpr ascii
        have read : part = (Char.ofNat lead.toNat, 0) := (Sequence.one ascii).piece_eq rest
        have readSmall : piece (foldByte lead) (rest.map foldByte) =
            (Char.ofNat (foldByte lead).toNat, 0) := (Sequence.one small).piece_eq _
        rw [read, readSmall, foldChar_ofNat ascii]
      · have high := Nat.le_of_not_lt ascii
        have stays : foldByte lead = lead := if_neg (by omega)
        have read : piece lead rest = part := rfl
        rw [stays, piece_map_foldByte high, read, ← read, foldChar_piece high]

end Utf8

namespace Text

/-! ## Small letters -/

theorem lowerCode_capital {code : Nat} (capital : 0x41 ≤ code ∧ code ≤ 0x5A) :
    lowerCode code = code + 32 := by
  have all : ∀ offset < 26, lowerCode (0x41 + offset) = 0x41 + offset + 32 := by decide +kernel
  have here := all (code - 0x41) (by omega)
  rwa [show 0x41 + (code - 0x41) = code by omega] at here

theorem lowerChar_capital {char : Char} (capital : 0x41 ≤ char.toNat ∧ char.toNat ≤ 0x5A) :
    lowerChar char = [Char.ofNat (char.toNat + 32)] := by
  have notDotted : char ≠ '\u0130' := by
    intro equal
    rw [equal] at capital
    exact absurd capital (by decide)
  rw [lowerChar, if_neg notDotted, lowerCode_capital capital]

theorem foldChar_of_isSmall {char : Char} (small : IsSmall char) : foldChar char = char := by
  apply foldChar_of_not_capital
  intro capital
  have lowered := small.2
  rw [lowerChar_capital capital, List.singleton_inj] at lowered
  have code := congrArg Char.toNat lowered
  rcases toNat_ofNat_cases (char.toNat + 32) with value | value <;> omega

theorem foldAscii_lower (text : Text) : foldAscii (lower text) = lower text := by
  have stays : ∀ char ∈ lower text, foldChar char = char := fun char member =>
    foldChar_of_isSmall (isSmall_of_mem_lowerAfter member)
  rw [foldAscii, List.map_congr_left stays, List.map_id']

theorem lowerChar_foldChar (char : Char) : lowerChar (foldChar char) = lowerChar char := by
  by_cases capital : 0x41 ≤ char.toNat ∧ char.toNat ≤ 0x5A
  · have code := toNat_foldChar char
    rw [if_pos capital] at code
    have small : IsSmall (foldChar char) := isSmall_of_ascii (by omega) (by omega)
    rw [small.2, lowerChar_capital capital, ← code, Char.ofNat_toNat]
  · rw [foldChar_of_not_capital capital]

/-- Both cases of an ASCII letter are letters, and neither is a mark that does not count. -/
theorem inRanges_foldChar (char : Char) :
    inRanges caseIgnorableRanges (foldChar char).toNat = inRanges caseIgnorableRanges char.toNat ∧
      inRanges casedRanges (foldChar char).toNat = inRanges casedRanges char.toNat := by
  rw [toNat_foldChar]
  split
  · next capital =>
      have all : ∀ offset < 26,
          inRanges caseIgnorableRanges (0x41 + offset + 32) =
              inRanges caseIgnorableRanges (0x41 + offset) ∧
            inRanges casedRanges (0x41 + offset + 32) = inRanges casedRanges (0x41 + offset) := by
        decide +kernel
      have here := all (char.toNat - 0x41) (by omega)
      rwa [show 0x41 + (char.toNat - 0x41) = char.toNat by omega] at here
  · exact ⟨rfl, rfl⟩

theorem reachesLetter_foldAscii (text : Text) :
    reachesLetter (foldAscii text) = reachesLetter text := by
  have ignored : (fun char : Char => inRanges caseIgnorableRanges char.toNat) ∘ foldChar =
      fun char => inRanges caseIgnorableRanges char.toNat :=
    funext fun char => (inRanges_foldChar char).1
  rw [reachesLetter, foldAscii, List.dropWhile_map, ignored, reachesLetter]
  cases text.dropWhile fun char => inRanges caseIgnorableRanges char.toNat with
  | nil => rfl
  | cons char rest => exact (inRanges_foldChar char).2

theorem lowerAfter_foldAscii (before text : Text) :
    lowerAfter (foldAscii before) (foldAscii text) = lowerAfter before text := by
  induction text generalizing before with
  | nil => rfl
  | cons head tail induction =>
      have sigma : foldChar head = 'Σ' ↔ head = 'Σ' := foldChar_eq_iff (by decide)
      change lowerAfter (foldAscii before) (foldChar head :: foldAscii tail) = _
      rw [lowerAfter, lowerAfter, endsWord, endsWord, reachesLetter_foldAscii,
        reachesLetter_foldAscii, lowerChar_foldChar]
      simp only [sigma]
      congr 1
      exact induction (head :: before)

theorem lower_foldAscii (text : Text) : lower (foldAscii text) = lower text :=
  lowerAfter_foldAscii [] text

/-- A text that the ASCII letters alone make small is made this by all letters. -/
theorem lower_eq_of_foldAscii_eq {text small : Text} (isSmall : lower small = small)
    (folded : foldAscii text = small) : lower text = small := by
  rw [← lower_foldAscii, folded, isSmall]

end Text

end StubDns
