import Mathlib.Algebra.Ring.Nat
import StubDns.Dns.Name

/-! # Reading names

Reading goes label by label: labels that can be read are read one after the
other, and what stands behind the last of them decides how the reading ends.
Any bytes are labels that can be read with such an end behind them, so that the
reader is known on all bytes.
-/

namespace StubDns.Name

/-! ## Labels that can be read -/

/-- A label that a name may hold: not empty and not longer than a label may be. -/
def Readable (label : List UInt8) : Prop := 1 ≤ label.length ∧ label.length ≤ maxLabel

instance (label : List UInt8) : Decidable (Readable label) :=
  inferInstanceAs (Decidable (_ ∧ _))

def AllReadable (labels : List (List UInt8)) : Prop := ∀ label ∈ labels, Readable label

instance (labels : List (List UInt8)) : Decidable (AllReadable labels) :=
  inferInstanceAs (Decidable (∀ _ ∈ _, _))

theorem AllReadable.nil : AllReadable [] := by
  intro label member
  cases member

theorem AllReadable.cons {label : List UInt8} {labels : List (List UInt8)}
    (readable : Readable label) (others : AllReadable labels) :
    AllReadable (label :: labels) := by
  intro other member
  rcases List.mem_cons.mp member with equal | member
  · exact equal ▸ readable
  · exact others other member

theorem Readable.toNat_length {label : List UInt8} (readable : Readable label) :
    (UInt8.ofNat label.length).toNat = label.length := by
  have bound : label.length ≤ 63 := readable.2
  exact UInt8.toNat_ofNat_of_lt' (Nat.lt_of_le_of_lt bound (by decide))

@[simp] theorem encodeLabels_nil : encodeLabels [] = [] := rfl

@[simp] theorem encodeLabels_cons (label : List UInt8) (labels : List (List UInt8)) :
    encodeLabels (label :: labels) = encodeLabel label ++ encodeLabels labels := rfl

@[simp] theorem encodeLabels_append (left right : List (List UInt8)) :
    encodeLabels (left ++ right) = encodeLabels left ++ encodeLabels right := by
  simp [encodeLabels]

theorem length_encodeLabels (labels : List (List UInt8)) :
    (encodeLabels labels).length = (labels.map fun label => 1 + label.length).sum := by
  induction labels with
  | nil => rfl
  | cons label labels induction =>
      simp only [encodeLabels_cons, List.length_append, induction, encodeLabel,
        List.length_cons, List.map_cons, List.sum_cons]
      omega

/-- Labels whose length bytes do not wrap can be told apart by their bytes. -/
theorem encodeLabels_injective {left right : List (List UInt8)}
    (leftShort : ∀ label ∈ left, label.length < 256)
    (rightShort : ∀ label ∈ right, label.length < 256)
    (equal : encodeLabels left = encodeLabels right) : left = right := by
  induction left generalizing right with
  | nil =>
      cases right with
      | nil => rfl
      | cons label labels => cases equal
  | cons label labels induction =>
      cases right with
      | nil => cases equal
      | cons other others =>
          simp only [encodeLabels_cons, encodeLabel, List.cons_append, List.cons.injEq] at equal
          have sizes := congrArg UInt8.toNat equal.1
          rw [UInt8.toNat_ofNat_of_lt' (leftShort label List.mem_cons_self),
            UInt8.toNat_ofNat_of_lt' (rightShort other List.mem_cons_self)] at sizes
          rcases List.append_inj equal.2 sizes with ⟨same, rest⟩
          rw [same, induction (fun label member => leftShort label (List.mem_cons_of_mem _ member))
            (fun label member => rightShort label (List.mem_cons_of_mem _ member)) rest]

/-! ## One step of reading -/

theorem readLabels_nil : readLabels [] = .error .truncated := by
  rw [readLabels]

theorem readLabels_zero (rest : List UInt8) : readLabels (0 :: rest) = .ok ([], rest) := by
  rw [readLabels, if_pos rfl]

theorem readLabels_tooLong {length : UInt8} (long : maxLabel < length.toNat)
    (rest : List UInt8) :
    readLabels (length :: rest) = .error (.labelTooLong length.toNat) := by
  have notZero : length ≠ 0 := by
    intro equal
    subst equal
    exact absurd long (by decide)
  rw [readLabels, if_neg notZero, if_pos long]

theorem readLabels_cutOff {length : UInt8} {rest : List UInt8} (notZero : length ≠ 0)
    (fits : length.toNat ≤ maxLabel) (short : rest.length < length.toNat) :
    readLabels (length :: rest) = .error .truncated := by
  rw [readLabels, if_neg notZero, if_neg (by omega), if_pos short]

/-- What was read before goes in front of what is read after it. -/
def prepend (labels : List (List UInt8)) (reading : List (List UInt8) × List UInt8) :
    List (List UInt8) × List UInt8 :=
  (labels ++ reading.1, reading.2)

theorem readLabels_encodeLabel {label : List UInt8} (readable : Readable label)
    (rest : List UInt8) :
    readLabels (encodeLabel label ++ rest) = (readLabels rest).map (prepend [label]) := by
  have atLength := readable.toNat_length
  have notZero : UInt8.ofNat label.length ≠ 0 := by
    intro equal
    rw [equal] at atLength
    have positive : 1 ≤ label.length := readable.1
    have zero : label.length = 0 := atLength.symm
    omega
  have fits : ¬ maxLabel < label.length := Nat.not_lt.mpr readable.2
  rw [encodeLabel, List.cons_append, readLabels, if_neg notZero, atLength, if_neg fits,
    if_neg (by simp), List.drop_left, List.take_left]
  cases readLabels rest with
  | error error => rfl
  | ok reading => rfl

/-- Labels that can be read are read, and the reading goes on behind them. -/
theorem readLabels_encodeLabels {labels : List (List UInt8)} (readable : AllReadable labels)
    (rest : List UInt8) :
    readLabels (encodeLabels labels ++ rest) = (readLabels rest).map (prepend labels) := by
  induction labels with
  | nil =>
      rw [encodeLabels_nil, List.nil_append]
      cases readLabels rest <;> rfl
  | cons label labels induction =>
      have here : Readable label := readable label List.mem_cons_self
      have others : AllReadable labels := fun other member =>
        readable other (List.mem_cons_of_mem label member)
      rw [encodeLabels_cons, List.append_assoc, readLabels_encodeLabel here, induction others]
      cases readLabels rest <;> rfl

/-! ## All bytes -/

/-- What stands where a label would start and is no label that can be read. -/
inductive Stop : List UInt8 → Prop
  /-- The name ends. -/
  | finished (rest : List UInt8) : Stop (0 :: rest)
  /-- A label is announced longer than a label may be. -/
  | tooLong (length : UInt8) (rest : List UInt8) (long : maxLabel < length.toNat) :
      Stop (length :: rest)
  /-- There are no more bytes. -/
  | missing : Stop []
  /-- There are fewer bytes than the label has. -/
  | cutOff (length : UInt8) (rest : List UInt8) (notZero : length ≠ 0)
      (fits : length.toNat ≤ maxLabel) (short : rest.length < length.toNat) :
      Stop (length :: rest)

theorem cons_eq_encodeLabel {length : UInt8} {rest : List UInt8} (notZero : length ≠ 0)
    (fits : length.toNat ≤ maxLabel) (complete : length.toNat ≤ rest.length) :
    Readable (rest.take length.toNat) ∧
      length :: rest = encodeLabel (rest.take length.toNat) ++ rest.drop length.toNat := by
  have full : (rest.take length.toNat).length = length.toNat := List.length_take_of_le complete
  have positive : length.toNat ≠ 0 := fun zero => notZero (UInt8.toNat_inj.mp zero)
  constructor
  · constructor <;> omega
  · rw [encodeLabel, full, UInt8.ofNat_toNat, List.cons_append, List.take_append_drop]

/-- Any bytes are labels that can be read with a stop behind them. -/
theorem exists_labels_stop (bytes : List UInt8) :
    ∃ labels stop, bytes = encodeLabels labels ++ stop ∧ AllReadable labels ∧ Stop stop := by
  fun_induction readLabels bytes with
  | case1 => exact ⟨[], [], rfl, .nil, .missing⟩
  | case2 rest => exact ⟨[], 0 :: rest, rfl, .nil, .finished rest⟩
  | case3 length rest notZero long =>
      exact ⟨[], length :: rest, rfl, .nil, .tooLong length rest long⟩
  | case4 length rest notZero fits short =>
      exact ⟨[], length :: rest, rfl, .nil,
        .cutOff length rest notZero (Nat.not_lt.mp fits) short⟩
  | case5 length rest notZero fits complete _ _ induction
  | case6 length rest notZero fits complete _ _ _ induction =>
      rcases induction with ⟨labels, stop, split, readable, stops⟩
      rcases cons_eq_encodeLabel notZero (Nat.not_lt.mp fits) (Nat.not_lt.mp complete) with
        ⟨here, equal⟩
      refine ⟨rest.take length.toNat :: labels, stop, ?_, .cons here readable, stops⟩
      rw [equal, split, encodeLabels_cons, List.append_assoc]

/-! ## The results of reading -/

/-- A zero byte ends the reading with the labels before it. -/
theorem readLabels_encodeLabels_zero {labels : List (List UInt8)}
    (readable : AllReadable labels) (after : List UInt8) :
    readLabels (encodeLabels labels ++ 0 :: after) = .ok (labels, after) := by
  rw [readLabels_encodeLabels readable, readLabels_zero]
  simp [Except.map, prepend]

/-- Reading succeeds on labels that can be read with a zero byte behind them, and
on nothing else. -/
theorem readLabels_eq_ok_iff {bytes : List UInt8} {labels : List (List UInt8)}
    {after : List UInt8} :
    readLabels bytes = .ok (labels, after) ↔
      AllReadable labels ∧ bytes = encodeLabels labels ++ 0 :: after := by
  constructor
  · intro read
    rcases exists_labels_stop bytes with ⟨found, stop, split, readable, stops⟩
    rw [split, readLabels_encodeLabels readable] at read
    cases stops with
    | finished rest =>
        rw [readLabels_zero] at read
        simp only [Except.map, prepend, List.append_nil, Except.ok.injEq,
          Prod.mk.injEq] at read
        rw [← read.1, ← read.2]
        exact ⟨readable, split⟩
    | tooLong length rest long =>
        rw [readLabels_tooLong long] at read
        cases read
    | missing =>
        rw [readLabels_nil] at read
        cases read
    | cutOff length rest notZero fits short =>
        rw [readLabels_cutOff notZero fits short] at read
        cases read
  · rintro ⟨readable, split⟩
    rw [split, readLabels_encodeLabels_zero readable]

end StubDns.Name
