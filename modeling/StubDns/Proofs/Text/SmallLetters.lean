import StubDns.Text.Lowercase

/-! # Small letters stay

The small form of a text consists of characters that are their own small form, so that
a text that was made small stays as it is. For the table this is a check of runs
against runs: no run reaches into another one, or into the one capital letter that
has no single small form.
-/

namespace StubDns.Text

/-! ## Runs -/

namespace LowerRun

/-- No small form that the run gives lies in the other run: the small forms end before it,
start behind it, or have the other parity. -/
def misses (run other : LowerRun) : Bool :=
  Nat.blt (run.lower run.last) other.first || Nat.blt other.last (run.lower run.first)
    || (other.step == 2 && (run.first == run.last || (run.step == 2 && run.shift == 1))
      && (run.lower run.first + other.first) % 2 == 1)

theorem covers_iff (run : LowerRun) (code : Nat) :
    run.covers code = true ↔
      run.first ≤ code ∧ code ≤ run.last ∧ (code - run.first) % run.step = 0 := by
  simp [covers, and_assoc]

theorem covers_lower_eq_false {run other : LowerRun} (apart : run.misses other = true)
    {code : Nat} (covered : run.covers code = true) : other.covers (run.lower code) = false := by
  rw [covers_iff] at covered
  rw [← Bool.not_eq_true, covers_iff]
  simp only [misses, lower, Bool.or_eq_true, Bool.and_eq_true, Nat.blt_eq, beq_iff_eq] at apart ⊢
  rcases apart with (before | behind) | ⟨⟨otherStep, parity⟩, differs⟩
  · omega
  · omega
  · rw [otherStep]
    rcases parity with single | ⟨step, shift⟩
    · omega
    · rw [step] at covered
      rw [shift] at differs ⊢
      omega

end LowerRun

/-- The capital I with a dot, which has no small form of a single character. -/
def dottedRun : LowerRun := ⟨0x130, 0x130, 1, 0⟩

theorem misses_all :
    (lowerRuns.all fun run => (dottedRun :: lowerRuns).all run.misses) = true := by
  decide +kernel

theorem misses_of_mem {run other : LowerRun} (member : run ∈ lowerRuns)
    (otherMember : other ∈ dottedRun :: lowerRuns) : run.misses other = true :=
  List.all_eq_true.mp (List.all_eq_true.mp misses_all run member) other otherMember

/-! ## Small forms of code points -/

theorem lowerCode_of_not_covered {code : Nat}
    (outside : ∀ run ∈ lowerRuns, run.covers code = false) : lowerCode code = code := by
  have absent : lowerRuns.find? (·.covers code) = none :=
    List.find?_eq_none.mpr fun run member => by simp [outside run member]
  rw [lowerCode, absent]

/-- A code point is its own small form, or has one in a run. -/
theorem lowerCode_cases (code : Nat) :
    lowerCode code = code ∨
      ∃ run ∈ lowerRuns, run.covers code = true ∧ lowerCode code = run.lower code := by
  rw [lowerCode]
  cases found : lowerRuns.find? (·.covers code) with
  | none => exact .inl rfl
  | some run =>
      have covered : run.covers code = true := by simpa using List.find?_some found
      exact .inr ⟨run, List.mem_of_find?_eq_some found, covered, rfl⟩

theorem lowerCode_lowerCode (code : Nat) : lowerCode (lowerCode code) = lowerCode code := by
  rcases lowerCode_cases code with same | ⟨run, member, covered, equal⟩
  · rw [same, same]
  · rw [equal]
    apply lowerCode_of_not_covered
    intro other otherMember
    exact LowerRun.covers_lower_eq_false
      (misses_of_mem member (List.mem_cons_of_mem _ otherMember)) covered

theorem lowerCode_eq_dotted {code : Nat} (equal : lowerCode code = 0x130) : code = 0x130 := by
  rcases lowerCode_cases code with same | ⟨run, member, covered, lowered⟩
  · rw [← same, equal]
  · have outside := LowerRun.covers_lower_eq_false
      (misses_of_mem member List.mem_cons_self) covered
    rw [← lowered, equal] at outside
    exact absurd outside (by decide)

/-! ## Code points by themselves -/

/-- The run of the ASCII capitals, or one of other characters. -/
theorem capitals_or_beyond :
    (lowerRuns.all fun run => (run.first == 0x41 && run.last == 0x5A) || Nat.ble 0x80 run.first) =
      true := by
  decide +kernel

theorem lowerCode_of_ascii {code : Nat} (ascii : code < 0x80)
    (noCapital : code < 0x41 ∨ 0x5A < code) : lowerCode code = code := by
  apply lowerCode_of_not_covered
  intro run member
  have either := List.all_eq_true.mp capitals_or_beyond run member
  rw [← Bool.not_eq_true, LowerRun.covers_iff]
  simp only [Bool.or_eq_true, Bool.and_eq_true, beq_iff_eq, Nat.ble_eq] at either
  omega

/-- The dot above and both small sigmas are small, and the capital sigma is not. -/
theorem lowerCode_marks :
    lowerCode 0x307 = 0x307 ∧ lowerCode 0x3C2 = 0x3C2 ∧ lowerCode 0x3C3 = 0x3C3 ∧
      lowerCode 0x3A3 ≠ 0x3A3 := by
  decide +kernel

/-! ## Small forms of texts -/

/-- A character that making a text small leaves alone. -/
def IsSmall (char : Char) : Prop := char ≠ 'Σ' ∧ lowerChar char = [char]

theorem isSmall_of_lowerCode {char : Char} (same : lowerCode char.toNat = char.toNat)
    (notDotted : char ≠ '\u0130') : IsSmall char := by
  constructor
  · rintro rfl
    exact lowerCode_marks.2.2.2 same
  · rw [lowerChar, if_neg notDotted, same, Char.ofNat_toNat]

theorem isSmall_of_ascii {char : Char} (ascii : char.toNat < 0x80)
    (noCapital : char.toNat < 0x41 ∨ 0x5A < char.toNat) : IsSmall char := by
  apply isSmall_of_lowerCode (lowerCode_of_ascii ascii noCapital)
  rintro rfl
  exact absurd ascii (by decide)

/-- A number that is no code point stands for the character of zero. -/
theorem toNat_ofNat_cases (code : Nat) :
    (Char.ofNat code).toNat = code ∨ (Char.ofNat code).toNat = 0 := by
  by_cases valid : code.isValidChar
  · left
    rw [Char.ofNat, dif_pos valid]
    rfl
  · right
    rw [Char.ofNat, dif_neg valid]
    rfl

theorem isSmall_of_mem_lowerChar {char small : Char} (member : small ∈ lowerChar char) :
    IsSmall small := by
  rw [lowerChar] at member
  split at member
  · simp only [List.mem_cons, List.not_mem_nil, or_false] at member
    rcases member with equal | equal <;> subst equal
    · exact isSmall_of_ascii (by decide) (by decide)
    · exact isSmall_of_lowerCode lowerCode_marks.1 (by decide)
  · next notDotted =>
      rw [List.mem_singleton.mp member]
      rcases toNat_ofNat_cases (lowerCode char.toNat) with code | zero
      · apply isSmall_of_lowerCode
        · rw [code, lowerCode_lowerCode]
        · intro dotted
          rw [dotted] at code
          exact notDotted (Char.toNat_inj.mp (lowerCode_eq_dotted code.symm))
      · exact isSmall_of_ascii (by omega) (by omega)

theorem isSmall_of_mem_lowerAfter {before text : Text} {char : Char}
    (member : char ∈ lowerAfter before text) : IsSmall char := by
  induction text generalizing before with
  | nil => cases member
  | cons head tail induction =>
      rw [lowerAfter] at member
      rcases List.mem_append.mp member with here | later
      · split at here
        · split at here
          · rw [List.mem_singleton.mp here]
            exact isSmall_of_lowerCode lowerCode_marks.2.1 (by decide)
          · rw [List.mem_singleton.mp here]
            exact isSmall_of_lowerCode lowerCode_marks.2.2.1 (by decide)
        · exact isSmall_of_mem_lowerChar here
      · exact induction later

theorem lowerAfter_of_isSmall {before text : Text} (small : ∀ char ∈ text, IsSmall char) :
    lowerAfter before text = text := by
  induction text generalizing before with
  | nil => rfl
  | cons head tail induction =>
      have here := small head List.mem_cons_self
      rw [lowerAfter, if_neg here.1, here.2,
        induction fun char member => small char (List.mem_cons_of_mem head member)]
      rfl

theorem isSmall_dot : IsSmall '.' := isSmall_of_ascii (by decide) (by decide)

theorem isSmall_bracket : IsSmall '[' := isSmall_of_ascii (by decide) (by decide)

theorem mem_lowerAfter_of_isSmall {before text : Text} {char : Char} (small : IsSmall char)
    (member : char ∈ text) : char ∈ lowerAfter before text := by
  induction text generalizing before with
  | nil => cases member
  | cons head tail induction =>
      rw [lowerAfter]
      rcases List.mem_cons.mp member with here | later
      · rw [← here, if_neg small.1, small.2]
        exact List.mem_append_left _ List.mem_cons_self
      · exact List.mem_append_right _ (induction later)

theorem mem_lower_of_isSmall {text : Text} {char : Char} (small : IsSmall char)
    (member : char ∈ text) : char ∈ lower text := mem_lowerAfter_of_isSmall small member

/-- An ASCII character that is no capital. -/
def isPlain (char : Char) : Bool :=
  decide (char.toNat < 0x80) && (decide (char.toNat < 0x41) || decide (0x5A < char.toNat))

theorem lower_of_plain {text : Text} (plain : text.all isPlain = true) : lower text = text := by
  apply lowerAfter_of_isSmall
  intro char member
  have isPlain := List.all_eq_true.mp plain char member
  simp only [Text.isPlain, Bool.and_eq_true, Bool.or_eq_true, decide_eq_true_eq] at isPlain
  exact isSmall_of_ascii isPlain.1 isPlain.2

/-- A text that was made small stays as it is. -/
theorem lower_lower (text : Text) : lower (lower text) = lower text :=
  lowerAfter_of_isSmall fun _ member => isSmall_of_mem_lowerAfter member

end StubDns.Text
