import StubDns.Number.Whole

/-! # Reading decimals

The decimal of a number is read as the number, if the number lies below the limit, and not
at all otherwise. A negative number is not read either. No other text is read but such
decimals, with a plus sign or zeros in front.
-/

namespace StubDns.Whole

theorem digit?_digitChar {digit : Nat} (small : digit < 10) :
    digit? (Nat.digitChar digit) = some digit := by
  have all : ∀ digit < 10, digit? (Nat.digitChar digit) = some digit := by decide
  exact all digit small

theorem readDigits_append (limit value : Nat) (front back : Text) :
    readDigits limit value (front ++ back) =
      (readDigits limit value front).bind fun value => readDigits limit value back := by
  induction front generalizing value with
  | nil => rfl
  | cons char rest induction =>
      rw [List.cons_append, readDigits, readDigits]
      cases digit? char with
      | none => rfl
      | some digit =>
          dsimp only
          split
          · exact induction _
          · rfl

theorem readDigits_digitChar (limit value : Nat) {digit : Nat} (small : digit < 10) :
    readDigits limit value [Nat.digitChar digit] =
      if value * 10 + digit < limit then .ok (value * 10 + digit) else .error .tooLarge := by
  rw [readDigits, digit?_digitChar small]
  rfl

theorem render_of_long {number : Nat} (long : 10 ≤ number) :
    render number = render (number / 10) ++ [Nat.digitChar (number % 10)] :=
  Nat.toDigits_of_base_le (by decide) long

theorem readDigits_render (limit number : Nat) :
    readDigits limit 0 (render number) =
      if number < limit then .ok number else .error .tooLarge := by
  induction number using Nat.strongRecOn with
  | ind number induction =>
      by_cases short : number < 10
      · rw [render, Nat.toDigits_of_lt_base short, readDigits_digitChar limit 0 short]
        simp
      · rw [render_of_long (Nat.le_of_not_lt short), readDigits_append, induction (number / 10) (by omega)]
        by_cases fits : number / 10 < limit
        · have whole : number / 10 * 10 + number % 10 = number := Nat.div_add_mod' number 10
          rw [if_pos fits]
          change readDigits limit (number / 10) _ = _
          rw [readDigits_digitChar limit _ (Nat.mod_lt number (by decide)), whole]
        · have exceeds : ¬ number < limit := by omega
          rw [if_neg fits, if_neg exceeds]
          rfl

/-- A number is written with a digit in front. -/
theorem exists_render_eq_cons (number : Nat) :
    ∃ digit < 10, ∃ rest, render number = Nat.digitChar digit :: rest := by
  induction number using Nat.strongRecOn with
  | ind number induction =>
      by_cases short : number < 10
      · exact ⟨number, short, [], Nat.toDigits_of_lt_base short⟩
      · rcases induction (number / 10) (by omega) with ⟨digit, small, rest, equal⟩
        refine ⟨digit, small, rest ++ [Nat.digitChar (number % 10)], ?_⟩
        rw [render_of_long (Nat.le_of_not_lt short), equal, List.cons_append]

theorem read_render (limit number : Nat) :
    read limit (render number) = if number < limit then .ok number else .error .tooLarge := by
  rcases exists_render_eq_cons number with ⟨digit, small, rest, equal⟩
  have noSign : Nat.digitChar digit ≠ '+' := by
    have all : ∀ digit < 10, Nat.digitChar digit ≠ '+' := by decide
    exact all digit small
  rw [← readDigits_render, equal]
  unfold read
  split
  · next nothing => cases nothing
  · next sign => exact absurd (List.cons.inj sign).1 noSign
  · next sign => exact absurd (List.cons.inj sign).1 noSign
  · rfl

/-- The decimal of an integer is read just if the integer lies below the limit. -/
theorem read_toString_eq_ok {limit : Nat} {value : Int} {number : Nat} :
    read limit (toString value).toList = .ok number ↔ (number : Int) = value ∧ number < limit := by
  cases value with
  | ofNat magnitude =>
      have written : (toString (Int.ofNat magnitude)).toList = render magnitude :=
        Nat.toList_repr
      rw [written, read_render, Int.ofNat_eq_natCast]
      split
      · next fits =>
          rw [Except.ok.injEq]
          omega
      · next exceeds =>
          simp only [reduceCtorEq, false_iff]
          omega
  | negSucc magnitude =>
      have written : (toString (Int.negSucc magnitude)).toList = '-' :: render (magnitude + 1) := by
        rw [Int.toString_eq_repr, Int.repr, String.toList_append, Nat.toList_repr]
        rfl
      have unread : read limit ('-' :: render (magnitude + 1)) = .error .invalidDigit := rfl
      rw [written, unread, Int.negSucc_eq]
      simp only [reduceCtorEq, false_iff]
      omega

/-! ## Texts that are decimals -/

/-- A text is digits of a number, perhaps with a plus sign in front. -/
def IsDecimal (value : Nat) (text : Text) : Prop :=
  ∃ digits, (text = digits ∨ text = '+' :: digits) ∧ digits ≠ [] ∧
    (∀ char ∈ digits, char.isDigit) ∧ Nat.ofDigitChars 10 digits 0 = value

theorem digit?_eq_ite (char : Char) :
    digit? char = if char.isDigit then some (char.toNat - '0'.toNat) else none := by
  simp only [digit?, Char.isDigit, Bool.and_eq_true, decide_eq_true_eq]
  rfl

theorem le_ofDigitChars (digits : Text) (value : Nat) :
    value ≤ Nat.ofDigitChars 10 digits value := by
  induction digits generalizing value with
  | nil => exact Nat.le_refl value
  | cons char rest induction =>
      rw [Nat.ofDigitChars_cons]
      exact Nat.le_trans (by omega) (induction _)

/-- The value only grows, so it stays below the limit on the way if it does in the end. -/
theorem readDigits_eq_ok {limit value result : Nat} {digits : Text} (small : value < limit) :
    readDigits limit value digits = .ok result ↔
      (∀ char ∈ digits, char.isDigit) ∧ Nat.ofDigitChars 10 digits value = result ∧
        result < limit := by
  induction digits generalizing value with
  | nil =>
      simp only [readDigits, Except.ok.injEq, List.not_mem_nil, false_implies, implies_true,
        true_and, Nat.ofDigitChars_nil]
      exact ⟨fun equal => ⟨equal, equal ▸ small⟩, And.left⟩
  | cons char rest induction =>
      rw [readDigits, digit?_eq_ite, List.forall_mem_cons, Nat.ofDigitChars_cons]
      by_cases isDigit : char.isDigit
      · simp only [isDigit, if_true, true_and, Nat.mul_comm value 10]
        split
        · next fits => exact induction fits
        · next exceeds =>
            have grows := le_ofDigitChars rest (10 * value + (char.toNat - '0'.toNat))
            simp only [reduceCtorEq, false_iff]
            omega
      · simp [isDigit]

theorem read_eq_readDigits {limit : Nat} {text : Text} (nonempty : text ≠ [])
    (noSign : text.head? ≠ some '+') : read limit text = readDigits limit 0 text := by
  unfold read
  split
  · contradiction
  · contradiction
  · contradiction
  · rfl

theorem read_sign_eq_readDigits {limit : Nat} {digits : Text} (nonempty : digits ≠ []) :
    read limit ('+' :: digits) = readDigits limit 0 digits := by
  cases digits with
  | nil => contradiction
  | cons => rfl

theorem head?_ne_sign {digits : Text} (allDigits : ∀ char ∈ digits, char.isDigit) :
    digits.head? ≠ some '+' := by
  intro sign
  have isDigit := allDigits '+' (List.mem_of_mem_head? sign)
  exact absurd isDigit (by decide)

/-- A text is read as a number just if it is a decimal of it and the number lies below the
limit. -/
theorem read_eq_ok {limit value : Nat} {text : Text} (positive : 0 < limit) :
    read limit text = .ok value ↔ IsDecimal value text ∧ value < limit := by
  constructor
  · intro accepted
    rcases text with _ | ⟨first, rest⟩
    · cases accepted
    · by_cases sign : first = '+'
      · subst sign
        have nonempty : rest ≠ [] := by
          rintro rfl
          cases accepted
        rw [read_sign_eq_readDigits nonempty, readDigits_eq_ok positive] at accepted
        rcases accepted with ⟨allDigits, equal, small⟩
        exact ⟨⟨rest, .inr rfl, nonempty, allDigits, equal⟩, small⟩
      · have noSign : (first :: rest).head? ≠ some '+' := fun equal => sign (Option.some.inj equal)
        rw [read_eq_readDigits (List.cons_ne_nil _ _) noSign, readDigits_eq_ok positive] at accepted
        rcases accepted with ⟨allDigits, equal, small⟩
        exact ⟨⟨_, .inl rfl, List.cons_ne_nil _ _, allDigits, equal⟩, small⟩
  · rintro ⟨⟨digits, rfl | rfl, nonempty, allDigits, equal⟩, small⟩
    · rw [read_eq_readDigits nonempty (head?_ne_sign allDigits), readDigits_eq_ok positive]
      exact ⟨allDigits, equal, small⟩
    · rw [read_sign_eq_readDigits nonempty, readDigits_eq_ok positive]
      exact ⟨allDigits, equal, small⟩

theorem toOption_read_eq_some {limit value : Nat} {text : Text} (positive : 0 < limit) :
    (read limit text).toOption = some value ↔ IsDecimal value text ∧ value < limit := by
  rw [← read_eq_ok positive]
  cases read limit text <;> simp [Except.toOption]

/-- A word is read from the decimals of its number, if all numbers below the limit are words. -/
theorem toOption_read_map_eq_some {limit : Nat} {ofNat : Nat → α} {toNat : α → Nat}
    (small : ∀ word, toNat word < limit)
    (toNat_ofNat : ∀ {number}, number < limit → toNat (ofNat number) = number)
    (ofNat_toNat : ∀ word, ofNat (toNat word) = word) {text : Text} {word : α} :
    (read limit text).toOption.map ofNat = some word ↔ IsDecimal (toNat word) text := by
  have positive : 0 < limit := Nat.zero_lt_of_lt (small word)
  simp only [Option.map_eq_some_iff, toOption_read_eq_some positive]
  constructor
  · rintro ⟨number, ⟨decimal, fits⟩, rfl⟩
    rwa [toNat_ofNat fits]
  · intro decimal
    exact ⟨toNat word, ⟨decimal, small word⟩, ofNat_toNat word⟩

end StubDns.Whole
