import StubDns.Proofs.Text.SmallLetters
import StubDns.Settings.Path

/-! # Dotted paths

Identifiers with dots between them are read as the path of these keys: a key ends where its
characters end, and the dot behind it begins the next step.
-/

namespace StubDns

namespace Path

/-- A key in small letters. -/
def IsIdentifier (name : Text) : Prop :=
  name ≠ [] ∧ name.all isKeyChar = true ∧ name.all Text.isPlain = true

instance (name : Text) : Decidable (IsIdentifier name) :=
  inferInstanceAs (Decidable (_ ∧ _ ∧ _))

theorem IsIdentifier.lower {name : Text} (identifier : IsIdentifier name) :
    Text.lower name = name := Text.lower_of_plain identifier.2.2

/-- Identifiers with a dot in front of each. -/
def tail (names : List Text) : Text := names.flatMap ('.' :: ·)

theorem tail_cons (name : Text) (names : List Text) :
    tail (name :: names) = '.' :: (name ++ tail names) := rfl

theorem join_cons (root : Text) (names : List Text) :
    Text.join '.' (root :: names) = root ++ tail names := by
  induction names generalizing root with
  | nil => exact (List.append_nil root).symm
  | cons name names induction => rw [Text.join, induction, tail_cons]

theorem length_le_tail (names : List Text) : names.length ≤ (tail names).length := by
  induction names with
  | nil => exact Nat.le_refl 0
  | cons name names induction =>
      rw [tail_cons, List.length_cons, List.length_cons, List.length_append]
      omega

/-- A key goes up to the dot behind it. -/
theorem readKey_append {name : Text} (identifier : IsIdentifier name) (names : List Text) :
    readKey (name ++ tail names) = some (name, tail names) := by
  have keyChars := List.all_eq_true.mp identifier.2.1
  have ends : (tail names).takeWhile isKeyChar = [] ∧
      (tail names).dropWhile isKeyChar = tail names := by
    cases names with
    | nil => exact ⟨rfl, rfl⟩
    | cons name names => exact ⟨rfl, rfl⟩
  rw [readKey, List.takeWhile_append_of_pos keyChars, List.dropWhile_append_of_pos keyChars,
    ends.1, ends.2, List.append_nil]
  exact if_neg identifier.1

theorem readSteps_tail {names : List Text} (identifiers : ∀ name ∈ names, IsIdentifier name)
    {rounds : Nat} (enough : names.length ≤ rounds) :
    readSteps rounds (tail names) = .ok (names.map .key) := by
  induction names generalizing rounds with
  | nil => cases rounds <;> rfl
  | cons name names induction =>
      cases rounds with
      | zero => exact absurd enough (Nat.not_succ_le_zero names.length)
      | succ rounds =>
          have step : readStep (tail (name :: names)) = .ok (.key name, tail names) := by
            rw [tail_cons, readStep, readKey_append (identifiers name List.mem_cons_self)]
          have later : readSteps rounds (tail names) = .ok (names.map .key) := by
            apply induction
            · intro other member
              exact identifiers other (List.mem_cons_of_mem name member)
            · exact Nat.le_of_succ_le_succ enough
          rw [readSteps, step]
          · simp only [later, List.map_cons]
          · exact List.cons_ne_nil _ _

theorem read_join {root : Text} {names : List Text}
    (identifiers : ∀ name ∈ root :: names, IsIdentifier name) :
    read (Text.join '.' (root :: names)) = .ok ⟨root, names.map .key⟩ := by
  have steps : readSteps (tail names).length (tail names) = .ok (names.map .key) := by
    apply readSteps_tail
    · intro name member
      exact identifiers name (List.mem_cons_of_mem root member)
    · exact length_le_tail names
  rw [read, join_cons, readKey_append (identifiers root List.mem_cons_self)]
  simp only [steps]

end Path

end StubDns
