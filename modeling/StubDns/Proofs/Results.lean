/-! # Results

A computation that may fail succeeds just if each of its parts does.
-/

namespace StubDns

@[simp]
theorem bind_eq_ok {action : Except ε α} {next : α → Except ε β} {result : β} :
    (action >>= next) = .ok result ↔ ∃ value, action = .ok value ∧ next value = .ok result := by
  cases action with
  | ok value => simp [Bind.bind, Except.bind]
  | error error => simp [Bind.bind, Except.bind]

@[simp]
theorem pure_eq_ok {value result : α} :
    (pure value : Except ε α) = .ok result ↔ value = result := by
  simp [pure, Except.pure]

@[simp]
theorem map_eq_ok {action : Except ε α} {transform : α → β} {result : β} :
    action.map transform = .ok result ↔ ∃ value, action = .ok value ∧ transform value = result := by
  cases action <;> simp [Except.map]

@[simp]
theorem mapError_eq_ok {action : Except ε α} {transform : ε → δ} {result : α} :
    action.mapError transform = .ok result ↔ action = .ok result := by
  cases action with
  | ok value =>
      change Except.ok value = _ ↔ _
      rw [Except.ok.injEq, Except.ok.injEq]
  | error error =>
      constructor
      · intro equal
        cases equal
      · intro equal
        cases equal

end StubDns
