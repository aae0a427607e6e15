import StubDns.CommandLine.ClientFlags
import StubDns.Proofs.Number.Decimal
import StubDns.Proofs.Results

/-! # Flags and their values

A flag stores its value and the arguments behind it are read on. The flag for the port of
the client takes the decimals of ports and of no other integers.
-/

namespace StubDns

namespace CommandLine

theorem once_eq_ok {present : Option α} {value : Except String α} {result : Option α} :
    once present value = .ok result ↔
      present = none ∧ ∃ given, value = .ok given ∧ some given = result := by
  cases present with
  | none => simp only [once, map_eq_ok, mapError_eq_ok, true_and]
  | some => simp only [once, reduceCtorEq, false_and]

theorem Command.readFrom_flag {flags : List (Flag Given)} {argument : Text}
    (noHelp : Text.isOneOf helpWords argument = false) (noEnd : argument ≠ endOfFlags)
    (hyphen : argument.head? = some '-') {flag : Flag Given}
    (found : flags.find? (·.name = argument) = some flag) (given : Given) (value : Text)
    (rest : List Text) :
    readFrom flags given false (argument :: value :: rest) =
      (flag.store value given).mapError (.badValue argument value) >>= fun given =>
        readFrom flags given false rest := by
  rw [readFrom.eq_def]
  simp only [noHelp, noEnd, hyphen, found, Bool.false_eq_true, if_false, ne_eq, not_true]
  cases flag.store value given <;> rfl

end CommandLine

namespace ClientFlags

open CommandLine

theorem storePort_eq_ok {text : Text} {flags : ClientFlags} :
    storePort text unset = .ok flags ↔
      ∃ number, Whole.read Whole.limit16 text = .ok number ∧
        flags = { unset with port := some (.ofNat number) } := by
  rw [storePort, map_eq_ok]
  change (∃ port, once none _ = .ok port ∧ { unset with port } = flags) ↔ _
  simp only [once_eq_ok, true_and, readWhole, map_eq_ok, mapError_eq_ok]
  constructor
  · rintro ⟨_, ⟨_, ⟨number, read, rfl⟩, rfl⟩, rfl⟩
    exact ⟨number, read, rfl⟩
  · rintro ⟨number, read, rfl⟩
    exact ⟨_, ⟨_, ⟨number, read, rfl⟩, rfl⟩, rfl⟩

/-- The flag for the port takes an integer just if it is a port, and as the port it is. -/
theorem read_port_eq_ok {value : Int} {request : Request ClientFlags} :
    command.read ["--port".toList, (toString value).toList] = .ok request ↔
      ∃ number : UInt16, (number.toNat : Int) = value ∧
        request = .run { unset with port := some number } := by
  have found : command.flags.find? (·.name = "--port".toList) =
    some ⟨"--port".toList, "resolver port, default: 2053", storePort⟩ := rfl
  have atEnd : ∀ given, Command.readFrom command.flags given false [] = .ok (.run given) :=
    fun _ => rfl
  rw [Command.read, Command.readFrom_flag (by decide) (by decide) rfl found]
  simp only [bind_eq_ok, mapError_eq_ok, atEnd]
  change (∃ given, storePort _ unset = _ ∧ _) ↔ _
  simp only [storePort_eq_ok, Whole.read_toString_eq_ok]
  constructor
  · rintro ⟨_, ⟨number, ⟨equal, fits⟩, rfl⟩, run⟩
    refine ⟨.ofNat number, ?_, (Except.ok.inj run).symm⟩
    rw [UInt16.toNat_ofNat_of_lt' fits, equal]
  · rintro ⟨number, equal, rfl⟩
    refine ⟨_, ⟨number.toNat, ⟨equal, number.toNat_lt⟩, rfl⟩, ?_⟩
    rw [UInt16.ofNat_toNat]

end ClientFlags

end StubDns
