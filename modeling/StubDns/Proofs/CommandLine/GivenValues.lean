import StubDns.Proofs.CommandLine.Flags

/-! # Values that arguments give

Accepted arguments are names of flags with a value behind each, and perhaps the end of
flags. A value fills the slot of its flag, which was empty, and no other slot; so in the
end a slot holds what is read of the value behind the name of its flag, if the arguments
hold this name.
-/

namespace StubDns

namespace CommandLine

/-! ## Names and values -/

/-- The value behind a name in arguments that are names and values in turn. -/
def valueOf? (name : Text) : List Text → Option Text
  | argument :: value :: rest =>
      (if argument = name then some value else none).or (valueOf? name rest)
  | _ => none

/-- A value is no name, even if it reads like one. -/
example : valueOf? "--port".toList ["--domain".toList, "--port".toList] = none := by decide

/-- What a value that may be given does to a slot. -/
inductive Fills (read? : Text → Option α) : Option Text → Option α → Option α → Prop
  | kept (slot : Option α) : Fills read? none slot slot
  | filled {value : Text} {stored : α} (reads : read? value = some stored) :
      Fills read? (some value) none (some stored)

theorem Fills.trans {read? : Text → Option α} {value? other? : Option Text}
    {before middle after : Option α} (first : Fills read? value? before middle)
    (second : Fills read? other? middle after) :
    Fills read? (value?.or other?) before after := by
  cases first with
  | kept => exact second
  | filled reads =>
      cases second with
      | kept => exact .filled reads

theorem Fills.of_once {read? : Text → Option α} {value : Text} {given : Except String α}
    {before after : Option α} (stored : once before given = .ok after)
    (reads : given.toOption = read? value) : Fills read? (some value) before after := by
  rcases once_eq_ok.mp stored with ⟨rfl, content, rfl, rfl⟩
  exact .filled reads.symm

theorem Fills.isSome_eq {read? : Text → Option α} {value? : Option Text} {before after : Option α}
    (fills : Fills read? value? before after) :
    after.isSome = (value?.isSome || before.isSome) := by
  cases fills <;> rfl

theorem Fills.eq_some_iff {read? : Text → Option α} {value? : Option Text} {after : Option α}
    (fills : Fills read? value? none after) {stored : α} :
    after = some stored ↔ ∃ value, value? = some value ∧ read? value = some stored := by
  cases fills with
  | kept => simp
  | filled reads => simp [reads]

/-! ## Accepted arguments -/

/-- Values stored one after the other, up to the end of flags. -/
inductive Stores (flags : List (Flag Given)) : Given → List Text → Given → Prop
  | done (given : Given) : Stores flags given [] given
  | ended (given : Given) : Stores flags given [Command.endOfFlags] given
  | store {flag : Flag Given} {value : Text} {given after result : Given} {rest : List Text}
      (member : flag ∈ flags) (stored : flag.store value given = .ok after)
      (others : Stores flags after rest result) :
      Stores flags given (flag.name :: value :: rest) result

/-- Once a word asks for help, nothing is run. -/
theorem Command.readFrom_help_ne_run {flags : List (Flag Given)} {given : Given}
    {arguments : List Text} {result : Given} :
    readFrom flags given true arguments ≠ .ok (.run result) := by
  induction arguments with
  | nil => exact fun equal => by cases equal
  | cons argument rest induction =>
      rw [readFrom.eq_def]
      dsimp only
      split
      · exact induction
      · split
        · cases rest <;> exact fun equal => by cases equal
        · split <;> exact fun equal => by cases equal

theorem Command.stores_of_readFrom {flags : List (Flag Given)} {given : Given} {help : Bool}
    {result : Given} :
    {arguments : List Text} → readFrom flags given help arguments = .ok (.run result) →
      Stores flags given arguments result
  | [], read => by
      cases help <;> cases read
      exact .done _
  | argument :: rest, read => by
      rw [readFrom.eq_def] at read
      dsimp only at read
      split at read
      · exact (readFrom_help_ne_run read).elim
      · split at read
        · next atEnd =>
            subst atEnd
            cases rest with
            | cons => cases read
            | nil =>
                cases help <;> cases read
                exact .ended _
        · split at read
          · cases read
          · split at read
            · cases read
            · split at read
              · cases read
              · cases read
              · next flag value rest found =>
                  have named : flag.name = argument := by simpa using List.find?_some found
                  split at read
                  · cases read
                  · next after stored =>
                      rw [← named]
                      exact .store (List.mem_of_find?_eq_some found) stored
                        (stores_of_readFrom read)

end CommandLine

namespace ClientFlags

open CommandLine

/-! ## Flags of the client -/

def portOf? (value : Text) : Option UInt16 :=
  (Whole.read Whole.limit16 value).toOption.map .ofNat

def timeoutOf? (value : Text) : Option UInt64 :=
  (Whole.read Whole.limit64 value).toOption.map .ofNat

/-- The flags filled from arguments. -/
structure Filled (arguments : List Text) (before after : ClientFlags) : Prop where
  config : Fills some (valueOf? "--config".toList arguments) before.config after.config
  server : Fills Ip.read? (valueOf? "--server".toList arguments) before.server after.server
  port : Fills portOf? (valueOf? "--port".toList arguments) before.port after.port
  domain : Fills some (valueOf? "--domain".toList arguments) before.domain after.domain
  timeout :
    Fills timeoutOf? (valueOf? "--timeout-ms".toList arguments) before.timeout after.timeout

theorem Filled.cons {name value : Text} {rest : List Text} {before middle after : ClientFlags}
    (first : Filled [name, value] before middle) (others : Filled rest middle after) :
    Filled (name :: value :: rest) before after := by
  have alone : ∀ owner, valueOf? owner [name, value] = if name = owner then some value else none :=
    fun _ => Option.or_none
  constructor
  · exact (alone _ ▸ first.config).trans others.config
  · exact (alone _ ▸ first.server).trans others.server
  · exact (alone _ ▸ first.port).trans others.port
  · exact (alone _ ▸ first.domain).trans others.domain
  · exact (alone _ ▸ first.timeout).trans others.timeout

theorem toOption_readIp (value : Text) : (readIp value).toOption = Ip.read? value := by
  rw [readIp]
  cases Ip.read? value <;> rfl

theorem toOption_readWhole (limit : Nat) (value : Text) (convert : Nat → α) :
    ((readWhole limit value).map convert).toOption =
      (Whole.read limit value).toOption.map convert := by
  rw [readWhole]
  cases Whole.read limit value <;> rfl

/-- A flag fills its own slot and leaves the others as they are. -/
theorem filled_of_store {flag : Flag ClientFlags} (member : flag ∈ command.flags) {value : Text}
    {before after : ClientFlags} (stored : flag.store value before = .ok after) :
    Filled [flag.name, value] before after := by
  simp only [command, List.mem_cons, List.not_mem_nil, or_false] at member
  rcases member with rfl | rfl | rfl | rfl | rfl
  · rcases map_eq_ok.mp stored with ⟨config, own, rfl⟩
    exact ⟨.of_once own rfl, .kept _, .kept _, .kept _, .kept _⟩
  · rcases map_eq_ok.mp stored with ⟨server, own, rfl⟩
    exact ⟨.kept _, .of_once own (toOption_readIp value), .kept _, .kept _, .kept _⟩
  · rcases map_eq_ok.mp stored with ⟨port, own, rfl⟩
    exact ⟨.kept _, .kept _, .of_once own (toOption_readWhole _ value _), .kept _, .kept _⟩
  · rcases map_eq_ok.mp stored with ⟨domain, own, rfl⟩
    exact ⟨.kept _, .kept _, .kept _, .of_once own rfl, .kept _⟩
  · rcases map_eq_ok.mp stored with ⟨timeout, own, rfl⟩
    exact ⟨.kept _, .kept _, .kept _, .kept _, .of_once own (toOption_readWhole _ value _)⟩

theorem filled_of_stores {arguments : List Text} {before after : ClientFlags}
    (stores : Stores command.flags before arguments after) : Filled arguments before after := by
  induction stores with
  | done | ended => exact ⟨.kept _, .kept _, .kept _, .kept _, .kept _⟩
  | store member stored _ induction => exact (filled_of_store member stored).cons induction

theorem filled_of_read {arguments : List Text} {flags : ClientFlags}
    (accepted : command.read arguments = .ok (.run flags)) : Filled arguments unset flags :=
  filled_of_stores (Command.stores_of_readFrom accepted)

end ClientFlags

end StubDns
