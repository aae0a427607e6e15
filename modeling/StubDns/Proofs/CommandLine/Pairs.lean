import StubDns.Proofs.CommandLine.GivenValues

/-! # Names and values in any order

Each flag of the client has a slot. Arguments that are names with values behind them fill
the slots one after the other. They are accepted just if they name no slot twice and each
slot takes its value, and then the order of the pairs makes no difference: every slot ends
up with its own value, or without one.
-/

namespace StubDns.ClientFlags

open CommandLine

/-! ## Values -/

theorem portOf?_eq_some {value : Text} {port : UInt16} :
    portOf? value = some port ↔ Whole.IsDecimal port.toNat value :=
  Whole.toOption_read_map_eq_some UInt16.toNat_lt UInt16.toNat_ofNat_of_lt'
    fun _ => UInt16.ofNat_toNat

theorem timeoutOf?_eq_some {value : Text} {timeout : UInt64} :
    timeoutOf? value = some timeout ↔ Whole.IsDecimal timeout.toNat value :=
  Whole.toOption_read_map_eq_some UInt64.toNat_lt UInt64.toNat_ofNat_of_lt'
    fun _ => UInt64.ofNat_toNat

/-! ## Slots -/

/-- What a flag of the client fills. -/
inductive Slot
  | config
  | server
  | port
  | domain
  | timeout
  deriving DecidableEq, Repr

namespace Slot

def name : Slot → Text
  | .config => "--config".toList
  | .server => "--server".toList
  | .port => "--port".toList
  | .domain => "--domain".toList
  | .timeout => "--timeout-ms".toList

def store : Slot → Text → ClientFlags → Except ValueError ClientFlags
  | .config => storeConfig
  | .server => storeServer
  | .port => storePort
  | .domain => storeDomain
  | .timeout => storeTimeout

def isSet (flags : ClientFlags) : Slot → Bool
  | .config => flags.config.isSome
  | .server => flags.server.isSome
  | .port => flags.port.isSome
  | .domain => flags.domain.isSome
  | .timeout => flags.timeout.isSome

/-- The values that suit a slot. -/
def Takes : Slot → Text → Prop
  | .config, _ | .domain, _ => True
  | .server, value => ∃ ip, Ip.read? value = some ip
  | .port, value => ∃ port : UInt16, Whole.IsDecimal port.toNat value
  | .timeout, value => ∃ timeout : UInt64, Whole.IsDecimal timeout.toNat value

theorem name_inj {slot other : Slot} : slot.name = other.name ↔ slot = other := by
  have injective : ∀ slot other : Slot, slot.name = other.name → slot = other := by
    intro slot other
    cases slot <;> cases other <;> decide
  exact ⟨injective slot other, congrArg name⟩

/-! ## Storing one value -/

theorem exists_flag (slot : Slot) :
    ∃ flag, command.flags.find? (·.name = slot.name) = some flag ∧ flag.name = slot.name ∧
      flag.store = slot.store := by
  cases slot <;> exact ⟨_, rfl, rfl, rfl⟩

theorem readFrom_pair (slot : Slot) (value : Text) (rest : List Text) (given : ClientFlags) :
    Command.readFrom command.flags given false (slot.name :: value :: rest) =
      (slot.store value given).mapError (.badValue slot.name value) >>= fun given =>
        Command.readFrom command.flags given false rest := by
  have noHelp : Text.isOneOf Command.helpWords slot.name = false := by cases slot <;> decide
  have noEnd : slot.name ≠ Command.endOfFlags := by cases slot <;> decide
  have hyphen : slot.name.head? = some '-' := by cases slot <;> rfl
  rcases slot.exists_flag with ⟨flag, found, -, stores⟩
  rw [Command.readFrom_flag noHelp noEnd hyphen found, stores]

theorem filled_of_store {slot : Slot} {value : Text} {before after : ClientFlags}
    (stored : slot.store value before = .ok after) :
    Filled [slot.name, value] before after := by
  rcases slot.exists_flag with ⟨flag, found, named, stores⟩
  rw [← named]
  exact ClientFlags.filled_of_store (List.mem_of_find?_eq_some found) (stores ▸ stored)

theorem isSet_of_store {slot : Slot} {value : Text} {before after : ClientFlags}
    (stored : slot.store value before = .ok after) (other : Slot) :
    other.isSet after = (decide (slot = other) || other.isSet before) := by
  have filled := filled_of_store stored
  have given : (valueOf? other.name [slot.name, value]).isSome = decide (slot = other) := by
    simp only [valueOf?, Option.or_none, name_inj]
    split <;> simp [*]
  rw [← given]
  cases other
  · exact filled.config.isSome_eq
  · exact filled.server.isSome_eq
  · exact filled.port.isSome_eq
  · exact filled.domain.isSome_eq
  · exact filled.timeout.isSome_eq

/-- How an attempt to fill a slot ends. -/
inductive Filling (slot : Slot) (value : Text) (given : ClientFlags) :
    Except ValueError ClientFlags → Prop
  | stored (free : slot.isSet given = false) (takes : slot.Takes value) (after : ClientFlags) :
      Filling slot value given (.ok after)
  | duplicate (set : slot.isSet given = true) : Filling slot value given (.error .duplicate)
  | unsuitable (refused : ¬ slot.Takes value) (report : String) :
      Filling slot value given (.error (.unsuitable report))

theorem Filling.of_once {slot : Slot} {value : Text} {given : ClientFlags} {present : Option α}
    {content : Except String α} {fill : Option α → ClientFlags}
    (set : slot.isSet given = present.isSome)
    (takes : slot.Takes value ↔ ∃ stored, content.toOption = some stored) :
    Filling slot value given ((once present content).map fill) := by
  cases present with
  | some => exact .duplicate set
  | none =>
      cases content with
      | ok stored => exact .stored set (takes.mpr ⟨stored, rfl⟩) _
      | error report => exact .unsuitable (fun suits => nomatch takes.mp suits) report

theorem filling_store (slot : Slot) (value : Text) (given : ClientFlags) :
    Filling slot value given (slot.store value given) := by
  cases slot with
  | config | domain => exact .of_once rfl ⟨fun _ => ⟨value, rfl⟩, fun _ => trivial⟩
  | server =>
      refine .of_once rfl ?_
      rw [toOption_readIp]
      exact Iff.rfl
  | port =>
      refine .of_once rfl ?_
      rw [toOption_readWhole]
      exact exists_congr fun port => portOf?_eq_some.symm
  | timeout =>
      refine .of_once rfl ?_
      rw [toOption_readWhole]
      exact exists_congr fun timeout => timeoutOf?_eq_some.symm

end Slot

/-! ## Storing one value after the other -/

def arguments (pairs : List (Slot × Text)) : List Text :=
  pairs.flatMap fun pair => [pair.1.name, pair.2]

theorem valueOf?_arguments {pairs : List (Slot × Text)} (distinct : (pairs.map Prod.fst).Nodup)
    {slot : Slot} {value : Text} :
    valueOf? slot.name (arguments pairs) = some value ↔ (slot, value) ∈ pairs := by
  induction pairs with
  | nil => simp [arguments, valueOf?]
  | cons pair rest induction =>
      rcases pair with ⟨first, content⟩
      rw [List.map_cons, List.nodup_cons] at distinct
      rcases distinct with ⟨absent, distinct⟩
      have step : valueOf? slot.name (arguments ((first, content) :: rest)) =
          (if first.name = slot.name then some content else none).or
            (valueOf? slot.name (arguments rest)) := rfl
      rw [step, List.mem_cons, Prod.mk.injEq]
      by_cases same : first = slot
      · subst same
        have notLater : (first, value) ∉ rest :=
          fun later => absent (List.mem_map.mpr ⟨_, later, rfl⟩)
        simp [notLater, eq_comm]
      · simp [Slot.name_inj, same, Ne.symm same, induction distinct]

/-- Pairs that can be stored over some flags. -/
structure Suits (given : ClientFlags) (pairs : List (Slot × Text)) : Prop where
  distinct : (pairs.map Prod.fst).Nodup
  taken : ∀ pair ∈ pairs, pair.1.Takes pair.2
  free : ∀ slot ∈ pairs.map Prod.fst, slot.isSet given = false

/-- An error names a pair that spoils the others: its slot is filled before, or does not take
its value. -/
inductive Blames (given : ClientFlags) (pairs : List (Slot × Text)) : UsageError → Prop
  | duplicate {earlier later : List (Slot × Text)} {slot : Slot} {value : Text}
      (split : pairs = earlier ++ (slot, value) :: later)
      (filled : slot.isSet given = true ∨ slot ∈ earlier.map Prod.fst) :
      Blames given pairs (.badValue slot.name value .duplicate)
  | unsuitable {slot : Slot} {value : Text} (member : (slot, value) ∈ pairs)
      (refused : ¬ slot.Takes value) (report : String) :
      Blames given pairs (.badValue slot.name value (.unsuitable report))

section Step

variable {slot : Slot} {value : Text} {before after : ClientFlags} {rest : List (Slot × Text)}

theorem Suits.cons (free : slot.isSet before = false) (takes : slot.Takes value)
    (stored : slot.store value before = .ok after) (others : Suits after rest) :
    Suits before ((slot, value) :: rest) where
  distinct := by
    rw [List.map_cons, List.nodup_cons]
    refine ⟨fun again => ?_, others.distinct⟩
    have stillFree := others.free slot again
    rw [Slot.isSet_of_store stored] at stillFree
    simp at stillFree
  taken := List.forall_mem_cons.mpr ⟨takes, others.taken⟩
  free := by
    refine List.forall_mem_cons.mpr ⟨free, fun other member => ?_⟩
    have stillFree := others.free other member
    rw [Slot.isSet_of_store stored, Bool.or_eq_false_iff] at stillFree
    exact stillFree.2

theorem Blames.cons (stored : slot.store value before = .ok after) {error : UsageError}
    (later : Blames after rest error) : Blames before ((slot, value) :: rest) error := by
  cases later with
  | duplicate split filled =>
      subst split
      refine .duplicate (List.cons_append ..).symm ?_
      rw [Slot.isSet_of_store stored, Bool.or_eq_true, decide_eq_true_eq] at filled
      rcases filled with (same | set) | again
      · exact .inr (same ▸ .head _)
      · exact .inl set
      · exact .inr (.tail _ again)
  | unsuitable member refused report => exact .unsuitable (.tail _ member) refused report

end Step

/-- Either every value is stored, or an error names one that is not. -/
theorem readFrom_arguments (pairs : List (Slot × Text)) (given : ClientFlags) :
    (Suits given pairs ∧ ∃ after,
      Command.readFrom command.flags given false (arguments pairs) = .ok (.run after)) ∨
    ∃ error, Blames given pairs error ∧
      Command.readFrom command.flags given false (arguments pairs) = .error error := by
  induction pairs generalizing given with
  | nil => exact .inl ⟨⟨List.nodup_nil, nofun, nofun⟩, given, rfl⟩
  | cons pair rest induction =>
      rcases pair with ⟨slot, value⟩
      have step := slot.readFrom_pair value (arguments rest) given
      change Command.readFrom _ _ _ (arguments ((slot, value) :: rest)) = _ at step
      rw [step]
      have filling := slot.filling_store value given
      generalize stored : slot.store value given = result at filling ⊢
      cases filling with
      | stored free takes after =>
          rcases induction after with ⟨suits, last, read⟩ | ⟨error, blames, read⟩
          · exact .inl ⟨suits.cons free takes stored, last, read⟩
          · exact .inr ⟨error, blames.cons stored, read⟩
      | duplicate set => exact .inr ⟨_, .duplicate (List.nil_append _).symm (.inl set), rfl⟩
      | unsuitable refused report => exact .inr ⟨_, .unsuitable (.head _) refused report, rfl⟩

theorem Blames.not_suits {given : ClientFlags} {pairs : List (Slot × Text)} {error : UsageError}
    (blames : Blames given pairs error) : ¬ Suits given pairs := by
  intro suits
  cases blames with
  | @duplicate earlier later slot value split filled =>
      subst split
      have distinct := suits.distinct
      rw [List.map_append, List.map_cons, List.nodup_append] at distinct
      rcases filled with set | again
      · have free := suits.free slot (by simp)
        rw [set] at free
        contradiction
      · exact distinct.2.2 slot again slot (.head _) rfl
  | unsuitable member refused _ => exact refused (suits.taken _ member)

/-! ## Pairs in any order -/

/-- The flags hold the values of the pairs and nothing else. -/
structure Gives (pairs : List (Slot × Text)) (flags : ClientFlags) : Prop where
  config (path : Text) : flags.config = some path ↔ (.config, path) ∈ pairs
  server (ip : Ip) :
    flags.server = some ip ↔ ∃ value, (.server, value) ∈ pairs ∧ Ip.read? value = some ip
  port (port : UInt16) :
    flags.port = some port ↔ ∃ value, (.port, value) ∈ pairs ∧ Whole.IsDecimal port.toNat value
  domain (domain : Text) : flags.domain = some domain ↔ (.domain, domain) ∈ pairs
  timeout (timeout : UInt64) :
    flags.timeout = some timeout ↔
      ∃ value, (.timeout, value) ∈ pairs ∧ Whole.IsDecimal timeout.toNat value

theorem Gives.unique {pairs : List (Slot × Text)} {flags other : ClientFlags}
    (first : Gives pairs flags) (second : Gives pairs other) : flags = other := by
  rcases flags with ⟨config, server, port, domain, timeout⟩
  rcases other with ⟨otherConfig, otherServer, otherPort, otherDomain, otherTimeout⟩
  rw [mk.injEq]
  exact ⟨Option.ext fun path => (first.config path).trans (second.config path).symm,
    Option.ext fun ip => (first.server ip).trans (second.server ip).symm,
    Option.ext fun port => (first.port port).trans (second.port port).symm,
    Option.ext fun domain => (first.domain domain).trans (second.domain domain).symm,
    Option.ext fun timeout => (first.timeout timeout).trans (second.timeout timeout).symm⟩

theorem Gives.perm {pairs order : List (Slot × Text)} {flags : ClientFlags}
    (permuted : order.Perm pairs) (gives : Gives order flags) : Gives pairs flags := by
  constructor
  all_goals simp only [← permuted.mem_iff]
  · exact gives.config
  · exact gives.server
  · exact gives.port
  · exact gives.domain
  · exact gives.timeout

theorem eq_some_iff_of_fills (slot : Slot) {pairs : List (Slot × Text)}
    (distinct : (pairs.map Prod.fst).Nodup) {read? : Text → Option α} {after : Option α}
    (fills : Fills read? (valueOf? slot.name (arguments pairs)) none after) {stored : α} :
    after = some stored ↔ ∃ value, (slot, value) ∈ pairs ∧ read? value = some stored := by
  simp only [fills.eq_some_iff, valueOf?_arguments distinct]

theorem Gives.of_filled {pairs : List (Slot × Text)} (distinct : (pairs.map Prod.fst).Nodup)
    {flags : ClientFlags} (filled : Filled (arguments pairs) unset flags) :
    Gives pairs flags where
  config path := by
    rw [eq_some_iff_of_fills .config distinct filled.config]
    simp
  server ip := eq_some_iff_of_fills .server distinct filled.server
  port port := by
    simp only [eq_some_iff_of_fills .port distinct filled.port, portOf?_eq_some]
  domain domain := by
    rw [eq_some_iff_of_fills .domain distinct filled.domain]
    simp
  timeout timeout := by
    simp only [eq_some_iff_of_fills .timeout distinct filled.timeout, timeoutOf?_eq_some]

theorem Gives.configPath_eq {pairs : List (Slot × Text)} {flags : ClientFlags}
    (gives : Gives pairs flags) {path : Text} (given : (.config, path) ∈ pairs) :
    flags.configPath = path := by
  rw [configPath, (gives.config path).mpr given, Option.getD_some]

theorem Gives.configPath_eq_default {pairs : List (Slot × Text)} {flags : ClientFlags}
    (gives : Gives pairs flags) (absent : .config ∉ pairs.map Prod.fst) :
    flags.configPath = defaultConfig := by
  have unset : flags.config = none := by
    refine Option.eq_none_iff_forall_ne_some.mpr fun path given => absent ?_
    exact List.mem_map_of_mem ((gives.config path).mp given)
  rw [configPath, unset, Option.getD_none]

theorem exists_gives {pairs : List (Slot × Text)} (suits : Suits unset pairs) :
    ∃ flags, Gives pairs flags ∧ command.read (arguments pairs) = .ok (.run flags) := by
  rcases readFrom_arguments pairs unset with ⟨-, flags, read⟩ | ⟨error, blames, -⟩
  · exact ⟨flags, .of_filled suits.distinct (filled_of_read read), read⟩
  · exact absurd suits blames.not_suits

theorem isSet_unset (slot : Slot) : slot.isSet unset = false := by
  cases slot <;> rfl

theorem Suits.of_perm {given : ClientFlags} {pairs order : List (Slot × Text)}
    (permuted : order.Perm pairs) (suits : Suits given pairs) : Suits given order where
  distinct := (permuted.map Prod.fst).nodup_iff.mpr suits.distinct
  taken pair member := suits.taken pair (permuted.mem_iff.mp member)
  free slot member := suits.free slot ((permuted.map Prod.fst).mem_iff.mp member)

/-- Pairs of names and values give just these values, in any order, unless one of them spoils
the others. -/
theorem read_arguments (pairs : List (Slot × Text)) :
    ((pairs.map Prod.fst).Nodup → (∀ pair ∈ pairs, pair.1.Takes pair.2) →
      ∃ flags, Gives pairs flags ∧
        (∀ path, (.config, path) ∈ pairs → flags.configPath = path) ∧
        (.config ∉ pairs.map Prod.fst → flags.configPath = "./dig_config.toml".toList) ∧
        ∀ order, order.Perm pairs → command.read (arguments order) = .ok (.run flags)) ∧
    (¬ ((pairs.map Prod.fst).Nodup ∧ ∀ pair ∈ pairs, pair.1.Takes pair.2) →
      ∃ error, Blames unset pairs error ∧ command.read (arguments pairs) = .error error) := by
  constructor
  · intro distinct taken
    have suits : Suits unset pairs := ⟨distinct, taken, fun slot _ => isSet_unset slot⟩
    rcases exists_gives suits with ⟨flags, gives, -⟩
    refine ⟨flags, gives, fun path => gives.configPath_eq, gives.configPath_eq_default, ?_⟩
    intro order permuted
    rcases exists_gives (suits.of_perm permuted) with ⟨others, given, read⟩
    rw [read, gives.unique (given.perm permuted)]
  · intro spoiled
    rcases readFrom_arguments pairs unset with ⟨suits, -⟩ | ⟨error, blames, read⟩
    · exact absurd ⟨suits.distinct, suits.taken⟩ spoiled
    · exact ⟨error, blames, read⟩

/-! ### Values that look like arguments -/

def namesAsValues : List (Slot × Text) :=
  [(.domain, "--port".toList), (.port, "+053".toList), (.config, "help".toList)]

def portTooLarge : List (Slot × Text) :=
  [(.domain, "--domain".toList), (.port, "70000".toList)]

/-- A name and a word for help are values where values stand. -/
theorem read_arguments_of_names_as_values :
    (∀ order : List (Slot × Text), order.Perm namesAsValues →
      command.read (arguments order) =
        .ok (.run ⟨some "help".toList, none, some 53, some "--port".toList, none⟩)) ∧
    ∃ error, Blames unset portTooLarge error ∧
      command.read ["--domain".toList, "--domain".toList, "--port".toList, "70000".toList] =
        .error error := by
  have distinct : (namesAsValues.map Prod.fst).Nodup := by decide
  have decimal : Whole.IsDecimal (53 : UInt16).toNat "+053".toList :=
    ⟨"053".toList, .inr rfl, by decide, List.all_eq_true.mp rfl, rfl⟩
  have taken : ∀ pair ∈ namesAsValues, pair.1.Takes pair.2 := by
    simp only [namesAsValues, List.forall_mem_cons]
    exact ⟨trivial, ⟨53, decimal⟩, trivial, nofun⟩
  have refused : ¬ ∀ pair ∈ portTooLarge, pair.1.Takes pair.2 := by
    intro taken
    rcases taken (.port, "70000".toList) (.tail _ (.head _)) with ⟨port, decimal⟩
    have noPort : portOf? "70000".toList = none := by decide
    rw [portOf?_eq_some.mpr decimal] at noPort
    contradiction
  rcases (read_arguments namesAsValues).1 distinct taken with ⟨flags, -, -, -, read⟩
  refine ⟨fun order permuted => ?_, (read_arguments portTooLarge).2 fun both => refused both.2⟩
  rw [read order permuted, ← read namesAsValues (.refl _)]
  rfl

end StubDns.ClientFlags
