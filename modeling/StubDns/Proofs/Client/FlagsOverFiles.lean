import Mathlib.Control.Monad.Basic
import StubDns.Client
import StubDns.Proofs.CommandLine.GivenValues
import StubDns.Proofs.Network.Delivery

/-! # Flags over files

What a flag gives is used as it is given, whatever the file says; what no flag gives is used
as it was loaded. So two files that agree on what the flags leave open lead to the same run,
and this sends the one query that the configuration in use asks for.
-/

namespace StubDns

open CommandLine

/-! ## The configuration in use -/

/-- What is used: what is read of a value if one is given, and otherwise what was loaded. -/
def Chosen (read? : Text → Option α) (value? : Option Text) (loaded used : α) : Prop :=
  match value? with
  | some value => read? value = some used
  | none => used = loaded

theorem Chosen.of_fills {read? : Text → Option α} {value? : Option Text} {flag : Option α}
    (fills : Fills read? value? none flag) (loaded : α) :
    Chosen read? value? loaded (flag.getD loaded) := by
  cases fills with
  | kept => exact rfl
  | filled reads => exact reads

theorem Chosen.or_of_fills {read? : Text → Option α} {value? : Option Text} {flag : Option α}
    (fills : Fills read? value? none flag) (loaded : Option α) :
    Chosen (fun value => (read? value).map some) value? loaded (flag.or loaded) := by
  cases fills with
  | kept => exact rfl
  | filled reads => exact congrArg (Option.map some) reads

theorem Chosen.eq {read? : Text → Option α} {value? : Option Text} {left right used other : α}
    (agree : value? = none → left = right) (first : Chosen read? value? left used)
    (second : Chosen read? value? right other) : used = other := by
  cases value? with
  | none => exact first.trans ((agree rfl).trans second.symm)
  | some value => exact Option.some.inj (first.symm.trans second)

namespace ClientFlags

/-- The configuration in use, field by field, when arguments are given over a configuration
that was loaded. -/
structure Used (arguments : List Text) (loaded used : ClientConfig) : Prop where
  ip : Chosen Ip.read? (valueOf? "--server".toList arguments) loaded.server.ip used.server.ip
  port : Chosen portOf? (valueOf? "--port".toList arguments) loaded.server.port used.server.port
  domain : Chosen some (valueOf? "--domain".toList arguments) loaded.domain used.domain
  timeout :
    Chosen (fun value => (timeoutOf? value).map some) (valueOf? "--timeout-ms".toList arguments)
      loaded.timeout used.timeout

/-- Two configurations agree on what arguments leave open. -/
structure AgreeBeside (arguments : List Text) (left right : ClientConfig) : Prop where
  ip : valueOf? "--server".toList arguments = none → left.server.ip = right.server.ip
  port : valueOf? "--port".toList arguments = none → left.server.port = right.server.port
  domain : valueOf? "--domain".toList arguments = none → left.domain = right.domain
  timeout : valueOf? "--timeout-ms".toList arguments = none → left.timeout = right.timeout

section Accepted

variable {arguments : List Text} {flags : ClientFlags}

theorem configPath_eq (accepted : command.read arguments = .ok (.run flags)) :
    flags.configPath = (valueOf? "--config".toList arguments).getD defaultConfig := by
  have fills := (filled_of_read accepted).config
  rw [configPath]
  generalize valueOf? "--config".toList arguments = value? at fills ⊢
  generalize flags.config = config at fills ⊢
  cases fills with
  | kept => rfl
  | filled reads => rw [← reads]

theorem used_apply (accepted : command.read arguments = .ok (.run flags))
    (loaded : ClientConfig) : Used arguments loaded (flags.apply loaded) := by
  have filled := filled_of_read accepted
  exact ⟨.of_fills filled.server _, .of_fills filled.port _, .of_fills filled.domain _,
    .or_of_fills filled.timeout _⟩

end Accepted

theorem Used.eq {arguments : List Text} {left right used other : ClientConfig}
    (agree : AgreeBeside arguments left right) (first : Used arguments left used)
    (second : Used arguments right other) : used = other := by
  rcases used with ⟨⟨ip, port⟩, timeout, domain⟩
  rcases other with ⟨⟨otherIp, otherPort⟩, otherTimeout, otherDomain⟩
  cases (Chosen.eq agree.ip first.ip second.ip : ip = otherIp)
  cases (Chosen.eq agree.port first.port second.port : port = otherPort)
  cases (Chosen.eq agree.domain first.domain second.domain : domain = otherDomain)
  cases (Chosen.eq agree.timeout first.timeout second.timeout : timeout = otherTimeout)
  rfl

theorem apply_apply (flags : ClientFlags) (config : ClientConfig) :
    flags.apply (flags.apply config) = flags.apply config := by
  rcases flags with ⟨_, server, port, domain, timeout⟩
  cases server <;> cases port <;> cases domain <;> cases timeout <;> rfl

end ClientFlags

/-! ## Runs of the client -/

namespace Client

theorem report_sent (sent : List (Endpoint × Datagram)) (outcome : Outcome) :
    (report sent outcome).sent = sent := by
  cases outcome <;> rfl

section Accepted

variable {arguments : List Text} {flags : ClientFlags}

theorem prepare_of_read (accepted : ClientFlags.command.read arguments = .ok (.run flags))
    (files : Files) :
    prepare files arguments =
      match ClientConfig.load files flags.configPath with
      | .error error => .error (.failing (errorLine error.message))
      | .ok loaded => .ok (message (flags.apply loaded)) := by
  rw [prepare, Command.start, accepted]
  dsimp only
  rw [ClientFlags.load]
  cases ClientConfig.load files flags.configPath <;> rfl

theorem prepare_of_load (accepted : ClientFlags.command.read arguments = .ok (.run flags))
    {files : Files} {loaded : ClientConfig}
    (load : ClientConfig.load files flags.configPath = .ok loaded) :
    prepare files arguments = .ok (message (flags.apply loaded)) := by
  rw [prepare_of_read accepted, load]

theorem run_of_load_error (accepted : ClientFlags.command.read arguments = .ok (.run flags))
    {files : Files} {error : SettingsError}
    (load : ClientConfig.load files flags.configPath = .error error) (network : Network) :
    run network files arguments = .failing (errorLine error.message) := by
  rw [run, prepare_of_read accepted, load]

theorem sent_of_load (accepted : ClientFlags.command.read arguments = .ok (.run flags))
    {files : Files} {loaded : ClientConfig}
    (load : ClientConfig.load files flags.configPath = .ok loaded) (network : Network) :
    (run network files arguments).sent = (message (flags.apply loaded)).sent network := by
  rw [run, prepare_of_load accepted load]
  exact report_sent _ _

/-- Once arguments are accepted, two runs whose files agree on what the flags leave open use
the same configuration and are the same run. It sends the query of this configuration and
nothing else, if that can be sent. A configuration that cannot be loaded ends the run with its
error, whatever the other flags are. -/
theorem run_flags_over_files (accepted : ClientFlags.command.read arguments = .ok (.run flags)) :
    flags.configPath =
        (valueOf? "--config".toList arguments).getD "./dig_config.toml".toList ∧
    (∀ files loaded, ClientConfig.load files flags.configPath = .ok loaded →
      ClientFlags.Used arguments loaded (flags.apply loaded) ∧
      prepare files arguments = .ok
        { server := (flags.apply loaded).server
          datagram := (Query.make (flags.apply loaded).domain .standard).encode
          patience := (flags.apply loaded).patience } ∧
      ∀ network replies, (flags.apply loaded).server.port ≠ 0 →
        (Query.make (flags.apply loaded).domain .standard).encode.length ≤ 65507 →
        network.replies (flags.apply loaded).server
          (Query.make (flags.apply loaded).domain .standard).encode = .ok replies →
        (run network files arguments).sent =
          [((flags.apply loaded).server,
            (Query.make (flags.apply loaded).domain .standard).encode)]) ∧
    (∀ leftFiles rightFiles left right,
      ClientConfig.load leftFiles flags.configPath = .ok left →
      ClientConfig.load rightFiles flags.configPath = .ok right →
      ClientFlags.AgreeBeside arguments left right →
      flags.apply left = flags.apply right ∧
      prepare leftFiles arguments = prepare rightFiles arguments ∧
      ∀ network, run network leftFiles arguments = run network rightFiles arguments) ∧
    (∀ files error, ClientConfig.load files flags.configPath = .error error →
      ∀ others otherFlags, ClientFlags.command.read others = .ok (.run otherFlags) →
        otherFlags.configPath = flags.configPath →
        ∀ network, run network files others =
          .failing ("Error: " ++ error.message ++ "\n")) ∧
    ∀ config, flags.apply (flags.apply config) = flags.apply config := by
  refine ⟨ClientFlags.configPath_eq accepted, ?_, ?_, ?_, flags.apply_apply⟩
  · intro files loaded load
    refine ⟨ClientFlags.used_apply accepted loaded, prepare_of_load accepted load, ?_⟩
    intro network replies port fits replied
    rw [sent_of_load accepted load]
    exact Message.sent_of_replies port fits replied
  · intro leftFiles rightFiles left right leftLoad rightLoad agree
    have same : flags.apply left = flags.apply right :=
      (ClientFlags.used_apply accepted left).eq agree (ClientFlags.used_apply accepted right)
    have prepared : prepare leftFiles arguments = prepare rightFiles arguments := by
      rw [prepare_of_load accepted leftLoad, prepare_of_load accepted rightLoad, same]
    refine ⟨same, prepared, fun network => ?_⟩
    rw [run, run, prepared]
  · intro files error load others otherFlags otherAccepted samePath network
    exact run_of_load_error otherAccepted (samePath ▸ load) network

end Accepted

/-! ### A port and a domain over two files -/

def portArguments : List Text :=
  ["--port".toList, "53".toList, "--domain".toList, "z.cn".toList]

def portFlags : ClientFlags := ⟨none, none, some 53, some "z.cn".toList, none⟩

def filesOf (text : String) : Files :=
  [(["dig_config.toml".toList], .file (Utf8.encode text.toList))]

def leftFiles : Files := filesOf "resolver.port = 5353\nquery.domain = 'a.cn'\n"

def rightFiles : Files := filesOf "query.domain = 'b.cn'\nresolver.ip_address = '127.0.0.1'\n"

theorem load_leftFiles :
    ClientConfig.load leftFiles portFlags.configPath =
      .ok ⟨⟨.loopback, 5353⟩, none, "a.cn".toList⟩ := by
  decide +kernel

theorem load_rightFiles :
    ClientConfig.load rightFiles portFlags.configPath =
      .ok ⟨⟨.loopback, 2053⟩, none, "b.cn".toList⟩ := by
  decide +kernel

/-- The files differ in port and domain, and both are given by flags. -/
theorem run_flags_over_files_with_port_and_domain :
    ClientFlags.command.read portArguments = .ok (.run portFlags) ∧
      (∀ network, run network leftFiles portArguments = run network rightFiles portArguments) ∧
      prepare leftFiles portArguments = .ok
        ⟨⟨.loopback, 53⟩, (Query.make "z.cn".toList .standard).encode, none⟩ ∧
      (run (.withServer ⟨.loopback, 53⟩ fun _ => []) rightFiles portArguments).sent =
        [(⟨.loopback, 53⟩, (Query.make "z.cn".toList .standard).encode)] := by
  have accepted : ClientFlags.command.read portArguments = .ok (.run portFlags) := by decide +kernel
  rcases run_flags_over_files accepted with ⟨-, used, equal, -, -⟩
  have agree : ClientFlags.AgreeBeside portArguments ⟨⟨.loopback, 5353⟩, none, "a.cn".toList⟩
      ⟨⟨.loopback, 2053⟩, none, "b.cn".toList⟩ :=
    ⟨fun _ => rfl, fun absent => (nomatch absent), fun absent => (nomatch absent), fun _ => rfl⟩
  rcases equal _ _ _ _ load_leftFiles load_rightFiles agree with ⟨-, -, same⟩
  refine ⟨accepted, same, (used _ _ load_leftFiles).2.1, ?_⟩
  exact (used _ _ load_rightFiles).2.2 _ [] (by decide) (by decide) rfl

end Client

end StubDns
