import StubDns.Proofs.Client.FlagsOverFiles

/-! # How runs of the client end

Arguments and files either end a run before the network is touched, or lead to a
configuration. With a configuration one query is sent if it can be, and the outcome decides
what is shown. Something is shown on success only, and only help and a response are success.
-/

namespace StubDns.Client

open CommandLine

variable {files : Files} {arguments : List Text} {network : Network}

/-! ## Before the network -/

/-- Arguments over files that load give a configuration. -/
def Configured (files : Files) (arguments : List Text) (config : ClientConfig) : Prop :=
  ∃ flags loaded, ClientFlags.command.read arguments = .ok (.run flags) ∧
    ClientConfig.load files flags.configPath = .ok loaded ∧ config = flags.apply loaded

/-- Why there is no configuration to run with. -/
inductive Stopped (files : Files) (arguments : List Text) : Prop
  | unread {error : UsageError} (read : ClientFlags.command.read arguments = .error error)
  | help (read : ClientFlags.command.read arguments = .ok .help)
  | unloaded {flags : ClientFlags} {error : SettingsError}
      (read : ClientFlags.command.read arguments = .ok (.run flags))
      (load : ClientConfig.load files flags.configPath = .error error)

theorem stopped_or_configured (files : Files) (arguments : List Text) :
    Stopped files arguments ∨ ∃ config, Configured files arguments config := by
  cases read : ClientFlags.command.read arguments with
  | error error => exact .inl (.unread read)
  | ok request =>
      cases request with
      | help => exact .inl (.help read)
      | run flags =>
          cases load : ClientConfig.load files flags.configPath with
          | error error => exact .inl (.unloaded read load)
          | ok loaded => exact .inr ⟨_, flags, loaded, read, load, rfl⟩

theorem run_of_read_error {error : UsageError}
    (read : ClientFlags.command.read arguments = .error error) (files : Files)
    (network : Network) :
    run network files arguments = .failing (usageReport "dig" error) := by
  rw [run, prepare, Command.start, read]
  rfl

theorem run_of_help (read : ClientFlags.command.read arguments = .ok .help) (files : Files)
    (network : Network) :
    run network files arguments = .explaining ClientFlags.command.help := by
  rw [run, prepare, Command.start, read]

theorem run_of_configured {config : ClientConfig} (configured : Configured files arguments config)
    (network : Network) :
    run network files arguments =
      report ((message config).sent network) ((message config).exchange network) := by
  rcases configured with ⟨flags, loaded, read, load, rfl⟩
  rw [run, prepare_of_load read load]

/-! ## What is sent -/

theorem sent_eq_nil_or_singleton (message : Message) (network : Network) :
    message.sent network = [] ∨
      message.sent network = [(message.server, message.datagram)] := by
  rw [Message.sent]
  split
  · exact .inl rfl
  · exact .inr rfl

theorem sent_of_response {message : Message} {datagram : Datagram}
    (response : message.exchange network = .response datagram) :
    message.sent network = [(message.server, message.datagram)] := by
  rw [Message.exchange] at response
  rw [Message.sent]
  cases sent : message.send network with
  | error =>
      rw [sent] at response
      contradiction
  | ok => rfl

/-- A run that stops before the network is the same run on every network. -/
theorem Stopped.run_eq (stopped : Stopped files arguments) :
    ∃ ending : Run, ending.sent = [] ∧ ∀ network, run network files arguments = ending := by
  cases stopped with
  | unread read => exact ⟨_, rfl, run_of_read_error read files⟩
  | help read => exact ⟨_, rfl, run_of_help read files⟩
  | unloaded read load => exact ⟨_, rfl, run_of_load_error read load⟩

theorem run_sent (network : Network) (files : Files) (arguments : List Text) :
    (run network files arguments).sent = [] ∨
      ∃ config, Configured files arguments config ∧
        (run network files arguments).sent =
          [(config.server, (Query.make config.domain .standard).encode)] := by
  rcases stopped_or_configured files arguments with stopped | ⟨config, configured⟩
  · rcases stopped.run_eq with ⟨ending, silent, equal⟩
    exact .inl (equal network ▸ silent)
  · rw [run_of_configured configured, report_sent]
    rcases sent_eq_nil_or_singleton (message config) network with none | one
    · exact .inl none
    · exact .inr ⟨config, configured, one⟩

/-! ## What is shown -/

/-- The two ways to succeed: help, and a response. -/
def Succeeds (network : Network) (files : Files) (arguments : List Text) : Prop :=
  ClientFlags.command.read arguments = .ok .help ∨
    ∃ config datagram, Configured files arguments config ∧
      (message config).exchange network = .response datagram

theorem append_ne_empty {left right : String} (nonempty : right ≠ "") : left ++ right ≠ "" := by
  intro equal
  exact nonempty (String.append_eq_empty_iff.mp equal).2

theorem run_of_response {config : ClientConfig} {datagram : Datagram}
    (configured : Configured files arguments config)
    (response : (message config).exchange network = .response datagram) :
    run network files arguments =
      ⟨some 0, responseLine datagram, "",
        [(config.server, (Query.make config.domain .standard).encode)]⟩ := by
  rw [run_of_configured configured, sent_of_response response, response]
  rfl

theorem run_of_succeeds (succeeds : Succeeds network files arguments) :
    (run network files arguments).output ≠ "" ∧
      (run network files arguments).exit = some 0 := by
  rcases succeeds with help | ⟨config, datagram, configured, response⟩
  · rw [run_of_help help]
    exact ⟨append_ne_empty (by decide), rfl⟩
  · rw [run_of_response configured response]
    exact ⟨append_ne_empty (by decide), rfl⟩

theorem run_of_not_succeeds (fails : ¬ Succeeds network files arguments) :
    (run network files arguments).output = "" ∧
      (run network files arguments).exit ≠ some 0 := by
  rcases stopped_or_configured files arguments with
    (read | help | ⟨read, load⟩) | ⟨config, configured⟩
  · rw [run_of_read_error read]
    exact ⟨rfl, nofun⟩
  · exact absurd (.inl help) fails
  · rw [run_of_load_error read load]
    exact ⟨rfl, nofun⟩
  · rw [run_of_configured configured]
    cases outcome : (message config).exchange network with
    | response datagram => exact absurd (.inr ⟨config, datagram, configured, outcome⟩) fails
    | failed => exact ⟨rfl, nofun⟩
    | waiting => exact ⟨rfl, nofun⟩

/-! ## Every run -/

/-- A run stops before the network is touched, or sends at most the query of its domain; it
shows something and reports success just if it explains itself or a response arrives. -/
theorem run_endings (files : Files) (arguments : List Text) :
    (Stopped files arguments →
      ∃ ending : Run, ending.sent = [] ∧ ∀ network, run network files arguments = ending) ∧
    ∀ network,
      ((run network files arguments).sent = [] ∨
        ∃ config, Configured files arguments config ∧
          (run network files arguments).sent =
            [(config.server, (Query.make config.domain .standard).encode)]) ∧
      ((run network files arguments).output ≠ "" ↔ Succeeds network files arguments) ∧
      ((run network files arguments).exit = some 0 ↔ Succeeds network files arguments) ∧
      ∀ config datagram, Configured files arguments config →
        (message config).exchange network = .response datagram →
        run network files arguments =
          ⟨some 0, responseLine datagram, "",
            [(config.server, (Query.make config.domain .standard).encode)]⟩ := by
  refine ⟨Stopped.run_eq, fun network => ⟨run_sent network files arguments, ?_, ?_, ?_⟩⟩
  · constructor
    · intro shown
      by_contra fails
      exact shown (run_of_not_succeeds fails).1
    · exact fun succeeds => (run_of_succeeds succeeds).1
  · constructor
    · intro zero
      by_contra fails
      exact (run_of_not_succeeds fails).2 zero
    · exact fun succeeds => (run_of_succeeds succeeds).2
  · exact fun config datagram configured response => run_of_response configured response

/-! ### An echo -/

/-- A server at the address that is asked by default, which sends back what it is sent. -/
def echo : Network := .withServer ⟨.loopback, 2053⟩ fun datagram => [datagram]

def echoQuery : Datagram := (Query.make ClientConfig.defaultDomain .standard).encode

/-- Without arguments and files the query is sent and comes back; with a file that is
no document no network sees anything. -/
theorem run_endings_of_echo :
    run echo [] [] =
      ⟨some 0, responseLine echoQuery, "", [(⟨.loopback, 2053⟩, echoQuery)]⟩ ∧
    ∃ ending : Run, ending.sent = [] ∧
      ∀ network, run network (filesOf "resolver.port") [] = ending := by
  have noFlags : ClientFlags.command.read [] = .ok (.run .unset) := rfl
  have configured : Configured [] [] ⟨⟨.loopback, 2053⟩, none, ClientConfig.defaultDomain⟩ :=
    ⟨.unset, _, noFlags, rfl, rfl⟩
  have response : (message ⟨⟨.loopback, 2053⟩, none, ClientConfig.defaultDomain⟩).exchange echo =
      .response echoQuery := by
    decide +kernel
  have unloaded : ClientConfig.load (filesOf "resolver.port") ClientFlags.defaultConfig =
      .error .document := by
    decide +kernel
  exact ⟨((run_endings [] []).2 echo).2.2.2 _ _ configured response,
    (run_endings _ []).1 (.unloaded noFlags unloaded)⟩

end StubDns.Client
