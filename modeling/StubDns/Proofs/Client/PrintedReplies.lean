import StubDns.Proofs.Client.Endings
import StubDns.Proofs.Network.Delivery
import StubDns.Proofs.Text.ByteLiterals

/-! # What the client prints of a reply

The first reply to the query of a client ends its wait and is printed, as far as it is read. The
line between its quotes is a byte literal of these bytes, so that nothing of them is lost or
mistaken for the end of the line: different bytes are different lines.
-/

namespace StubDns.Client

/-- The query of a run is sent, and a reply is the first datagram that comes back while the run
waits. -/
def Replied (network : Network) (files : Files) (arguments : List Text) (reply : Datagram) :
    Prop :=
  ∃ config others, Configured files arguments config ∧ config.patience ≠ some ⟨0, 0⟩ ∧
    (message config).send network = .ok (reply :: others)

/-- A line with a byte literal of some bytes. -/
structure Prints (line : String) (bytes : List UInt8) (literal : Text) : Prop where
  line_eq : line = "res: b'" ++ String.ofList literal ++ "'\n"
  clean : ByteLiteral.Clean literal
  read_eq : ByteLiteral.read? literal = some bytes

theorem prints_responseLine (response : Datagram) :
    Prints (responseLine response) response (ByteLiteral.escape response) :=
  ⟨rfl, ByteLiteral.clean_of_read? (ByteLiteral.read?_escape response),
    ByteLiteral.read?_escape response⟩

theorem Prints.literal_eq {line : String} {leftBytes rightBytes : List UInt8} {left right : Text}
    (leftPrints : Prints line leftBytes left) (rightPrints : Prints line rightBytes right) :
    left = right := by
  have lines := leftPrints.line_eq.symm.trans rightPrints.line_eq
  have chars := congrArg String.toList lines
  simpa [String.toList_append, String.toList_ofList] using chars

/-- A line does not stand for different bytes. -/
theorem Prints.bytes_eq {line : String} {leftBytes rightBytes : List UInt8} {left right : Text}
    (leftPrints : Prints line leftBytes left) (rightPrints : Prints line rightBytes right) :
    leftBytes = rightBytes := by
  have read := leftPrints.read_eq
  rw [leftPrints.literal_eq rightPrints, rightPrints.read_eq] at read
  exact (Option.some.inj read).symm

theorem Replied.output_eq {network : Network} {files : Files} {arguments : List Text}
    {reply : Datagram} (replied : Replied network files arguments reply) :
    (run network files arguments).output = responseLine (reply.take 512) := by
  rcases replied with ⟨config, others, configured, patient, sent⟩
  have response : (message config).exchange network = .response (received reply) := by
    rw [Message.exchange, sent]
    exact Message.await_cons patient reply others
  rw [run_of_response configured response]
  rfl

/-- A reply is printed as one line with a byte literal of its first 512 bytes, which is printable
and has its quotes and backslashes escaped; and two runs print the same line just if the replies
to them have the same first 512 bytes. -/
theorem run_prints_reply :
    (∀ network files arguments reply, Replied network files arguments reply →
      ∃ literal, Prints (run network files arguments).output (reply.take 512) literal) ∧
    ∀ network files arguments reply otherNetwork otherFiles otherArguments otherReply,
      Replied network files arguments reply →
      Replied otherNetwork otherFiles otherArguments otherReply →
      ((run network files arguments).output =
          (run otherNetwork otherFiles otherArguments).output ↔
        reply.take 512 = otherReply.take 512) := by
  constructor
  · intro network files arguments reply replied
    rw [replied.output_eq]
    exact ⟨_, prints_responseLine _⟩
  · intro network files arguments reply otherNetwork otherFiles otherArguments otherReply replied
      otherReplied
    rw [replied.output_eq, otherReplied.output_eq]
    constructor
    · intro same
      apply (prints_responseLine (reply.take 512)).bytes_eq
      rw [same]
      exact prints_responseLine _
    · exact congrArg responseLine

/-! ### Replies with quotes -/

/-- A server at the address that is asked by default, which sends back the same datagram. -/
def replying (reply : Datagram) : Network := .withServer ⟨.loopback, 2053⟩ fun _ => [reply]

theorem replied_replying (reply : Datagram) : Replied (replying reply) [] [] reply := by
  refine ⟨⟨⟨.loopback, 2053⟩, none, ClientConfig.defaultDomain⟩, [], ?_, nofun, rfl⟩
  exact ⟨.unset, _, rfl, rfl, rfl⟩

/-- A backslash, the text of an escape behind it, a quote and the end of a line. -/
def markedReply : Datagram := [0x5C, 0x78, 0x34, 0x31, 0x27, 0x0A]

def fullReply : Datagram := List.replicate 512 0x5C

/-- A reply that looks like an escape is not printed like the byte that this would stand for.
What a reply has behind 512 bytes is not printed. -/
theorem run_prints_reply_of_marks :
    Replied (replying markedReply) [] [] markedReply ∧
      (∃ literal, Prints (run (replying markedReply) [] []).output markedReply literal) ∧
      (run (replying (markedReply.take 4)) [] []).output ≠ (run (replying [0x41]) [] []).output ∧
      (run (replying (fullReply ++ [1])) [] []).output =
        (run (replying (fullReply ++ [2])) [] []).output := by
  rcases run_prints_reply with ⟨prints, same⟩
  refine ⟨replied_replying markedReply, prints _ _ _ _ (replied_replying markedReply), ?_, ?_⟩
  · intro equal
    have bytes := (same _ _ _ _ _ _ _ _ (replied_replying _) (replied_replying _)).mp equal
    exact absurd bytes (by decide)
  · apply (same _ _ _ _ _ _ _ _ (replied_replying _) (replied_replying _)).mpr
    have full : fullReply.length = 512 := List.length_replicate
    rw [List.take_left' full, List.take_left' full]

end StubDns.Client
