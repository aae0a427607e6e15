import StubDns.Proofs.Dns.QueryRoundTrip

/-! # Queries in a buffer

Queries are written to a buffer one behind the other, with nothing between them that says where
one ends. Each is read from where it starts, because a reader looks no further than the query
goes: writing more leaves the queries that are there, and a cut loses just those that it goes
through or that start behind it.
-/

namespace StubDns.Query

/-! ## Writing -/

/-- Write a query behind what a buffer holds: its header, and behind that its question. -/
def write (buffer : List UInt8) (query : Query) : List UInt8 :=
  buffer ++ query.header.encode ++ encodeQuestion query.domain query.qtype query.qclass

def writeAll (buffer : List UInt8) (queries : List Query) : List UInt8 :=
  queries.foldl write buffer

/-- The number of bytes that a query takes. -/
def wireLength (query : Query) : Nat := Header.size + query.questionLength

/-- Where one of the queries starts that are written behind what a buffer holds. -/
def position (buffer : List UInt8) (queries : List Query) (index : Nat) : Nat :=
  buffer.length + ((queries.take index).map wireLength).sum

/-- A query that was made for a domain that can be a name. -/
def Made (query : Query) : Prop :=
  ∃ domain options, Name.Writable domain ∧ query = make domain options

section Made

variable {query : Query}

theorem Made.decode_encode (made : Made query) : decode query.encode = .ok query := by
  rcases made with ⟨domain, options, writable, equal⟩
  subst equal
  exact decode_encode_make writable options

theorem Made.length_encode (made : Made query) : query.encode.length = query.wireLength := by
  rcases made with ⟨domain, options, -, equal⟩
  subst equal
  exact length_encode_make domain options

theorem write_eq_append (buffer : List UInt8) (query : Query) :
    write buffer query = buffer ++ query.encode := by
  rw [write, List.append_assoc, encode]

theorem writeAll_cons (buffer : List UInt8) (query : Query) (queries : List Query) :
    writeAll buffer (query :: queries) = writeAll (write buffer query) queries := rfl

theorem prefix_writeAll (buffer : List UInt8) (queries : List Query) :
    buffer <+: writeAll buffer queries := by
  induction queries generalizing buffer with
  | nil => exact List.prefix_rfl
  | cons query queries induction =>
      have written : buffer <+: write buffer query := by
        rw [write_eq_append]
        exact List.prefix_append buffer query.encode
      exact written.trans (induction (write buffer query))

theorem position_zero (buffer : List UInt8) (queries : List Query) :
    position buffer queries 0 = buffer.length := by
  simp [position]

theorem position_succ (made : Made query) (buffer : List UInt8) (queries : List Query)
    (index : Nat) :
    position buffer (query :: queries) (index + 1) =
      position (write buffer query) queries index := by
  simp [position, write_eq_append, made.length_encode, Nat.add_assoc]

end Made

/-! ## Reading from a position -/

section Reading

variable {bytes : List UInt8} {start : Nat} {query : Query}

theorem decode_drop_of_prefix {longer : List UInt8} (inside : bytes <+: longer)
    (read : decode (bytes.drop start) = .ok query) :
    decode (longer.drop start) = .ok query := by
  rcases inside with ⟨more, equal⟩
  subst equal
  have notTruncated : decode (bytes.drop start) ≠ .error .truncated := by simp [read]
  have within : start ≤ bytes.length := by
    have enough := length_le_of_decode read
    rw [List.length_drop, Header.size] at enough
    omega
  rw [List.drop_append_of_le_length within, decode_append_of_ne_truncated notTruncated, read]

theorem decode_drop_take_of_le (read : decode (bytes.drop start) = .ok query) {count : Nat}
    (enough : start + query.wireLength ≤ count) :
    decode ((bytes.take count).drop start) = .ok query := by
  rw [List.drop_take]
  apply decode_take_of_le read
  rw [wireLength] at enough
  omega

theorem decode_drop_take_of_lt (read : decode (bytes.drop start) = .ok query) {count : Nat}
    (less : count < start + query.wireLength) :
    decode ((bytes.take count).drop start) = .error .truncated := by
  rw [List.drop_take]
  apply decode_take_of_lt read
  rw [wireLength, Header.size] at less
  rw [Header.size]
  omega

end Reading

/-! ## Runs of writing -/

theorem decode_drop_write {query : Query} (made : Made query) (buffer : List UInt8) :
    decode ((write buffer query).drop buffer.length) = .ok query := by
  rw [write_eq_append, List.drop_left]
  exact made.decode_encode

theorem decode_drop_position {queries : List Query} (made : ∀ query ∈ queries, Made query)
    (buffer : List UInt8) {index : Nat} {query : Query} (here : queries[index]? = some query) :
    decode ((writeAll buffer queries).drop (position buffer queries index)) = .ok query := by
  induction queries generalizing buffer index with
  | nil => simp at here
  | cons first others induction =>
      have firstMade := made first List.mem_cons_self
      rw [writeAll_cons]
      cases index with
      | zero =>
          -- This step writes the query, and all later ones only append to the buffer.
          have same : first = query := by simpa using here
          subst same
          rw [position_zero]
          exact decode_drop_of_prefix (prefix_writeAll _ others)
            (decode_drop_write firstMade buffer)
      | succ index =>
          rw [position_succ firstMade]
          apply induction (fun query member => made query (List.mem_cons_of_mem first member))
          simpa using here

/-- Queries that are written to a buffer one behind the other leave what was there and are
each read from where they start, whatever follows them. After a cut, those that end before it
are still read, and one that it goes through ends too early. -/
theorem decode_writeAll {queries : List Query} (made : ∀ query ∈ queries, Made query)
    (buffer tail : List UInt8) :
    (writeAll buffer queries ++ tail).take buffer.length = buffer ∧
    ∀ index query, queries[index]? = some query →
      decode ((writeAll buffer queries ++ tail).drop (position buffer queries index)) =
        .ok query ∧
      ∀ count,
        (position buffer queries index + (12 + query.questionLength) ≤ count →
          decode (((writeAll buffer queries ++ tail).take count).drop
            (position buffer queries index)) = .ok query) ∧
        (position buffer queries index ≤ count →
          count < position buffer queries index + (12 + query.questionLength) →
            decode (((writeAll buffer queries ++ tail).take count).drop
              (position buffer queries index)) = .error .truncated) := by
  constructor
  · have inside := (prefix_writeAll buffer queries).trans (List.prefix_append _ tail)
    exact (List.prefix_iff_eq_take.mp inside).symm
  · intro index query here
    have read := decode_drop_of_prefix (List.prefix_append _ tail)
      (decode_drop_position made buffer here)
    exact ⟨read, fun count => ⟨fun enough => decode_drop_take_of_le read enough,
      fun _ less => decode_drop_take_of_lt read less⟩⟩

/-! ### Two queries -/

def twoQueries : List Query :=
  [make [] .standard, make "é.fr".toList ⟨0xFFFF, 0, 28, 255⟩]

theorem made_of_mem_twoQueries : ∀ query ∈ twoQueries, Made query := by
  intro query member
  simp only [twoQueries, List.mem_cons, List.not_mem_nil, or_false] at member
  rcases member with equal | equal
  · exact ⟨[], .standard, .inl rfl, equal⟩
  · exact ⟨"é.fr".toList, ⟨0xFFFF, 0, 28, 255⟩, .inr (by decide), equal⟩

/-- The second query starts behind the three bytes of the buffer and the 17 bytes of the first
one. A cut one byte before its end leaves the first query only. -/
theorem decode_writeAll_of_two_queries :
    decode ((writeAll [1, 0xC0, 0] twoQueries ++ [0, 1]).drop 20) =
        .ok (make "é.fr".toList ⟨0xFFFF, 0, 28, 255⟩) ∧
      decode (((writeAll [1, 0xC0, 0] twoQueries ++ [0, 1]).take 42).drop 20) =
        .error .truncated ∧
      decode (((writeAll [1, 0xC0, 0] twoQueries ++ [0, 1]).take 42).drop 3) =
        .ok (make [] .standard) := by
  rcases decode_writeAll made_of_mem_twoQueries [1, 0xC0, 0] [0, 1] with ⟨-, each⟩
  rcases each 0 _ rfl with ⟨-, firstCut⟩
  rcases each 1 _ rfl with ⟨second, secondCut⟩
  exact ⟨second, (secondCut 42).2 (by decide) (by decide), (firstCut 42).1 (by decide)⟩

end StubDns.Query
