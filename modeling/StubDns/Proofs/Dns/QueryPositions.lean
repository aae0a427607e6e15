import StubDns.Proofs.Dns.Reencoding

/-! # Positions in a query

A domain keeps its place in a query. Behind the header and a length byte its bytes follow in
their order, and only the dots are gone: in the place of each stands the length of the label
behind it. So every byte of a query is told from the bytes of the domain, whether labels are
empty or too long for a length byte.
-/

namespace StubDns

namespace Name

/-! ## Labels in bytes -/

/-- The label that starts at a position in the bytes of a domain: all up to the next dot. -/
def labelAt (bytes : List UInt8) (start : Nat) : List UInt8 :=
  (bytes.drop start).takeWhile (· ≠ 0x2E)

/-- The last byte is behind the last dot. -/
example : labelAt (Utf8.encode "a..bc".toList) 3 = [0x62, 0x63] := by decide

/-- The bytes of a domain, with the length of the label behind it for each dot. -/
def dotsAsLengths : List UInt8 → List UInt8
  | [] => []
  | byte :: rest =>
      (if byte = 0x2E then UInt8.ofNat (labelAt rest 0).length else byte) :: dotsAsLengths rest

@[simp] theorem length_dotsAsLengths (bytes : List UInt8) :
    (dotsAsLengths bytes).length = bytes.length := by
  induction bytes with
  | nil => rfl
  | cons byte rest induction => simp [dotsAsLengths, induction]

theorem getElem?_dotsAsLengths (bytes : List UInt8) (index : Nat) :
    (dotsAsLengths bytes)[index]? = bytes[index]?.map fun byte =>
      if byte = 0x2E then UInt8.ofNat (labelAt bytes (index + 1)).length else byte := by
  induction bytes generalizing index with
  | nil => simp [dotsAsLengths]
  | cons byte rest induction =>
      cases index with
      | zero => simp [dotsAsLengths, labelAt]
      | succ index =>
          rw [dotsAsLengths, List.getElem?_cons_succ, List.getElem?_cons_succ, induction]
          rfl

section WithoutDot

variable {part : List UInt8} (noDot : 0x2E ∉ part) (rest : List UInt8)

include noDot

theorem dotsAsLengths_append : dotsAsLengths (part ++ rest) = part ++ dotsAsLengths rest := by
  induction part with
  | nil => rfl
  | cons byte others induction =>
      have different : byte ≠ 0x2E := fun equal => noDot (equal ▸ List.mem_cons_self)
      rw [List.cons_append, dotsAsLengths, if_neg different,
        induction fun member => noDot (List.mem_cons_of_mem byte member)]
      rfl

theorem labelAt_append : labelAt (part ++ rest) 0 = part ++ labelAt rest 0 := by
  apply List.takeWhile_append_of_pos
  intro byte member
  have different : byte ≠ 0x2E := fun equal => noDot (equal ▸ member)
  exact decide_eq_true different

end WithoutDot

/-! ## Labels in text -/

theorem dot_not_mem_encodeChar {char : Char} (different : char ≠ '.') :
    0x2E ∉ Utf8.encodeChar char := by
  intro member
  have inText : '.' ∈ [char] := (dot_mem_encode_iff [char]).mp (by simpa using member)
  exact different (List.mem_singleton.mp inText).symm

theorem encodeChar_dot : Utf8.encodeChar '.' = [0x2E] := by decide

theorem labelAt_encode {text first : Text} {others : List Text}
    (pieces : Text.cut '.' text = first :: others) :
    labelAt (Utf8.encode text) 0 = Utf8.encode first := by
  induction text generalizing first others with
  | nil =>
      cases pieces
      rfl
  | cons head tail induction =>
      by_cases equal : head = '.'
      · subst equal
        rw [Text.cut_separator] at pieces
        cases pieces
        rw [Utf8.encode_cons, encodeChar_dot]
        rfl
      · cases tailPieces : Text.cut '.' tail with
        | nil => exact absurd tailPieces (Text.cut_ne_nil '.' tail)
        | cons next others =>
            rw [Text.cut_cons_of_ne equal tailPieces] at pieces
            cases pieces
            rw [Utf8.encode_cons, labelAt_append (dot_not_mem_encodeChar equal),
              induction tailPieces, Utf8.encode_cons]

/-- The labels of a text are written as its bytes behind the length of the first label. -/
theorem encodeLabels_cut (text : Text) :
    encodeLabels ((Text.cut '.' text).map Utf8.encode) =
      UInt8.ofNat (labelAt (Utf8.encode text) 0).length :: dotsAsLengths (Utf8.encode text) := by
  induction text with
  | nil => rfl
  | cons head tail induction =>
      by_cases equal : head = '.'
      · subst equal
        rw [Text.cut_separator, List.map_cons, encodeLabels_cons, induction, Utf8.encode_cons,
          encodeChar_dot]
        rfl
      · cases pieces : Text.cut '.' tail with
        | nil => exact absurd pieces (Text.cut_ne_nil '.' tail)
        | cons first others =>
            have grown := Text.cut_cons_of_ne equal pieces
            rw [pieces, List.map_cons, encodeLabels_cons, encodeLabel] at induction
            have behind := (List.cons.inj induction).2
            rw [labelAt_encode grown, grown, List.map_cons, encodeLabels_cons, encodeLabel,
              Utf8.encode_cons, Utf8.encode_cons,
              dotsAsLengths_append (dot_not_mem_encodeChar equal), ← behind]
            simp

end Name

namespace Query

/-! ## Bytes of a query -/

/-- Behind the header come the length of the first label, the domain, a zero byte and two
words. -/
theorem encode_make_of_ne_nil {domain : Text} (nonempty : domain ≠ []) (options : QueryOptions) :
    (make domain options).encode = (make domain options).header.encode ++
      UInt8.ofNat (Name.labelAt (Utf8.encode domain) 0).length ::
        (Name.dotsAsLengths (Utf8.encode domain) ++
          0 :: (wordBytes options.qtype ++ wordBytes options.qclass)) := by
  rw [encode_eq_labels]
  change _ ++ (Name.encodeLabels ((Name.labels domain).map Utf8.encode) ++ _) = _
  rw [Name.labels_of_ne_nil nonempty, Name.encodeLabels_cut]
  rfl

theorem getElem?_encode_make {domain : Text} (nonempty : domain ≠ []) (options : QueryOptions)
    (index : Nat) :
    (make domain options).encode[13 + index]? =
      (Name.dotsAsLengths (Utf8.encode domain) ++
        0 :: (wordBytes options.qtype ++ wordBytes options.qclass))[index]? := by
  have position : 13 + index = (make domain options).header.encode.length + (index + 1) := by
    rw [Header.length_encode, Header.size]
    omega
  rw [encode_make_of_ne_nil nonempty, position, List.getElem?_append_right (Nat.le_add_right _ _),
    Nat.add_sub_cancel_left, List.getElem?_cons_succ]

/-- The last words of a query are type and class. -/
theorem drop_encode_make (domain : Text) (options : QueryOptions) :
    (make domain options).encode.drop ((make domain options).encode.length - 4) =
      wordBytes options.qtype ++ wordBytes options.qclass := by
  have ends : (make domain options).encode =
      ((make domain options).header.encode ++ Name.encode domain) ++
        (wordBytes options.qtype ++ wordBytes options.qclass) := by
    simp [encode, encodeQuestion, make]
  rw [ends]
  apply List.drop_left'
  simp only [List.length_append, Header.length_encode, length_wordBytes]
  omega

theorem take_encode_make (domain : Text) (options : QueryOptions) :
    (make domain options).encode.take 12 =
      wordBytes options.id ++ wordBytes options.flags ++ [0, 1, 0, 0, 0, 0, 0, 0] := by
  have counts : wordBytes 1 = [0, 1] ∧ wordBytes 0 = [0, 0] := by decide
  refine (Header.take_encode_append _ _).trans ?_
  simp [Header.encode, make, counts]

/-- The length of a query for a domain, and each of its bytes: the header, the domain with
lengths for its dots and one in front, taken modulo 256, a zero byte, type and class. -/
theorem encode_make_bytes (domain : Text) (options : QueryOptions) :
    (make domain options).encode.length = 12 + (make domain options).questionLength ∧
    (make domain options).encode.length =
      (if domain = [] then 17 else (Utf8.encode domain).length + 18) ∧
    (domain ≠ [] →
      (make domain options).encode[12]? =
        some (UInt8.ofNat (Name.labelAt (Utf8.encode domain) 0).length) ∧
      (∀ index byte, (Utf8.encode domain)[index]? = some byte →
        (make domain options).encode[13 + index]? =
          some (if byte = 0x2E then
            UInt8.ofNat (Name.labelAt (Utf8.encode domain) (index + 1)).length else byte)) ∧
      (make domain options).encode[13 + (Utf8.encode domain).length]? = some 0) ∧
    (make domain options).encode.take 12 =
      wordBytes options.id ++ wordBytes options.flags ++ [0, 1, 0, 0, 0, 0, 0, 0] ∧
    (make domain options).encode.drop ((make domain options).encode.length - 4) =
      wordBytes options.qtype ++ wordBytes options.qclass := by
  refine ⟨length_encode_make domain options, ?_, ?_, take_encode_make domain options,
    drop_encode_make domain options⟩
  · split
    · next empty =>
        rw [empty]
        rfl
    · next nonempty =>
        rw [length_encode_make, questionLength_make nonempty, Header.size]
        omega
  · intro nonempty
    refine ⟨?_, ?_, ?_⟩
    · rw [encode_make_of_ne_nil nonempty]
      rfl
    · intro index byte found
      have inside : index < (Name.dotsAsLengths (Utf8.encode domain)).length := by
        rw [Name.length_dotsAsLengths]
        exact (List.getElem?_eq_some_iff.mp found).1
      rw [getElem?_encode_make nonempty, List.getElem?_append_left inside,
        Name.getElem?_dotsAsLengths, found]
      rfl
    · rw [getElem?_encode_make nonempty,
        List.getElem?_append_right (Nat.le_of_eq (Name.length_dotsAsLengths _)),
        Name.length_dotsAsLengths, Nat.sub_self]
      rfl

/-! ### A label of 257 bytes -/

def wrappedDomain : Text := List.replicate 257 'a' ++ ".é".toList

/-- The length of the first label wraps to one, and the dot behind it becomes the two bytes of
the last label. -/
theorem encode_make_bytes_of_wrapped_label :
    wrappedDomain ≠ [] ∧
      (make wrappedDomain .standard).encode.length = 278 ∧
      (make wrappedDomain .standard).encode[12]? = some 1 ∧
      (make wrappedDomain .standard).encode[13 + 256]? = some 0x61 ∧
      (make wrappedDomain .standard).encode[13 + 257]? = some 2 := by
  have nonempty : wrappedDomain ≠ [] := List.append_ne_nil_of_right_ne_nil _ (by decide)
  rcases encode_make_bytes wrappedDomain .standard with ⟨-, length, bytes, -⟩
  rcases bytes nonempty with ⟨first, later, -⟩
  refine ⟨nonempty, length.trans (by decide +kernel), first.trans (by decide +kernel), ?_, ?_⟩
  · exact (later 256 0x61 (by decide +kernel)).trans (by decide +kernel)
  · exact (later 257 0x2E (by decide +kernel)).trans (by decide +kernel)

end Query

end StubDns
