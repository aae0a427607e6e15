import StubDns.Proofs.Dns.QueryRoundTrip

/-! # Distinct queries have distinct bytes

As long as no length byte wraps, the bytes of a query tell what it asks, also for domains that
are read as another name or not at all. A length byte says where the next one is, so that two
names of the same bytes have the same labels. A label of 256 bytes can look like several.
-/

namespace StubDns

namespace Name

variable {left right : Text}

theorem eq_of_encode_eq
    (leftShort : ∀ label ∈ Text.cut '.' left, (Utf8.encode label).length ≤ 255)
    (rightShort : ∀ label ∈ Text.cut '.' right, (Utf8.encode label).length ≤ 255)
    (equal : encode left = encode right) : left = right := by
  have sameLabels := encodeLabels_injective
    (fun _ member => length_lt_of_mem_labels leftShort member)
    (fun _ member => length_lt_of_mem_labels rightShort member) (List.append_cancel_right equal)
  rw [← text_labels left, sameLabels, text_labels]

/-- A label of 256 bytes has a zero as its length byte, and its own bytes can be those of
other labels with their length bytes. -/
theorem encode_eq_of_wrapped_label (leftPlain : '.' ∉ left) (rightPlain : '.' ∉ right)
    (leftSize : (Utf8.encode left).length = 127) (rightSize : (Utf8.encode right).length = 127) :
    encode ('\x7F' :: (left ++ '\x7F' :: right)) = encode ('.' :: (left ++ '.' :: right)) := by
  have one : '.' ∉ '\x7F' :: (left ++ '\x7F' :: right) := by simp [leftPlain, rightPlain]
  have three : Text.cut '.' ('.' :: (left ++ '.' :: right)) = [[], left, right] := by
    simp [Text.cut_append_separator, Text.cut_of_not_mem leftPlain,
      Text.cut_of_not_mem rightPlain]
  have mark : Utf8.encodeChar '\x7F' = [UInt8.ofNat 127] := by decide
  rw [encode, encode, labels_of_ne_nil (List.cons_ne_nil _ _), Text.cut_of_not_mem one,
    labels_of_ne_nil (List.cons_ne_nil _ _), three]
  simp [encodeLabel, mark, leftSize, rightSize]

end Name

namespace Query

theorem wordBytes_injective : Function.Injective wordBytes := by
  intro left right equal
  exact (wordBytes_append_inj (congrArg (· ++ []) equal)).1

variable {left right : Query}

theorem parts_eq_of_encode_eq
    (leftShort : ∀ label ∈ Text.cut '.' left.domain, (Utf8.encode label).length ≤ 255)
    (rightShort : ∀ label ∈ Text.cut '.' right.domain, (Utf8.encode label).length ≤ 255)
    (equal : left.encode = right.encode) :
    left.header = right.header ∧ left.domain = right.domain ∧ left.qtype = right.qtype ∧
      left.qclass = right.qclass := by
  rcases Header.encode_append_inj equal with ⟨header, question⟩
  rw [encodeQuestion, encodeQuestion, List.append_assoc, List.append_assoc] at question
  rcases List.append_inj' question rfl with ⟨name, words⟩
  rcases wordBytes_append_inj words with ⟨qtype, qclass⟩
  exact ⟨header, Name.eq_of_encode_eq leftShort rightShort name, qtype,
    wordBytes_injective qclass⟩

/-- Two new queries have the same bytes only if they ask for the same domain with the same
options. Labels that are empty or longer than a label may be are no exception, as long as
their length bytes do not wrap. -/
theorem encode_make_eq_iff {left right : Text} {leftOptions rightOptions : QueryOptions}
    (leftShort : ∀ label ∈ Text.cut '.' left, (Utf8.encode label).length ≤ 255)
    (rightShort : ∀ label ∈ Text.cut '.' right, (Utf8.encode label).length ≤ 255) :
    (make left leftOptions).encode = (make right rightOptions).encode ↔
      left = right ∧ leftOptions = rightOptions := by
  constructor
  · intro equal
    rcases parts_eq_of_encode_eq leftShort rightShort equal with ⟨header, domain, qtype, qclass⟩
    have id : leftOptions.id = rightOptions.id := congrArg Header.id header
    have flags : leftOptions.flags = rightOptions.flags := congrArg Header.flags header
    refine ⟨domain, ?_⟩
    cases leftOptions
    cases rightOptions
    simp_all [make]
  · intro same
    rw [same.1, same.2]

/-- A dot before or behind a label of 255 bytes makes another query, though neither is read as
its domain. -/
theorem encode_make_eq_iff_of_long_label :
    (∀ label ∈ Text.cut '.' ('.' :: List.replicate 255 'a'), (Utf8.encode label).length ≤ 255) ∧
      (make ('.' :: List.replicate 255 'a') .standard).encode ≠
        (make (List.replicate 255 'a' ++ ['.']) .standard).encode := by
  have before : ∀ label ∈ Text.cut '.' ('.' :: List.replicate 255 'a'),
      (Utf8.encode label).length ≤ 255 := by decide +kernel
  have behind : ∀ label ∈ Text.cut '.' (List.replicate 255 'a' ++ ['.']),
      (Utf8.encode label).length ≤ 255 := by decide +kernel
  refine ⟨before, ?_⟩
  intro equal
  have same := ((encode_make_eq_iff before behind).mp equal).1
  exact absurd same (by decide)

/-- With one byte more in a label there are queries for two domains that have the same
bytes. -/
theorem encode_make_eq_of_wrapped_label {left right : Text} (leftPlain : '.' ∉ left)
    (rightPlain : '.' ∉ right) (leftSize : (Utf8.encode left).length = 127)
    (rightSize : (Utf8.encode right).length = 127) (options : QueryOptions) :
    (make ('\x7F' :: (left ++ '\x7F' :: right)) options).encode =
      (make ('.' :: (left ++ '.' :: right)) options).encode := by
  have same := Name.encode_eq_of_wrapped_label leftPlain rightPlain leftSize rightSize
  simp only [encode, encodeQuestion, make, same]

end Query

end StubDns
