import StubDns.Proofs.Dns.NameReading
import StubDns.Proofs.Text.Pieces
import StubDns.Proofs.Text.Utf8Sequences

/-! # Writing names

A domain is written as the bytes of its labels. Its dots become length bytes, so
that the name is two bytes longer than the domain. Labels that were written come
back as the same text, and no label of a text that was read is longer than a
replacement for every byte of a label.
-/

namespace StubDns

/-! ## Bytes of parts of a text -/

theorem Utf8.length_encode_le_of_infix {part text : Text} (inside : part <:+: text) :
    (Utf8.encode part).length ≤ (Utf8.encode text).length := by
  rcases inside with ⟨before, after, equal⟩
  rw [← equal]
  simp only [Utf8.encode_append, List.length_append]
  omega

/-- A dot takes one byte, as much as a length byte. -/
theorem Utf8.sum_length_cut (text : Text) :
    ((Text.cut '.' text).map fun piece => 1 + (Utf8.encode piece).length).sum =
      (Utf8.encode text).length + 1 := by
  induction text with
  | nil => rfl
  | cons head tail induction =>
      by_cases equal : head = '.'
      · subst equal
        have dot : (Utf8.encodeChar '.').length = 1 := by decide
        rw [Text.cut_separator, List.map_cons, List.sum_cons, induction, Utf8.encode_cons,
          List.length_append, dot]
        simp
        omega
      · cases pieces : Text.cut '.' tail with
        | nil => exact absurd pieces (Text.cut_ne_nil '.' tail)
        | cons first others =>
            rw [pieces, List.map_cons, List.sum_cons] at induction
            rw [Text.cut_cons_of_ne equal pieces, List.map_cons, List.sum_cons,
              Utf8.encode_cons, Utf8.encode_cons, List.length_append, List.length_append]
            omega

namespace Name

/-! ## Domains and their labels -/

/-- A domain that can be a name: it is empty, or each of its labels takes between
one and 63 bytes. -/
def Writable (domain : Text) : Prop :=
  domain = [] ∨ ∀ label ∈ Text.cut '.' domain,
    1 ≤ (Utf8.encode label).length ∧ (Utf8.encode label).length ≤ 63

theorem labels_of_ne_nil {domain : Text} (nonempty : domain ≠ []) :
    labels domain = Text.cut '.' domain := by
  rw [labels, if_neg nonempty]

theorem mem_cut_of_mem_labels {domain label : Text} (member : label ∈ labels domain) :
    label ∈ Text.cut '.' domain := by
  by_cases empty : domain = []
  · rw [empty] at member
    cases member
  · rwa [← labels_of_ne_nil empty]

theorem length_lt_of_mem_labels {domain : Text}
    (short : ∀ label ∈ Text.cut '.' domain, (Utf8.encode label).length ≤ 255)
    {bytes : List UInt8} (member : bytes ∈ (labels domain).map Utf8.encode) :
    bytes.length < 256 := by
  rcases List.mem_map.mp member with ⟨label, labelMember, equal⟩
  subst equal
  exact Nat.lt_succ_of_le (short label (mem_cut_of_mem_labels labelMember))

theorem join_labels (domain : Text) : Text.join '.' (labels domain) = domain := by
  rw [labels]
  split
  · next empty => rw [empty]; rfl
  · exact Text.join_cut '.' domain

theorem writable_iff (domain : Text) :
    Writable domain ↔ AllReadable ((labels domain).map Utf8.encode) := by
  have sizes : AllReadable ((labels domain).map Utf8.encode) ↔
      ∀ label ∈ labels domain, Readable (Utf8.encode label) := by
    simp [AllReadable]
  rw [sizes]
  by_cases empty : domain = []
  · subst empty
    simp [Writable, labels]
  · rw [labels_of_ne_nil empty, Writable, or_iff_right empty]
    rfl

/-! ## The length of a name -/

theorem length_encode_of_ne_nil {domain : Text} (nonempty : domain ≠ []) :
    (encode domain).length = (Utf8.encode domain).length + 2 := by
  rw [encode, List.length_append, length_encodeLabels, labels_of_ne_nil nonempty, List.map_map]
  have sum := Utf8.sum_length_cut domain
  simp only [Function.comp_def, List.length_singleton]
  omega

/-! ## Reading back -/

theorem text_map_encode (texts : List Text) :
    text (texts.map Utf8.encode) = Text.join '.' texts := by
  have back : Utf8.decodeLossy ∘ Utf8.encode = id := funext Utf8.decodeLossy_encode
  rw [text, List.map_map, back, List.map_id]

theorem text_labels (domain : Text) :
    text ((labels domain).map Utf8.encode) = domain := by
  rw [text_map_encode, join_labels]

/-- A label of a text that was read has at most three bytes for every byte of the
longest label. -/
theorem length_le_of_mem_cut_text {labels : List (List UInt8)} (readable : AllReadable labels)
    {piece : Text} (member : piece ∈ Text.cut '.' (text labels)) :
    (Utf8.encode piece).length ≤ 3 * maxLabel := by
  by_cases noLabels : labels = []
  · subst noLabels
    have empty : piece = [] := by simpa [text, Text.join] using member
    rw [empty]
    exact Nat.zero_le _
  · rw [text, Text.cut_join (by simpa using noLabels)] at member
    rcases List.mem_flatMap.mp member with ⟨decoded, decodedMember, inside⟩
    rcases List.mem_map.mp decodedMember with ⟨label, labelMember, equal⟩
    calc
      (Utf8.encode piece).length ≤ (Utf8.encode decoded).length :=
        Utf8.length_encode_le_of_infix (Text.infix_of_mem_cut inside)
      _ ≤ 3 * label.length := by
        rw [← equal]
        exact (Utf8.length_encode_decodeLossy label).2
      _ ≤ 3 * maxLabel := Nat.mul_le_mul_left 3 (readable label labelMember).2

/-! ## Domains that cannot be names -/

theorem exists_first_unreadable {texts : List Text}
    (notAll : ¬ AllReadable (texts.map Utf8.encode)) :
    ∃ before bad after, texts = before ++ bad :: after ∧
      AllReadable (before.map Utf8.encode) ∧ ¬ Readable (Utf8.encode bad) := by
  induction texts with
  | nil => exact absurd .nil notAll
  | cons head tail induction =>
      by_cases readable : Readable (Utf8.encode head)
      · have tailNot : ¬ AllReadable (tail.map Utf8.encode) := fun all =>
          notAll (.cons readable all)
        rcases induction tailNot with ⟨before, bad, after, split, all, notReadable⟩
        refine ⟨head :: before, bad, after, ?_, .cons readable all, notReadable⟩
        rw [split, List.cons_append]
      · exact ⟨[], head, tail, rfl, .nil, readable⟩

/-- A label that no name holds is empty or too long; its length byte tells which, unless
it wraps. -/
theorem unreadable_cases {label : List UInt8} (unreadable : ¬ Readable label)
    (short : label.length < 256) :
    label = [] ∨
      maxLabel < label.length ∧ (UInt8.ofNat label.length).toNat = label.length := by
  by_cases empty : label = []
  · exact .inl empty
  · refine .inr ⟨?_, UInt8.toNat_ofNat_of_lt' short⟩
    apply Nat.lt_of_not_le
    intro fits
    exact unreadable ⟨List.length_pos_iff.mpr empty, fits⟩

/-- The labels before another one are a shorter domain, unless that is the only one
and empty. -/
theorem join_ne_join_append {before after : List Text} {bad : Text}
    (nonempty : Text.join '.' (before ++ bad :: after) ≠ []) :
    Text.join '.' before ≠ Text.join '.' (before ++ bad :: after) := by
  by_cases empty : before = []
  · subst empty
    exact nonempty.symm
  · intro equal
    have lengths := congrArg List.length equal
    rw [Text.join_append empty (List.cons_ne_nil bad after), List.length_append,
      List.length_cons] at lengths
    omega

/-- Labels of a domain that are read as the domain are labels that a name can
hold, whatever follows them. -/
theorem writable_of_readLabels {domain : Text} {tail after : List UInt8}
    {found : List (List UInt8)}
    (read : readLabels (encodeLabels ((labels domain).map Utf8.encode) ++ tail) =
      .ok (found, after))
    (same : text found = domain) : Writable domain := by
  rw [writable_iff]
  by_cases all : AllReadable ((labels domain).map Utf8.encode)
  · exact all
  exfalso
  rcases exists_first_unreadable all with ⟨before, bad, others, split, readable, unreadable⟩
  have nonempty : domain ≠ [] := by
    intro empty
    rw [empty] at all
    exact all .nil
  have member : bad ∈ Text.cut '.' (text found) := by
    rw [same, ← labels_of_ne_nil nonempty, split]
    simp
  -- Wrapped length bytes are no matter: no label that was read is as long as 256 bytes.
  have bound : (Utf8.encode bad).length ≤ 189 :=
    length_le_of_mem_cut_text (readLabels_eq_ok_iff.mp read).1 member
  rw [split, List.map_append, encodeLabels_append, List.append_assoc,
    readLabels_encodeLabels readable, List.map_cons, encodeLabels_cons, encodeLabel] at read
  rcases unreadable_cases unreadable (Nat.lt_of_le_of_lt bound (by decide)) with
    empty | ⟨long, length⟩
  · rw [empty] at read
    change (readLabels (0 :: _)).map (prepend (before.map Utf8.encode)) = _ at read
    rw [readLabels_zero] at read
    simp only [Except.map, prepend, List.append_nil, Except.ok.injEq, Prod.mk.injEq] at read
    rw [← read.1, text_map_encode, ← join_labels domain, split] at same
    rw [← join_labels domain, split] at nonempty
    exact join_ne_join_append nonempty same
  · rw [← length] at long
    rw [List.cons_append, List.cons_append, readLabels_tooLong long] at read
    cases read

end Name

end StubDns
