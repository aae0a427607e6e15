import StubDns.Server

/-! # Texts of the log

What stands in the log, told apart from how it is written: a record type by its customary name
or by its number, and an identifier in base sixteen with four digits, which has leading zeros.
-/

namespace StubDns

namespace RecordType

/-- The record types with a customary name. -/
inductive IsNamed : UInt16 → String → Prop
  | a : IsNamed 1 "A"
  | ns : IsNamed 2 "NS"
  | cname : IsNamed 5 "CNAME"
  | mx : IsNamed 15 "MX"
  | txt : IsNamed 16 "TXT"
  | aaaa : IsNamed 28 "AAAA"
  | srv : IsNamed 33 "SRV"

/-- A record type is called by its name, or without one by its number. -/
def IsCalled (code : UInt16) (called : String) : Prop :=
  IsNamed code called ∨
    (∀ other, ¬ IsNamed code other) ∧ called = "TYPE" ++ toString code.toNat

/-- The codes that have a name. -/
theorem IsNamed.mem_codes {code : UInt16} {called : String} (named : IsNamed code called) :
    code ∈ [1, 2, 5, 15, 16, 28, 33] := by
  cases named <;> decide

theorem isCalled_name (code : UInt16) : IsCalled code (name code) := by
  by_cases known : code ∈ [1, 2, 5, 15, 16, 28, 33]
  · left
    simp only [List.mem_cons, List.not_mem_nil, or_false] at known
    rcases known with equal | equal | equal | equal | equal | equal | equal <;> subst equal
    · exact .a
    · exact .ns
    · exact .cname
    · exact .mx
    · exact .txt
    · exact .aaaa
    · exact .srv
  · right
    refine ⟨fun other named => known named.mem_codes, ?_⟩
    simp only [List.mem_cons, List.not_mem_nil, or_false, not_or] at known
    rcases known with ⟨a, ns, cname, mx, txt, aaaa, srv⟩
    rw [name, if_neg a, if_neg ns, if_neg cname, if_neg mx, if_neg txt, if_neg aaaa, if_neg srv]
    rfl

end RecordType

namespace Server

/-! ## Identifiers -/

/-- The digits of base sixteen. -/
def hexDigits : Vector Char 16 :=
  #v['0', '1', '2', '3', '4', '5', '6', '7', '8', '9', 'a', 'b', 'c', 'd', 'e', 'f']

/-- Four digits of base sixteen that make up a word, behind a mark. -/
def IsHexWord (word : UInt16) (text : Text) : Prop :=
  ∃ first second third fourth : Fin 16,
    text = '0' :: 'x' :: [first, second, third, fourth].map hexDigits.get ∧
      word.toNat = ((first.val * 16 + second.val) * 16 + third.val) * 16 + fourth.val

theorem get_hexDigits (digit : Fin 16) : hexDigits.get digit = Nat.digitChar digit := by
  revert digit
  decide

/-- Digits with zeros in front, up to a size. -/
def padded (size value : Nat) : Text :=
  List.replicate (size - (Nat.toDigits 16 value).length) '0' ++ Nat.toDigits 16 value

/-- The last digit of several is the remainder, and those before it make up the quotient. -/
theorem padded_succ {size : Nat} (nonempty : 0 < size) (value : Nat) :
    padded (size + 1) value = padded size (value / 16) ++ [Nat.digitChar (value % 16)] := by
  by_cases short : value < 16
  · have quotient : value / 16 = 0 := Nat.div_eq_of_lt short
    have zeros : List.replicate size '0' = List.replicate (size - 1) '0' ++ ['0'] := by
      rw [← List.replicate_succ', Nat.sub_add_cancel nonempty]
    rw [padded, padded, quotient, Nat.mod_eq_of_lt short, Nat.toDigits_of_lt_base short]
    change List.replicate size '0' ++ _ = List.replicate (size - 1) '0' ++ ['0'] ++ _
    rw [zeros]
  · rw [padded, padded, Nat.toDigits_of_base_le (by decide) (Nat.le_of_not_lt short),
      List.length_append, List.length_singleton, Nat.add_sub_add_right, List.append_assoc]

theorem padded_one {value : Nat} (small : value < 16) : padded 1 value = [Nat.digitChar value] := by
  rw [padded, Nat.toDigits_of_lt_base small]
  rfl

theorem isHexWord_hexWord (word : UInt16) : IsHexWord word (hexWord word) := by
  have small : word.toNat / 16 / 16 / 16 < 16 := by
    have bound := word.toNat_lt
    omega
  have split : padded 4 word.toNat =
      [Nat.digitChar (word.toNat / 16 / 16 / 16), Nat.digitChar (word.toNat / 16 / 16 % 16),
        Nat.digitChar (word.toNat / 16 % 16), Nat.digitChar (word.toNat % 16)] := by
    rw [padded_succ (by decide), padded_succ (by decide), padded_succ (by decide),
      padded_one small]
    rfl
  refine ⟨⟨_, small⟩, ⟨word.toNat / 16 / 16 % 16, Nat.mod_lt _ (by decide)⟩,
    ⟨word.toNat / 16 % 16, Nat.mod_lt _ (by decide)⟩, ⟨word.toNat % 16, Nat.mod_lt _ (by decide)⟩,
    ?_, ?_⟩
  · change '0' :: 'x' :: padded 4 word.toNat = _
    simp only [split, List.map_cons, List.map_nil, get_hexDigits]
  · dsimp only
    omega

/-! ## Lines -/

/-- The text about a query of a peer: its identifier, its domain and what its type is called. -/
def IsQueryText (peer : String) (query : Query) (text : String) : Prop :=
  ∃ id called, IsHexWord query.header.id id ∧ RecordType.IsCalled query.qtype called ∧
    text = "query from " ++ peer ++ ", id: " ++ String.ofList id ++ ", domain: '"
      ++ String.ofList query.domain ++ "', type: " ++ called

theorem isQueryText_message (peer : String) (query : Query) :
    IsQueryText peer query
      ((LogRecord.asked query.header.id query.domain query.qtype).message peer) :=
  ⟨_, _, isHexWord_hexWord query.header.id, RecordType.isCalled_name query.qtype, rfl⟩

end Server

end StubDns
