/-! # Text

A text is a list of Unicode characters. Names, keys, paths and option values
are texts; only finished messages for a reader are strings.

The two operations that domain names, addresses and keys share live here:
cutting a text at a separator and joining pieces with one. They are the
splitting and intercalation of lists, and so inverse to each other on pieces
that do not hold the separator.
-/

namespace StubDns

/-- A text is the list of its characters. -/
abbrev Text := List Char

namespace Text

/-- Cut a text at every `separator`. There is always one piece more than there
are separators, so the empty text has one empty piece. -/
def cut (separator : Char) : Text → List Text
  | [] => [[]]
  | head :: tail =>
      if head = separator then
        [] :: cut separator tail
      else
        match cut separator tail with
        | [] => [[head]]
        | first :: others => (head :: first) :: others

/-- Doubled separators have an empty piece between them. -/
example : cut '.' "a..bc".toList = ["a".toList, [], "bc".toList] := by decide

/-- Write pieces one after the other with one `separator` in between. -/
def join (separator : Char) : List Text → Text
  | [] => []
  | [piece] => piece
  | piece :: next :: others => piece ++ separator :: join separator (next :: others)

theorem cut_eq_splitOn (separator : Char) (text : Text) :
    cut separator text = text.splitOn separator := by
  induction text with
  | nil => rfl
  | cons head tail induction =>
      rw [cut, List.splitOn_cons_eq_if_modifyHead, induction]
      by_cases equal : head = separator
      · simp [equal]
      · rw [if_neg equal, if_neg (by simpa using equal)]
        cases pieces : tail.splitOn separator with
        | nil => exact absurd pieces (List.splitOn_ne_nil separator tail)
        | cons first others => rfl

theorem join_eq_intercalate (separator : Char) (pieces : List Text) :
    join separator pieces = [separator].intercalate pieces := by
  induction pieces with
  | nil => rfl
  | cons piece others induction =>
      cases others with
      | nil => exact List.intercalate_singleton.symm
      | cons next others =>
          rw [join, induction, List.intercalate_cons_cons, List.append_assoc]
          rfl

theorem cut_ne_nil (separator : Char) (text : Text) : cut separator text ≠ [] := by
  rw [cut_eq_splitOn]
  exact List.splitOn_ne_nil separator text

/-- Joining the pieces of a text gives the text back. -/
theorem join_cut (separator : Char) (text : Text) :
    join separator (cut separator text) = text := by
  rw [cut_eq_splitOn, join_eq_intercalate, List.intercalate_splitOn]

def isOneOf (words : List Text) (text : Text) : Bool := words.any fun word => word = text

/-- Fill a text with blanks up to `width` characters; a longer one stays. -/
def padRight (width : Nat) (text : Text) : Text :=
  text ++ List.replicate (width - text.length) ' '

end Text

end StubDns
