import StubDns.Text.Basic

/-! # Pieces of a text

The laws of cutting and joining that hold for every text: a separator cuts a
text in two independent parts, each piece is a part of the text without the
separator, and pieces come back when they are joined and cut again.
-/

namespace StubDns.Text

variable {separator : Char}

/-! ## Cutting -/

@[simp] theorem cut_nil : cut separator [] = [[]] := rfl

@[simp] theorem cut_separator (tail : Text) :
    cut separator (separator :: tail) = [] :: cut separator tail := by
  simp [cut]

theorem cut_cons_of_ne {head : Char} {tail first : Text} {others : List Text}
    (different : head ≠ separator) (pieces : cut separator tail = first :: others) :
    cut separator (head :: tail) = (head :: first) :: others := by
  simp [cut, different, pieces]

/-- A separator cuts a text into two parts that are cut separately. -/
theorem cut_append_separator (left right : Text) :
    cut separator (left ++ separator :: right) =
      cut separator left ++ cut separator right := by
  simp only [cut_eq_splitOn, List.splitOn_append_cons_self]

theorem cut_of_not_mem {text : Text} (absent : separator ∉ text) :
    cut separator text = [text] := by
  rw [cut_eq_splitOn, List.splitOn_eq_singleton absent]

theorem not_mem_of_mem_cut {text piece : Text} (member : piece ∈ cut separator text) :
    separator ∉ piece := by
  induction text generalizing piece with
  | nil =>
      have empty : piece = [] := by simpa using member
      rw [empty]
      exact List.not_mem_nil
  | cons head tail induction =>
      by_cases equal : head = separator
      · subst equal
        rw [cut_separator] at member
        rcases List.mem_cons.mp member with empty | member
        · rw [empty]
          exact List.not_mem_nil
        · exact induction member
      · cases pieces : cut separator tail with
        | nil => exact absurd pieces (cut_ne_nil separator tail)
        | cons first others =>
            rw [cut_cons_of_ne equal pieces] at member
            rw [pieces] at induction
            rcases List.mem_cons.mp member with grown | member
            · rw [grown]
              intro inside
              rcases List.mem_cons.mp inside with here | inside
              · exact equal here.symm
              · exact induction List.mem_cons_self inside
            · exact induction (List.mem_cons_of_mem first member)

/-! ## Joining -/

theorem join_cons_of_ne_nil (piece : Text) {others : List Text} (some : others ≠ []) :
    join separator (piece :: others) = piece ++ separator :: join separator others := by
  simp [join_eq_intercalate, List.intercalate_cons_of_ne_nil some]

theorem join_append {left right : List Text} (leftSome : left ≠ [])
    (rightSome : right ≠ []) :
    join separator (left ++ right) =
      join separator left ++ separator :: join separator right := by
  induction left with
  | nil => exact absurd rfl leftSome
  | cons piece others induction =>
      by_cases last : others = []
      · subst last
        simpa [join] using join_cons_of_ne_nil piece rightSome
      · have notLast : others ++ right ≠ [] := by simp [last]
        rw [List.cons_append, join_cons_of_ne_nil piece notLast, induction last,
          join_cons_of_ne_nil piece last]
        simp

theorem infix_join_of_mem {pieces : List Text} {piece : Text} (member : piece ∈ pieces) :
    piece <:+: join separator pieces := by
  induction pieces with
  | nil => simp at member
  | cons head others induction =>
      by_cases last : others = []
      · subst last
        have equal : piece = head := by simpa using member
        subst equal
        exact List.infix_refl piece
      · rw [join_cons_of_ne_nil head last]
        rcases List.mem_cons.mp member with equal | member
        · subst equal
          exact (List.prefix_append piece _).isInfix
        · have part : join separator others <:+
              head ++ separator :: join separator others :=
            ⟨head ++ [separator], by simp⟩
          exact (induction member).trans part.isInfix

/-- Every piece of a cut is a connected part of the text. -/
theorem infix_of_mem_cut {text piece : Text} (member : piece ∈ cut separator text) :
    piece <:+: text := by
  have part : piece <:+: join separator (cut separator text) := infix_join_of_mem member
  rwa [join_cut] at part

/-- Cutting joined pieces cuts each of them. -/
theorem cut_join {pieces : List Text} (some : pieces ≠ []) :
    cut separator (join separator pieces) = pieces.flatMap (cut separator) := by
  induction pieces with
  | nil => exact absurd rfl some
  | cons piece others induction =>
      by_cases last : others = []
      · subst last
        simp [join]
      · rw [join_cons_of_ne_nil piece last, cut_append_separator, induction last,
          List.flatMap_cons]

theorem cut_join_of_not_mem {pieces : List Text} (some : pieces ≠ [])
    (absent : ∀ piece ∈ pieces, separator ∉ piece) :
    cut separator (join separator pieces) = pieces := by
  rw [cut_eq_splitOn, join_eq_intercalate, List.splitOn_intercalate separator absent some]

/-! ## Changing characters -/

section Map

variable {change : Char → Char}

/-- A change of characters that neither makes nor removes separators changes the pieces. -/
theorem cut_map (keeps : ∀ char, change char = separator ↔ char = separator) (text : Text) :
    cut separator (text.map change) = (cut separator text).map (List.map change) := by
  induction text with
  | nil => rfl
  | cons head tail induction =>
      by_cases equal : head = separator
      · have changed := (keeps head).mpr equal
        rw [List.map_cons, changed, equal, cut_separator, cut_separator, induction]
        rfl
      · have different : change head ≠ separator := fun changed => equal ((keeps head).mp changed)
        cases pieces : cut separator tail with
        | nil => exact absurd pieces (cut_ne_nil separator tail)
        | cons first others =>
            rw [pieces] at induction
            rw [List.map_cons, cut_cons_of_ne different induction, cut_cons_of_ne equal pieces]
            rfl

theorem map_join (pieces : List Text) :
    (join separator pieces).map change =
      join (change separator) (pieces.map (List.map change)) := by
  induction pieces with
  | nil => rfl
  | cons piece others induction =>
      by_cases last : others = []
      · rw [last]
        rfl
      · have someChanged : others.map (List.map change) ≠ [] := by simpa using last
        rw [join_cons_of_ne_nil piece last, List.map_append, List.map_cons, induction,
          List.map_cons, join_cons_of_ne_nil _ someChanged]

end Map

end StubDns.Text
