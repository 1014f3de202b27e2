import Mathlib.Data.List.Basic

/-!
# Texts in columns of bounded size

A database server does not reject a text only because spaces run past the end of its
column: it cuts them off and stores the rest. An excess of anything else stays in place, and
it is left to the column's check to reject the text. Columns are measured in characters or,
for long texts, in bytes of the UTF-8 form, of which only whole characters are kept.
-/

namespace Varchar

/-- What a column of so many characters is given to store: the first ones, if nothing but
spaces follows them. A text that goes on with something else is not touched. -/
def cut (width : Nat) (text : String) : String :=
  if (text.toList.drop width).all (· == ' ') then String.ofList (text.toList.take width) else text

/-- How many leading characters fit into so many bytes. -/
def fitting : Nat → List Char → Nat
  | _, [] => 0
  | room, c :: rest => if c.utf8Size ≤ room then fitting (room - c.utf8Size) rest + 1 else 0

/-- What a column of so many bytes is given to store. -/
def cutBytes (room : Nat) (text : String) : String :=
  if text.utf8ByteSize ≤ room then text else cut (fitting room text.toList) text

variable {width room : Nat} {text : String}

/-- A text within its column is stored as it is. -/
theorem cut_of_le (short : text.length ≤ width) : cut width text = text := by
  have all : text.toList.length ≤ width := short
  simp only [cut, List.drop_of_length_le all, List.take_of_length_le all, List.all_nil, if_true,
    String.ofList_toList]

/-- A text that ends in something else than a space loses nothing, wherever it would
be cut. -/
theorem cut_of_last (last : text.toList.getLast? ≠ some ' ') : cut width text = text := by
  by_cases short : text.length ≤ width
  · exact cut_of_le short
  · refine if_neg fun spaces => ?_
    have filled : text.toList.drop width ≠ [] := by
      have long : ¬text.toList.length ≤ width := short
      rwa [ne_eq, List.drop_eq_nil_iff]
    have space := List.all_eq_true.mp spaces _ (List.getLast_mem filled)
    rw [List.getLast_drop, beq_iff_eq] at space
    have nonempty : text.toList ≠ [] := fun empty => filled (by simp [empty])
    exact last (by rw [List.getLast?_eq_some_getLast nonempty, space])

/-- The same where bytes are counted: only whole characters are kept, so such a text is
stored as it is or rejected. -/
theorem cutBytes_of_last (last : text.toList.getLast? ≠ some ' ') : cutBytes room text = text := by
  rw [cutBytes, cut_of_last last, ite_self]

end Varchar
