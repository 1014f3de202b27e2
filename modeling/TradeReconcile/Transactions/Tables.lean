import Mathlib.Algebra.BigOperators.Group.List.Basic
import Mathlib.Algebra.Order.Ring.Int
import Mathlib.Algebra.Ring.Int.Defs
import Mathlib.Algebra.Ring.Nat
import Mathlib.Data.List.Nodup
import Mathlib.Tactic.Ring

/-!
# Tables of numbered rows

A table is a list of rows in the order in which they became visible. Writing a
row image replaces the row of the same number or appends a new row, so that row
images can be overlaid on any earlier state of the table. `Replaced` describes
the replacement of exactly one row and is what a conditional update on a unique
key amounts to.
-/

namespace Transactions

universe u v
variable {α : Type u} {β : Type v}

/-- A row with its number, the table's primary key. -/
structure Row (α : Type u) where
  id : Nat
  val : α
deriving DecidableEq, Repr

/-- Store a row image. -/
def putRow (table : List (Row α)) (row : Row α) : List (Row α) :=
  if table.any (·.id == row.id) then
    table.map fun old => if old.id = row.id then row else old
  else table ++ [row]

/-- No two rows share their number. -/
def UniqueIds (table : List (Row α)) : Prop := (table.map Row.id).Nodup

/-- No two rows share their key. -/
def UniqueKey (key : α → β) (table : List (Row α)) : Prop := (table.map fun row => key row.val).Nodup

/-- Exactly one row was exchanged, in place. -/
def Replaced (before after : List (Row α)) (old new : Row α) : Prop :=
  ∃ left right, before = left ++ old :: right ∧ after = left ++ new :: right

/-- A row whose number is new goes to the end. -/
theorem putRow_new {table : List (Row α)} {row : Row α}
    (fresh : ∀ old ∈ table, old.id ≠ row.id) : putRow table row = table ++ [row] := by
  have absent : table.any (·.id == row.id) = false := by
    simpa using fresh
  simp [putRow, absent]

/-- Exchanging the row of a number keeps the rows of other numbers. -/
theorem map_kept {rows : List (Row α)} {number : Nat} {new : Row α}
    (apart : ∀ other ∈ rows, other.id ≠ number) :
    rows.map (fun other => if other.id = number then new else other) = rows := by
  conv_rhs => rw [← List.map_id rows]
  exact List.map_congr_left fun other member => by simp [apart other member]

/-- The other rows of a table have other numbers than a row between them. -/
theorem UniqueIds.apart {left right : List (Row α)} {row : Row α}
    (unique : UniqueIds (left ++ row :: right)) :
    (∀ other ∈ left, other.id ≠ row.id) ∧ ∀ other ∈ right, other.id ≠ row.id := by
  simp only [UniqueIds, List.map_append, List.map_cons] at unique
  obtain ⟨_, inner, apart⟩ := List.nodup_append.mp unique
  constructor
  · exact fun other member => apart other.id (List.mem_map_of_mem member) row.id (by simp)
  · intro other member clash
    exact (List.nodup_cons.mp inner).1 (clash ▸ List.mem_map_of_mem member)

/-- A row whose number is present replaces that row and no other. -/
theorem putRow_replaced {table : List (Row α)} {old row : Row α} (ids : UniqueIds table)
    (present : old ∈ table) (same : row.id = old.id) : Replaced table (putRow table row) old row := by
  obtain ⟨left, right, rfl⟩ := List.append_of_mem present
  obtain ⟨leftApart, rightApart⟩ := ids.apart
  have found : (left ++ old :: right).any (·.id == row.id) = true := by simp [same]
  refine ⟨left, right, rfl, ?_⟩
  rw [putRow, if_pos found, List.map_append, List.map_cons, map_kept (same ▸ leftApart),
    map_kept (same ▸ rightApart)]
  simp [same]

/-- A second image of a new row takes the place of the first. -/
theorem putRow_twice {table : List (Row α)} {first second : Row α}
    (fresh : ∀ old ∈ table, old.id ≠ first.id) (same : second.id = first.id) :
    putRow (putRow table first) second = table ++ [second] := by
  have kept : table.map (fun old => if old.id = second.id then second else old) = table :=
    map_kept fun old member => same ▸ fresh old member
  rw [putRow_new fresh, putRow, if_pos (by simp [same]), List.map_append, kept]
  simp [same]

namespace Replaced

variable {before after : List (Row α)} {old new : Row α}

/-- The new row is in the table. -/
theorem new_mem (replaced : Replaced before after old new) : new ∈ after := by
  obtain ⟨left, right, rfl, rfl⟩ := replaced
  simp

/-- An exchange is a map over the table: the old row's number is its own. -/
theorem eq_map (replaced : Replaced before after old new) (unique : UniqueIds before) :
    after = before.map fun other => if other.id = old.id then new else other := by
  obtain ⟨left, right, rfl, rfl⟩ := replaced
  obtain ⟨leftApart, rightApart⟩ := unique.apart
  rw [List.map_append, List.map_cons, map_kept leftApart, map_kept rightApart]
  simp

/-- An exchange that changes nothing exchanges a row for itself. -/
theorem same_row (replaced : Replaced before before old new) : old = new := by
  obtain ⟨left, right, rfl, same⟩ := replaced
  exact (List.cons.inj (List.append_cancel_left same)).1

/-- Rows of the new table are the new image or rows of the old table. -/
theorem mem_after (replaced : Replaced before after old new) {row : Row α} (member : row ∈ after) :
    row = new ∨ row ∈ before := by
  obtain ⟨left, right, rfl, rfl⟩ := replaced
  simp only [List.mem_append, List.mem_cons] at member ⊢
  tauto

/-- The other rows of the new table have other numbers. -/
theorem mem_after_apart (replaced : Replaced before after old new) (unique : UniqueIds before)
    {row : Row α} (member : row ∈ after) : row = new ∨ (row ∈ before ∧ row.id ≠ old.id) := by
  obtain ⟨left, right, rfl, rfl⟩ := replaced
  obtain ⟨leftApart, rightApart⟩ := unique.apart
  simp only [List.mem_append, List.mem_cons] at member ⊢
  obtain inLeft | rfl | inRight := member
  · exact .inr ⟨.inl inLeft, leftApart row inLeft⟩
  · exact .inl rfl
  · exact .inr ⟨.inr (.inr inRight), rightApart row inRight⟩

/-- Rows of the old table other than the exchanged one are kept. -/
theorem mem_before (replaced : Replaced before after old new) {row : Row α} (member : row ∈ before) :
    row = old ∨ row ∈ after := by
  obtain ⟨left, right, rfl, rfl⟩ := replaced
  simp only [List.mem_append, List.mem_cons] at member ⊢
  tauto

/-- A function that does not see the exchange maps both tables to one list. -/
theorem map_eq (replaced : Replaced before after old new) (f : Row α → β) (same : f old = f new) :
    before.map f = after.map f := by
  obtain ⟨left, right, rfl, rfl⟩ := replaced
  simp [same]

/-- A selection that keeps neither image selects the same rows. -/
theorem filter_eq (replaced : Replaced before after old new) (p : Row α → Bool)
    (hidesOld : p old = false) (hidesNew : p new = false) : before.filter p = after.filter p := by
  obtain ⟨left, right, rfl, rfl⟩ := replaced
  simp [hidesOld, hidesNew]

/-- Row numbers stay unique. -/
theorem ids (replaced : Replaced before after old new) (same : old.id = new.id)
    (unique : UniqueIds before) : UniqueIds after := by
  unfold UniqueIds at unique ⊢
  rwa [← replaced.map_eq Row.id same]

/-- So does a key that the exchange leaves alone. -/
theorem key (replaced : Replaced before after old new) {key : α → β}
    (same : key old.val = key new.val) (unique : UniqueKey key before) : UniqueKey key after := by
  unfold UniqueKey at unique ⊢
  rwa [← replaced.map_eq (fun row => key row.val) same]

/-- An exchange moves a total by what it exchanges. -/
theorem sum (replaced : Replaced before after old new) (f : Row α → Int) :
    (after.map f).sum + f old = (before.map f).sum + f new := by
  obtain ⟨left, right, rfl, rfl⟩ := replaced
  simp only [List.map_append, List.map_cons, List.sum_append, List.sum_cons]
  omega

end Replaced

section Keys

variable {key : α → β} {table : List (Row α)}

/-- Appending keeps row numbers distinct when the new number is new. -/
theorem uniqueIds_append {row : Row α} (unique : UniqueIds table)
    (fresh : ∀ old ∈ table, old.id ≠ row.id) : UniqueIds (table ++ [row]) := by
  unfold UniqueIds at unique ⊢
  simp only [List.map_append, List.map_cons, List.map_nil]
  refine List.nodup_append.mpr ⟨unique, by simp, ?_⟩
  intro number member other last clash
  obtain ⟨old, present, rfl⟩ := List.mem_map.mp member
  simp only [List.mem_singleton] at last
  exact fresh old present (clash.trans last)

/-- Appending keeps a key unique when no stored row has the new row's key. -/
theorem uniqueKey_append {row : Row α} (unique : UniqueKey key table)
    (fresh : ∀ old ∈ table, key old.val ≠ key row.val) : UniqueKey key (table ++ [row]) := by
  unfold UniqueKey at unique ⊢
  simp only [List.map_append, List.map_cons, List.map_nil]
  refine List.nodup_append.mpr ⟨unique, by simp, ?_⟩
  intro value member other last clash
  obtain ⟨old, present, rfl⟩ := List.mem_map.mp member
  simp only [List.mem_singleton] at last
  exact fresh old present (clash.trans last)

/-- Rows that agree on the number are the same row. -/
theorem UniqueIds.eq_of_id (unique : UniqueIds table) {one two : Row α} (first : one ∈ table)
    (second : two ∈ table) (same : one.id = two.id) : one = two :=
  List.inj_on_of_nodup_map unique first second same

/-- Rows that agree on a unique key are the same row. -/
theorem UniqueKey.eq_of_key (unique : UniqueKey key table) {one two : Row α} (first : one ∈ table)
    (second : two ∈ table) (same : key one.val = key two.val) : one = two :=
  List.inj_on_of_nodup_map unique first second same

/-- Looking a row up by a unique key finds it. -/
theorem UniqueKey.find_eq [DecidableEq β] (unique : UniqueKey key table) {row : Row α}
    (member : row ∈ table) : table.find? (fun other => key other.val == key row.val) = some row := by
  cases found : table.find? (fun other => key other.val == key row.val) with
  | none =>
    have missed := List.find?_eq_none.mp found row member
    simp at missed
  | some other =>
    have same : key other.val = key row.val := by simpa using List.find?_some found
    rw [unique.eq_of_key (List.mem_of_find?_eq_some found) member same]

/-- A selection within one value of a duplicate-free attribute has at most one
element. -/
theorem filter_atMostOne {list : List α} {f : α → β} (nodup : (list.map f).Nodup) {p : α → Bool}
    {value : β} (selective : ∀ x ∈ list, p x = true → f x = value) :
    list.filter p = [] ∨ ∃ x ∈ list, p x = true ∧ list.filter p = [x] := by
  cases selection : list.filter p with
  | nil => exact .inl rfl
  | cons x rest =>
    have member : x ∈ list ∧ p x = true := by
      rw [← List.mem_filter, selection]
      exact List.mem_cons_self
    refine .inr ⟨x, member.1, member.2, ?_⟩
    cases rest with
    | nil => rfl
    | cons y others =>
      have second : y ∈ list ∧ p y = true := by
        rw [← List.mem_filter, selection]
        simp
      have clash : f x = f y :=
        (selective x member.1 member.2).trans (selective y second.1 second.2).symm
      have distinct : ((x :: y :: others).map f).Nodup :=
        selection ▸ nodup.sublist (List.filter_sublist.map f)
      simp [clash] at distinct

end Keys

end Transactions
