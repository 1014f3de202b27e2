import Mathlib.Algebra.BigOperators.Group.List.Basic
import Mathlib.Algebra.Order.Ring.Int
import Mathlib.Algebra.Ring.Int.Defs
import Mathlib.Algebra.Ring.Nat
import Mathlib.Data.List.Induction
import Mathlib.Data.List.Nodup
import Mathlib.Data.List.Perm.Basic
import Mathlib.Data.String.Basic
import Mathlib.Order.RelClasses
import Mathlib.Tactic.Ring

/-!
# Ordered maps with overwriting assignment

Association lists in ascending key order, as `std::map` iterates them. Assigning
to a present key replaces its value, so a map built from a list keeps the last
element of each key: the entries are a permutation of the elements that no later
element of the same key supersedes. Traversals of one map with lookups into
another add up like sums over a join.
-/

namespace OrderedMap

universe u v
variable {κ : Type u} {β : Type v} [DecidableEq κ] [LT κ] [DecidableLT κ]

/-- `map[key] = value`. -/
def assign (key : κ) (value : β) : List (κ × β) → List (κ × β)
  | [] => [(key, value)]
  | (other, stored) :: rest =>
    if key < other then (key, value) :: (other, stored) :: rest
    else if key = other then (key, value) :: rest
    else (other, stored) :: assign key value rest

/-- `map.find(key)`. -/
def find? (key : κ) (map : List (κ × β)) : Option β :=
  (map.find? fun entry => entry.1 = key).map Prod.snd

/-- Assign every element under its key, in order. -/
def ofList (key : β → κ) (values : List β) : List (κ × β) :=
  values.foldl (fun map value => assign (key value) value map) []

/-- Elements that a later element of the same key supersedes, in the order of the list. -/
def superseded (key : β → κ) : List β → List β
  | [] => []
  | value :: rest =>
    if rest.any fun later => key later = key value then value :: superseded key rest
    else superseded key rest

/-- Elements that are the last ones of their key. Together with the superseded ones they are
the whole list. -/
def surviving (key : β → κ) : List β → List β
  | [] => []
  | value :: rest =>
    if rest.any fun later => key later = key value then surviving key rest
    else value :: surviving key rest

section Assignment

omit [LT κ] [DecidableLT κ] in
/-- Lookup in a map with a first entry. -/
theorem find?_cons (key other : κ) (value : β) (rest : List (κ × β)) :
    find? key ((other, value) :: rest) = if other = key then some value else find? key rest := by
  by_cases same : other = key <;> simp [find?, same]

/-- Lookup after an assignment. -/
theorem find?_assign (key wanted : κ) (value : β) (map : List (κ × β)) :
    find? wanted (assign key value map) =
      if key = wanted then some value else find? wanted map := by
  induction map with
  | nil => simp [assign, find?_cons]
  | cons entry rest inductionHypothesis =>
    obtain ⟨other, stored⟩ := entry
    rw [assign]
    split
    · rw [find?_cons]
    · split
      · rename_i same
        subst same
        rw [find?_cons, find?_cons]
        split <;> rfl
      · rename_i distinct
        rw [find?_cons, inductionHypothesis, find?_cons]
        by_cases here : other = wanted
        · have apart : ¬key = wanted := fun same => distinct (same.trans here.symm)
          simp [here, apart]
        · simp [here]

/-- The map holds the last element of each key. -/
theorem find?_ofList (key : β → κ) (wanted : κ) (values : List β) :
    find? wanted (ofList key values) = (values.filter fun value => key value = wanted).getLast? := by
  induction values using List.reverseRecOn with
  | nil => rfl
  | append_singleton values last inductionHypothesis =>
    rw [ofList, List.foldl_append, List.foldl_cons, List.foldl_nil, find?_assign, List.filter_append]
    by_cases here : key last = wanted
    · simp [here]
    · rw [if_neg here]
      simp only [here, decide_false, List.filter_cons_of_neg, List.filter_nil, List.append_nil,
        Bool.false_eq_true, not_false_eq_true]
      exact inductionHypothesis

end Assignment

section Order

variable [IsStrictTotalOrder κ (· < ·)]

/-- Keys ascend strictly. -/
def Ascending (map : List (κ × β)) : Prop := map.Pairwise fun one two => one.1 < two.1

omit [DecidableEq κ] [DecidableLT κ] in
/-- In an ascending map no key comes twice. -/
theorem Ascending.nodup {map : List (κ × β)} (sorted : Ascending map) :
    (map.map Prod.fst).Nodup := by
  rw [List.Nodup, List.pairwise_map]
  refine List.Pairwise.imp ?_ sorted
  intro one two less same
  exact irrefl_of (· < ·) two.1 (same ▸ less)

/-- Assigning to an ascending map removes the old entry of the key and adds the
new one. -/
theorem assign_perm {map : List (κ × β)} (sorted : Ascending map) (key : κ) (value : β) :
    (assign key value map).Perm ((key, value) :: map.filter fun entry => entry.1 ≠ key) := by
  induction map with
  | nil => exact List.Perm.refl _
  | cons entry rest inductionHypothesis =>
    obtain ⟨other, stored⟩ := entry
    obtain ⟨above, sorted⟩ := List.pairwise_cons.mp sorted
    rw [assign]
    split
    · rename_i less
      have kept : ((other, stored) :: rest).filter (fun entry => entry.1 ≠ key) =
          (other, stored) :: rest := by
        rw [List.filter_eq_self]
        intro entry member
        simp only [ne_eq, decide_not, Bool.not_eq_true', decide_eq_false_iff_not]
        rintro rfl
        rcases List.mem_cons.mp member with rfl | inside
        · exact irrefl_of (· < ·) _ less
        · exact irrefl_of (· < ·) _ (trans_of (· < ·) less (above entry inside))
      rw [kept]
    · split
      · rename_i same
        subst same
        have kept : rest.filter (fun entry => entry.1 ≠ key) = rest := by
          rw [List.filter_eq_self]
          intro entry member
          simp only [ne_eq, decide_not, Bool.not_eq_true', decide_eq_false_iff_not]
          rintro rfl
          exact irrefl_of (· < ·) _ (above entry member)
        rw [List.filter_cons_of_neg (by simp), kept]
      · rename_i distinct
        have apart : ¬other = key := fun same => distinct same.symm
        apply ((inductionHypothesis sorted).cons (other, stored)).trans
        rw [List.filter_cons_of_pos (by simpa using apart)]
        exact List.Perm.swap _ _ _

/-- Assignment keeps the order: a new key is put before the first larger one, and a key that
is there keeps its place. -/
theorem assign_ascending {map : List (κ × β)} (sorted : Ascending map) (key : κ) (value : β) :
    Ascending (assign key value map) := by
  induction map with
  | nil => exact List.pairwise_singleton _ _
  | cons entry rest inductionHypothesis =>
    obtain ⟨other, stored⟩ := entry
    obtain ⟨above, below⟩ := List.pairwise_cons.mp sorted
    rw [assign]
    split
    · rename_i less
      refine List.pairwise_cons.mpr ⟨?_, sorted⟩
      intro entry member
      rcases List.mem_cons.mp member with rfl | inside
      · exact less
      · exact trans_of (· < ·) less (above entry inside)
    · split
      · rename_i same
        subst same
        exact List.pairwise_cons.mpr ⟨above, below⟩
      · rename_i notLess distinct
        refine List.pairwise_cons.mpr ⟨?_, inductionHypothesis below⟩
        intro entry member
        rcases List.mem_cons.mp ((assign_perm below key value).mem_iff.mp member) with rfl | inside
        · rcases trichotomous_of (· < ·) key other with less | same | more
          · exact absurd less notLess
          · exact absurd same distinct
          · exact more
        · exact above entry (List.mem_filter.mp inside).1

/-- The map of a list is ascending, since every assignment keeps the order. -/
theorem ofList_ascending (key : β → κ) (values : List β) : Ascending (ofList key values) := by
  induction values using List.reverseRecOn with
  | nil => exact List.Pairwise.nil
  | append_singleton values last inductionHypothesis =>
    rw [ofList, List.foldl_append, List.foldl_cons, List.foldl_nil]
    exact assign_ascending inductionHypothesis _ _

omit [LT κ] [DecidableLT κ] [IsStrictTotalOrder κ (· < ·)] in
/-- A new last element survives and supersedes its key's earlier survivor. -/
theorem surviving_snoc (key : β → κ) (values : List β) (last : β) :
    surviving key (values ++ [last]) =
      (surviving key values).filter (fun value => key value ≠ key last) ++ [last] := by
  induction values with
  | nil => simp [surviving]
  | cons value rest inductionHypothesis =>
    simp only [List.cons_append, surviving, List.any_append, List.any_cons, List.any_nil,
      Bool.or_false, Bool.or_eq_true, decide_eq_true_eq, inductionHypothesis]
    by_cases later : (rest.any fun later => key later = key value) = true
    · simp [later]
    · by_cases here : key last = key value
      · simp [later, here]
      · have apart : ¬key value = key last := fun same => here same.symm
        simp [later, here, apart]

/-- The entries of a map are the surviving elements under their keys. -/
theorem ofList_perm (key : β → κ) (values : List β) :
    (ofList key values).Perm ((surviving key values).map fun value => (key value, value)) := by
  induction values using List.reverseRecOn with
  | nil => exact List.Perm.refl _
  | append_singleton values last inductionHypothesis =>
    rw [ofList, List.foldl_append, List.foldl_cons, List.foldl_nil, surviving_snoc]
    apply (assign_perm (ofList_ascending key values) _ _).trans
    apply ((inductionHypothesis.filter _).cons _).trans
    rw [List.map_append, List.filter_map]
    exact (List.perm_append_singleton _ _).symm

end Order

section Sums

omit [LT κ] [DecidableLT κ] in
/-- Every element survives or is superseded. -/
theorem sum_split (key : β → κ) (amount : β → Int) (values : List β) :
    (values.map amount).sum = ((surviving key values).map amount).sum +
      ((superseded key values).map amount).sum := by
  induction values with
  | nil => rfl
  | cons value rest inductionHypothesis =>
    rw [surviving, superseded, List.map_cons, List.sum_cons, inductionHypothesis]
    split <;> simp only [List.map_cons, List.sum_cons] <;> omega

omit [LT κ] [DecidableLT κ] in
/-- Every value of a list survives or is superseded by a later one of its key. -/
theorem length_split (key : β → κ) (values : List β) :
    values.length = (surviving key values).length + (superseded key values).length := by
  induction values with
  | nil => rfl
  | cons value rest inductionHypothesis =>
    rw [surviving, superseded, List.length_cons, inductionHypothesis]
    split <;> simp only [List.length_cons] <;> omega

omit [LT κ] [DecidableLT κ] in
/-- With distinct keys nothing is superseded. -/
theorem superseded_nil {key : β → κ} {values : List β} (distinct : (values.map key).Nodup) :
    superseded key values = [] := by
  induction values with
  | nil => rfl
  | cons value rest inductionHypothesis =>
    obtain ⟨outside, distinct⟩ := List.nodup_cons.mp distinct
    rw [superseded, if_neg, inductionHypothesis distinct]
    simp only [List.any_eq_true, decide_eq_true_eq, not_exists, not_and]
    exact fun later member same => outside (same ▸ List.mem_map_of_mem member)

omit [LT κ] [DecidableLT κ] in
/-- Lookup succeeds exactly on the keys. -/
theorem find?_isSome {key : κ} {map : List (κ × β)} :
    (find? key map).isSome = true ↔ key ∈ map.map Prod.fst := by
  induction map with
  | nil => simp [find?]
  | cons entry rest inductionHypothesis =>
    obtain ⟨other, stored⟩ := entry
    rw [find?_cons, List.map_cons, List.mem_cons]
    by_cases same : other = key
    · simp [same]
    · rw [if_neg same, inductionHypothesis]
      exact ⟨.inr, fun member => member.resolve_left (Ne.symm same)⟩

omit [LT κ] [DecidableLT κ] in
/-- In a map with distinct keys, lookup is membership. -/
theorem find?_eq_some {key : κ} {value : β} {map : List (κ × β)}
    (distinct : (map.map Prod.fst).Nodup) :
    find? key map = some value ↔ (key, value) ∈ map := by
  induction map with
  | nil => simp [find?]
  | cons entry rest inductionHypothesis =>
    obtain ⟨other, stored⟩ := entry
    obtain ⟨outside, distinct⟩ := List.nodup_cons.mp distinct
    rw [find?_cons, List.mem_cons, Prod.mk.injEq]
    by_cases same : other = key
    · subst same
      have absent : (other, value) ∉ rest := fun member =>
        outside (List.mem_map.mpr ⟨_, member, rfl⟩)
      simp [absent, eq_comm]
    · rw [if_neg same, inductionHypothesis distinct]
      exact ⟨.inr, fun member => member.resolve_left fun here => same here.1.symm⟩

omit [LT κ] [DecidableLT κ] in
/-- Exactly one element of a duplicate-free list is a given one. -/
theorem sum_at {keys : List κ} (distinct : keys.Nodup) (wanted : κ) (amount : Int) :
    (keys.map fun key => if wanted = key then amount else 0).sum =
      if wanted ∈ keys then amount else 0 := by
  induction keys with
  | nil => rfl
  | cons key rest inductionHypothesis =>
    obtain ⟨outside, distinct⟩ := List.nodup_cons.mp distinct
    rw [List.map_cons, List.sum_cons, inductionHypothesis distinct]
    by_cases same : wanted = key
    · subst same
      simp [outside]
    · simp [same]

omit [LT κ] [DecidableLT κ] in
/-- Looking the keys of one map up in another sums what the other map holds under
common keys. -/
theorem join_sum {γ : Type v} {left : List (κ × β)} {right : List (κ × γ)}
    (distinctLeft : (left.map Prod.fst).Nodup) (distinctRight : (right.map Prod.fst).Nodup)
    (amount : γ → Int) :
    (left.map fun entry => (find? entry.1 right).elim 0 amount).sum =
      (right.map fun entry => if (find? entry.1 left).isSome then amount entry.2 else 0).sum := by
  induction right with
  | nil => simp [find?]
  | cons entry rest inductionHypothesis =>
    obtain ⟨other, stored⟩ := entry
    obtain ⟨outside, distinctRight⟩ := List.nodup_cons.mp distinctRight
    have absent : find? other rest = none := by
      rw [← Option.not_isSome_iff_eq_none, find?_isSome]
      exact outside
    have split : (left.map fun entry => (find? entry.1 ((other, stored) :: rest)).elim 0 amount) =
        left.map fun entry => (if other = entry.1 then amount stored else 0) +
          (find? entry.1 rest).elim 0 amount := by
      refine List.map_congr_left fun entry _ => ?_
      rw [find?_cons]
      by_cases same : other = entry.1
      · rw [← same, absent]
        simp
      · simp [same]
    have single := sum_at distinctLeft other (amount stored)
    rw [List.map_map] at single
    rw [split, List.sum_map_add, inductionHypothesis distinctRight, List.map_cons, List.sum_cons]
    congr 1
    apply single.trans
    simp only [find?_isSome]

/-- Summing the entries a traversal emits. -/
theorem filterMap_sum {α : Type u} {γ : Type v} (emit : α → Option γ) (amount : γ → Int)
    (values : List α) :
    ((values.filterMap emit).map amount).sum =
      (values.map fun value => (emit value).elim 0 amount).sum := by
  induction values with
  | nil => rfl
  | cons value rest inductionHypothesis =>
    cases emitted : emit value with
    | none => simp [emitted, inductionHypothesis]
    | some result => simp [emitted, inductionHypothesis]

variable [IsStrictTotalOrder κ (· < ·)]

/-- A map adds up to the list it was built from less the superseded elements. -/
theorem ofList_sum (key : β → κ) (amount : β → Int) (values : List β) :
    ((ofList key values).map fun entry => amount entry.2).sum +
      ((superseded key values).map amount).sum = (values.map amount).sum := by
  rw [sum_split key amount values, ((ofList_perm key values).map _).sum_eq, List.map_map]
  rfl

/-- The map has one entry for every value that is not superseded. -/
theorem ofList_length (key : β → κ) (values : List β) :
    (ofList key values).length + (superseded key values).length = values.length := by
  rw [length_split key values, (ofList_perm key values).length_eq, List.length_map]

/-- Maps with the same keys have the same size. -/
theorem length_of_keys {left right : List β} {key : β → κ}
    (same : ∀ wanted, (find? wanted (ofList key left)).isSome =
      (find? wanted (ofList key right)).isSome) :
    (ofList key left).length = (ofList key right).length := by
  have keys : ((ofList key left).map Prod.fst).Perm ((ofList key right).map Prod.fst) := by
    rw [List.perm_ext_iff_of_nodup (ofList_ascending key left).nodup
      (ofList_ascending key right).nodup]
    intro wanted
    rw [← find?_isSome, ← find?_isSome, same]
  simpa using keys.length_eq

end Sums

end OrderedMap
