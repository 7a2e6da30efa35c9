import Mathlib.Data.List.Basic

/-!
# Slices of a list

`Slices.slices n l` cuts a list into consecutive slices of `n` elements; the last one may be
shorter.

* `Slices.flatten_slices` — the slices, one after the other, are the list.
* `Slices.getElem?_slices` — the slice at an index.
-/

namespace Slices

variable {α : Type*}

def slices (n : Nat) (l : List α) : List (List α) :=
  (List.range ((l.length + n - 1) / n)).map fun i => (l.drop (i * n)).take n

theorem length_slices (n : Nat) (l : List α) : (slices n l).length = (l.length + n - 1) / n := by
  rw [slices, List.length_map, List.length_range]

/-- Each slice is `n` elements further on. -/
theorem getElem?_slices {n i : Nat} {l s : List α} (h : (slices n l)[i]? = some s) :
    s = (l.drop (i * n)).take n := by
  rw [slices, List.getElem?_map] at h
  obtain ⟨j, hj, rfl⟩ := Option.map_eq_some_iff.mp h
  obtain ⟨hlt, hval⟩ := List.getElem?_eq_some_iff.mp hj
  rw [List.getElem_range] at hval
  rw [hval]

theorem length_le_of_mem_slices {n : Nat} {l s : List α} (h : s ∈ slices n l) : s.length ≤ n := by
  obtain ⟨i, -, rfl⟩ := List.mem_map.mp h
  exact List.length_take_le _ _

/-- The first `k` slices are the first `k * n` elements. -/
theorem flatten_map_range (n k : Nat) (l : List α) :
    ((List.range k).map fun i => (l.drop (i * n)).take n).flatten = l.take (k * n) := by
  induction k with
  | zero => simp
  | succ k ih =>
    rw [List.range_succ, List.map_append, List.flatten_append, ih, Nat.succ_mul, List.take_add]
    simp

/-- Together the slices are the list. -/
theorem flatten_slices {n : Nat} (hn : 0 < n) (l : List α) : (slices n l).flatten = l := by
  have henough : l.length ≤ (l.length + n - 1) / n * n := by
    have hmod := Nat.mod_lt (l.length + n - 1) hn
    have hdiv := Nat.div_add_mod' (l.length + n - 1) n
    omega
  rw [slices, flatten_map_range, List.take_of_length_le henough]

end Slices
