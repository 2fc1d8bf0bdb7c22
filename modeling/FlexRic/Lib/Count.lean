import Mathlib.Data.List.Perm.Basic
import Mathlib.Tactic.Ring

/-!
# FlexRic.Lib.Count

Counting the entries of a list that satisfy a test, when the entry at a
position is replaced or removed.

* `countP_set_add`: replaced, the count differs by what the two entries are;
* `countP_eraseIdx_add`: removed, it differs by what the entry is;
* `count_eraseP_map_add`: the same for the first entry with a given key;
* `sum_map_set_add`, `sum_map_eraseIdx_add`: so does a sum over the entries;
* `perm_flatMap_set`: replaced, all that the entries give differs by what the two
  give;
* `sum_range_update`: a sum over the indices, of two functions that differ at
  one of them.
-/

namespace FlexRic

open scoped List

universe u

variable {α : Type u} {p : α → Bool} {l : List α} {k : Nat} {a b : α}

/-- A replaced element changes a count by what the two elements count for. -/
theorem countP_set_add (h : l[k]? = some a) :
    (l.set k b).countP p + (p a).toNat = l.countP p + (p b).toNat := by
  obtain ⟨hlt, rfl⟩ := List.getElem?_eq_some_iff.mp h
  have hset := (List.set_perm_cons_eraseIdx hlt b).countP_eq p
  have hget := (List.getElem_cons_eraseIdx_perm hlt).countP_eq p
  rw [hset, ← hget]
  cases ha : p l[k] <;> cases hb : p b <;> simp [ha, hb]

/-- A replaced element changes a list made of all elements by what the two contribute. -/
theorem perm_flatMap_set {β : Type u} {f : α → List β} (h : l[k]? = some a) :
    (f a ++ (l.set k b).flatMap f).Perm (f b ++ l.flatMap f) := by
  obtain ⟨hlt, rfl⟩ := List.getElem?_eq_some_iff.mp h
  have hset := (List.set_perm_cons_eraseIdx hlt b).flatMap_right f
  have hget := (List.getElem_cons_eraseIdx_perm hlt).flatMap_right f
  rw [List.flatMap_cons] at hset hget
  calc f l[k] ++ (l.set k b).flatMap f
    _ ~ f l[k] ++ (f b ++ (l.eraseIdx k).flatMap f) := hset.append_left _
    _ ~ f b ++ (f l[k] ++ (l.eraseIdx k).flatMap f) := List.perm_append_comm_assoc ..
    _ ~ f b ++ l.flatMap f := hget.append_left _

theorem countP_eraseIdx_add (h : l[k]? = some a) :
    l.countP p = (l.eraseIdx k).countP p + (p a).toNat := by
  obtain ⟨hlt, rfl⟩ := List.getElem?_eq_some_iff.mp h
  rw [← (List.getElem_cons_eraseIdx_perm hlt).countP_eq p]
  cases ha : p l[k] <;> simp [ha]

/-- A replaced element changes a sum by what the two elements are worth. -/
theorem sum_map_set_add {f : α → Nat} (h : l[k]? = some a) :
    ((l.set k b).map f).sum + f a = (l.map f).sum + f b := by
  obtain ⟨hlt, rfl⟩ := List.getElem?_eq_some_iff.mp h
  have hset := ((List.set_perm_cons_eraseIdx hlt b).map f).sum_nat
  have hget := ((List.getElem_cons_eraseIdx_perm hlt).map f).sum_nat
  rw [List.map_cons, List.sum_cons] at hset hget
  omega

/-- An erased element takes its worth away from a sum. -/
theorem sum_map_eraseIdx_add {f : α → Nat} (h : l[k]? = some a) :
    (l.map f).sum = ((l.eraseIdx k).map f).sum + f a := by
  obtain ⟨hlt, rfl⟩ := List.getElem?_eq_some_iff.mp h
  have hget := ((List.getElem_cons_eraseIdx_perm hlt).map f).sum_nat
  rw [List.map_cons, List.sum_cons] at hget
  omega

/-- The first one of its image that is erased takes one away. -/
theorem count_eraseP_map_add {β : Type u} [BEq β] [LawfulBEq β] {f : α → β} {x y : β}
    (hx : x ∈ l.map f) :
    (l.map f).count y = ((l.eraseP fun e => x == f e).map f).count y + (x == y).toNat := by
  have hcount : ((l.map f).erase x).count y = _ := List.count_erase
  have herase : (l.map f).erase x = (l.eraseP fun e => x == f e).map f := by
    rw [List.erase_eq_eraseP, List.eraseP_map]
    rfl
  rw [herase] at hcount
  rw [hcount]
  cases hxy : x == y with
  | false => simp
  | true =>
    rw [← beq_iff_eq.mp hxy]
    have := List.count_pos_iff.mpr hx
    simp only [↓reduceIte, Bool.toNat_true]
    omega

/-- One of `n` numbers changes, and the sum with it. -/
theorem sum_range_update {f g : Nat → Nat} {n i : Nat} (hi : i < n) (h : ∀ j, j ≠ i → g j = f j) :
    ((List.range n).map g).sum + f i = ((List.range n).map f).sum + g i := by
  induction n with
  | zero => cases hi
  | succ n ih =>
    simp only [List.range_succ, List.map_append, List.map_cons, List.map_nil, List.sum_append,
      List.sum_cons, List.sum_nil]
    rcases Nat.lt_succ_iff_lt_or_eq.mp hi with hlt | rfl
    · have := ih hlt
      rw [h n (Nat.ne_of_gt hlt)]
      omega
    · have hsame : (List.range i).map g = (List.range i).map f :=
        List.map_congr_left fun j hj => h j (Nat.ne_of_lt (List.mem_range.mp hj))
      rw [hsame]
      omega

end FlexRic
