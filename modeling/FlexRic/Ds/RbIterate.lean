import FlexRic.Ds.RbExtract
import Mathlib.Data.List.Nodup

/-!
# FlexRic.Ds.RbIterate

`front` and `next` of `assoc_rb_tree.c`: from the least entry to the end, in order.

* `front_spec`, `next_spec`: an iterator is the first node of what is left to visit;
* `entries_spec`: a loop over them meets the entries of the tree.
-/

namespace FlexRic

open RbTree Heap

namespace AssocRbTree

variable {κ ν : Type} {t₀ t : AssocRbTree κ ν} {fs : List (Frame (Cell κ ν))} {c : Color}
  {cmp : Cmp κ} {u l r T : RbTree (Cell κ ν)} {x : Cell κ ν} {fuel : Nat}

/-- The iterator at the first of the nodes, or the end. -/
def headAddr (d : Addr) : List (Cell κ ν) → Addr
  | [] => d
  | x :: _ => x.addr

/-- The least node is the first. -/
theorem minimum_head (h : At t₀ t fs u) (hne : u ≠ .leaf) (hfuel : u.toList.length < fuel)
    (xs : List (Cell κ ν)) :
    t.minimum fuel (u.addr t₀.dummy) = .next (headAddr t₀.dummy (u.toList ++ xs)) := by
  obtain ⟨ys, col, y, r, hrun, rfl, hys⟩ := minimum_spec h hne hfuel
  rw [hrun, toList_plug, before_left hys]
  rfl

/-- **"Go up until you come from the parent's left"**: the first node behind the place. -/
theorem climb_spec (h : At t₀ t fs u) (hne : u ≠ .leaf) (hfuel : fs.length < fuel) :
    t.climb fuel (u.addr t₀.dummy) = .next (headAddr t₀.dummy (after fs)) := by
  induction fs generalizing u fuel with
  | nil =>
    obtain ⟨fuel, rfl⟩ := Nat.exists_eq_succ_of_ne_zero (Nat.ne_zero_of_lt hfuel)
    obtain ⟨n, hn, hp, -⟩ := h.loadParent hne
    unfold climb
    rw [hn, Outcome.next_bind, hp, h.dummy]
    exact if_pos rfl
  | cons f fs ih =>
    obtain ⟨fuel, rfl⟩ := Nat.exists_eq_succ_of_ne_zero (Nat.ne_zero_of_lt hfuel)
    obtain ⟨s, col, p, w⟩ := f
    obtain ⟨n, hn, hp, -⟩ := h.loadParent hne
    have hpd : p.addr ≠ t.dummy := h.dummy ▸ h.up.ne_dummy
    unfold climb
    rw [hn, Outcome.next_bind, hp, aboveAddr_cons, if_neg hpd, h.loadItem, Outcome.next_bind]
    cases s with
    | left => exact if_pos rfl
    | right =>
      have hne' : w.addr t₀.dummy ≠ u.addr t₀.dummy := (h.addr_ne (.inl hne)).symm
      have hup := ih h.up sided_ne_leaf (Nat.lt_of_succ_lt_succ hfuel)
      rw [addr_sided] at hup
      exact (if_neg hne').trans hup

/-- **`assoc_rb_tree_next`** goes to the first node behind. -/
theorem next_spec (h : At t t fs (.node c l x r))
    (hsize : t.size = (plug fs (.node c l x r)).toList.length) :
    t.next x.addr = .next (headAddr t.dummy (r.toList ++ after fs)) := by
  have hnode : At t t fs (sided .left c l x r) := h
  have hload : t.load x.addr = .next (linkNode .left c x (aboveAddr t.dummy fs) (l.addr t.dummy)
    (r.addr t.dummy)) := hnode.load
  have hlen := length_le_plug fs (RbTree.node c l x r)
  rw [toList_length_node] at hlen
  unfold next
  rw [Outcome.assert_of (bne_iff_ne.mpr hnode.ne_dummy), Outcome.next_bind, hload,
    Outcome.next_bind, show (linkNode .left c x (aboveAddr t.dummy fs) (l.addr t.dummy)
      (r.addr t.dummy)).right = r.addr t.dummy from rfl]
  by_cases hr : r = .leaf
  · subst hr
    rw [if_pos addr_leaf]
    exact climb_spec (u := .node c l x .leaf) h nofun (by omega)
  · rw [if_neg fun heq => hr (hnode.downOther.addr_eq_dummy.mp heq)]
    exact minimum_head hnode.downOther hr (by omega) (after fs)

/-- **`assoc_rb_tree_front`**. -/
theorem front_spec (h : RbOk cmp t T) : t.front = .next (headAddr t.dummy T.toList) := by
  have hroot : t.root = T.addr t.dummy := h.linked.root
  unfold front
  rw [hroot]
  by_cases hleaf : T = .leaf
  · subst hleaf
    exact if_pos rfl
  · rw [if_neg fun heq => hleaf (h.linked.addr_eq_dummy.mp heq)]
    have hmin := minimum_head h.linked hleaf
      (show T.toList.length < t.size + 1 by rw [h.size]; exact Nat.lt_succ_self _) []
    rwa [List.append_nil] at hmin

/-- Every node is in the tree once. -/
theorem RbOk.nodup (h : RbOk cmp t T) : T.toList.Nodup :=
  List.Nodup.of_map Cell.addr (List.nodup_iff_count_le_one.mpr h.linked.one)

/-- The place of a node, from what is before and behind it. -/
theorem RbOk.exists_split {xs ys : List (Cell κ ν)} (h : RbOk cmp t T)
    (hT : T.toList = xs ++ x :: ys) :
    ∃ fs c l r, T = plug fs (.node c l x r) ∧ ys = r.toList ++ after fs := by
  have hx : x ∈ T.toList := hT ▸ List.mem_append_right _ List.mem_cons_self
  obtain ⟨fs, c, l, r, heq⟩ := exists_place hx
  have hlist : T.toList = (before fs ++ l.toList) ++ x :: (r.toList ++ after fs) := by
    rw [heq, toList_plug, toList]
    simp
  have hnodup := h.nodup
  rw [hT, List.nodup_middle, List.nodup_cons, List.mem_append, not_or] at hnodup
  rw [hT] at hlist
  have hsame := (List.append_cons_inj_of_notMem hnodup.1.1 hnodup.1.2).mp hlist
  exact ⟨fs, c, l, r, heq, hsame.2.2⟩

/-- **A loop over `next`** meets what is left. -/
theorem entriesFrom_spec (h : RbOk cmp t T) (xs ys : List (Cell κ ν)) (hT : T.toList = xs ++ ys)
    (hfuel : ys.length < fuel) :
    t.entriesFrom fuel (headAddr t.dummy ys) = .next (ys.map Cell.entry) := by
  induction ys generalizing xs fuel with
  | nil =>
    obtain ⟨fuel, rfl⟩ := Nat.exists_eq_succ_of_ne_zero (Nat.ne_zero_of_lt hfuel)
    exact if_pos rfl
  | cons x ys ih =>
    obtain ⟨fuel, rfl⟩ := Nat.exists_eq_succ_of_ne_zero (Nat.ne_zero_of_lt hfuel)
    obtain ⟨fs, c, l, r, heq, hys⟩ := h.exists_split hT
    have hsize := h.size
    have hplace := h.linked
    rw [heq] at hsize hplace
    have hnode : At t t fs (sided .left c l x r) := hplace.place
    have hrest := ih (xs ++ [x]) (by rw [hT, List.append_assoc]; rfl)
      (Nat.lt_of_succ_lt_succ hfuel)
    rw [hys] at hrest ⊢
    unfold entriesFrom
    rw [show headAddr t.dummy (x :: (r.toList ++ after fs)) = x.addr from rfl,
      if_neg hnode.ne_dummy, hnode.load, Outcome.next_bind, linkNode_entry]
    show (t.next x.addr >>= _) = _
    rw [next_spec hplace.place hsize, Outcome.next_bind, hrest]
    rfl

/-- **The entries from `front` to `end`** are those of the tree. -/
theorem entries_spec (h : RbOk cmp t T) : t.entries = .next T.entries := by
  unfold entries
  rw [front_spec h, Outcome.next_bind]
  exact entriesFrom_spec h [] T.toList rfl (by rw [h.size]; exact Nat.lt_succ_self _)

end AssocRbTree

end FlexRic
