import FlexRic.Ds.LinkedTree
import FlexRic.Lib.OrdAssoc

/-!
# FlexRic.Ds.RbSearch

The ways down in `assoc_rb_tree.c`: to the leaf for a new key, to a key, and to the
least entry.

* `Turns`: at each node above the place, the way to it went where the comparator
  said;
* `turns_before`, `turns_after`: so the entries before and behind the place compare
  as the order wants;
* `findLeaf_spec`, `findRbTree_spec`, `minimum_spec`: what the loops find.
-/

namespace FlexRic

open RbTree

namespace LawfulCmp

variable {κ : Type} {c : Cmp κ} (hc : LawfulCmp c) {a b d : κ}

include hc

/-- `a < b` and not `d < b` give `a < d`. -/
theorem lt_of_lt_of_not_lt (hab : c a b = 1) (hdb : c d b ≠ 1) : c a d = 1 := by
  obtain h | h | h := hc.cases b d
  · exact hc.trans a b d hab h
  · rw [← hc.congr_right h a]
    exact hab
  · exact absurd ((hc.swap d b).mpr h) hdb

/-- Not `b < a` and `b < d` give `a < d`. -/
theorem lt_of_not_lt_of_lt (hba : c b a ≠ 1) (hbd : c b d = 1) : c a d = 1 := by
  obtain h | h | h := hc.cases a b
  · exact hc.trans a b d h hbd
  · rw [hc.congr a b d h]
    exact hbd
  · exact absurd ((hc.swap b a).mpr h) hba

/-- Not `b < a` and not `d < b` give not `d < a`. -/
theorem not_lt_trans (hba : c b a ≠ 1) (hdb : c d b ≠ 1) : c d a ≠ 1 :=
  fun hda => hdb (hc.lt_of_lt_of_not_lt hda hba)

end LawfulCmp

variable {κ ν : Type}

/-- The entries of a tree, from the left to the right. -/
def RbTree.entries (t : RbTree (Cell κ ν)) : OrdAssoc κ ν := t.toList.map Cell.entry

/-- Behind all that do not come after the key, before all that do. -/
theorem OrdAssoc.insert_between {c : Cmp κ} {k : κ} {v : ν} {l₁ l₂ : OrdAssoc κ ν}
    (h₁ : ∀ e ∈ l₁, c k e.1 ≠ 1) (h₂ : ∀ e ∈ l₂, c k e.1 = 1) :
    OrdAssoc.insert c k v (l₁ ++ l₂) = l₁ ++ (k, v) :: l₂ := by
  induction l₁ with
  | nil =>
    cases l₂ with
    | nil => rfl
    | cons e l₂ => exact if_pos (h₂ e List.mem_cons_self)
  | cons e l₁ ih =>
    rw [List.cons_append, OrdAssoc.insert, if_neg (h₁ e List.mem_cons_self),
      ih fun x hx => h₁ x (List.mem_cons_of_mem _ hx)]
    rfl

namespace AssocRbTree

variable {c : Cmp κ} {k : κ} {t₀ t : AssocRbTree κ ν} {fs : List (Frame (Cell κ ν))}
  {u : RbTree (Cell κ ν)}

/-! ## The way to a place -/

/-- The way to the place went to the left where `lt` holds of the key, and to the right where `ge`
does. -/
def Turns (lt ge : κ → Prop) (fs : List (Frame (Cell κ ν))) : Prop :=
  ∀ f ∈ fs, match f.side with
    | .left => lt f.item.entry.1
    | .right => ge f.item.entry.1

variable {lt ge : κ → Prop}

theorem Turns.nil : Turns (ν := ν) lt ge [] := fun _ hf => by cases hf

theorem Turns.left {x : Cell κ ν} {col : Color} (h : Turns lt ge fs) (hx : lt x.entry.1) :
    Turns lt ge (⟨.left, col, x, u⟩ :: fs) := by
  intro f hf
  obtain rfl | hf := List.mem_cons.mp hf
  · exact hx
  · exact h f hf

theorem Turns.right {x : Cell κ ν} {col : Color} (h : Turns lt ge fs) (hx : ge x.entry.1) :
    Turns lt ge (⟨.right, col, x, u⟩ :: fs) := by
  intro f hf
  obtain rfl | hf := List.mem_cons.mp hf
  · exact hx
  · exact h f hf

/-- What lies before the place is as the nodes where the way went to the right. -/
theorem turns_before (h : Turns lt ge fs)
    (hge : ∀ a b, c b a ≠ 1 → ge b → ge a)
    (hs : OrdAssoc.Sorted c ((before fs).map Cell.entry)) :
    ∀ e ∈ (before fs).map Cell.entry, ge e.1 := by
  induction fs with
  | nil => exact fun e he => by cases he
  | cons f fs ih =>
    obtain ⟨s, col, x, w⟩ := f
    have htail : Turns lt ge fs := fun g hg => h g (List.mem_cons_of_mem _ hg)
    cases s with
    | left => exact ih htail hs
    | right =>
      have hx : ge x.entry.1 := h _ List.mem_cons_self
      simp only [before, List.map_append, List.map_cons, List.map_nil] at hs ⊢
      obtain ⟨hfs, hw, -⟩ := List.pairwise_append.mp hs
      obtain ⟨-, -, hwx⟩ := List.pairwise_append.mp hw
      intro e he
      rw [List.mem_append, List.mem_append, List.mem_singleton] at he
      obtain he | he | rfl := he
      · exact ih htail hfs e he
      · exact hge _ _ (hwx e he _ (List.mem_singleton_self _)) hx
      · exact hx

/-- What lies behind it is as the nodes where it went to the left. -/
theorem turns_after (h : Turns lt ge fs)
    (hlt : ∀ a b, c b a ≠ 1 → lt a → lt b)
    (hs : OrdAssoc.Sorted c ((after fs).map Cell.entry)) :
    ∀ e ∈ (after fs).map Cell.entry, lt e.1 := by
  induction fs with
  | nil => exact fun e he => by cases he
  | cons f fs ih =>
    obtain ⟨s, col, x, w⟩ := f
    have htail : Turns lt ge fs := fun g hg => h g (List.mem_cons_of_mem _ hg)
    cases s with
    | right => exact ih htail hs
    | left =>
      have hx : lt x.entry.1 := h _ List.mem_cons_self
      simp only [after, List.map_append, List.map_cons] at hs ⊢
      obtain ⟨hxw, hw⟩ := List.pairwise_cons.mp hs
      obtain ⟨-, hfs, -⟩ := List.pairwise_append.mp hw
      intro e he
      rw [List.mem_cons, List.mem_append] at he
      obtain rfl | he | he := he
      · exact hx
      · exact hlt _ _ (hxw e (List.mem_append_left _ he)) hx
      · exact ih htail hfs e he

/-- The entries of a whole tree, around a place. -/
theorem entries_plug : (plug fs u).entries =
    (before fs).map Cell.entry ++ (u.entries ++ (after fs).map Cell.entry) := by
  rw [RbTree.entries, toList_plug, List.map_append, List.map_append]
  rfl

theorem sorted_around (hs : OrdAssoc.Sorted c (plug fs u).entries) :
    OrdAssoc.Sorted c ((before fs).map Cell.entry) ∧
      OrdAssoc.Sorted c ((after fs).map Cell.entry) := by
  rw [entries_plug] at hs
  obtain ⟨hb, hrest, -⟩ := List.pairwise_append.mp hs
  exact ⟨hb, (List.pairwise_append.mp hrest).2.1⟩

/-- **A red-black tree in memory**: linked, with a black root, balanced, in order, and counted;
there are no other nodes. -/
structure RbOk (c : Cmp κ) (t : AssocRbTree κ ν) (T : RbTree (Cell κ ν)) : Prop where
  linked : At t t [] T
  alloc : ∀ a, T.occ a = 0 → a ≠ t.dummy → t.heap a = none
  black : T.color = .black
  balanced : ∃ n, Balanced T n
  sorted : OrdAssoc.Sorted c T.entries
  size : t.size = T.toList.length

/-! ## Down to a leaf -/

theorem compKey_linkNode {s : Side} {col : Color} {x : Cell κ ν} {p near far : Addr} :
    compKey c k (linkNode s col x p near far) = .next (c k x.entry.1) := by
  unfold compKey
  rw [linkNode_entry]
  rfl

/-- **"Find leaf to insert".** -/
theorem findLeaf_spec {fuel : Nat} (h : At t₀ t fs u)
    (hturns : Turns (c k · = 1) (c k · ≠ 1) fs) (hfuel : u.toList.length < fuel) :
    ∃ fs', t.findLeaf c k fuel (u.addr t₀.dummy) (aboveAddr t₀.dummy fs) =
        .next (aboveAddr t₀.dummy fs') ∧ plug fs' .leaf = plug fs u ∧
      Turns (c k · = 1) (c k · ≠ 1) fs' := by
  induction u generalizing fs fuel with
  | leaf =>
    obtain ⟨fuel, rfl⟩ := Nat.exists_eq_succ_of_ne_zero (Nat.ne_zero_of_lt hfuel)
    refine ⟨fs, ?_, rfl, hturns⟩
    unfold findLeaf
    rw [addr_leaf, h.dummy, if_pos rfl]
    rfl
  | node col l x r ihl ihr =>
    obtain ⟨fuel, rfl⟩ := Nat.exists_eq_succ_of_ne_zero (Nat.ne_zero_of_lt hfuel)
    rw [toList_length_node] at hfuel
    have hdown : At t₀ t fs (sided .left col l x r) := h
    have hne : x.addr ≠ t.dummy := h.dummy ▸ hdown.ne_dummy
    have hload : t.load x.addr = _ := hdown.load
    unfold findLeaf
    rw [show (RbTree.node col l x r).addr t₀.dummy = x.addr from rfl, if_neg hne, hload]
    simp only [Outcome.next_bind, compKey_linkNode]
    by_cases hk : c k x.entry.1 = 1
    · rw [if_pos hk]
      exact ihl hdown.down (hturns.left hk) (by omega)
    · rw [if_neg hk]
      exact ihr hdown.downOther (hturns.right hk) (by omega)

/-! ## Down to a key -/

/-- **`find_rb_tree`** ends at a node with the key, or at a leaf that no way to the key avoids. -/
theorem findRbTree_spec {fuel : Nat} (hc : LawfulCmp c) (h : At t₀ t fs u)
    (hturns : Turns (c k · = 1) (c k · = -1) fs) (hfuel : u.toList.length < fuel) :
    ∃ fs' u', t.findRbTree c k fuel (u.addr t₀.dummy) = .next (u'.addr t₀.dummy) ∧
      plug fs' u' = plug fs u ∧ Turns (c k · = 1) (c k · = -1) fs' ∧
        ∀ col l x r, u' = .node col l x r → c k x.entry.1 = 0 := by
  induction u generalizing fs fuel with
  | leaf =>
    obtain ⟨fuel, rfl⟩ := Nat.exists_eq_succ_of_ne_zero (Nat.ne_zero_of_lt hfuel)
    refine ⟨fs, .leaf, ?_, rfl, hturns, nofun⟩
    unfold findRbTree
    rw [addr_leaf, h.dummy, if_pos rfl]
    rfl
  | node col l x r ihl ihr =>
    obtain ⟨fuel, rfl⟩ := Nat.exists_eq_succ_of_ne_zero (Nat.ne_zero_of_lt hfuel)
    rw [toList_length_node] at hfuel
    have hdown : At t₀ t fs (sided .left col l x r) := h
    have hne : x.addr ≠ t.dummy := h.dummy ▸ hdown.ne_dummy
    have hload : t.load x.addr = _ := hdown.load
    unfold findRbTree
    rw [show (RbTree.node col l x r).addr t₀.dummy = x.addr from rfl, if_neg hne, hload]
    simp only [Outcome.next_bind, compKey_linkNode]
    obtain hk | hk | hk := hc.cases k x.entry.1
    · rw [if_pos hk]
      exact ihl hdown.down (hturns.left hk) (by omega)
    · refine ⟨fs, .node col l x r, ?_, rfl, hturns, fun _ _ _ _ heq => ?_⟩
      · simp [hk, Outcome.assert, addr]
      · cases heq
        exact hk
    · rw [if_neg (by omega), if_pos hk]
      exact ihr hdown.downOther (hturns.right hk) (by omega)

/-- At a leaf, no entry is equal to the key. -/
theorem not_found (hc : LawfulCmp c) (hs : OrdAssoc.Sorted c (plug fs .leaf).entries)
    (hturns : Turns (c k · = 1) (c k · = -1) fs) :
    ∀ e ∈ (plug fs .leaf).entries, c k e.1 ≠ 0 := by
  obtain ⟨hb, ha⟩ := sorted_around hs
  intro e he
  rw [entries_plug, List.mem_append, List.mem_append] at he
  obtain he | he | he := he
  · have hlt := turns_before (c := c) hturns (fun a b hba hkb => ?_) hb e he
    · omega
    · exact (hc.swap a k).mp (hc.lt_of_not_lt_of_lt hba ((hc.swap b k).mpr hkb))
  · cases he
  · have hlt := turns_after (c := c) hturns (fun a b hba hka => hc.lt_of_lt_of_not_lt hka hba) ha e he
    omega

/-! ## Down to the least entry -/

/-- **`minimum`** is the leftmost node. -/
theorem minimum_spec {fuel : Nat} (h : At t₀ t fs u) (hne : u ≠ .leaf)
    (hfuel : u.toList.length < fuel) :
    ∃ ys col y r, t.minimum fuel (u.addr t₀.dummy) = .next y.addr ∧
      u = plug ys (.node col .leaf y r) ∧ ∀ f ∈ ys, f.side = .left := by
  induction u generalizing fs fuel with
  | leaf => exact absurd rfl hne
  | node col l x r ihl ihr =>
    obtain ⟨fuel, rfl⟩ := Nat.exists_eq_succ_of_ne_zero (Nat.ne_zero_of_lt hfuel)
    rw [toList_length_node] at hfuel
    have hdown : At t₀ t fs (sided .left col l x r) := h
    have hload : t.load x.addr = .next (linkNode .left col x _ (l.addr t₀.dummy) _) := hdown.load
    unfold minimum
    rw [show (RbTree.node col l x r).addr t₀.dummy = x.addr from rfl, hload, Outcome.next_bind,
      h.dummy, show (linkNode .left col x _ (l.addr t₀.dummy) _).left = l.addr t₀.dummy from rfl]
    by_cases hl : l = .leaf
    · subst hl
      exact ⟨[], col, x, r, if_pos rfl, rfl, nofun⟩
    · rw [if_neg fun heq => hl (hdown.down.addr_eq_dummy.mp heq)]
      obtain ⟨ys, col', y, r', hrun, rfl, hys⟩ := ihl hdown.down hl (show _ < fuel by omega)
      refine ⟨ys ++ [⟨.left, col, x, r⟩], col', y, r', hrun, ?_, fun f hf => ?_⟩
      · rw [plug_append]
        rfl
      · obtain hf | hf := List.mem_append.mp hf
        · exact hys f hf
        · rw [List.mem_singleton.mp hf]

end AssocRbTree

end FlexRic
