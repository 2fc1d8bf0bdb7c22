import FlexRic.Ds.AssocRbTree

/-!
# FlexRic.Ds.LinkedTree

What the heap of `assoc_rb_tree.c` holds, as a tree of cells.

* `At t₀ t fs u`: from its root on, the memory `t` is the tree with the subtree `u`
  at the place `fs`, parent links and all; elsewhere it is as in `t₀`;
* `At.down` and `At.up` move the place along;
* `At.paint` and `At.rotate`: what a write of a colour and a rotation do.
-/

namespace FlexRic

/-- A node of the tree: where it is and what it holds. -/
structure Cell (κ ν : Type) where
  addr : Addr
  entry : κ × ν

variable {κ ν : Type}

namespace RbTree

/-- The pointer to a tree; leaves are the dummy. -/
def addr (d : Addr) : RbTree (Cell κ ν) → Addr
  | leaf => d
  | node _ _ x _ => x.addr

/-- The parent of a place. -/
def aboveAddr (d : Addr) : List (Frame (Cell κ ν)) → Addr
  | [] => d
  | f :: _ => f.item.addr

/-- How often an address occurs in a tree. -/
def occ (a : Addr) (t : RbTree (Cell κ ν)) : Nat := (t.toList.map Cell.addr).count a

def occAbove (a : Addr) : List (Frame (Cell κ ν)) → Nat
  | [] => 0
  | f :: fs => occAbove a fs + f.sibling.occ a + if f.item.addr = a then 1 else 0

section Occ

variable {a d : Addr} {s : Side} {c : Color} {t u : RbTree (Cell κ ν)} {x : Cell κ ν}
  {fs : List (Frame (Cell κ ν))}

@[simp] theorem aboveAddr_cons {f : Frame (Cell κ ν)} : aboveAddr d (f :: fs) = f.item.addr := rfl

@[simp] theorem colorAbove_cons {f : Frame (Cell κ ν)} : colorAbove (f :: fs) = f.color := rfl

@[simp] theorem addr_sided : (sided s c t x u).addr d = x.addr := by cases s <;> rfl

@[simp] theorem addr_leaf : (leaf : RbTree (Cell κ ν)).addr d = d := rfl

@[simp] theorem addr_paint : (t.paint c).addr d = t.addr d := by cases t <;> rfl

@[simp] theorem occ_leaf : (leaf : RbTree (Cell κ ν)).occ a = 0 := rfl

@[simp] theorem occ_node {l r : RbTree (Cell κ ν)} :
    (node c l x r).occ a = l.occ a + r.occ a + if x.addr = a then 1 else 0 := by
  simp only [occ, toList, List.map_append, List.map_cons, List.count_append, List.count_cons,
    beq_iff_eq]
  omega

@[simp] theorem occ_sided :
    (sided s c t x u).occ a = t.occ a + u.occ a + if x.addr = a then 1 else 0 := by
  cases s with
  | left => exact occ_node
  | right =>
    rw [sided, occ_node]
    omega

theorem occAbove_cons :
    occAbove a (⟨s, c, x, u⟩ :: fs) = occAbove a fs + u.occ a + if x.addr = a then 1 else 0 :=
  rfl

@[simp] theorem occ_paint : (t.paint c).occ a = t.occ a := by
  rw [occ, toList_paint]
  rfl

theorem occ_plug : (plug fs t).occ a = occAbove a fs + t.occ a := by
  induction fs generalizing t with
  | nil => exact (Nat.zero_add _).symm
  | cons f fs ih =>
    show (plug fs (f.plug t)).occ a = _
    rw [ih, Frame.plug, occ_sided, occAbove]
    omega

/-- The root of a tree occurs in it. -/
theorem occ_addr_pos (h : t ≠ leaf) : 0 < t.occ (t.addr d) := by
  cases t with
  | leaf => exact absurd rfl h
  | node c l x r =>
    rw [occ_node, addr, if_pos rfl]
    omega

/-- The root of a tree is above the place, if anything is. -/
theorem addr_plug_cons {f : Frame (Cell κ ν)} :
    (plug (f :: fs) t).addr d = (plug (f :: fs) u).addr d := by
  induction fs generalizing f t u with
  | nil =>
    show (f.plug t).addr d = (f.plug u).addr d
    rw [Frame.plug, Frame.plug, addr_sided, addr_sided]
  | cons g fs ih => exact ih

theorem mem_of_occ_pos (h : 0 < t.occ a) : ∃ x ∈ t.toList, x.addr = a := by
  obtain ⟨x, hx, rfl⟩ := List.mem_map.mp (List.count_pos_iff.mp h)
  exact ⟨x, hx, rfl⟩

end Occ

end RbTree

open RbTree

/-- The node of a cell, its links given from the side `s`. -/
def linkNode (s : Side) (c : Color) (x : Cell κ ν) (p near far : Addr) : AssocNode κ ν :=
  match s with
  | .left => ⟨some x.entry, p, near, far, c⟩
  | .right => ⟨some x.entry, p, far, near, c⟩

section LinkNode

variable {s : Side} {c c' : Color} {x : Cell κ ν} {p q near far a : Addr}

@[simp] theorem linkNode_entry : (linkNode s c x p near far).entry = some x.entry := by
  cases s <;> rfl

@[simp] theorem linkNode_parent : (linkNode s c x p near far).parent = p := by cases s <;> rfl

@[simp] theorem linkNode_color : (linkNode s c x p near far).color = c := by cases s <;> rfl

@[simp] theorem linkNode_child : (linkNode s c x p near far).child s = near := by cases s <;> rfl

@[simp] theorem linkNode_child_other : (linkNode s c x p near far).child s.other = far := by
  cases s <;> rfl

@[simp] theorem linkNode_setParent :
    (linkNode s c x p near far).setParent q = linkNode s c x q near far := by cases s <;> rfl

@[simp] theorem linkNode_setColor :
    (linkNode s c x p near far).setColor c' = linkNode s c' x p near far := by cases s <;> rfl

@[simp] theorem linkNode_setChild :
    (linkNode s c x p near far).setChild s a = linkNode s c x p a far := by cases s <;> rfl

@[simp] theorem linkNode_setChild_other :
    (linkNode s c x p near far).setChild s.other a = linkNode s c x p near a := by
  cases s <;> rfl

end LinkNode

namespace Heap

variable {h h' : Heap κ ν} {a b d p : Addr} {n : Option (AssocNode κ ν)}

@[simp] theorem set_self : h.set a n a = n := if_pos rfl

theorem set_of_ne (hne : b ≠ a) : h.set a n b = h b := if_neg hne

/-- The heap holds the tree, whose root has the parent `p`. -/
def Held (h : Heap κ ν) (d : Addr) : Addr → RbTree (Cell κ ν) → Prop
  | _, .leaf => True
  | p, .node c l x r => h x.addr = some (linkNode .left c x p (l.addr d) (r.addr d)) ∧
      h.Held d x.addr l ∧ h.Held d x.addr r

/-- The heap holds what is above a place, whose subtree has its root at `a`. -/
def HeldAbove (h : Heap κ ν) (d : Addr) : Addr → List (Frame (Cell κ ν)) → Prop
  | _, [] => True
  | a, f :: fs =>
    h f.item.addr =
        some (linkNode f.side f.color f.item (aboveAddr d fs) a (f.sibling.addr d)) ∧
      h.Held d f.item.addr f.sibling ∧ h.HeldAbove d f.item.addr fs

theorem held_sided {s : Side} {c : Color} {t u : RbTree (Cell κ ν)} {x : Cell κ ν} :
    h.Held d p (sided s c t x u) ↔ h x.addr = some (linkNode s c x p (t.addr d) (u.addr d)) ∧
      h.Held d x.addr t ∧ h.Held d x.addr u := by
  cases s with
  | left => exact Iff.rfl
  | right =>
    refine and_congr_right fun _ => and_comm

theorem Held.congr {t : RbTree (Cell κ ν)} (hh : h.Held d p t)
    (heq : ∀ a, 0 < t.occ a → h' a = h a) : h'.Held d p t := by
  induction t generalizing p with
  | leaf => trivial
  | node c l x r ihl ihr =>
    obtain ⟨hx, hl, hr⟩ := hh
    have hx' := heq x.addr (by rw [occ_node, if_pos rfl]; omega)
    refine ⟨hx'.trans hx, ihl hl fun a ha => heq a ?_, ihr hr fun a ha => heq a ?_⟩
    · rw [occ_node]
      omega
    · rw [occ_node]
      omega

theorem HeldAbove.congr {fs : List (Frame (Cell κ ν))} (hh : h.HeldAbove d a fs)
    (heq : ∀ b, 0 < occAbove b fs → h' b = h b) : h'.HeldAbove d a fs := by
  induction fs generalizing a with
  | nil => trivial
  | cons f fs ih =>
    obtain ⟨hf, hu, hfs⟩ := hh
    have hf' := heq f.item.addr (by rw [occAbove, if_pos rfl]; omega)
    refine ⟨hf'.trans hf, hu.congr fun b hb => heq b ?_, ih hfs fun b hb => heq b ?_⟩
    · rw [occAbove]
      omega
    · rw [occAbove]
      omega

/-- The tree below another parent. -/
theorem Held.reparent {t : RbTree (Cell κ ν)} {q : Addr} (hh : h.Held d p t)
    (hone : ∀ a, t.occ a ≤ 1)
    (hroot : ∀ n, t ≠ .leaf → h (t.addr d) = some n → h' (t.addr d) = some (n.setParent q))
    (heq : ∀ a, 0 < t.occ a → a ≠ t.addr d → h' a = h a) : h'.Held d q t := by
  cases t with
  | leaf => trivial
  | node c l x r =>
    obtain ⟨hx, hl, hr⟩ := hh
    have hne (a : Addr) (ha : 0 < l.occ a + r.occ a) : a ≠ x.addr := by
      rintro rfl
      have := hone x.addr
      rw [occ_node, if_pos rfl] at this
      omega
    refine ⟨(hroot _ nofun hx).trans (by rw [linkNode_setParent]), ?_, ?_⟩
    · refine hl.congr fun a ha => heq a ?_ (hne a (by omega))
      rw [occ_node]
      omega
    · refine hr.congr fun a ha => heq a ?_ (hne a (by omega))
      rw [occ_node]
      omega

end Heap

namespace AssocRbTree

open Heap

variable {t₀ t : AssocRbTree κ ν}

/-- **The memory is the tree** with the subtree `u` at the place `fs`. -/
structure At (t₀ t : AssocRbTree κ ν) (fs : List (Frame (Cell κ ν))) (u : RbTree (Cell κ ν)) :
    Prop where
  above : t.heap.HeldAbove t₀.dummy (u.addr t₀.dummy) fs
  held : t.heap.Held t₀.dummy (aboveAddr t₀.dummy fs) u
  one : ∀ a, (plug fs u).occ a ≤ 1
  fresh : (plug fs u).occ t₀.dummy = 0
  root : t.root = (plug fs u).addr t₀.dummy
  dummyBlack : ∃ n, t.heap t₀.dummy = some n ∧ n.color = .black
  dummy : t.dummy = t₀.dummy
  size : t.size = t₀.size
  rest : ∀ a, (plug fs u).occ a = 0 → a ≠ t₀.dummy → t.heap a = t₀.heap a

variable {fs : List (Frame (Cell κ ν))} {s : Side} {c : Color} {u v : RbTree (Cell κ ν)}
  {x : Cell κ ν}

/-! ## Places -/

/-- Down to a child. -/
theorem At.down (h : At t₀ t fs (sided s c u x v)) : At t₀ t (⟨s, c, x, v⟩ :: fs) u := by
  obtain ⟨hx, hu, hv⟩ := held_sided.mp h.held
  have habove := h.above
  rw [addr_sided] at habove
  exact ⟨⟨hx, hv, habove⟩, hu, h.one, h.fresh, h.root, h.dummyBlack, h.dummy, h.size, h.rest⟩

/-- Up to the parent. -/
theorem At.up (h : At t₀ t (⟨s, c, x, v⟩ :: fs) u) : At t₀ t fs (sided s c u x v) := by
  obtain ⟨hx, hv, habove⟩ := h.above
  refine ⟨?_, held_sided.mpr ⟨hx, h.held, hv⟩, h.one, h.fresh, h.root, h.dummyBlack, h.dummy,
    h.size, h.rest⟩
  rw [addr_sided]
  exact habove

/-- Up to the root. -/
theorem At.top (h : At t₀ t fs u) : At t₀ t [] (plug fs u) := by
  induction fs generalizing u with
  | nil => exact h
  | cons f fs ih => exact ih h.up

/-- Down to any place. -/
theorem At.place (h : At t₀ t [] (plug fs u)) : At t₀ t fs u := by
  induction fs generalizing u with
  | nil => exact h
  | cons f fs ih => exact (ih h).down

/-- Down to the other child. -/
theorem At.downOther (h : At t₀ t fs (sided s c u x v)) :
    At t₀ t (⟨s.other, c, x, u⟩ :: fs) v := by
  rw [← sided_other] at h
  exact h.down

theorem At.upOther (h : At t₀ t (⟨s.other, c, x, u⟩ :: fs) v) :
    At t₀ t fs (sided s c u x v) := by
  rw [← sided_other]
  exact h.up

/-- The memory is its own reference, with another count. -/
theorem At.resize (h : At t₀ t [] u) (n : Nat) : At { t with size := n } { t with size := n } [] u := by
  obtain ⟨heap, d, r, sz⟩ := t
  obtain rfl : d = t₀.dummy := h.dummy
  exact ⟨h.above, h.held, h.one, h.fresh, h.root, h.dummyBlack, rfl, rfl, fun _ _ _ => rfl⟩

/-! ## Reading -/

theorem At.node (h : At t₀ t fs (sided s c u x v)) : t.heap x.addr =
    some (linkNode s c x (aboveAddr t₀.dummy fs) (u.addr t₀.dummy) (v.addr t₀.dummy)) :=
  (held_sided.mp h.held).1

theorem load_eq {a : Addr} {n : AssocNode κ ν} (h : t.heap a = some n) : t.load a = .next n := by
  unfold load
  rw [h]
  rfl

theorem modify_eq {a : Addr} {n : AssocNode κ ν} {f : AssocNode κ ν → AssocNode κ ν}
    (h : t.heap a = some n) :
    t.modify a f = .next { t with heap := t.heap.set a (some (f n)) } := by
  unfold modify
  rw [load_eq h]
  rfl

theorem modify_spec {a : Addr} {n : AssocNode κ ν} (f : AssocNode κ ν → AssocNode κ ν)
    (h : t.heap a = some n) : ∃ heap, t.modify a f = .next { t with heap } ∧
      heap a = some (f n) ∧ ∀ b, b ≠ a → heap b = t.heap b :=
  ⟨_, modify_eq h, set_self, fun _ hb => set_of_ne hb⟩

theorem At.load (h : At t₀ t fs (sided s c u x v)) : t.load x.addr =
    .next (linkNode s c x (aboveAddr t₀.dummy fs) (u.addr t₀.dummy) (v.addr t₀.dummy)) :=
  load_eq h.node

/-- The root of the subtree has its colour, the dummy included. -/
theorem At.loadColor (h : At t₀ t fs u) :
    ∃ n, t.load (u.addr t₀.dummy) = .next n ∧ n.color = u.color := by
  cases u with
  | leaf =>
    obtain ⟨n, hn, hc⟩ := h.dummyBlack
    exact ⟨n, load_eq hn, hc⟩
  | node c l x r => exact ⟨_, load_eq h.held.1, linkNode_color⟩

theorem At.loadAbove (h : At t₀ t fs u) :
    ∃ n, t.load (aboveAddr t₀.dummy fs) = .next n ∧ n.color = colorAbove fs := by
  cases fs with
  | nil =>
    obtain ⟨n, hn, hc⟩ := h.dummyBlack
    exact ⟨n, load_eq hn, hc⟩
  | cons f fs => exact ⟨_, load_eq h.above.1, linkNode_color⟩

/-- A node of the tree has its parent link. -/
theorem At.loadParent (h : At t₀ t fs u) (hne : u ≠ .leaf) :
    ∃ n, t.load (u.addr t₀.dummy) = .next n ∧ n.parent = aboveAddr t₀.dummy fs ∧
      n.color = u.color := by
  cases u with
  | leaf => exact absurd rfl hne
  | node c l x r => exact ⟨_, load_eq h.held.1, linkNode_parent, linkNode_color⟩

/-- The node above the place. -/
theorem At.loadItem (h : At t₀ t (⟨s, c, x, v⟩ :: fs) u) : t.load x.addr =
    .next (linkNode s c x (aboveAddr t₀.dummy fs) (u.addr t₀.dummy) (v.addr t₀.dummy)) :=
  load_eq h.above.1

theorem At.occ_dummy (h : At t₀ t fs u) : occAbove t₀.dummy fs = 0 ∧ u.occ t₀.dummy = 0 := by
  have hfresh := h.fresh
  rw [occ_plug] at hfresh
  omega

theorem At.ne_dummy (h : At t₀ t fs (sided s c u x v)) : x.addr ≠ t₀.dummy := by
  intro heq
  have hocc := h.occ_dummy.2
  rw [occ_sided, if_pos heq] at hocc
  omega

/-- A subtree is a leaf if its pointer is the dummy. -/
theorem At.addr_eq_dummy (h : At t₀ t fs u) : u.addr t₀.dummy = t₀.dummy ↔ u = .leaf := by
  refine ⟨fun heq => ?_, fun heq => by rw [heq, addr_leaf]⟩
  by_contra hne
  have hpos := occ_addr_pos (d := t₀.dummy) hne
  rw [heq, h.occ_dummy.2] at hpos
  omega

/-- Two siblings are apart, unless both are leaves. -/
theorem At.addr_ne (h : At t₀ t (⟨s, c, x, v⟩ :: fs) u) (hne : u ≠ .leaf ∨ v ≠ .leaf) :
    u.addr t₀.dummy ≠ v.addr t₀.dummy := by
  intro heq
  have hone := h.one (u.addr t₀.dummy)
  rw [occ_plug, occAbove_cons] at hone
  have hdummy := h.occ_dummy
  by_cases hu : u = .leaf
  · have hv := occ_addr_pos (d := t₀.dummy) (hne.resolve_left fun hn => hn hu)
    rw [← heq, hu, addr_leaf] at hv
    rw [occAbove_cons] at hdummy
    omega
  · have hpos := occ_addr_pos (d := t₀.dummy) hu
    by_cases hv : v = .leaf
    · rw [heq, hv, addr_leaf, hdummy.2] at hpos
      omega
    · have hpos' := occ_addr_pos (d := t₀.dummy) hv
      rw [← heq] at hpos'
      omega

/-- `x_node == x_node->parent->left` tells the side. -/
theorem At.side (h : At t₀ t (⟨s, c, x, v⟩ :: fs) u) (hne : u ≠ .leaf ∨ v ≠ .leaf) :
    (if u.addr t₀.dummy = (linkNode s c x (aboveAddr t₀.dummy fs) (u.addr t₀.dummy)
      (v.addr t₀.dummy)).left then Side.left else Side.right) = s := by
  cases s with
  | left => exact if_pos rfl
  | right => exact if_neg (h.addr_ne hne)

/-- What is not allocated is not in the tree. -/
theorem At.occ_of_none {a : Addr} (h : At t₀ t fs u) (ha : t.heap a = none) :
    (plug fs u).occ a = 0 ∧ a ≠ t₀.dummy := by
  refine ⟨?_, ?_⟩
  · by_contra hpos
    obtain ⟨x, hx, rfl⟩ := mem_of_occ_pos (Nat.pos_of_ne_zero hpos)
    obtain ⟨gs, col, l, r, heq⟩ := exists_place hx
    have htop := h.top
    rw [heq] at htop
    rw [htop.place.held.1] at ha
    cases ha
  · rintro rfl
    obtain ⟨n, hn, -⟩ := h.dummyBlack
    rw [hn] at ha
    cases ha

/-! ## Colours -/

/-- **A write of a colour**; the dummy is not written, unless it is the one. -/
theorem At.paint_keeps (h : At t₀ t fs u) (c : Color) (hleaf : u = .leaf → c = .black) :
    ∃ t', t.modify (u.addr t₀.dummy) (fun n => n.setColor c) = .next t' ∧
      At t₀ t' fs (u.paint c) ∧ (u ≠ .leaf → t'.heap t₀.dummy = t.heap t₀.dummy) := by
  have hone (a : Addr) : occAbove a fs + u.occ a ≤ 1 := occ_plug ▸ h.one a
  have hocc (a : Addr) : (plug fs (u.paint c)).occ a = (plug fs u).occ a := by
    rw [occ_plug, occ_plug, occ_paint]
  cases u with
  | leaf =>
    obtain ⟨n, hn, -⟩ := h.dummyBlack
    refine ⟨_, modify_eq hn, ?_, fun hne => absurd rfl hne⟩
    have hne (a : Addr) (ha : 0 < occAbove a fs) : a ≠ t₀.dummy := by
      rintro rfl
      have := h.occ_dummy.1
      omega
    refine ⟨h.above.congr fun a ha => set_of_ne (hne a ha), trivial, h.one, h.fresh, h.root,
      ⟨_, set_self, hleaf rfl⟩, h.dummy, h.size, fun a ha hd => ?_⟩
    exact (set_of_ne hd).trans (h.rest a ha hd)
  | node c' l x r =>
    obtain ⟨hx, hl, hr⟩ := h.held
    have hxd : x.addr ≠ t₀.dummy := by
      intro heq
      have := h.occ_dummy.2
      rw [occ_node, if_pos heq] at this
      omega
    have hone' := hone x.addr
    rw [occ_node, if_pos rfl] at hone'
    have hne (a : Addr) (ha : 0 < occAbove a fs + l.occ a + r.occ a) : a ≠ x.addr := by
      rintro rfl
      omega
    refine ⟨_, modify_eq hx, ?_, fun _ => set_of_ne hxd.symm⟩
    refine ⟨h.above.congr fun a ha => set_of_ne (hne a (by omega)),
      ⟨set_self.trans (by rw [linkNode_setColor]), hl.congr fun a ha => set_of_ne (hne a (by omega)),
        hr.congr fun a ha => set_of_ne (hne a (by omega))⟩,
      fun a => (hocc a).trans_le (h.one a), (hocc _).trans h.fresh, ?_, ?_, h.dummy, h.size,
      fun a ha hd => ?_⟩
    · rw [h.root]
      cases fs with
      | nil => rfl
      | cons f fs => exact addr_plug_cons
    · obtain ⟨n, hn, hc⟩ := h.dummyBlack
      exact ⟨n, (set_of_ne hxd.symm).trans hn, hc⟩
    · rw [hocc] at ha
      refine (set_of_ne fun heq => ?_).trans (h.rest a ha hd)
      rw [occ_plug, occ_node, if_pos (show x.addr = a from heq.symm)] at ha
      omega

theorem At.paint (h : At t₀ t fs u) (c : Color) (hleaf : u = .leaf → c = .black) :
    ∃ t', t.modify (u.addr t₀.dummy) (fun n => n.setColor c) = .next t' ∧
      At t₀ t' fs (u.paint c) := by
  obtain ⟨t', hrun, h', -⟩ := h.paint_keeps c hleaf
  exact ⟨t', hrun, h'⟩

/-! ## Rotations -/

theorem adopt_spec {p q : Addr} (hu : t.heap.Held t.dummy p u) (hone : ∀ a, u.occ a ≤ 1)
    (hd : u.occ t.dummy = 0) : ∃ heap, t.adopt (u.addr t.dummy) q = .next { t with heap } ∧
      heap.Held t.dummy q u ∧ ∀ a, u.occ a = 0 → heap a = t.heap a := by
  unfold adopt
  by_cases hleaf : u = .leaf
  · subst hleaf
    exact ⟨t.heap, if_pos rfl, trivial, fun _ _ => rfl⟩
  · have hpos := occ_addr_pos (d := t.dummy) hleaf
    have hne : u.addr t.dummy ≠ t.dummy := by
      intro heq
      rw [heq] at hpos
      omega
    rw [if_neg hne]
    obtain ⟨n, hn⟩ : ∃ n, t.heap (u.addr t.dummy) = some n := by
      cases u with
      | leaf => exact absurd rfl hleaf
      | node c l x r => exact ⟨_, hu.1⟩
    refine ⟨_, modify_eq hn, hu.reparent hone (fun n' _ hn' => ?_) fun a _ ha => set_of_ne ha,
      fun a ha => set_of_ne fun heq => ?_⟩
    · cases hn.symm.trans hn'
      exact set_self
    · rw [heq] at ha
      omega

/-- `relink` puts `v` where `a` was. -/
theorem relink_spec {a v : Addr} {n : AssocNode κ ν} (habove : t.heap.HeldAbove t.dummy a fs)
    (hone : ∀ b, occAbove b fs ≤ 1) (hd : occAbove t.dummy fs = 0) (ha : occAbove a fs = 0)
    (had : a ≠ t.dummy) (hn : t.heap a = some n) (hp : n.parent = aboveAddr t.dummy fs) :
    ∃ heap, t.relink a v = .next { t with heap, root := if fs = [] then v else t.root } ∧
      heap.HeldAbove t.dummy v fs ∧ ∀ b, occAbove b fs = 0 → heap b = t.heap b := by
  unfold relink
  rw [load_eq hn, Outcome.next_bind, hp]
  cases fs with
  | nil => exact ⟨t.heap, if_pos rfl, trivial, fun _ _ => rfl⟩
  | cons f fs =>
    obtain ⟨s, c, x, w⟩ := f
    obtain ⟨hx, hw, hfs⟩ := habove
    have hw : t.heap.Held t.dummy x.addr w := hw
    have honex := hone x.addr
    simp only [occAbove, if_true] at hone honex hd ha
    have hxd : x.addr ≠ t.dummy := by
      intro heq
      rw [if_pos heq] at hd
      omega
    have hside : (if a = (linkNode s c x (aboveAddr t.dummy fs) a (w.addr t.dummy)).left
        then t.modify x.addr fun n => n.setChild .left v
        else t.modify x.addr fun n => n.setChild .right v) =
          t.modify x.addr fun n => n.setChild s v := by
      cases s with
      | left => exact if_pos rfl
      | right =>
        refine if_neg fun heq => ?_
        have heq : a = w.addr t.dummy := heq
        cases w with
        | leaf => exact had heq
        | node c' l y r =>
          rw [occ_node, if_pos (show y.addr = a from heq.symm)] at ha
          omega
    have hne (b : Addr) (hb : 0 < occAbove b fs + w.occ b) : b ≠ x.addr := by
      rintro rfl
      omega
    refine ⟨t.heap.set x.addr (some (linkNode s c x (aboveAddr t.dummy fs) v (w.addr t.dummy))),
      ?_, ⟨set_self, ?_, ?_⟩, fun b hb => set_of_ne fun heq => ?_⟩
    · show (if x.addr = t.dummy then _ else _) = _
      rw [if_neg hxd, show aboveAddr t.dummy (⟨s, c, x, w⟩ :: fs) = x.addr from rfl, load_eq hx,
        Outcome.next_bind, hside, modify_eq hx, linkNode_setChild, if_neg nofun]
    · exact hw.congr fun b hb => set_of_ne (hne b (by omega))
    · exact hfs.congr fun b hb => set_of_ne (hne b (by omega))
    · rw [occAbove, if_pos (show x.addr = b from heq.symm)] at hb
      omega

/-- **A rotation**; the dummy is not written. -/
theorem At.rotate_keeps {c' : Color} {y : Cell κ ν} {w : RbTree (Cell κ ν)}
    (h : At t₀ t fs (sided s c u x (sided s c' v y w))) :
    ∃ t', rotate s t x.addr = .next t' ∧ At t₀ t' fs (sided s c' (sided s c u x v) y w) ∧
      t'.heap t₀.dummy = t.heap t₀.dummy := by
  obtain ⟨heap, d, r, sz⟩ := t
  obtain rfl : d = t₀.dummy := h.dummy
  have hxd : x.addr ≠ t₀.dummy := h.ne_dummy
  have hyd : y.addr ≠ t₀.dummy := h.downOther.ne_dummy
  have hone (a : Addr) := h.one a
  have hfresh := h.fresh
  have habove := h.above
  obtain ⟨hx, hu, hyt⟩ := held_sided.mp h.held
  obtain ⟨hy, hv, hw⟩ := held_sided.mp hyt
  simp only [occ_plug, occ_sided, addr_sided] at hone hfresh habove hx hy
  have hxy : x.addr ≠ y.addr := by
    intro heq
    have := hone x.addr
    rw [if_pos rfl, if_pos heq.symm] at this
    omega
  have hne {a : Addr} (ha : 0 < occAbove a fs + u.occ a + v.occ a + w.occ a) :
      a ≠ x.addr ∧ a ≠ y.addr := by
    have := hone a
    refine ⟨fun heq => ?_, fun heq => ?_⟩
    · rw [if_pos heq.symm] at this
      omega
    · rw [if_pos heq.symm] at this
      omega
  have hxo : occAbove x.addr fs = 0 ∧ v.occ x.addr = 0 := by
    have := hone x.addr
    rw [if_pos rfl] at this
    omega
  have hyo : occAbove y.addr fs = 0 ∧ v.occ y.addr = 0 := by
    have := hone y.addr
    rw [if_pos rfl] at this
    omega
  -- `x` gets `v`, and `v` the parent `x`
  obtain ⟨h₁, hrun₁, hx₁, hrest₁⟩ :=
    modify_spec (t := ⟨heap, t₀.dummy, r, sz⟩) (fun n => n.setChild s.other (v.addr t₀.dummy)) hx
  have hv₁ : h₁.Held t₀.dummy y.addr v := hv.congr fun a ha => hrest₁ a (hne (by omega)).1
  obtain ⟨h₂, hrun₂, hv₂, hrest₂⟩ := adopt_spec (q := x.addr) (t := ⟨h₁, t₀.dummy, r, sz⟩)
    hv₁ (fun a => by have := hone a; omega) (show v.occ t₀.dummy = 0 by omega)
  have hy₂ := ((hrest₂ _ hyo.2).trans (hrest₁ _ hxy.symm)).trans hy
  have hx₂ := (hrest₂ _ hxo.2).trans hx₁
  -- `y` takes the place of `x`
  obtain ⟨h₃, hrun₃, hy₃, hrest₃⟩ := modify_spec (t := ⟨h₂, t₀.dummy, r, sz⟩)
    (fun n => n.setParent (aboveAddr t₀.dummy fs)) hy₂
  have hx₃ := (hrest₃ _ hxy).trans hx₂
  have habove₃ : h₃.HeldAbove t₀.dummy x.addr fs := habove.congr fun a ha => by
    have hna := hne (a := a) (by omega)
    have := hone a
    exact ((hrest₃ a hna.2).trans (hrest₂ a (by omega))).trans (hrest₁ a hna.1)
  obtain ⟨h₄, hrun₄, habove₄, hrest₄⟩ := relink_spec (t := ⟨h₃, t₀.dummy, r, sz⟩)
    (v := y.addr) habove₃ (fun a => by have := hone a; omega)
    (show occAbove t₀.dummy fs = 0 by omega) hxo.1 hxd hx₃
    (by rw [linkNode_setChild_other, linkNode_parent])
  -- `x` goes below `y`
  obtain ⟨h₅, hrun₅, hy₅, hrest₅⟩ := modify_spec
    (t := ⟨h₄, t₀.dummy, if fs = [] then y.addr else r, sz⟩)
    (fun n => n.setChild s x.addr) ((hrest₄ _ hyo.1).trans hy₃)
  obtain ⟨h₆, hrun₆, hx₆, hrest₆⟩ := modify_spec
    (t := ⟨h₅, t₀.dummy, if fs = [] then y.addr else r, sz⟩)
    (fun n => n.setParent y.addr)
    ((hrest₅ _ hxy).trans ((hrest₄ _ hxo.1).trans hx₃))
  simp only [linkNode_setChild, linkNode_setChild_other, linkNode_setParent] at hx₆ hy₅
  have hrest {a : Addr} (hax : a ≠ x.addr) (hay : a ≠ y.addr) (hf : occAbove a fs = 0) :
      h₆ a = h₂ a :=
    ((hrest₆ a hax).trans (hrest₅ a hay)).trans ((hrest₄ a hf).trans (hrest₃ a hay))
  have hrest' {a : Addr} (hax : a ≠ x.addr) (hay : a ≠ y.addr) (hf : occAbove a fs = 0)
      (hva : v.occ a = 0) : h₆ a = heap a :=
    (hrest hax hay hf).trans ((hrest₂ a hva).trans (hrest₁ a hax))
  have hdummy : h₆ t₀.dummy = heap t₀.dummy :=
    hrest' hxd.symm hyd.symm (by omega) (by omega)
  refine ⟨⟨h₆, t₀.dummy, if fs = [] then y.addr else r, sz⟩, ?_, ?_, hdummy⟩
  · unfold AssocRbTree.rotate
    simp only [load_eq (t := ⟨heap, t₀.dummy, r, sz⟩) hx, load_eq (t := ⟨heap, t₀.dummy, r, sz⟩) hy,
      Outcome.next_bind, linkNode_child_other, linkNode_child,
      linkNode_parent, Outcome.assert_of (bne_iff_ne.mpr hyd)]
    rw [hrun₁, Outcome.next_bind, hrun₂, Outcome.next_bind, hrun₃, Outcome.next_bind, hrun₄,
      Outcome.next_bind, hrun₅, Outcome.next_bind, hrun₆]
  · have hocc (a : Addr) : (plug fs (sided s c' (sided s c u x v) y w)).occ a =
        (plug fs (sided s c u x (sided s c' v y w))).occ a := by
      simp only [occ_plug, occ_sided]
      omega
    refine ⟨?_, held_sided.mpr ⟨?_, held_sided.mpr ⟨?_, ?_, ?_⟩, ?_⟩, fun a => ?_, ?_, ?_, ?_,
      h.dummy, h.size, fun a ha hd => ?_⟩
    · rw [addr_sided]
      refine habove₄.congr fun a ha => ?_
      have hna := hne (a := a) (by omega)
      exact (hrest₆ a hna.1).trans (hrest₅ a hna.2)
    · rw [addr_sided]
      exact (hrest₆ _ hxy.symm).trans hy₅
    · exact hx₆
    · refine hu.congr fun a ha => ?_
      have hna := hne (a := a) (by omega)
      have := hone a
      exact hrest' hna.1 hna.2 (by omega) (by omega)
    · refine hv₂.congr fun a ha => ?_
      have hna := hne (a := a) (by omega)
      have := hone a
      exact hrest hna.1 hna.2 (by omega)
    · refine hw.congr fun a ha => ?_
      have hna := hne (a := a) (by omega)
      have := hone a
      exact hrest' hna.1 hna.2 (by omega) (by omega)
    · rw [hocc]
      exact h.one a
    · rw [hocc]
      exact h.fresh
    · cases fs with
      | nil => exact addr_sided.symm
      | cons f fs => exact h.root.trans addr_plug_cons
    · obtain ⟨n, hn, hc⟩ := h.dummyBlack
      exact ⟨n, hdummy.trans hn, hc⟩
    · rw [hocc] at ha
      have hrest := h.rest a ha hd
      simp only [occ_plug, occ_sided] at ha
      refine (hrest' (fun heq => ?_) (fun heq => ?_) (by omega) (by omega)).trans hrest
      · rw [if_pos heq.symm] at ha
        omega
      · rw [if_pos heq.symm] at ha
        omega

theorem At.rotate {c' : Color} {y : Cell κ ν} {w : RbTree (Cell κ ν)}
    (h : At t₀ t fs (sided s c u x (sided s c' v y w))) :
    ∃ t', AssocRbTree.rotate s t x.addr = .next t' ∧
      At t₀ t' fs (sided s c' (sided s c u x v) y w) := by
  obtain ⟨t', hrun, h', -⟩ := h.rotate_keeps
  exact ⟨t', hrun, h'⟩

end AssocRbTree

end FlexRic
