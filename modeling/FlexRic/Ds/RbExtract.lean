import FlexRic.Ds.RbDelete

/-!
# FlexRic.Ds.RbExtract

`assoc_rb_tree_extract` and `assoc_rb_tree_free_it`: a node leaves the tree.

* `transplant_spec`: a node with one child is replaced by it;
* `Ready.replace`: a node with two is replaced by its successor;
* `unlink_spec`: what is left for the fix-up;
* `extract_spec`, `extract_aborts` and `freeIt_spec`: one entry is gone, and the others stay.
-/

namespace FlexRic

open RbTree Heap

namespace RbTree

variable {α : Type} {t u : RbTree α} {x x' : α} {s : Side} {c : Color} {n : Nat}
  {fs ys : List (Frame α)}

/-- What a place asks for does not depend on the items above it. -/
theorem Hole.item (x' : α) (h : Hole (ys ++ ⟨s, c, x, t⟩ :: fs) n) :
    Hole (ys ++ ⟨s, c, x', t⟩ :: fs) n := by
  induction ys generalizing n with
  | nil =>
    cases h with
    | red hole hne habove ht htb => exact .red hole hne habove ht htb
    | black hole ht => exact .black hole ht
  | cons f ys ih =>
    obtain ⟨sf, cf, y, w⟩ := f
    cases h with
    | red hole hne habove hw hwb =>
      refine .red (ih hole) (List.append_ne_nil_of_right_ne_nil _ nofun) ?_ hw hwb
      cases ys with
      | nil => exact habove
      | cons g ys => exact habove
    | black hole hw => exact .black (ih hole) hw

/-- Nothing lies before a place to which the way only went to the left. -/
theorem before_left (h : ∀ f ∈ ys, f.side = .left) : before ys = ([] : List α) := by
  induction ys with
  | nil => rfl
  | cons f ys ih =>
    have hf := h f List.mem_cons_self
    rw [before, hf]
    exact ih fun g hg => h g (List.mem_cons_of_mem _ hg)

/-- A node with one child, at most, is taken out: if it was red nothing changes, and if it was
black the place lacks a black node. -/
theorem Hole.remove (hole : Hole fs n) (h : Balanced (sided s c .leaf x u) n) :
    (c = .red → (∃ m, Balanced (plug fs u) m) ∧ (plug fs u).color = .black) ∧
      (c = .black → Hole fs 1 ∧ Balanced u 0) := by
  constructor
  · rintro rfl
    obtain ⟨hleaf, hu, -, hub⟩ := h.of_sided_red
    cases hleaf
    obtain ⟨hm, habove⟩ := hole.fill hu fun _ => hub
    refine ⟨hm, ?_⟩
    by_cases hnil : fs = []
    · subst hnil
      exact hub
    · exact habove hnil
  · rintro rfl
    obtain ⟨m, rfl, hleaf, hu⟩ := h.of_sided_black
    cases hleaf
    exact ⟨hole, hu⟩

end RbTree

namespace AssocRbTree

variable {κ ν : Type} {t₀ t t' : AssocRbTree κ ν} {fs ys : List (Frame (Cell κ ν))} {s : Side}
  {c : Color} {u l r : RbTree (Cell κ ν)} {z y : Cell κ ν} {n : Nat}

/-- Down to any place of a subtree. -/
theorem At.within (h : At t₀ t fs (plug ys u)) : At t₀ t (ys ++ fs) u := by
  refine At.place ?_
  rw [plug_append]
  exact h.top

/-- Up to any place above. -/
theorem At.outside (h : At t₀ t (ys ++ fs) u) : At t₀ t fs (plug ys u) := by
  refine At.place ?_
  rw [← plug_append]
  exact h.top

/-! ## One child -/

/-- **`transplant`** puts the one child of a node in its place; the node stays as it is. -/
theorem transplant_spec (h : At t₀ t fs (sided s c .leaf z u))
    (hz : t.heap z.addr = t₀.heap z.addr) :
    ∃ t', t.transplant z.addr (u.addr t₀.dummy) = .next t' ∧ Focus t₀ t' fs u := by
  obtain ⟨heap, d, rt, sz⟩ := t
  obtain rfl : d = t₀.dummy := h.dummy
  have hzd : z.addr ≠ t₀.dummy := h.ne_dummy
  have hone (a : Addr) := h.one a
  have hfresh := h.fresh
  obtain ⟨hzn, -, hu⟩ := held_sided.mp h.held
  have habove := h.above
  simp only [occ_plug, occ_sided, occ_leaf, addr_sided] at hone hfresh habove
  have hzo : occAbove z.addr fs = 0 ∧ u.occ z.addr = 0 := by
    have := hone z.addr
    rw [if_pos rfl] at this
    omega
  obtain ⟨h₁, hrun₁, habove₁, hrest₁⟩ := relink_spec (t := ⟨heap, t₀.dummy, rt, sz⟩)
    (v := u.addr t₀.dummy) habove (fun b => by have := hone b; omega)
    (show occAbove t₀.dummy fs = 0 by omega) hzo.1 hzd hzn linkNode_parent
  have hz₁ := (hrest₁ _ hzo.1).trans hzn
  have hu₁ : h₁.Held t₀.dummy z.addr u := hu.congr fun a ha => hrest₁ a (by
    have := hone a
    omega)
  obtain ⟨dn, hdn, hdc⟩ := h.dummyBlack
  have hdn₁ := (hrest₁ _ (show occAbove t₀.dummy fs = 0 by omega)).trans hdn
  -- the child has a node, the dummy included
  obtain ⟨un, hun⟩ : ∃ un, h₁ (u.addr t₀.dummy) = some un := by
    cases u with
    | leaf => exact ⟨dn, hdn₁⟩
    | node c' l x r => exact ⟨_, hu₁.1⟩
  obtain ⟨h₂, hrun₂, hu₂, hrest₂⟩ := modify_spec
    (t := ⟨h₁, t₀.dummy, if fs = [] then u.addr t₀.dummy else rt, sz⟩)
    (fun n => n.setParent (aboveAddr t₀.dummy fs)) hun
  have huo : occAbove (u.addr t₀.dummy) fs = 0 := by
    by_cases hleaf : u = .leaf
    · subst hleaf
      rw [addr_leaf]
      omega
    · have hpos := occ_addr_pos (d := t₀.dummy) hleaf
      have := hone (u.addr t₀.dummy)
      omega
  have hdummy : u ≠ .leaf → u.addr t₀.dummy ≠ t₀.dummy := by
    intro hleaf heq
    have hpos := occ_addr_pos (d := t₀.dummy) hleaf
    rw [heq] at hpos
    omega
  have hrest {a : Addr} (hao : occAbove a fs = 0) (hau : a ≠ u.addr t₀.dummy) :
      h₂ a = heap a := (hrest₂ a hau).trans (hrest₁ a hao)
  have hocc (a : Addr) : (plug fs u).occ a = occAbove a fs + u.occ a := occ_plug
  refine ⟨⟨h₂, t₀.dummy, if fs = [] then u.addr t₀.dummy else rt, sz⟩, ?_,
    ⟨⟨?_, ?_, fun a => ?_, ?_, ?_, ?_, rfl, h.size, fun a ha hd => ?_⟩, fun hleaf => ?_⟩⟩
  · unfold transplant
    rw [Outcome.assert_of (bne_iff_ne.mpr hzd), Outcome.next_bind, hrun₁, Outcome.next_bind,
      load_eq hz₁, Outcome.next_bind, linkNode_parent, hrun₂]
  · exact habove₁.congr fun b hb => hrest₂ b fun heq => by
      rw [heq] at hb
      omega
  · refine hu₁.reparent (fun a => by have := hone a; omega) (fun n _ hn => ?_) fun a _ ha =>
      hrest₂ a ha
    cases hun.symm.trans hn
    exact hu₂
  · have := hone a
    rw [hocc]
    omega
  · rw [hocc]
    omega
  · cases fs with
    | nil => rfl
    | cons f fs => exact h.root.trans addr_plug_cons
  · by_cases hleaf : u = .leaf
    · subst hleaf
      obtain rfl : dn = un := Option.some.inj (hdn₁.symm.trans hun)
      exact ⟨_, hu₂, hdc⟩
    · exact ⟨dn, (hrest₂ _ (hdummy hleaf).symm).trans hdn₁, hdc⟩
  · rw [hocc] at ha
    have hau : a ≠ u.addr t₀.dummy := by
      rintro rfl
      by_cases hleaf : u = .leaf
      · subst hleaf
        exact hd rfl
      · have hpos := occ_addr_pos (d := t₀.dummy) hleaf
        omega
    show h₂ a = t₀.heap a
    rw [hrest (by omega) hau]
    by_cases haz : a = z.addr
    · rw [haz]
      exact hz
    · refine h.rest a ?_ hd
      rw [occ_plug, occ_sided, occ_leaf, if_neg (Ne.symm haz)]
      omega
  · subst hleaf
    exact ⟨_, hu₂, rfl⟩

/-! ## Two children -/

/-- The memory in which `y`, with `r` below it on the right, can take the place of `z`. -/
structure Ready (t₀ t : AssocRbTree κ ν) (fs : List (Frame (Cell κ ν))) (c : Color)
    (l : RbTree (Cell κ ν)) (z y : Cell κ ν) (r : RbTree (Cell κ ν)) : Prop where
  above : t.heap.HeldAbove t₀.dummy z.addr fs
  old : ∃ n, t.heap z.addr = some n ∧ n.parent = aboveAddr t₀.dummy fs ∧
    n.left = l.addr t₀.dummy ∧ n.color = c
  left : t.heap.Held t₀.dummy z.addr l
  new : ∃ n, t.heap y.addr = some n ∧ n.entry = some y.entry ∧ n.right = r.addr t₀.dummy
  right : t.heap.Held t₀.dummy y.addr r
  one : ∀ a, (plug fs (.node c l y r)).occ a ≤ 1
  fresh : (plug fs (.node c l y r)).occ t₀.dummy = 0
  out : (plug fs (.node c l y r)).occ z.addr = 0 ∧ z.addr ≠ t₀.dummy
  root : fs ≠ [] → t.root = (plug fs (.node c l y r)).addr t₀.dummy
  dummyBlack : ∃ n, t.heap t₀.dummy = some n ∧ n.color = .black
  dummy : t.dummy = t₀.dummy
  size : t.size = t₀.size
  rest : ∀ a, (plug fs (.node c l y r)).occ a = 0 → a ≠ t₀.dummy → t.heap a = t₀.heap a

/-- **`y_node` in the place of `z_node`**; neither `z_node` nor the dummy is written. -/
theorem Ready.replace (h : Ready t₀ t fs c l z y r) (hl : l ≠ .leaf) :
    ∃ t₁ zn t₂ t₃ t', t.transplant z.addr y.addr = .next t₁ ∧ t₁.load z.addr = .next zn ∧
      t₁.modify y.addr (fun n => n.setChild .left zn.left) = .next t₂ ∧
      t₂.modify zn.left (fun n => n.setParent y.addr) = .next t₃ ∧
      t₃.modify y.addr (fun n => n.setColor zn.color) = .next t' ∧
      At t₀ t' fs (.node c l y r) ∧ t'.heap t₀.dummy = t.heap t₀.dummy := by
  obtain ⟨heap, d, rt, sz⟩ := t
  obtain rfl : d = t₀.dummy := h.dummy
  obtain ⟨zn, hzn, hzp, hzl, hzc⟩ := h.old
  obtain ⟨yn, hyn, hye, hyr⟩ := h.new
  have hocc (a : Addr) : (plug fs (.node c l y r)).occ a =
      occAbove a fs + (l.occ a + r.occ a + if y.addr = a then 1 else 0) := by
    rw [occ_plug, occ_node]
  have hone (a : Addr) : occAbove a fs + (l.occ a + r.occ a + if y.addr = a then 1 else 0) ≤ 1 := by
    rw [← hocc]
    exact h.one a
  have hfresh := h.fresh
  obtain ⟨hzo, hzd⟩ := h.out
  rw [hocc] at hfresh hzo
  have hyz : y.addr ≠ z.addr := fun heq => by
    rw [if_pos heq] at hzo
    omega
  have hyd : y.addr ≠ t₀.dummy := fun heq => by
    rw [if_pos heq] at hfresh
    omega
  have hyo : occAbove y.addr fs = 0 ∧ l.occ y.addr = 0 ∧ r.occ y.addr = 0 := by
    have := hone y.addr
    rw [if_pos rfl] at this
    omega
  -- the place points to `y`, and `y` to it
  obtain ⟨h₁, hrun₁, habove₁, hrest₁⟩ := relink_spec (t := ⟨heap, t₀.dummy, rt, sz⟩) (v := y.addr)
    h.above (fun b => by have := hone b; omega) (show occAbove t₀.dummy fs = 0 by omega)
    (show occAbove z.addr fs = 0 by omega) hzd hzn hzp
  have hz₁ := (hrest₁ z.addr (by omega)).trans hzn
  have hy₁ := (hrest₁ _ hyo.1).trans hyn
  obtain ⟨h₂, hrun₂, hy₂, hrest₂⟩ := modify_spec
    (t := ⟨h₁, t₀.dummy, if fs = [] then y.addr else rt, sz⟩)
    (fun n => n.setParent (aboveAddr t₀.dummy fs)) hy₁
  have hz₂ := (hrest₂ _ hyz.symm).trans hz₁
  -- `l` goes below `y`
  obtain ⟨h₃, hrun₃, hy₃, hrest₃⟩ := modify_spec
    (t := ⟨h₂, t₀.dummy, if fs = [] then y.addr else rt, sz⟩)
    (fun n => n.setChild .left (l.addr t₀.dummy)) hy₂
  have hlo := occ_addr_pos (d := t₀.dummy) hl
  have hlne : l.addr t₀.dummy ≠ y.addr := by
    intro heq
    rw [heq] at hlo
    omega
  have hla : occAbove (l.addr t₀.dummy) fs = 0 ∧ r.occ (l.addr t₀.dummy) = 0 := by
    have := hone (l.addr t₀.dummy)
    omega
  have hl₃ : h₃.Held t₀.dummy z.addr l := h.left.congr fun a ha => by
    have := hone a
    have hay : a ≠ y.addr := by
      rintro rfl
      omega
    exact ((hrest₃ a hay).trans (hrest₂ a hay)).trans (hrest₁ a (by omega))
  obtain ⟨ln, hln⟩ : ∃ ln, h₃ (l.addr t₀.dummy) = some ln := by
    cases l with
    | leaf => exact absurd rfl hl
    | node c' l' x r' => exact ⟨_, hl₃.1⟩
  obtain ⟨h₄, hrun₄, hl₄, hrest₄⟩ := modify_spec
    (t := ⟨h₃, t₀.dummy, if fs = [] then y.addr else rt, sz⟩) (fun n => n.setParent y.addr) hln
  have hy₄ := (hrest₄ _ hlne.symm).trans hy₃
  obtain ⟨h₅, hrun₅, hy₅, hrest₅⟩ := modify_spec
    (t := ⟨h₄, t₀.dummy, if fs = [] then y.addr else rt, sz⟩) (fun n => n.setColor c) hy₄
  have hrest {a : Addr} (hay : a ≠ y.addr) (hal : a ≠ l.addr t₀.dummy)
      (hao : occAbove a fs = 0) : h₅ a = heap a :=
    ((hrest₅ a hay).trans (hrest₄ a hal)).trans
      (((hrest₃ a hay).trans (hrest₂ a hay)).trans (hrest₁ a hao))
  have hne {a : Addr} (ha : 0 < occAbove a fs + r.occ a) :
      a ≠ y.addr ∧ a ≠ l.addr t₀.dummy := by
    have := hone a
    refine ⟨?_, ?_⟩
    · rintro rfl
      omega
    · rintro rfl
      omega
  have hynode : h₅ y.addr = some (linkNode .left c y (aboveAddr t₀.dummy fs)
      (l.addr t₀.dummy) (r.addr t₀.dummy)) := by
    rw [hy₅]
    obtain ⟨e, p, left, right, col⟩ := yn
    simp only [AssocNode.setColor, AssocNode.setChild, AssocNode.setParent, linkNode] at hye hyr ⊢
    rw [hye, hyr]
  have hdummy : h₅ t₀.dummy = heap t₀.dummy :=
    hrest hyd.symm (fun heq => by rw [← heq] at hlo; omega) (by omega)
  refine ⟨⟨h₂, t₀.dummy, if fs = [] then y.addr else rt, sz⟩, zn,
    ⟨h₃, t₀.dummy, if fs = [] then y.addr else rt, sz⟩,
    ⟨h₄, t₀.dummy, if fs = [] then y.addr else rt, sz⟩,
    ⟨h₅, t₀.dummy, if fs = [] then y.addr else rt, sz⟩, ?_, load_eq hz₂, hzl ▸ hrun₃, hzl ▸ hrun₄,
    hzc ▸ hrun₅, ?_, hdummy⟩
  · unfold transplant
    rw [Outcome.assert_of (bne_iff_ne.mpr hzd), Outcome.next_bind, hrun₁, Outcome.next_bind,
      load_eq hz₁, Outcome.next_bind, hzp, hrun₂]
  · refine ⟨?_, ⟨hynode, ?_, ?_⟩, h.one, h.fresh, ?_, ?_, rfl, h.size, fun a ha hd => ?_⟩
    · exact habove₁.congr fun a ha => by
        have hna := hne (a := a) (by omega)
        exact ((hrest₅ a hna.1).trans (hrest₄ a hna.2)).trans
          ((hrest₃ a hna.1).trans (hrest₂ a hna.1))
    · refine hl₃.reparent (fun a => by have := hone a; omega) (fun n _ hn => ?_) fun a ha hal => ?_
      · cases hln.symm.trans hn
        exact (hrest₅ _ hlne).trans hl₄
      · have hay : a ≠ y.addr := by
          rintro rfl
          omega
        exact (hrest₅ a hay).trans (hrest₄ a hal)
    · refine h.right.congr fun a ha => ?_
      have hna := hne (a := a) (by omega)
      have := hone a
      exact hrest hna.1 hna.2 (by omega)
    · cases fs with
      | nil => rfl
      | cons f fs => exact h.root (by simp)
    · obtain ⟨dn, hdn, hdc⟩ := h.dummyBlack
      exact ⟨dn, hdummy.trans hdn, hdc⟩
    · have hrest₀ := h.rest a ha hd
      rw [hocc] at ha
      have hay : a ≠ y.addr := by
        rintro rfl
        rw [if_pos rfl] at ha
        omega
      have hal : a ≠ l.addr t₀.dummy := by
        rintro rfl
        omega
      exact (hrest hay hal (by omega)).trans hrest₀

theorem occAbove_append (a : Addr) (ys fs : List (Frame (Cell κ ν))) :
    occAbove a (ys ++ fs) = occAbove a ys + occAbove a fs := by
  induction ys with
  | nil => exact (Nat.zero_add _).symm
  | cons f ys ih =>
    rw [List.cons_append, occAbove, ih, occAbove]
    omega

/-- The pointer to a tree is the dummy, or in the tree. -/
theorem addr_ne_of_occ {a d : Addr} (ha : u.occ a = 0) (hd : a ≠ d) : a ≠ u.addr d := by
  rintro rfl
  by_cases hleaf : u = .leaf
  · subst hleaf
    exact hd rfl
  · have hpos := occ_addr_pos (d := d) hleaf
    omega

/-- **The successor is taken out of its place**, and gets the rest of the right subtree. -/
theorem takeRight_spec {cy : Color} {ry : RbTree (Cell κ ν)}
    (h : At t t (ys ++ ⟨.right, c, z, l⟩ :: fs) (.node cy .leaf y ry)) :
    ∃ t', t.takeRight z.addr y.addr = .next t' ∧ Ready t t' fs c l z y (plug ys ry) ∧
      (ry = .leaf → ∃ n, t'.heap t.dummy = some n ∧
        n.parent = aboveAddr t.dummy (ys ++ ⟨.right, c, y, l⟩ :: fs)) := by
  obtain ⟨heap, d, rt, sz⟩ := t
  have hwhole (a : Addr) := h.one a
  have hfresh := h.fresh
  simp only [occ_plug, occAbove_append, occAbove_cons, occ_node, occ_leaf] at hwhole hfresh
  have hocc (a : Addr) : (plug fs (.node c l y (plug ys ry))).occ a = occAbove a fs +
      (l.occ a + (occAbove a ys + ry.occ a) + if y.addr = a then 1 else 0) := by
    rw [occ_plug, occ_node, occ_plug]
  have hy : heap y.addr = some (linkNode .left cy y
      (aboveAddr d (ys ++ ⟨.right, c, z, l⟩ :: fs)) d (ry.addr d)) := h.held.1
  have hry : heap.Held d y.addr ry := h.held.2.2
  have hyz : y.addr ≠ z.addr := by
    intro heq
    have := hwhole y.addr
    rw [if_pos rfl, if_pos heq.symm] at this
    omega
  have hzocc : (plug fs (.node c l y (plug ys ry))).occ z.addr = 0 := by
    have := hwhole z.addr
    rw [if_pos rfl] at this
    rw [hocc]
    omega
  have hzd : z.addr ≠ d := by
    rintro rfl
    rw [if_pos rfl] at hfresh
    omega
  have hyd : y.addr ≠ d := by
    rintro rfl
    rw [if_pos rfl] at hfresh
    omega
  have hone (a : Addr) : (plug fs (.node c l y (plug ys ry))).occ a ≤ 1 := by
    have := hwhole a
    rw [hocc]
    omega
  have hfresh' : (plug fs (.node c l y (plug ys ry))).occ d = 0 := by
    rw [hocc]
    omega
  have hroot : fs ≠ [] → rt = (plug fs (.node c l y (plug ys ry))).addr d := by
    intro hne
    have hr : rt = (plug (ys ++ ⟨.right, c, z, l⟩ :: fs) (.node cy .leaf y ry)).addr d := h.root
    rw [hr, plug_append]
    cases fs with
    | nil => exact absurd rfl hne
    | cons f fs =>
      show (plug (f :: fs) (Frame.plug ⟨.right, c, z, l⟩ _)).addr d = _
      exact addr_plug_cons
  unfold takeRight
  rw [load_eq hy, Outcome.next_bind]
  cases ys with
  | nil =>
    obtain ⟨hz, hl, habove⟩ := h.above
    obtain ⟨dn, hdn, hdc⟩ := h.dummyBlack
    obtain ⟨rn, hrn⟩ : ∃ rn, heap (ry.addr d) = some rn := by
      cases ry with
      | leaf => exact ⟨dn, hdn⟩
      | node c' l' x r' => exact ⟨_, hry.1⟩
    obtain ⟨h₁, hrun₁, hr₁, hrest₁⟩ := modify_spec (t := ⟨heap, d, rt, sz⟩)
      (fun n => n.setParent y.addr) hrn
    have hrest {a : Addr} (hr : ry.occ a = 0) (hd : a ≠ d) : h₁ a = heap a :=
      hrest₁ a (addr_ne_of_occ hr hd)
    have hmem {a : Addr} (ha : 0 < occAbove a fs + l.occ a) : h₁ a = heap a := by
      have := hwhole a
      refine hrest (by omega) ?_
      rintro rfl
      omega
    have hy₁ : h₁ y.addr = heap y.addr := by
      have := hwhole y.addr
      rw [if_pos rfl] at this
      exact hrest (by omega) hyd
    have hz₁ : h₁ z.addr = heap z.addr := by
      have := hwhole z.addr
      rw [if_pos rfl] at this
      exact hrest (by omega) hzd
    refine ⟨⟨h₁, d, rt, sz⟩, ?_, ⟨?_, ⟨_, hz₁.trans hz, rfl, rfl, rfl⟩, ?_,
      ⟨_, hy₁.trans hy, rfl, rfl⟩, ?_, hone, hfresh', ⟨hzocc, hzd⟩, hroot, ?_, rfl, rfl,
      fun a ha hd => ?_⟩, fun hleaf => ?_⟩
    · rw [linkNode_parent]
      exact (if_pos rfl).trans hrun₁
    · exact habove.congr fun a ha => hmem (by omega)
    · exact Held.congr (t := l) hl fun a ha => hmem (by omega)
    · refine hry.reparent (fun a => by have := hwhole a; omega) (fun n _ hn => ?_) fun a _ ha =>
        hrest₁ a ha
      cases hrn.symm.trans hn
      exact hr₁
    · by_cases hleaf : ry = .leaf
      · subst hleaf
        obtain rfl : rn = dn := Option.some.inj (hrn.symm.trans hdn)
        exact ⟨_, hr₁, hdc⟩
      · have hpos := occ_addr_pos (d := d) hleaf
        refine ⟨dn, (hrest₁ d fun heq => ?_).trans hdn, hdc⟩
        rw [← heq] at hpos
        omega
    · rw [hocc] at ha
      exact hrest (by omega) hd
    · subst hleaf
      exact ⟨_, hr₁, rfl⟩
  | cons g ys =>
    have hpz : (linkNode .left cy y (aboveAddr d ((g :: ys) ++ ⟨.right, c, z, l⟩ :: fs)) d
        (ry.addr d)).parent ≠ z.addr := by
      intro heq
      have heq : g.item.addr = z.addr := heq
      have := hwhole z.addr
      rw [occAbove, if_pos heq, if_pos rfl] at this
      omega
    obtain ⟨t₁, hrun₁, hfocus⟩ := transplant_spec (s := .left) h rfl
    have h₁ : At ⟨heap, d, rt, sz⟩ t₁ (⟨.right, c, z, l⟩ :: fs) (plug (g :: ys) ry) :=
      hfocus.here.outside
    obtain ⟨heap₁, d₁, rt₁, sz₁⟩ := t₁
    obtain rfl : d₁ = d := h₁.dummy
    have hr' : plug (g :: ys) ry ≠ .leaf := plug_ne_leaf ys sided_ne_leaf
    generalize hrdef : plug (g :: ys) ry = r' at h₁ hr' hocc hone hfresh' hzocc hroot
    have hrocc (a : Addr) : r'.occ a = occAbove a (g :: ys) + ry.occ a := by
      rw [← hrdef, occ_plug]
    obtain ⟨hz, hl, habove⟩ := h₁.above
    have hheld : heap₁.Held d₁ z.addr r' := h₁.held
    have hpos := occ_addr_pos (d := d₁) hr'
    have hyo : occAbove y.addr fs = 0 ∧ l.occ y.addr = 0 ∧ r'.occ y.addr = 0 := by
      have := hwhole y.addr
      rw [if_pos rfl] at this
      rw [hrocc]
      omega
    have hy₁ : heap₁ y.addr = heap y.addr := by
      refine h₁.rest y.addr ?_ hyd
      rw [occ_plug, occAbove_cons, if_neg hyz.symm]
      omega
    obtain ⟨h₂, hrun₂, hy₂, hrest₂⟩ := modify_spec (t := ⟨heap₁, d₁, rt₁, sz₁⟩)
      (fun n => n.setChild .right (r'.addr d₁)) (hy₁.trans hy)
    obtain ⟨rn, hrn⟩ : ∃ rn, heap₁ (r'.addr d₁) = some rn := by
      cases r' with
      | leaf => exact absurd rfl hr'
      | node c' l' x r'' => exact ⟨_, hheld.1⟩
    have hry' : r'.addr d₁ ≠ y.addr := by
      intro heq
      rw [heq] at hpos
      omega
    obtain ⟨h₃, hrun₃, hr₃, hrest₃⟩ := modify_spec (t := ⟨h₂, d₁, rt₁, sz₁⟩)
      (fun n => n.setParent y.addr) ((hrest₂ _ hry').trans hrn)
    have hrest {a : Addr} (hay : a ≠ y.addr) (har : r'.occ a = 0) (hd : a ≠ d₁) :
        h₃ a = heap₁ a := (hrest₃ a (addr_ne_of_occ har hd)).trans (hrest₂ a hay)
    have hmem {a : Addr} (ha : 0 < occAbove a fs + l.occ a) : h₃ a = heap₁ a := by
      have := hwhole a
      have hra := hrocc a
      refine hrest ?_ (by omega) ?_
      · rintro rfl
        omega
      · rintro rfl
        omega
    have hdr : d₁ ≠ r'.addr d₁ := by
      intro heq
      rw [← heq, hrocc] at hpos
      omega
    have hdummy : h₃ d₁ = heap₁ d₁ := (hrest₃ _ hdr).trans (hrest₂ _ hyd.symm)
    have hz₃ : h₃ z.addr = heap₁ z.addr := by
      have := hwhole z.addr
      rw [if_pos rfl] at this
      exact hrest hyz.symm (by rw [hrocc]; omega) hzd
    refine ⟨⟨h₃, d₁, rt₁, sz₁⟩, ?_, ⟨?_, ⟨_, hz₃.trans hz, rfl, rfl, rfl⟩, ?_,
      ⟨_, (hrest₃ _ hry'.symm).trans hy₂, rfl, rfl⟩, ?_, hone, hfresh', ⟨hzocc, hzd⟩, ?_, ?_,
      rfl, h₁.size, fun a ha hd => ?_⟩, fun hleaf => ?_⟩
    · rw [if_neg hpz]
      have hrun₁' : transplant ⟨heap, d₁, rt, sz⟩ y.addr (linkNode .left cy y
          (aboveAddr d₁ ((g :: ys) ++ ⟨.right, c, z, l⟩ :: fs)) d₁ (ry.addr d₁)).right = _ := hrun₁
      rw [hrun₁', Outcome.next_bind, load_eq hz, Outcome.next_bind]
      show (AssocRbTree.modify _ y.addr (fun n => n.setChild .right (r'.addr d₁)) >>= _) = _
      rw [hrun₂, Outcome.next_bind]
      exact hrun₃
    · exact habove.congr fun a ha => hmem (by omega)
    · exact Held.congr (t := l) hl fun a ha => hmem (by omega)
    · refine hheld.reparent (fun a => by
        have := hwhole a
        have hra := hrocc a
        omega) (fun n _ hn => ?_) fun a ha har => ?_
      · cases hrn.symm.trans hn
        exact hr₃
      · refine (hrest₃ a har).trans (hrest₂ a ?_)
        rintro rfl
        omega
    · intro hne
      rw [h₁.root]
      cases fs with
      | nil => exact absurd rfl hne
      | cons f fs =>
        show (plug (f :: fs) (Frame.plug ⟨.right, c, z, l⟩ _)).addr d₁ = _
        exact addr_plug_cons
    · obtain ⟨dn, hdn, hdc⟩ := h₁.dummyBlack
      exact ⟨dn, hdummy.trans hdn, hdc⟩
    · have hzsame : heap₁ z.addr = heap z.addr := by
        -- it points to the same node on the right
        have hz₀ := h.outside.above.1
        rw [show (plug (g :: ys) (.node cy .leaf y ry)).addr d₁ = r'.addr d₁ by
          rw [← hrdef]; exact addr_plug_cons] at hz₀
        exact hz.trans hz₀.symm
      by_cases haz : a = z.addr
      · rw [haz]
        exact hz₃.trans hzsame
      · have hra := hrocc a
        rw [hocc] at ha
        have hay : a ≠ y.addr := by
          rintro rfl
          rw [if_pos rfl] at ha
          omega
        refine (hrest hay (by omega) hd).trans (h₁.rest a ?_ hd)
        rw [occ_plug, occAbove_cons, if_neg (Ne.symm haz)]
        omega
    · obtain ⟨n, hn, hp⟩ := hfocus.link hleaf
      exact ⟨n, hdummy.trans hn, hp⟩

/-! ## A node out of the tree -/

/-- What is left of the tree when a node is taken out: the place `gs`, with the subtree `u` in it,
where a node of the colour `cc` was. -/
structure Unlinked (t t' : AssocRbTree κ ν) (gs : List (Frame (Cell κ ν)))
    (u : RbTree (Cell κ ν)) (cc : Color) : Prop where
  focus : Focus t t' gs u
  red : cc = .red → (∃ m, Balanced (plug gs u) m) ∧ (plug gs u).color = .black
  black : cc = .black → Hole gs 1 ∧ Balanced u 0

/-- A node with at most one child. -/
theorem transplant_unlinked (h : At t t fs (sided s c .leaf z u)) (hole : Hole fs n)
    (hbal : Balanced (sided s c .leaf z u) n) :
    ∃ t', t.transplant z.addr (u.addr t.dummy) = .next t' ∧ Unlinked t t' fs u c := by
  obtain ⟨t', hrun, hfocus⟩ := transplant_spec h rfl
  obtain ⟨hred, hblack⟩ := hole.remove hbal
  exact ⟨t', hrun, hfocus, hred, hblack⟩

/-- A node with two children: its successor, in its colour, takes its place. -/
theorem unlinkBetween_spec (h : At t t fs (.node c l z r)) (hole : Hole fs n)
    (hbal : Balanced (.node c l z r) n) (habove : colorAbove fs = .red → c = .black)
    (hroot : (plug fs (.node c l z r)).color = .black) (hl : l ≠ .leaf) (hr : r ≠ .leaf)
    (hfuel : r.toList.length < t.size + 1) :
    ∃ t' gs u cc, t.unlinkBetween z.addr = .next (t', u.addr t.dummy, cc) ∧
      Unlinked t t' gs u cc ∧
      (plug gs u).toList = before fs ++ (l.toList ++ r.toList ++ after fs) := by
  have hnode : At t t fs (sided .left c l z r) := h
  obtain ⟨ys, cy, y, ry, hmin, rfl, hys⟩ := minimum_spec hnode.downOther hr hfuel
  have hy : At t t (ys ++ ⟨.right, c, z, l⟩ :: fs) (.node cy .leaf y ry) :=
    hnode.downOther.within
  obtain ⟨t₁, hrun₁, hready, hlink⟩ := takeRight_spec hy
  obtain ⟨t₂, zn, t₃, t₄, t', hrun₂, hzn, hrun₃, hrun₄, hrun₅, h', hdummy⟩ := hready.replace hl
  have hnode' : At t t' fs (sided .left c l y (plug ys ry)) := h'
  -- the place of the successor
  have hfilled : ∃ m, Hole (ys ++ ⟨.right, c, z, l⟩ :: fs) m ∧
      Balanced (.node cy .leaf y ry) m := by
    obtain ⟨⟨m, hm⟩, -⟩ := hole.fill hbal habove
    have hwhole : plug (ys ++ ⟨.right, c, z, l⟩ :: fs) (.node cy .leaf y ry) =
        plug fs (.node c l z (plug ys (.node cy .leaf y ry))) := plug_append _ _ _
    rw [← hwhole] at hm hroot
    obtain ⟨m', hole', hbal', -⟩ := Hole.of_filled hm hroot
    exact ⟨m', hole', hbal'⟩
  obtain ⟨m, hole', hbal'⟩ := hfilled
  have hremove := (hole'.item y).remove (s := .left) hbal'
  refine ⟨t', ys ++ ⟨.right, c, y, l⟩ :: fs, ry, cy, ?_,
    ⟨⟨hnode'.downOther.within, fun hleaf => ?_⟩, hremove.1, hremove.2⟩, ?_⟩
  · have hload : t.load z.addr = _ := hnode.load
    unfold unlinkBetween
    rw [hload, Outcome.next_bind]
    show (t.minimum (t.size + 1) ((plug ys (.node cy .leaf y ry)).addr t.dummy) >>= _) = _
    rw [hmin, Outcome.next_bind, load_eq hy.held.1, Outcome.next_bind, hrun₁, Outcome.next_bind,
      hrun₂, Outcome.next_bind, hzn, Outcome.next_bind, hrun₃, Outcome.next_bind, hrun₄,
      Outcome.next_bind, hrun₅]
    rfl
  · obtain ⟨n, hn, hp⟩ := hlink hleaf
    exact ⟨n, hdummy.trans hn, hp⟩
  · rw [plug_append, toList_plug, toList_plug ys ry, toList_plug ys (.node cy .leaf y ry),
      before_left hys]
    simp [before, after, toList]

/-- **`z_node` out of the tree**: the other nodes are in the same order. -/
theorem unlink_spec (h : At t t fs (.node c l z r)) (hole : Hole fs n)
    (hbal : Balanced (.node c l z r) n) (habove : colorAbove fs = .red → c = .black)
    (hroot : (plug fs (.node c l z r)).color = .black)
    (hsize : t.size = (plug fs (.node c l z r)).toList.length) :
    ∃ t' gs u cc, t.unlink z.addr = .next (t', u.addr t.dummy, cc) ∧ Unlinked t t' gs u cc ∧
      (plug gs u).toList = before fs ++ (l.toList ++ r.toList ++ after fs) := by
  have hnode : At t t fs (sided .left c l z r) := h
  have hload : t.load z.addr = .next (linkNode .left c z (aboveAddr t.dummy fs) (l.addr t.dummy)
    (r.addr t.dummy)) := hnode.load
  unfold unlink
  rw [hload, Outcome.next_bind]
  show ∃ t' gs u cc, (if l.addr t.dummy = t.dummy then _ else if r.addr t.dummy = t.dummy then _
    else _) = _ ∧ _
  by_cases hl : l = .leaf
  · subst hl
    obtain ⟨t', hrun, hout⟩ := transplant_unlinked (s := .left) h hole hbal
    refine ⟨t', fs, r, c, ?_, hout, by rw [toList_plug]; rfl⟩
    have hrun' : t.transplant z.addr (linkNode .left c z (aboveAddr t.dummy fs) t.dummy
      (r.addr t.dummy)).right = .next t' := hrun
    rw [if_pos addr_leaf, addr_leaf, hrun', Outcome.next_bind]
    rfl
  · rw [if_neg fun heq => hl (hnode.down.addr_eq_dummy.mp heq)]
    by_cases hr : r = .leaf
    · subst hr
      obtain ⟨t', hrun, hout⟩ := transplant_unlinked (s := .right) h hole hbal
      refine ⟨t', fs, l, c, ?_, hout, by rw [toList_plug]; simp [toList]⟩
      have hrun' : t.transplant z.addr (linkNode .left c z (aboveAddr t.dummy fs)
        (l.addr t.dummy) t.dummy).left = .next t' := hrun
      rw [if_pos addr_leaf, addr_leaf, hrun', Outcome.next_bind]
      rfl
    · rw [if_neg fun heq => hr (hnode.downOther.addr_eq_dummy.mp heq)]
      refine unlinkBetween_spec h hole hbal habove hroot hl hr ?_
      rw [hsize, toList_plug, toList]
      simp only [List.length_append, List.length_cons]
      omega

/-! ## The operations -/

/-- **`assoc_rb_tree_extract_node`**: the node is not in the tree any more, and still as it was. -/
theorem extractNode_spec (h : At t t fs (.node c l z r)) (hbal : ∃ m, Balanced (plug fs (.node c l z r)) m)
    (hroot : (plug fs (.node c l z r)).color = .black)
    (hsize : t.size = (plug fs (.node c l z r)).toList.length) :
    ∃ t' T, t.extractNode z.addr = .next t' ∧ At t t' [] T ∧
      T.toList = before fs ++ (l.toList ++ r.toList ++ after fs) ∧ (∃ m, Balanced T m) ∧
      T.color = .black := by
  obtain ⟨m, hm⟩ := hbal
  obtain ⟨n, hole, hbal, habove⟩ := Hole.of_filled hm hroot
  obtain ⟨t₁, gs, u, cc, hrun₁, hout, hlist⟩ := unlink_spec h hole hbal habove hroot hsize
  have hzd : z.addr ≠ t.dummy := At.ne_dummy (s := .left) h
  unfold extractNode
  rw [Outcome.assert_of (bne_iff_ne.mpr hzd), Outcome.next_bind, hrun₁, Outcome.next_bind]
  dsimp only
  cases cc with
  | red =>
    obtain ⟨hbal', hblack⟩ := hout.red rfl
    exact ⟨t₁, plug gs u, if_neg nofun, hout.focus.here.top, hlist, hbal', hblack⟩
  | black =>
    obtain ⟨hole', hu⟩ := hout.black rfl
    have hfuel : gs.length < t₁.size + 1 := by
      have hle := length_le_plug gs u
      have hlen := congrArg List.length hlist
      have hsize₁ : t₁.size = t.size := hout.focus.here.size
      rw [toList_plug, toList] at hsize
      simp only [List.length_append, List.length_cons] at hsize hlen
      omega
    obtain ⟨t', T, hrun, h', hlist', hT⟩ :=
      deleteFixup_spec ⟨hout.focus, hole'⟩ hu.short (.inl hfuel)
    exact ⟨t', T, (if_pos rfl).trans hrun, h', hlist'.trans hlist, hT⟩

variable {cmp : Cmp κ} {k : κ} {T : RbTree (Cell κ ν)}

/-- **A node of the tree is extracted and freed**: its entry is handed back, and the others stay. -/
theorem extractFree_spec (h : RbOk cmp t T) (hT : T = plug fs (.node c l z r)) :
    ∃ t₁ t' T', t.extractNode z.addr = .next t₁ ∧ t₁.freeNode z.addr = .next (z.entry, t') ∧
      RbOk cmp t' T' ∧ t'.dummy = t.dummy ∧
      T.toList = (before fs ++ l.toList) ++ z :: (r.toList ++ after fs) ∧
      T'.toList = (before fs ++ l.toList) ++ (r.toList ++ after fs) := by
  subst hT
  obtain ⟨t₁, T', hrun₁, h₁, hlist, hbal, hblack⟩ :=
    extractNode_spec h.linked.place h.balanced h.black h.size
  have hold : (plug fs (.node c l z r)).toList =
      (before fs ++ l.toList) ++ z :: (r.toList ++ after fs) := by
    rw [toList_plug, toList]
    simp
  have hnew : T'.toList = (before fs ++ l.toList) ++ (r.toList ++ after fs) := by
    rw [hlist]
    simp
  have hnode := h.linked.place.held.1
  have hzd : z.addr ≠ t.dummy := At.ne_dummy (s := .left) h.linked.place
  -- the node is not in the new tree
  have hzo : T'.occ z.addr = 0 := by
    have hone := h.linked.one z.addr
    rw [plug, occ, hold] at hone
    rw [occ, hnew]
    simp only [List.map_append, List.map_cons, List.count_append, List.count_cons_self] at hone ⊢
    omega
  have hz₁ : t₁.heap z.addr = t.heap z.addr := h₁.rest _ hzo hzd
  have hsize₁ : t₁.size = t.size := h₁.size
  have hsize := h.size
  have hpos : (t₁.size != 0) = true := by
    rw [hold, List.length_append, List.length_cons] at hsize
    exact bne_iff_ne.mpr (by omega)
  obtain ⟨heap₁, d₁, r₁, sz₁⟩ := t₁
  obtain rfl : d₁ = t.dummy := h₁.dummy
  refine ⟨_, ⟨Heap.set heap₁ z.addr none, t.dummy, r₁, sz₁ - 1⟩, T', hrun₁, ?_,
    ⟨⟨trivial, ?_, h₁.one, h₁.fresh, h₁.root, ?_, rfl, rfl, fun _ _ _ => rfl⟩,
      fun a ha hd => ?_, hblack, hbal, ?_, ?_⟩, rfl, hold, hnew⟩
  · unfold freeNode
    rw [load_eq (hz₁.trans hnode), Outcome.next_bind]
    show (Outcome.assert _ _ >>= _) = _
    rw [Outcome.assert_of hpos]
    rfl
  · refine h₁.held.congr fun a ha => set_of_ne ?_
    rintro rfl
    omega
  · obtain ⟨dn, hdn, hdc⟩ := h₁.dummyBlack
    exact ⟨dn, (set_of_ne hzd.symm).trans hdn, hdc⟩
  · by_cases haz : a = z.addr
    · rw [haz]
      exact set_self
    · refine (set_of_ne haz).trans ((h₁.rest a ha hd).trans (h.alloc a ?_ hd))
      rw [occ, hnew] at ha
      rw [occ, hold]
      simp only [List.map_append, List.map_cons, List.count_append,
        List.count_cons_of_ne (Ne.symm haz)] at ha ⊢
      omega
  · refine List.Pairwise.sublist (List.Sublist.map _ ?_) h.sorted
    rw [hold, hnew]
    exact List.Sublist.append_left (List.sublist_cons_self _ _) _
  · rw [hold, List.length_append, List.length_cons] at hsize
    rw [hnew, List.length_append]
    have hsize₁ : sz₁ = t.size := hsize₁
    show sz₁ - 1 = _
    omega

/-- The search of an extraction. -/
theorem RbOk.find (hc : LawfulCmp cmp) (h : RbOk cmp t T) (k : κ) :
    (t.findRbTree cmp k (t.size + 1) t.root = .next t.dummy ∧ ∀ e ∈ T.entries, cmp k e.1 ≠ 0) ∨
    ∃ fs c l x r, t.findRbTree cmp k (t.size + 1) t.root = .next x.addr ∧
      T = plug fs (.node c l x r) ∧ cmp k x.entry.1 = 0 := by
  obtain ⟨fs, u, hrun, hplug, hturns, hfound⟩ := findRbTree_spec (k := k) hc h.linked Turns.nil
    (show T.toList.length < t.size + 1 by rw [h.size]; exact Nat.lt_succ_self _)
  have hT : plug fs u = T := hplug
  have hroot : t.root = T.addr t.dummy := h.linked.root
  rw [← hroot] at hrun
  cases u with
  | leaf =>
    refine .inl ⟨hrun, ?_⟩
    have hsorted := h.sorted
    rw [← hT] at hsorted ⊢
    exact not_found hc hsorted hturns
  | node c l x r => exact .inr ⟨fs, c, l, x, r, hrun, hT.symm, hfound c l x r rfl⟩

/-- **`assoc_rb_tree_extract`** takes one entry with the key. -/
theorem extract_spec (hc : LawfulCmp cmp) (h : RbOk cmp t T)
    (hk : ∃ e ∈ T.entries, cmp k e.1 = 0) :
    ∃ x t' T' l₁ l₂, t.extract cmp k = .next (x.entry, t') ∧ RbOk cmp t' T' ∧
      t'.dummy = t.dummy ∧ cmp k x.entry.1 = 0 ∧ T.toList = l₁ ++ x :: l₂ ∧
      T'.toList = l₁ ++ l₂ := by
  obtain ⟨-, hnone⟩ | ⟨fs, c, l, x, r, hrun, hT, hkx⟩ := h.find hc k
  · obtain ⟨e, he, heq⟩ := hk
    exact absurd heq (hnone e he)
  · obtain ⟨t₁, t', T', hrun₁, hrun₂, hok, hdummy, hold, hnew⟩ := extractFree_spec h hT
    have hxd : x.addr ≠ t.dummy := by
      have hlinked := h.linked
      rw [hT] at hlinked
      exact At.ne_dummy (s := .left) hlinked.place
    refine ⟨x, t', T', _, _, ?_, hok, hdummy, hkx, hold, hnew⟩
    unfold extract
    rw [hrun, Outcome.next_bind, Outcome.assert_of (bne_iff_ne.mpr hxd), Outcome.next_bind, hrun₁,
      Outcome.next_bind, hrun₂]

/-- Without such an entry the assertion fails. -/
theorem extract_aborts (hc : LawfulCmp cmp) (h : RbOk cmp t T)
    (hk : ∀ e ∈ T.entries, cmp k e.1 ≠ 0) : (t.extract cmp k).Aborts := by
  obtain ⟨hrun, -⟩ | ⟨fs, c, l, x, r, hrun, hT, hkx⟩ := h.find hc k
  · unfold extract
    rw [hrun, Outcome.next_bind]
    exact Outcome.assert_bind_aborts.mpr (.inl (bne_eq_false_iff_eq.mpr rfl))
  · refine absurd hkx (hk x.entry ?_)
    rw [hT, entries_plug]
    simp [RbTree.entries, toList]

/-- **`assoc_rb_tree_free_it`** takes the entry of the iterator. -/
theorem freeIt_spec {x : Cell κ ν} (h : RbOk cmp t T) (hx : x ∈ T.toList) :
    ∃ t' T' l₁ l₂, t.freeIt true x.addr = .next (x.entry, t') ∧ RbOk cmp t' T' ∧
      t'.dummy = t.dummy ∧ T.toList = l₁ ++ x :: l₂ ∧ T'.toList = l₁ ++ l₂ := by
  obtain ⟨fs, c, l, r, hT⟩ := exists_place hx
  obtain ⟨t₁, t', T', hrun₁, hrun₂, hok, hdummy, hold, hnew⟩ := extractFree_spec h hT
  have hxd : x.addr ≠ t.dummy := by
    have hlinked := h.linked
    rw [hT] at hlinked
    exact At.ne_dummy (s := .left) hlinked.place
  refine ⟨t', T', _, _, ?_, hok, hdummy, hold, hnew⟩
  unfold freeIt
  rw [Outcome.assert_of (bne_iff_ne.mpr hxd), Outcome.next_bind, hrun₁, Outcome.next_bind,
    Outcome.assert_of rfl, Outcome.next_bind, hrun₂]

/-- Without a free function it crashes. -/
theorem freeIt_aborts {x : Cell κ ν} (h : RbOk cmp t T) (hx : x ∈ T.toList) :
    (t.freeIt false x.addr).Aborts := by
  obtain ⟨fs, c, l, r, hT⟩ := exists_place hx
  obtain ⟨t₁, -, -, hrun₁, -⟩ := extractFree_spec h hT
  exact Outcome.bind_aborts.mpr ((Bool.eq_false_or_eq_true (x.addr != t.dummy)).symm.imp
    Outcome.assert_aborts.mpr fun hne => ⟨⟨⟩, Outcome.assert_of hne, Outcome.bind_aborts.mpr
      (.inr ⟨t₁, hrun₁, Outcome.assert_bind_aborts.mpr (.inl rfl)⟩)⟩)

end AssocRbTree

end FlexRic
