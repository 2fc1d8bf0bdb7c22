import FlexRic.Ds.RbSearch

/-!
# FlexRic.Ds.RbDelete

`delete_fixup`: from a place whose subtree has one black node too few to a balanced tree.

* `Focus`: the place of the `x_node`, which may be the dummy with its parent link;
* `Short`: the subtree lacks a black node, unless its root is painted;
* `redSibling_spec`, `blackFar_spec` and `redFar_spec`: the cases of a round;
* `deleteFixup_spec`: the loop, with the same items in the same order.
-/

namespace FlexRic

open RbTree Heap

namespace RbTree

variable {α : Type} {t u : RbTree α} {x : α} {s : Side} {n : Nat}

/-- A subtree of black height `n` that can be painted black where `n + 1` is asked for. -/
def Short (t : RbTree α) (n : Nat) : Prop :=
  (t.color = .black → Balanced t n) ∧ (t.color = .red → Balanced (t.paint .black) (n + 1))

theorem Balanced.short (h : Balanced t n) : Short t n := ⟨fun _ => h, h.paint_of_red⟩

end RbTree

namespace AssocRbTree

variable {κ ν : Type} {t₀ t t' : AssocRbTree κ ν} {fs fs' : List (Frame (Cell κ ν))} {s : Side}
  {c cp : Color} {u w near far : RbTree (Cell κ ν)} {p y : Cell κ ν} {n : Nat}

/-- **The memory is the tree, and the `x_node` has its parent link**, also if it is the dummy. -/
structure Focus (t₀ t : AssocRbTree κ ν) (fs : List (Frame (Cell κ ν))) (u : RbTree (Cell κ ν)) :
    Prop where
  here : At t₀ t fs u
  link : u = .leaf → ∃ n, t.heap t₀.dummy = some n ∧ n.parent = aboveAddr t₀.dummy fs

theorem Focus.load (h : Focus t₀ t fs u) : ∃ n, t.load (u.addr t₀.dummy) = .next n ∧
    n.parent = aboveAddr t₀.dummy fs ∧ n.color = u.color := by
  by_cases hleaf : u = .leaf
  · obtain ⟨n, hn, hp⟩ := h.link hleaf
    obtain ⟨n', hn', hc⟩ := h.here.dummyBlack
    obtain rfl : n' = n := Option.some.inj (hn'.symm.trans hn)
    subst hleaf
    exact ⟨n', load_eq hn', hp, hc⟩
  · exact h.here.loadParent hleaf

/-- Writes elsewhere keep the link, as long as the parent is the same. -/
theorem Focus.move (h : Focus t₀ t fs u) (h' : At t₀ t' fs' u)
    (hdummy : t'.heap t₀.dummy = t.heap t₀.dummy)
    (habove : aboveAddr t₀.dummy fs' = aboveAddr t₀.dummy fs) : Focus t₀ t' fs' u where
  here := h'
  link := fun hleaf => by
    obtain ⟨n, hn, hp⟩ := h.link hleaf
    exact ⟨n, hdummy.trans hn, hp.trans habove.symm⟩

/-- A node has its link in any case. -/
theorem At.focus (h : At t₀ t fs u) (hne : u ≠ .leaf) : Focus t₀ t fs u :=
  ⟨h, fun hleaf => absurd hleaf hne⟩

/-- The root is above every place but the first. -/
theorem occAbove_root (d : Addr) (f : Frame (Cell κ ν)) (fs : List (Frame (Cell κ ν)))
    (u : RbTree (Cell κ ν)) :
    0 < occAbove ((plug (f :: fs) u).addr d) (f :: fs) := by
  induction fs generalizing f u with
  | nil =>
    show 0 < occAbove ((f.plug u).addr d) [f]
    rw [Frame.plug, addr_sided, occAbove, if_pos rfl]
    exact Nat.succ_pos _
  | cons g fs ih =>
    have hg := ih (u := f.plug u) g
    rw [occAbove]
    show 0 < occAbove ((plug (g :: fs) (f.plug u)).addr d) (g :: fs) + _ + _
    omega

/-- `x_node != tree->root`. -/
theorem At.addr_ne_root {f : Frame (Cell κ ν)} (h : At t₀ t (f :: fs) u) :
    u.addr t₀.dummy ≠ t.root := by
  intro heq
  have hpos := occAbove_root t₀.dummy f fs u
  rw [← h.root, ← heq] at hpos
  by_cases hleaf : u = .leaf
  · subst hleaf
    have := h.occ_dummy.1
    rw [addr_leaf] at hpos
    omega
  · have hone := h.one (u.addr t₀.dummy)
    rw [occ_plug] at hone
    have := occ_addr_pos (d := t₀.dummy) hleaf
    omega

/-! ## The cases of a round -/

theorem black_beq : (Color.black == Color.black) = true := rfl

/-- The place of an `x_node` that lacks a black node. -/
structure Lacks (t₀ t : AssocRbTree κ ν) (fs : List (Frame (Cell κ ν))) (u : RbTree (Cell κ ν))
    (n : Nat) : Prop where
  focus : Focus t₀ t fs u
  hole : Hole fs (n + 1)

/-- **Case 1**: a red sibling is rotated away. -/
theorem redSibling_spec (h : Lacks t₀ t (⟨s, cp, p, w⟩ :: fs) u n) :
    ∃ t' cp' w' fs', t.redSibling s (u.addr t₀.dummy) (w.addr t₀.dummy) =
        .next (t', w'.addr t₀.dummy) ∧ Lacks t₀ t' (⟨s, cp', p, w'⟩ :: fs') u n ∧
      w'.color = .black ∧ (fs' = fs ∨ cp' = .red) ∧
      (plug (⟨s, cp', p, w'⟩ :: fs') u).toList = (plug (⟨s, cp, p, w⟩ :: fs) u).toList := by
  obtain ⟨wn, hwn, hwc⟩ := h.focus.here.up.downOther.loadColor
  unfold redSibling
  rw [hwn, Outcome.next_bind, hwc]
  by_cases hred : w.color = .red
  · have hleaf : w ≠ .leaf := by
      rintro rfl
      cases hred
    obtain ⟨cw, near, y, far, rfl⟩ := exists_sided_of_ne_leaf s hleaf
    rw [color_sided] at hred
    subst hred
    cases h.hole with
    | red hole hne habove hw hwb =>
      rw [color_sided] at hwb
      cases hwb
    | black hole hw =>
      obtain ⟨hnear, hfar, hnearb, hfarb⟩ := hw.of_sided_red
      obtain ⟨xn, hxn, hxp, -⟩ := h.focus.load
      obtain ⟨t₁, hrun₁, h₁, hd₁⟩ :=
        h.focus.here.up.downOther.paint_keeps .black fun _ => rfl
      obtain ⟨t₂, hrun₂, h₂, hd₂⟩ :=
        h₁.upOther.paint_keeps .red fun hleaf => absurd hleaf sided_ne_leaf
      rw [paint_sided, paint_sided] at h₂
      obtain ⟨t₃, hrun₃, h₃, hd₃⟩ := h₂.rotate_keeps
      have hdummy : t₃.heap t₀.dummy = t.heap t₀.dummy :=
        (hd₃.trans (hd₂ sided_ne_leaf)).trans (hd₁ sided_ne_leaf)
      have hfocus : Focus t₀ t₃ (⟨s, .red, p, near⟩ :: ⟨s, .black, y, far⟩ :: fs) u :=
        h.focus.move h₃.down.down hdummy rfl
      obtain ⟨xn', hxn', hxp', -⟩ := hfocus.load
      rw [addr_sided] at hrun₁ hrun₂
      refine ⟨t₃, .red, near, ⟨s, .black, y, far⟩ :: fs, ?_,
        ⟨hfocus, .red (.black hole hfar) nofun rfl hnear hnearb⟩, hnearb, .inr rfl, ?_⟩
      · rw [color_sided, if_pos rfl, hxn, Outcome.next_bind, addr_sided, hrun₁, Outcome.next_bind,
          hxp, aboveAddr_cons, hrun₂, Outcome.next_bind, hrun₃, Outcome.next_bind, hxn',
          Outcome.next_bind, hxp', aboveAddr_cons, hfocus.here.loadItem, Outcome.next_bind,
          linkNode_child_other]
        rfl
      · refine toList_plug_congr fs ?_
        cases s <;> simp [Frame.plug, sided, toList]
  · rw [if_neg hred]
    have hblack : w.color = .black := by
      by_contra hne
      exact hred (Color.eq_red_of_ne hne)
    exact ⟨t, cp, w, fs, rfl, h, hblack, .inl rfl, rfl⟩

/-- **Case 3**: with a black far child, the red near child of the sibling is rotated up. -/
theorem blackFar_spec (h : Lacks t₀ t (⟨s, cp, p, sided s .black near y far⟩ :: fs) u n)
    (hnear : Balanced near n) (hfar : Balanced far n)
    (hred : ¬ (near.color = .black ∧ far.color = .black)) :
    ∃ t' near' y' far', t.blackFar s (u.addr t₀.dummy) y.addr = .next (t', y'.addr) ∧
      Focus t₀ t' (⟨s, cp, p, sided s .black near' y' far'⟩ :: fs) u ∧
      Balanced near' n ∧ Balanced far' n ∧ far'.color = .red ∧
      (plug (⟨s, cp, p, sided s .black near' y' far'⟩ :: fs) u).toList =
        (plug (⟨s, cp, p, sided s .black near y far⟩ :: fs) u).toList := by
  have hw := h.focus.here.up.downOther
  obtain ⟨fn, hfn, hfc⟩ := hw.downOther.loadColor
  unfold blackFar
  rw [hw.load, Outcome.next_bind, linkNode_child_other, hfn, Outcome.next_bind, hfc]
  by_cases hblack : far.color = .black
  · have hnearr : near.color = .red := Color.eq_red_of_ne fun hb => hred ⟨hb, hblack⟩
    have hleaf : near ≠ .leaf := by
      rintro rfl
      cases hnearr
    obtain ⟨cn, b, z, a, rfl⟩ := exists_sided_of_ne_leaf s.other hleaf
    rw [color_sided] at hnearr
    subst hnearr
    obtain ⟨hb, ha, hbb, -⟩ := hnear.of_sided_red
    obtain ⟨nn, hnn, hnc⟩ := hw.down.loadColor
    obtain ⟨t₁, hrun₁, h₁, hd₁⟩ := hw.down.paint_keeps .black fun _ => rfl
    obtain ⟨t₂, hrun₂, h₂, hd₂⟩ := h₁.up.paint_keeps .red fun hleaf => absurd hleaf sided_ne_leaf
    rw [paint_sided, paint_sided, ← sided_other] at h₂
    obtain ⟨t₃, hrun₃, h₃, hd₃⟩ := h₂.rotate_keeps
    have hdummy : t₃.heap t₀.dummy = t.heap t₀.dummy :=
      (hd₃.trans (hd₂ sided_ne_leaf)).trans (hd₁ sided_ne_leaf)
    rw [← sided_other, Side.other_other] at h₃
    have hfocus : Focus t₀ t₃
        (⟨s, cp, p, sided s .black a z (sided s.other .red far y b)⟩ :: fs) u :=
      h.focus.move h₃.upOther.down hdummy rfl
    obtain ⟨xn, hxn, hxp, -⟩ := hfocus.load
    rw [addr_sided] at hrun₁ hrun₂
    refine ⟨t₃, a, z, sided s.other .red far y b, ?_, hfocus, ha, hfar.sided_red hb hblack hbb,
      color_sided, ?_⟩
    · have hnearc : (nn.color == Color.red) = true := by
        rw [hnc, color_sided]
        rfl
      rw [if_pos hblack, linkNode_color, Outcome.assert_of black_beq, Outcome.next_bind, linkNode_child,
        hnn, Outcome.next_bind, Outcome.assert_of hnearc, Outcome.next_bind, addr_sided, hrun₁,
        Outcome.next_bind, hrun₂, Outcome.next_bind, hrun₃, Outcome.next_bind, hxn,
        Outcome.next_bind, hxp, aboveAddr_cons, hfocus.here.loadItem, Outcome.next_bind,
        linkNode_child_other, addr_sided]
      rfl
    · refine toList_plug_congr fs ?_
      cases s <;> simp [Frame.plug, sided, toList, Side.other]
  · rw [if_neg hblack]
    exact ⟨t, near, y, far, rfl, h.focus, hnear, hfar, Color.eq_red_of_ne hblack, rfl⟩

/-- **Case 4**: a red far child gives its colour, and a rotation the missing black node. -/
theorem redFar_spec (h : Focus t₀ t (⟨s, cp, p, sided s .black near y far⟩ :: fs) u)
    (hfarr : far.color = .red) :
    ∃ t', t.redFar s (u.addr t₀.dummy) y.addr = .next t' ∧
      At t₀ t' fs (sided s cp (sided s .black u p near) y (far.paint .black)) := by
  have hw := h.here.up.downOther
  obtain ⟨fn, hfn, hfc⟩ := hw.downOther.loadColor
  obtain ⟨xn, hxn, hxp, -⟩ := h.load
  obtain ⟨t₁, hrun₁, h₁⟩ := hw.paint cp fun hleaf => absurd hleaf sided_ne_leaf
  rw [paint_sided] at h₁
  obtain ⟨t₂, hrun₂, h₂⟩ := h₁.upOther.paint .black fun _ => rfl
  rw [paint_sided] at h₂
  obtain ⟨t₃, hrun₃, h₃⟩ := h₂.downOther.downOther.paint .black fun _ => rfl
  obtain ⟨t₄, hrun₄, h₄⟩ := h₃.upOther.upOther.rotate
  rw [addr_sided] at hrun₁ hrun₂
  refine ⟨t₄, ?_, h₄⟩
  have hfarc : (fn.color == Color.red) = true := by
    rw [hfc, hfarr]
    rfl
  unfold redFar
  rw [hw.load, Outcome.next_bind, linkNode_color, Outcome.assert_of black_beq, Outcome.next_bind,
    linkNode_child_other, hfn, Outcome.next_bind, Outcome.assert_of hfarc, Outcome.next_bind, hxn,
    Outcome.next_bind, hxp, aboveAddr_cons, h.here.loadItem, Outcome.next_bind, linkNode_color,
    hrun₁, Outcome.next_bind, hrun₂, Outcome.next_bind, hrun₃, Outcome.next_bind, hrun₄]

/-! ## The loop -/

/-- **A round of the fix-up** leaves the place one node higher, a red node, or the root. -/
theorem deleteRound_spec (h : Lacks t₀ t (⟨s, cp, p, w⟩ :: fs) u n) (hu : Balanced u n) :
    ∃ t' fs' u' m, t.deleteRound s (u.addr t₀.dummy) = .next (t', u'.addr t₀.dummy) ∧
      Lacks t₀ t' fs' u' m ∧ Short u' m ∧ (fs' = fs ∨ fs' = [] ∨ u'.color = .red) ∧
      (plug fs' u').toList = (plug (⟨s, cp, p, w⟩ :: fs) u).toList := by
  obtain ⟨xn, hxn, hxp, -⟩ := h.focus.load
  obtain ⟨t₁, cp', w', fs₁, hrun₁, h₁, hwb, hfs, hlist₁⟩ := redSibling_spec h
  unfold deleteRound
  rw [hxn, Outcome.next_bind, hxp, aboveAddr_cons, h.focus.here.loadItem, Outcome.next_bind,
    linkNode_child_other, hrun₁, Outcome.next_bind]
  -- the sibling is black, and no leaf
  have hw : Balanced w' (n + 1) := by
    cases h₁.hole with
    | red _ _ _ hw _ => exact hw
    | black _ hw => exact hw
  obtain ⟨cw, near, y, far, rfl⟩ := exists_sided_of_ne_leaf s hw.ne_leaf
  rw [color_sided] at hwb
  subst hwb
  obtain ⟨m, hm, hnear, hfar⟩ := hw.of_sided_black
  obtain rfl : n = m := Nat.succ.inj hm
  have hplace := h₁.focus.here.up.downOther
  obtain ⟨nn, hnn, hnc⟩ := hplace.down.loadColor
  obtain ⟨fn, hfn, hfc⟩ := hplace.downOther.loadColor
  dsimp only
  rw [addr_sided, hplace.load, Outcome.next_bind, linkNode_color, Outcome.assert_of black_beq,
    Outcome.next_bind, linkNode_child, linkNode_child_other, hnn, Outcome.next_bind, hfn,
    Outcome.next_bind, hnc, hfc]
  by_cases hboth : near.color = .black ∧ far.color = .black
  · -- the sibling turns red, and the parent lacks a black node
    obtain ⟨t₂, hrun₂, h₂, hd₂⟩ :=
      hplace.paint_keeps .red fun hleaf => absurd hleaf sided_ne_leaf
    rw [paint_sided] at h₂
    rw [addr_sided] at hrun₂
    have hfocus : Focus t₀ t₂ (⟨s, cp', p, sided s .red near y far⟩ :: fs₁) u :=
      h₁.focus.move h₂.upOther.down (hd₂ sided_ne_leaf) rfl
    obtain ⟨xn', hxn', hxp', -⟩ := hfocus.load
    have hred : Balanced (sided s .red near y far) n :=
      hnear.sided_red hfar hboth.1 hboth.2
    have hup : Focus t₀ t₂ fs₁ (sided s cp' u p (sided s .red near y far)) :=
      hfocus.here.up.focus sided_ne_leaf
    have hlist₂ : (plug fs₁ (sided s cp' u p (sided s .red near y far))).toList =
        (plug (⟨s, cp', p, sided s .black near y far⟩ :: fs₁) u).toList := by
      refine toList_plug_congr fs₁ ?_
      cases s <;> simp [Frame.plug, sided, toList]
    rw [if_pos hboth, hrun₂, Outcome.next_bind, hxn', Outcome.next_bind, hxp', aboveAddr_cons]
    cases cp' with
    | red =>
      cases h₁.hole with
      | red hole _ _ _ _ =>
        refine ⟨t₂, fs₁, _, n, ?_, ⟨hup, hole⟩, ⟨fun hb => ?_, fun _ => ?_⟩,
          .inr (.inr color_sided), hlist₂.trans hlist₁⟩
        · rw [addr_sided]
          rfl
        · rw [color_sided] at hb
          cases hb
        · rw [paint_sided]
          exact hu.sided_black hred
    | black =>
      cases h₁.hole with
      | black hole _ =>
        refine ⟨t₂, fs₁, _, n + 1, ?_, ⟨hup, hole⟩, (hu.sided_black hred).short, ?_,
          hlist₂.trans hlist₁⟩
        · rw [addr_sided]
          rfl
        · exact .inl (hfs.resolve_right (by simp))
  · obtain ⟨t₂, near', y', far', hrun₂, h₂, hnear', hfar', hfarr, hlist₂⟩ :=
      blackFar_spec h₁ hnear hfar hboth
    obtain ⟨t₃, hrun₃, h₃⟩ := redFar_spec h₂ hfarr
    have hlist₃ : (plug fs₁ (sided s cp' (sided s .black u p near') y' (far'.paint .black))).toList =
        (plug (⟨s, cp', p, sided s .black near' y' far'⟩ :: fs₁) u).toList := by
      refine toList_plug_congr fs₁ ?_
      cases s <;> simp [Frame.plug, sided, toList]
    have hparts := hu.sided_black (s := s) (x := p) hnear'
    have hpaint := hfar'.paint_of_red hfarr
    have hfill : ∃ m, Balanced
        (plug fs₁ (sided s cp' (sided s .black u p near') y' (far'.paint .black))) m := by
      cases cp' with
      | red =>
        cases h₁.hole with
        | red hole _ habove _ _ =>
          refine (hole.fill (hparts.sided_red hpaint color_sided color_paint_black) ?_).1
          intro hred
          rw [habove] at hred
          cases hred
      | black =>
        cases h₁.hole with
        | black hole _ => exact (hole.fill (hparts.sided_black hpaint) fun _ => color_sided).1
    obtain ⟨m, hm⟩ := hfill
    refine ⟨t₃, [], _, m, ?_, ⟨h₃.top.focus (plug_ne_leaf _ sided_ne_leaf), .nil _⟩, hm.short,
      .inr (.inl rfl), hlist₃.trans (hlist₂.trans hlist₁)⟩
    rw [if_neg hboth, hrun₂, Outcome.next_bind]
    dsimp only
    rw [hrun₃, Outcome.next_bind, ← h₃.root]
    rfl

/-- **`delete_fixup`**: a subtree that lacks a black node. -/
theorem deleteFixup_spec {fuel : Nat} (h : Lacks t₀ t fs u n) (hu : Short u n)
    (hfuel : fs.length < fuel ∨ (u.color = .red ∧ 0 < fuel)) :
    ∃ t' T, t.deleteFixup fuel (u.addr t₀.dummy) = .next t' ∧ At t₀ t' [] T ∧
      T.toList = (plug fs u).toList ∧ (∃ m, Balanced T m) ∧ T.color = .black := by
  induction fuel generalizing t fs u n with
  | zero => omega
  | succ fuel ih =>
    obtain ⟨xn, hxn, hxp, hxc⟩ := h.focus.load
    unfold deleteFixup
    rw [hxn, Outcome.next_bind, hxc]
    by_cases hred : u.color = .red
    · -- painting the root of the subtree is all it takes
      have hne : ¬ (u.addr t₀.dummy ≠ t.root ∧ u.color = .black) := by
        rw [hred]
        exact fun hcond => by cases hcond.2
      obtain ⟨t', hrun, h'⟩ := h.focus.here.paint .black fun _ => rfl
      obtain ⟨⟨m, hm⟩, habove⟩ := h.hole.fill (hu.2 hred) fun _ => color_paint_black
      refine ⟨t', _, by rw [if_neg hne, hrun], h'.top, ?_, ⟨m, hm⟩, ?_⟩
      · exact toList_plug_congr _ (toList_paint _ _)
      · by_cases hnil : fs = []
        · subst hnil
          exact color_paint_black
        · exact habove hnil
    · have hub : u.color = .black := by
        by_contra hne
        exact hred (Color.eq_red_of_ne hne)
      cases fs with
      | nil =>
        have hroot : u.addr t₀.dummy = t.root := h.focus.here.root.symm
        have hne : ¬ (u.addr t₀.dummy ≠ t.root ∧ u.color = .black) := fun hcond =>
          hcond.1 hroot
        obtain ⟨t', hrun, h'⟩ := h.focus.here.paint .black fun _ => rfl
        exact ⟨t', _, by rw [if_neg hne, hrun], h', toList_paint _ _, (hu.1 hub).paint_black,
          color_paint_black⟩
      | cons f fs =>
        obtain ⟨s, cp, p, w⟩ := f
        have hcond : u.addr t₀.dummy ≠ t.root ∧ u.color = .black :=
          ⟨h.focus.here.addr_ne_root, hub⟩
        have hw : w ≠ .leaf := by
          cases h.hole with
          | red _ _ _ hw _ => exact hw.ne_leaf
          | black _ hw => exact hw.ne_leaf
        obtain ⟨t₁, fs', u', m, hrun₁, h₁, hshort, hplace, hlist⟩ :=
          deleteRound_spec h (hu.1 hub)
        have hlen : fs.length + 1 < fuel + 1 := hfuel.resolve_right fun hr => hred hr.1
        obtain ⟨t', T, hrun, h', hlist', hT⟩ := ih h₁ hshort (by
          rcases hplace with rfl | rfl | hr
          · exact .inl (by omega)
          · exact .inl (by rw [List.length_nil]; omega)
          · exact .inr ⟨hr, by omega⟩)
        refine ⟨t', T, ?_, h', hlist'.trans hlist, hT⟩
        rw [if_pos hcond, hxp, aboveAddr_cons, h.focus.here.loadItem, Outcome.next_bind,
          h.focus.here.side (.inr hw)]
        dsimp only
        rw [hrun₁, Outcome.next_bind]
        exact hrun

end AssocRbTree

end FlexRic
