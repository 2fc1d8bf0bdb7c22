import FlexRic.Ds.RbSearch

/-!
# FlexRic.Ds.RbInsert

`assoc_rb_tree_insert`: the leaf that is found, the new node, and the fix-up.

* `insertRound_red` and `insertRound_black`: a round of the fix-up, with a red and
  with a black uncle;
* `insertFixup_spec`: from a red node below a red one to a balanced tree, with the
  same items in the same order;
* `insert_spec`: the new entry comes behind the entries that are equal to it.
-/

namespace FlexRic

open RbTree Heap

namespace AssocRbTree

variable {κ ν : Type} {t₀ t : AssocRbTree κ ν} {fs : List (Frame (Cell κ ν))} {s sz : Side}
  {zt sib uncle : RbTree (Cell κ ν)} {p g : Cell κ ν} {n : Nat}

/-! ## A round of the fix-up -/

/-- With a red uncle, the colours flip, and the grandparent is next. -/
theorem insertRound_red (h : At t₀ t (⟨sz, .red, p, sib⟩ :: ⟨s, .black, g, uncle⟩ :: fs) zt)
    (huncle : uncle.color = .red) :
    ∃ t', t.insertRound s (zt.addr t₀.dummy) p.addr g.addr = .next (t', g.addr) ∧
      At t₀ t' fs (sided s .red (sided sz .black zt p sib) g (uncle.paint .black)) := by
  obtain ⟨un, hun, hunc⟩ := h.up.up.downOther.loadColor
  obtain ⟨t₁, hrun₁, h₁⟩ := h.up.paint .black fun _ => rfl
  obtain ⟨t₂, hrun₂, h₂⟩ := h₁.up.downOther.paint .black fun _ => rfl
  obtain ⟨t₃, hrun₃, h₃⟩ := h₂.upOther.paint .red fun hleaf => absurd hleaf sided_ne_leaf
  rw [addr_sided] at hrun₁ hrun₃
  refine ⟨t₃, ?_, ?_⟩
  · unfold insertRound
    simp only [h.up.up.load, Outcome.next_bind, linkNode_child_other, hun, hunc, huncle, if_true,
      hrun₁, hrun₂, hrun₃, Outcome.pure_eq]
  · rw [paint_sided, paint_sided] at h₃
    exact h₃

/-- The parent black, the grandparent red, and a rotation. -/
theorem insertRotate (h : At t₀ t (⟨s, .red, p, sib⟩ :: ⟨s, .black, g, uncle⟩ :: fs) zt) :
    ∃ t₁ t₂ t', t.modify p.addr (fun n => n.setColor .black) = .next t₁ ∧
      t₁.modify g.addr (fun n => n.setColor .red) = .next t₂ ∧
      rotate s.other t₂ g.addr = .next t' ∧
      At t₀ t' (⟨s, .black, p, sided s.other .red uncle g sib⟩ :: fs) zt := by
  obtain ⟨t₁, hrun₁, h₁⟩ := h.up.paint .black fun _ => rfl
  obtain ⟨t₂, hrun₂, h₂⟩ := h₁.up.paint .red fun hleaf => absurd hleaf sided_ne_leaf
  rw [addr_sided] at hrun₁ hrun₂
  rw [paint_sided, paint_sided, ← sided_other, ← sided_other (t := zt)] at h₂
  obtain ⟨t', hrun, h'⟩ := h₂.rotate
  rw [sided_other] at h'
  exact ⟨t₁, t₂, t', hrun₁, hrun₂, hrun, h'.down⟩

/-- With a black uncle, one or two rotations end the fix-up. -/
theorem insertRound_black (h : At t₀ t (⟨sz, .red, p, sib⟩ :: ⟨s, .black, g, uncle⟩ :: fs) zt)
    (huncle : uncle.color = .black) (hzt : Balanced zt n) (hred : zt.color = .red)
    (hsib : Balanced sib n) (hsibc : sib.color = .black) (hunc : Balanced uncle n) :
    ∃ t' f zt', t.insertRound s (zt.addr t₀.dummy) p.addr g.addr =
        .next (t', zt'.addr t₀.dummy) ∧ At t₀ t' (f :: fs) zt' ∧ f.color = .black ∧
      zt'.color = .red ∧ Balanced (f.plug zt') (n + 1) ∧
        (f.plug zt').toList = (sided s .black (sided sz .red zt p sib) g uncle).toList := by
  obtain ⟨un, hun, hunc'⟩ := h.up.up.downOther.loadColor
  have hleaf : zt ≠ .leaf := by
    rintro rfl
    cases hred
  obtain rfl | rfl := Side.eq_or_eq_other s sz
  · -- `z_node` is on the outer side
    obtain ⟨t₁, t₂, t', hrun₁, hrun₂, hrun, h'⟩ := insertRotate h
    refine ⟨t', _, zt, ?_, h', rfl, hred, ?_, ?_⟩
    · unfold insertRound
      have hne : zt.addr t₀.dummy ≠ sib.addr t₀.dummy := h.addr_ne (.inl hleaf)
      simp only [h.up.up.load, h.up.load, Outcome.next_bind, linkNode_child_other, hun, hunc',
        huncle, reduceCtorEq, if_false, if_neg hne, Outcome.pure_eq, hrun₁, hrun₂, hrun]
    · exact hzt.sided_black (hunc.sided_red hsib huncle hsibc)
    · cases sz <;> simp [Frame.plug, sided, toList, Side.other]
  · -- `z_node` is on the inner side
    obtain ⟨c, l, z, r, rfl⟩ := exists_sided_of_ne_leaf s hleaf
    rw [color_sided] at hred
    subst hred
    obtain ⟨hl, hr, hlc, hrc⟩ := hzt.of_sided_red
    obtain ⟨t₁, hrun₁, h₁⟩ := At.rotate (sided_other ▸ h.up)
    obtain ⟨t₂, t₃, t', hrun₂, hrun₃, hrun, h'⟩ := insertRotate h₁.down
    refine ⟨t', _, sided s .red sib p l, ?_, h', rfl, color_sided, ?_, ?_⟩
    · unfold insertRound
      simp only [h.up.up.load, h.up.load, Outcome.next_bind, linkNode_child_other, linkNode_child,
        hun, hunc', huncle, reduceCtorEq, if_false, if_true, Outcome.pure_eq, hrun₁, h₁.down.load,
        linkNode_parent, aboveAddr_cons, hrun₂, hrun₃, hrun, addr_sided]
    · exact (hsib.sided_red hl hsibc hlc).sided_black (hunc.sided_red hr huncle hrc)
    · cases s <;> simp [Frame.plug, sided, toList, Side.other]

/-! ## The fix-up -/

/-- The root in black ends the fix-up. -/
theorem paintRoot (h : At t₀ t fs zt) (hole : Hole fs n) (hzt : Balanced zt n)
    (habove : colorAbove fs = .black) :
    ∃ t' T, t.modify t.root (fun n => n.setColor .black) = .next t' ∧ At t₀ t' [] T ∧
      T.toList = (plug fs zt).toList ∧ (∃ m, Balanced T m) ∧ T.color = .black := by
  obtain ⟨⟨m, hm⟩, -⟩ := hole.fill hzt fun hred => by
    rw [habove] at hred
    cases hred
  obtain ⟨t', hrun, h'⟩ := h.top.paint .black fun _ => rfl
  rw [← h.root] at hrun
  refine ⟨t', _, hrun, h', toList_paint _ _, hm.paint_black, ?_⟩
  cases plug fs zt <;> rfl

/-- **`insert_fixup`**: a red node at a place that asks for its height. -/
theorem insertFixup_spec {fuel : Nat} (h : At t₀ t fs zt) (hole : Hole fs n)
    (hzt : Balanced zt n) (hred : zt.color = .red) (hfuel : fs.length < fuel) :
    ∃ t' T, t.insertFixup fuel (zt.addr t₀.dummy) = .next t' ∧ At t₀ t' [] T ∧
      T.toList = (plug fs zt).toList ∧ (∃ m, Balanced T m) ∧ T.color = .black := by
  induction fuel generalizing t fs zt n with
  | zero => cases hfuel
  | succ fuel ih =>
    have hleaf : zt ≠ .leaf := by
      rintro rfl
      cases hred
    obtain ⟨zn, hzn, hparent, -⟩ := h.loadParent hleaf
    obtain ⟨pn, hpn, hpc⟩ := h.loadAbove
    unfold insertFixup
    simp only [hzn, hparent, hpn, Outcome.next_bind, hpc]
    by_cases habove : colorAbove fs = .black
    · simp only [habove, reduceCtorEq, if_false]
      exact paintRoot h hole hzt habove
    · -- the parent is red, so it is no root, and its parent is black
      cases hole with
      | nil n => exact absurd rfl habove
      | black hole hu => exact absurd rfl habove
      | @red fs sz p sib n hole hne hblack hsib hsibc =>
        cases hole with
        | nil n => exact absurd rfl hne
        | red hole hne' hblack' hu huc => cases hblack
        | @black fs s g uncle n hole hunc =>
          have hpn' := h.loadItem
          rw [aboveAddr_cons] at hpn ⊢
          cases hpn.symm.trans hpn'
          have hside := h.up.side (.inl sided_ne_leaf)
          rw [addr_sided] at hside
          simp only [colorAbove_cons, if_true, linkNode_parent, aboveAddr_cons, h.up.loadItem,
            Outcome.next_bind, addr_sided, hside]
          by_cases hur : uncle.color = .red
          · obtain ⟨t₁, hrun₁, h₁⟩ := insertRound_red h hur
            have hg : Balanced (sided s .red (sided sz .black zt p sib) g (uncle.paint .black))
                (n + 1) :=
              (hzt.sided_black hsib).sided_red (hunc.paint_of_red hur) color_sided color_paint_black
            obtain ⟨t', T, hrun, h', hlist, hT⟩ := ih h₁ hole hg color_sided (by
              rw [List.length_cons, List.length_cons] at hfuel
              omega)
            rw [addr_sided] at hrun
            refine ⟨t', T, ?_, h', hlist.trans (toList_plug_congr _ ?_), hT⟩
            · rw [hrun₁, Outcome.next_bind, hrun]
            · cases s <;> cases sz <;> simp [Frame.plug, sided, toList]
          · have hub : uncle.color = .black := by
              cases hc : uncle.color with
              | black => rfl
              | red => exact absurd hc hur
            obtain ⟨t₁, f, zt', hrun₁, h₁, hf, hred', hplug, hlist₁⟩ :=
              insertRound_black h hub hzt hred hsib hsibc hunc
            obtain ⟨sf, cf, q, v⟩ := f
            cases hf
            obtain ⟨m, hm, hzt', hv⟩ := Balanced.of_sided_black hplug
            cases hm
            obtain ⟨t', T, hrun, h', hlist, hT⟩ := ih h₁ (.black hole hv) hzt' hred' (by
              rw [List.length_cons, List.length_cons] at hfuel
              rw [List.length_cons]
              omega)
            refine ⟨t', T, ?_, h', hlist.trans ?_, hT⟩
            · rw [hrun₁, Outcome.next_bind, hrun]
            · exact toList_plug_congr _ hlist₁

/-! ## The new node -/

variable {c : Cmp κ} {k : κ} {v : ν} {z : Addr}

/-- The new node below the leaf that was found. -/
theorem attach_spec (h : At t₀ t fs .leaf)
    (hz : t.heap z = some ⟨some (k, v), t₀.dummy, t₀.dummy, t₀.dummy, .red⟩)
    (hocc : occAbove z fs = 0) (hzd : z ≠ t₀.dummy)
    (hturns : Turns (c k · = 1) (c k · ≠ 1) fs) :
    ∃ t', t.attach c k z (aboveAddr t₀.dummy fs) = .next t' ∧
      At t₀ t' fs (.node .red .leaf ⟨z, (k, v)⟩ .leaf) := by
  obtain ⟨heap, d, r, sz⟩ := t
  obtain rfl : d = t₀.dummy := h.dummy
  obtain ⟨h₁, hrun₁, hz₁, hrest₁⟩ := modify_spec (t := ⟨heap, t₀.dummy, r, sz⟩)
    (fun n => n.setParent (aboveAddr t₀.dummy fs)) hz
  have hz₁ : h₁ z = some (linkNode .left .red ⟨z, (k, v)⟩ (aboveAddr t₀.dummy fs) t₀.dummy
      t₀.dummy) := hz₁
  have hone (a : Addr) := h.one a
  simp only [occ_plug, occ_leaf, Nat.add_zero] at hone
  have hfresh := h.occ_dummy.1
  have hoccz (a : Addr) : (plug fs (.node .red .leaf ⟨z, (k, v)⟩ .leaf)).occ a =
      occAbove a fs + if z = a then 1 else 0 := by
    rw [occ_plug, occ_node, occ_leaf, Nat.zero_add]
  have hone' (a : Addr) : (plug fs (.node .red .leaf ⟨z, (k, v)⟩ .leaf)).occ a ≤ 1 := by
    rw [hoccz]
    have := hone a
    split
    · rename_i heq
      exact Nat.le_of_eq (by rw [← heq, hocc])
    · omega
  have hfresh' : (plug fs (.node .red .leaf ⟨z, (k, v)⟩ .leaf)).occ t₀.dummy = 0 := by
    rw [hoccz, if_neg hzd, hfresh]
  have hout {a : Addr} (ha : (plug fs (.node .red .leaf ⟨z, (k, v)⟩ .leaf)).occ a = 0) :
      a ≠ z ∧ occAbove a fs = 0 := by
    rw [hoccz] at ha
    refine ⟨fun heq => ?_, by omega⟩
    rw [if_pos heq.symm] at ha
    omega
  obtain ⟨dn, hdn, hdc⟩ := h.dummyBlack
  have hdn₁ : h₁ t₀.dummy = some dn := (hrest₁ _ hzd.symm).trans hdn
  unfold attach
  rw [hrun₁, Outcome.next_bind]
  cases fs with
  | nil =>
    refine ⟨⟨h₁, t₀.dummy, z, sz⟩, if_pos rfl, trivial, ⟨hz₁, trivial, trivial⟩, hone',
      hfresh', rfl, ⟨dn, hdn₁, hdc⟩, h.dummy, h.size, fun a ha hd => ?_⟩
    exact (hrest₁ a (hout ha).1).trans (h.rest a rfl hd)
  | cons f fs =>
    obtain ⟨s, col, x, w⟩ := f
    obtain ⟨hx, hw, hfs⟩ := h.above
    rw [occAbove_cons] at hocc hfresh
    have hxz : x.addr ≠ z := fun heq => by
      rw [if_pos heq] at hocc
      omega
    have hxd : x.addr ≠ t₀.dummy := fun heq => by
      rw [if_pos heq] at hfresh
      omega
    have hne {a : Addr} (ha : 0 < occAbove a fs + w.occ a) : a ≠ z ∧ a ≠ x.addr := by
      refine ⟨?_, ?_⟩
      · rintro rfl
        omega
      · rintro rfl
        have := hone x.addr
        rw [occAbove_cons, if_pos rfl] at this
        omega
    have hx₁ := (hrest₁ _ hxz).trans hx
    obtain ⟨h₂, hrun₂, hx₂, hrest₂⟩ := modify_spec (t := ⟨h₁, t₀.dummy, r, sz⟩)
      (fun n => n.setChild s z) hx₁
    rw [linkNode_setChild] at hx₂
    have hrest {a : Addr} (haz : a ≠ z) (hax : a ≠ x.addr) : h₂ a = heap a :=
      (hrest₂ a hax).trans (hrest₁ a haz)
    refine ⟨⟨h₂, t₀.dummy, r, sz⟩, ?_, ⟨hx₂, ?_, ?_⟩,
      ⟨(hrest₂ z hxz.symm).trans hz₁, trivial, trivial⟩, hone', hfresh', ?_, ?_, h.dummy, h.size,
      fun a ha hd => ?_⟩
    · rw [aboveAddr_cons, if_neg hxd, load_eq hx₁, Outcome.next_bind, compKey_linkNode,
        Outcome.next_bind, ← hrun₂]
      have hturn := hturns _ List.mem_cons_self
      cases s with
      | left => exact if_pos hturn
      | right => exact if_neg hturn
    · exact Held.congr (t := w) hw fun a ha => hrest (hne (by omega)).1 (hne (by omega)).2
    · exact hfs.congr fun a ha => hrest (hne (by omega)).1 (hne (by omega)).2
    · exact h.root.trans addr_plug_cons
    · exact ⟨dn, (hrest₂ _ hxd.symm).trans hdn₁, hdc⟩
    · obtain ⟨haz, hocca⟩ := hout ha
      rw [occAbove_cons] at hocca
      refine (hrest haz fun heq => ?_).trans (h.rest a ?_ hd)
      · rw [if_pos heq.symm] at hocca
        omega
      · rw [occ_plug, occ_leaf, occAbove_cons]
        exact hocca

/-- **`assoc_rb_tree_insert`** puts the new entry behind those that do not come after it. -/
theorem insert_spec {T : RbTree (Cell κ ν)} (hc : LawfulCmp c) (h : RbOk c t T)
    (hz : t.heap z = none) :
    ∃ t' T' l₁ l₂, t.insert c k v z = .next t' ∧ RbOk c t' T' ∧ t'.dummy = t.dummy ∧
      T.toList = l₁ ++ l₂ ∧ T'.toList = l₁ ++ ⟨z, (k, v)⟩ :: l₂ ∧
      T'.entries = OrdAssoc.insert c k v T.entries := by
  obtain ⟨hocc, hzd⟩ := h.linked.occ_of_none hz
  -- the new node is allocated
  have h₁ : At (t.createNodeRbTree k v z) (t.createNodeRbTree k v z) [] T := by
    have hne {a : Addr} (ha : 0 < T.occ a) : a ≠ z := by
      rintro rfl
      rw [plug] at hocc
      omega
    obtain ⟨dn, hdn, hdc⟩ := h.linked.dummyBlack
    exact ⟨trivial, h.linked.held.congr fun a ha => set_of_ne (hne ha), h.linked.one,
      h.linked.fresh, h.linked.root, ⟨dn, (set_of_ne hzd.symm).trans hdn, hdc⟩, rfl, rfl,
      fun _ _ _ => rfl⟩
  -- the way down
  have hfuel : T.toList.length < t.size + 1 := by
    rw [h.size]
    exact Nat.lt_succ_self _
  obtain ⟨fs, hfind, hplug, hturns⟩ := findLeaf_spec (c := c) (k := k) h₁ Turns.nil hfuel
  obtain rfl : plug fs .leaf = T := hplug
  obtain ⟨n, hbal⟩ := h.balanced
  obtain ⟨m, hole, hm, -⟩ := Hole.of_filled hbal h.black
  cases hm
  rw [plug, occ_plug, occ_leaf, Nat.add_zero] at hocc
  obtain ⟨t₂, hrun₂, h₂⟩ := attach_spec h₁.place set_self hocc hzd hturns
  -- the fix-up
  have hlen : fs.length < t.size + 1 := by
    have := length_le_plug fs (.leaf : RbTree (Cell κ ν))
    rw [h.size]
    omega
  obtain ⟨t₃, T', hrun₃, h₃, hlist, hbal', hblack⟩ :=
    insertFixup_spec h₂ hole (.red .leaf .leaf rfl rfl) rfl hlen
  have hlist' : T'.toList = before fs ++ ⟨z, (k, v)⟩ :: after fs := by
    rw [hlist, toList_plug]
    rfl
  have hold : (plug fs (.leaf : RbTree (Cell κ ν))).toList = before fs ++ after fs := toList_plug _ _
  have hentries : T'.entries = OrdAssoc.insert c k v (plug fs .leaf).entries := by
    obtain ⟨hsb, hsa⟩ := sorted_around h.sorted
    rw [RbTree.entries, RbTree.entries, hlist', hold, List.map_append, List.map_append,
      OrdAssoc.insert_between]
    · rfl
    · exact turns_before (c := c) hturns (fun a b hba hkb => hc.not_lt_trans hba hkb) hsb
    · exact turns_after (c := c) hturns (fun a b hba hka => hc.lt_of_lt_of_not_lt hka hba) hsa
  refine ⟨{ t₃ with size := t₃.size + 1 }, T', before fs, after fs, ?_,
    ⟨?_, fun a ha hd => ?_, hblack, hbal', ?_, ?_⟩, h₃.dummy, hold, hlist', hentries⟩
  · have hfind' : findLeaf c (t.createNodeRbTree k v z) k ((t.createNodeRbTree k v z).size + 1)
        (t.createNodeRbTree k v z).root (t.createNodeRbTree k v z).dummy =
          .next (aboveAddr (t.createNodeRbTree k v z).dummy fs) := by
      rw [h₁.root]
      exact hfind
    unfold insert
    rw [hz, show (Outcome.await (none : Option (AssocNode κ ν)).isNone : Outcome PUnit) = .next ⟨⟩
      from rfl]
    have hsize₂ : t₂.size = t.size := h₂.size
    have hrun₃' : insertFixup (t₂.size + 1) t₂ z = .next t₃ := by
      rw [hsize₂]
      exact hrun₃
    simp only [Outcome.next_bind, hfind', hrun₂, hrun₃']
    rfl
  · exact h₃.resize _
  · have hd' : a ≠ t.dummy := fun heq => hd (heq.trans h₃.dummy.symm)
    have hlist : (T'.toList.map Cell.addr).count a = 0 := ha
    rw [hlist', List.map_append, List.map_cons, List.count_append, List.count_cons] at hlist
    have haz : a ≠ z := by
      rintro rfl
      rw [if_pos (beq_self_eq_true a)] at hlist
      omega
    refine ((h₃.rest a ha hd').trans (set_of_ne haz)).trans (h.alloc a ?_ hd')
    rw [occ, hold, List.map_append, List.count_append]
    omega
  · rw [hentries]
    exact OrdAssoc.sorted_insert hc h.sorted
  · rw [hlist', List.length_append, List.length_cons]
    have hsize : t.size = _ := h.size
    rw [hold, List.length_append] at hsize
    have hsize₄ : t₃.size = t.size := h₃.size
    show t₃.size + 1 = _
    omega

end AssocRbTree

end FlexRic
