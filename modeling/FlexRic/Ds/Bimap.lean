import FlexRic.Lib.Machine
import FlexRic.Lib.OrdAssoc

/-!
# FlexRic.Ds.Bimap

The bidirectional map of `ds/assoc_container/bimap.c`: two search trees, the
left one from the first key to the second, the right one back.

`insert` checks nothing but that each comparator finds a key equal to its
own copy; `extractLeft` and `extractRight` look the pair up in one tree and
remove what they found from the other.  Both are `extractFrom` on the two
trees in one or the other order.

* `extractFrom_spec`: between trees that mirror each other an extraction
  removes one and the same pair from both;
* `extractFrom_aborts_of_absent`: it ends the process when no key is equal;
* `Bijective`: mirrored trees with distinct keys; what `insert` and the
  extractions do to it.
-/

namespace FlexRic

universe u v

/-- `bi_map_t`. -/
structure Bimap (κ₁ : Type u) (κ₂ : Type v) where
  left : OrdAssoc κ₁ κ₂
  right : OrdAssoc κ₂ κ₁
  deriving DecidableEq

/-- In each of the two trees an extraction visits, the position of the
entry it meets first among those equal to the key. -/
abbrev Picks := Nat × Nat

namespace Bimap

variable {κ₁ : Type u} {κ₂ : Type u}

/-- `bi_map_init`. -/
def empty : Bimap κ₁ κ₂ := ⟨[], []⟩

/-- The two trees after an insertion. -/
def inserted (c₁ : Cmp κ₁) (c₂ : Cmp κ₂) (m : Bimap κ₁ κ₂) (k₁ : κ₁) (k₂ : κ₂) : Bimap κ₁ κ₂ :=
  ⟨OrdAssoc.insert c₁ k₁ k₂ m.left, OrdAssoc.insert c₂ k₂ k₁ m.right⟩

/-- `bi_map_insert`. -/
def insert (c₁ : Cmp κ₁) (c₂ : Cmp κ₂) (m : Bimap κ₁ κ₂) (k₁ : κ₁) (k₂ : κ₂) :
    Outcome (Bimap κ₁ κ₂) := do
  .assert (c₂ k₂ k₂ == 0) "cmp == 0"
  .assert (c₁ k₁ k₁ == 0) "cmp == 0"
  return inserted c₁ c₂ m k₁ k₂

/-- The common body of the two extractions: `first` is searched for `k`,
`second` for the value found there. -/
def extractFrom (c₁ : Cmp κ₁) (c₂ : Cmp κ₂) (first : OrdAssoc κ₁ κ₂) (second : OrdAssoc κ₂ κ₁)
    (k : κ₁) (picks : Picks) : Outcome (κ₂ × OrdAssoc κ₁ κ₂ × OrdAssoc κ₂ κ₁) := do
  let (e, first') ← .expect (OrdAssoc.extract c₁ k picks.1 first)
    "Trying to extract a key not found in the tree"
  let (x, second') ← .expect (OrdAssoc.extract c₂ e.2 picks.2 second)
    "Trying to extract a key not found in the tree"
  .assert (c₁ k x.2 == 0) "cmp == 0"
  .assert (first'.length == second'.length) "sz_1 == sz_2"
  return (e.2, first', second')

/-- `bi_map_extract_left`: returns the second key. -/
def extractLeft (c₁ : Cmp κ₁) (c₂ : Cmp κ₂) (m : Bimap κ₁ κ₂) (k₁ : κ₁) (picks : Picks) :
    Outcome (κ₂ × Bimap κ₁ κ₂) := do
  let (k₂, l, r) ← extractFrom c₁ c₂ m.left m.right k₁ picks
  return (k₂, ⟨l, r⟩)

/-- `bi_map_extract_right`: returns the first key. -/
def extractRight (c₁ : Cmp κ₁) (c₂ : Cmp κ₂) (m : Bimap κ₁ κ₂) (k₂ : κ₂) (picks : Picks) :
    Outcome (κ₁ × Bimap κ₁ κ₂) := do
  let (k₁, r, l) ← extractFrom c₂ c₁ m.right m.left k₂ picks
  return (k₁, ⟨l, r⟩)

variable {c₁ : Cmp κ₁} {c₂ : Cmp κ₂} {m m' : Bimap κ₁ κ₂} {k₁ : κ₁} {k₂ : κ₂} {picks : Picks}

theorem insert_eq (h₁ : LawfulCmp c₁) (h₂ : LawfulCmp c₂) :
    insert c₁ c₂ m k₁ k₂ = .next (inserted c₁ c₂ m k₁ k₂) := by
  simp [insert, h₁.refl, h₂.refl, Outcome.assert]

@[simp] theorem mem_inserted_left {e : κ₁ × κ₂} :
    e ∈ (inserted c₁ c₂ m k₁ k₂).left ↔ e = (k₁, k₂) ∨ e ∈ m.left :=
  OrdAssoc.mem_insert

@[simp] theorem mem_inserted_right {e : κ₂ × κ₁} :
    e ∈ (inserted c₁ c₂ m k₁ k₂).right ↔ e = (k₂, k₁) ∨ e ∈ m.right :=
  OrdAssoc.mem_insert

/-! ## One pair in two trees -/

section TwoTrees

variable {first first' : OrdAssoc κ₁ κ₂} {second second' : OrdAssoc κ₂ κ₁} {k b : κ₁} {a : κ₂}

/-- The two trees hold the same pairs. -/
def Mirror (first : OrdAssoc κ₁ κ₂) (second : OrdAssoc κ₂ κ₁) : Prop :=
  second.Perm (first.map Prod.swap)

theorem Mirror.symm (h : Mirror first second) : Mirror second first := by
  have hp := (List.Perm.map Prod.swap h).symm
  rwa [List.map_map, Prod.swap_swap_eq, List.map_id] at hp

theorem Mirror.mem (h : Mirror first second) : (k, a) ∈ first ↔ (a, k) ∈ second := by
  rw [List.Perm.mem_iff h]
  simp

theorem Mirror.length_eq (h : Mirror first second) : second.length = first.length := by
  rw [List.Perm.length_eq h, List.length_map]

theorem Mirror.insert (h : Mirror first second) :
    Mirror (OrdAssoc.insert c₁ k a first) (OrdAssoc.insert c₂ a k second) := by
  refine (OrdAssoc.insert_perm c₂ a k second).trans ?_
  refine (h.cons (a, k)).trans ?_
  exact (List.Perm.map Prod.swap (OrdAssoc.insert_perm c₁ k a first)).symm

/-- One entry less in each tree. -/
structure Removed (first : OrdAssoc κ₁ κ₂) (second : OrdAssoc κ₂ κ₁) (k : κ₁) (a : κ₂)
    (first' : OrdAssoc κ₁ κ₂) (second' : OrdAssoc κ₂ κ₁) : Prop where
  first : ∃ l₁ l₂, first = l₁ ++ (k, a) :: l₂ ∧ first' = l₁ ++ l₂
  second : ∃ r₁ r₂, second = r₁ ++ (a, k) :: r₂ ∧ second' = r₁ ++ r₂

theorem Removed.perm_first (h : Removed first second k a first' second') :
    first.Perm ((k, a) :: first') := by
  obtain ⟨l₁, l₂, rfl, rfl⟩ := h.first
  exact List.perm_middle

theorem Removed.symm (h : Removed first second k a first' second') :
    Removed second first a k second' first' :=
  ⟨h.second, h.first⟩

theorem Removed.mirror (h : Removed first second k a first' second') (hm : Mirror first second) :
    Mirror first' second' := by
  have h₁ := List.Perm.map Prod.swap h.perm_first
  exact List.Perm.cons_inv ((h.symm.perm_first.symm.trans hm).trans h₁)

theorem Removed.sublist_first (h : Removed first second k a first' second') :
    first'.Sublist first := by
  obtain ⟨l₁, l₂, rfl, rfl⟩ := h.first
  exact List.Sublist.append_left (List.sublist_cons_self _ _) _

/-- What an extraction removes, with no assumption on the trees: an entry
equal to the key from the first, an entry equal to that one's value from
the second, whose own value is equal to the key again. -/
theorem extractFrom_eq_next (h : extractFrom c₁ c₂ first second k picks = .next (a, first', second')) :
    ∃ b x, c₁ k b = 0 ∧ c₂ a x.1 = 0 ∧ c₁ k x.2 = 0 ∧ (b, a) ∈ first ∧ x ∈ second ∧
      first.Perm ((b, a) :: first') ∧ second.Perm (x :: second') ∧
      first'.Sublist first ∧ second'.Sublist second := by
  simp only [extractFrom, Outcome.bind_eq_next, Outcome.expect_eq_next, Outcome.assert_eq_next,
    Outcome.pure_eq, Outcome.next_inj, Prod.mk.injEq] at h
  obtain ⟨⟨e, f⟩, he, ⟨x, s⟩, hx, ⟨⟩, hback, -, -, rfl, rfl, rfl⟩ := h
  have hpe := OrdAssoc.extract_perm he
  have hpx := OrdAssoc.extract_perm hx
  exact ⟨e.1, x, (OrdAssoc.extract_eq_some he).1, (OrdAssoc.extract_eq_some hx).1,
    by simpa using hback,
    hpe.mem_iff.mpr List.mem_cons_self, hpx.mem_iff.mpr List.mem_cons_self, hpe, hpx,
    OrdAssoc.extract_sublist he, OrdAssoc.extract_sublist hx⟩

/-- **Extraction between mirrored trees.** The pair that leaves the first
tree is the pair that leaves the second, once the keys of the second are
distinct. -/
theorem extractFrom_spec (h₂ : LawfulCmp c₂) (hm : Mirror first second)
    (hd : OrdAssoc.Distinct c₂ second)
    (h : extractFrom c₁ c₂ first second k picks = .next (a, first', second')) :
    ∃ b, c₁ k b = 0 ∧ Removed first second b a first' second' := by
  simp only [extractFrom, Outcome.bind_eq_next, Outcome.expect_eq_next, Outcome.assert_eq_next,
    Outcome.pure_eq, Outcome.next_inj, Prod.mk.injEq] at h
  obtain ⟨⟨e, f⟩, he, ⟨x, s⟩, hx, -, -, -, -, rfl, rfl, rfl⟩ := h
  obtain ⟨hk, hfirst⟩ := OrdAssoc.extract_eq_some he
  have hmem : (e.2, e.1) ∈ second :=
    hm.mem.mp ((OrdAssoc.extract_perm he).mem_iff.mpr List.mem_cons_self)
  have hxe : x = (e.2, e.1) := OrdAssoc.extract_unique h₂ hd hmem (h₂.refl _) hx
  subst hxe
  exact ⟨e.1, hk, hfirst, (OrdAssoc.extract_eq_some hx).2⟩

/-- An extraction between mirrored trees succeeds when some key is equal. -/
theorem extractFrom_succeeds (picks : Picks) (h₂ : LawfulCmp c₂) (hm : Mirror first second)
    (hd : OrdAssoc.Distinct c₂ second) (he : ∃ e ∈ first, c₁ k e.1 = 0) :
    ∃ r, extractFrom c₁ c₂ first second k picks = .next r := by
  obtain ⟨e, he, hk⟩ := he
  obtain ⟨y, f, hy⟩ := OrdAssoc.extract_isSome picks.1 he hk
  have hky := (OrdAssoc.extract_eq_some hy).1
  have hmem : (y.2, y.1) ∈ second :=
    hm.mem.mp ((OrdAssoc.extract_perm hy).mem_iff.mpr List.mem_cons_self)
  obtain ⟨x, s, hx⟩ := OrdAssoc.extract_isSome (c := c₂) (k := y.2) picks.2 hmem
    (h₂.refl _)
  have hxy : x = (y.2, y.1) := OrdAssoc.extract_unique h₂ hd hmem (h₂.refl _) hx
  subst hxy
  have hlen : f.length = s.length := by
    have hf := (OrdAssoc.extract_perm hy).length_eq
    have hs := (OrdAssoc.extract_perm hx).length_eq
    have := hm.length_eq
    simp only [List.length_cons] at hf hs
    omega
  refine ⟨(y.2, f, s), ?_⟩
  simp [extractFrom, hy, hx, hky, hlen, Outcome.expect, Outcome.assert]

theorem extractFrom_aborts_of_absent (h : ∀ e ∈ first, c₁ k e.1 ≠ 0) :
    (extractFrom c₁ c₂ first second k picks).Aborts := by
  rw [extractFrom, OrdAssoc.extract_eq_none.mpr h]
  exact Outcome.abort_aborts

end TwoTrees

/-! ## The map as a bijection -/

/-- The two trees hold the same pairs, with distinct keys in each. -/
structure Bijective (c₁ : Cmp κ₁) (c₂ : Cmp κ₂) (m : Bimap κ₁ κ₂) : Prop where
  mirror : Mirror m.left m.right
  left : OrdAssoc.Distinct c₁ m.left
  right : OrdAssoc.Distinct c₂ m.right

theorem bijective_empty : Bijective c₁ c₂ (empty : Bimap κ₁ κ₂) :=
  ⟨.nil, .nil, .nil⟩

/-- An insertion keeps the map a bijection exactly when both keys are new. -/
theorem Bijective.inserted_iff (h₁ : LawfulCmp c₁) (h₂ : LawfulCmp c₂)
    (hm : Bijective c₁ c₂ m) :
    Bijective c₁ c₂ (inserted c₁ c₂ m k₁ k₂) ↔
      (∀ e ∈ m.left, c₁ k₁ e.1 ≠ 0) ∧ ∀ e ∈ m.right, c₂ k₂ e.1 ≠ 0 := by
  constructor
  · intro h
    exact ⟨((OrdAssoc.distinct_insert h₁).mp h.left).2, ((OrdAssoc.distinct_insert h₂).mp h.right).2⟩
  · rintro ⟨hl, hr⟩
    exact ⟨hm.mirror.insert, (OrdAssoc.distinct_insert h₁).mpr ⟨hm.left, hl⟩,
      (OrdAssoc.distinct_insert h₂).mpr ⟨hm.right, hr⟩⟩

/-- `m'` is `m` without the pair `(k₁, k₂)`. -/
abbrev RemovedPair (m : Bimap κ₁ κ₂) (k₁ : κ₁) (k₂ : κ₂) (m' : Bimap κ₁ κ₂) : Prop :=
  Removed m.left m.right k₁ k₂ m'.left m'.right

theorem Bijective.removed (hm : Bijective c₁ c₂ m) (h : RemovedPair m k₁ k₂ m') :
    Bijective c₁ c₂ m' :=
  ⟨h.mirror hm.mirror, hm.left.sublist h.sublist_first, hm.right.sublist h.symm.sublist_first⟩

theorem extractRight_eq_next {k : κ₂} (h : extractRight c₁ c₂ m k picks = .next (k₁, m')) :
    extractFrom c₂ c₁ m.right m.left k picks = .next (k₁, m'.right, m'.left) := by
  simp only [extractRight, Outcome.bind_eq_next, Outcome.pure_eq, Outcome.next_inj,
    Prod.mk.injEq] at h
  obtain ⟨⟨b, l, r⟩, hr, rfl, rfl⟩ := h
  exact hr

theorem extractRight_aborts {k : κ₂} :
    (extractRight c₁ c₂ m k picks).Aborts ↔
      (extractFrom c₂ c₁ m.right m.left k picks).Aborts := by
  simp [extractRight, Outcome.bind_aborts]

/-- What an extraction by the second key removes, without any assumption. -/
theorem extractRight_sublist {k : κ₂} (h : extractRight c₁ c₂ m k picks = .next (k₁, m')) :
    m'.left.Sublist m.left ∧ m'.right.Sublist m.right := by
  obtain ⟨-, -, -, -, -, -, -, -, -, hr, hl⟩ := extractFrom_eq_next (extractRight_eq_next h)
  exact ⟨hl, hr⟩

/-- An extraction by the second key returns the partner of the entry it
meets first. -/
theorem extractRight_first {k : κ₂} {e : κ₂ × κ₁} {r : OrdAssoc κ₂ κ₁}
    (he : OrdAssoc.extract c₂ k picks.1 m.right = some (e, r))
    (h : extractRight c₁ c₂ m k picks = .next (k₁, m')) : k₁ = e.2 := by
  have hx := extractRight_eq_next h
  simp only [extractFrom, he, Outcome.expect, Outcome.next_bind, Outcome.bind_eq_next,
    Outcome.pure_eq, Outcome.next_inj, Prod.mk.injEq] at hx
  obtain ⟨-, -, -, -, -, -, hk, -⟩ := hx
  exact hk.symm

/-- An extraction by the second key removes a pair whose second key is
equal, from a map whose first keys are distinct. -/
theorem extractRight_spec (h₁ : LawfulCmp c₁) (hm : Mirror m.left m.right)
    (hd : OrdAssoc.Distinct c₁ m.left) {k : κ₂}
    (h : extractRight c₁ c₂ m k picks = .next (k₁, m')) :
    ∃ b, c₂ k b = 0 ∧ RemovedPair m k₁ b m' := by
  obtain ⟨b, hb, hr⟩ := extractFrom_spec h₁ hm.symm hd (extractRight_eq_next h)
  exact ⟨b, hb, hr.symm⟩

theorem extractRight_succeeds (picks : Picks) (h₁ : LawfulCmp c₁) (hm : Mirror m.left m.right)
    (hd : OrdAssoc.Distinct c₁ m.left) {k : κ₂} (he : ∃ e ∈ m.right, c₂ k e.1 = 0) :
    ∃ k₁ m', extractRight c₁ c₂ m k picks = .next (k₁, m') := by
  obtain ⟨⟨k₁, r, l⟩, hr⟩ := extractFrom_succeeds picks h₁ hm.symm hd he
  exact ⟨k₁, ⟨l, r⟩, by simp [extractRight, hr]⟩

/-- **Extraction from a bijection.** By either key of a pair it holds, the
extraction succeeds and removes that pair from both trees. -/
theorem Bijective.extract (h₁ : LawfulCmp c₁) (h₂ : LawfulCmp c₂) (hm : Bijective c₁ c₂ m)
    (he : (k₁, k₂) ∈ m.left) :
    (∃ m', extractLeft c₁ c₂ m k₁ picks = .next (k₂, m') ∧ RemovedPair m k₁ k₂ m') ∧
      ∃ m', extractRight c₁ c₂ m k₂ picks = .next (k₁, m') ∧ RemovedPair m k₁ k₂ m' := by
  have he' := hm.mirror.mem.mp he
  constructor
  · obtain ⟨⟨a, l, r⟩, hr⟩ := extractFrom_succeeds (k := k₁) picks h₂ hm.mirror hm.right
      ⟨_, he, h₁.refl _⟩
    obtain ⟨b, hb, hrem⟩ := extractFrom_spec h₂ hm.mirror hm.right hr
    have hba : (k₁, k₂) = (b, a) := hm.left.eq_of_mem h₁ he
      (hrem.perm_first.mem_iff.mpr List.mem_cons_self) hb
    simp only [Prod.mk.injEq] at hba
    obtain ⟨rfl, rfl⟩ := hba
    exact ⟨⟨l, r⟩, by simp [extractLeft, hr], hrem⟩
  · obtain ⟨⟨a, r, l⟩, hr⟩ := extractFrom_succeeds (k := k₂) picks h₁ hm.mirror.symm hm.left
      ⟨_, he', h₂.refl _⟩
    obtain ⟨b, hb, hrem⟩ := extractFrom_spec h₁ hm.mirror.symm hm.left hr
    have hba : (k₂, k₁) = (b, a) := hm.right.eq_of_mem h₂ he'
      (hrem.perm_first.mem_iff.mpr List.mem_cons_self) hb
    simp only [Prod.mk.injEq] at hba
    obtain ⟨rfl, rfl⟩ := hba
    exact ⟨⟨l, r⟩, by simp [extractRight, hr], hrem.symm⟩

end Bimap

end FlexRic
