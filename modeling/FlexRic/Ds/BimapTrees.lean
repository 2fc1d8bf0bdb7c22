import FlexRic.Ds.Bimap
import FlexRic.Ds.RbRuns

/-!
# FlexRic.Ds.BimapTrees

The bidirectional map of `ds/assoc_container/bimap.c` with its two red-black trees in memory,
over whole runs.

* `Stores` is what a tree holds, with `assoc_rb_tree.c`'s operations on it;
* `Twins` says that the two trees hold the same pairs, and `Twins.extractLeft` and
  `Twins.extractRight` that an extraction takes one pair from both;
* `bimap_bijection`: in every run with fresh keys the trees are a finite bijection, if the map was
  given a function that frees its right keys, or is empty.
-/

namespace FlexRic

open Heap

open scoped List

/-! ## What a tree holds -/

namespace AssocRbTree

variable {κ ν : Type} {c : Cmp κ} {t : AssocRbTree κ ν} {l : OrdAssoc κ ν} {k : κ} {v : ν}
  {z : Addr}

/-- The memory is a red-black tree of the entries `l`. -/
def Stores (c : Cmp κ) (t : AssocRbTree κ ν) (l : OrdAssoc κ ν) : Prop :=
  ∃ T, RbOk c t T ∧ T.entries = l

theorem stores_init (d : Addr) : Stores c (init d : AssocRbTree κ ν) [] := ⟨_, ok_init d, rfl⟩

theorem Stores.size (h : Stores c t l) : t.size = l.length := by
  obtain ⟨T, hok, rfl⟩ := h
  rw [hok.size, RbTree.entries, List.length_map]

theorem Stores.entries (h : Stores c t l) : t.entries = .next l := by
  obtain ⟨T, hok, rfl⟩ := h
  exact entries_spec hok

theorem Stores.insert (hc : LawfulCmp c) (h : Stores c t l) (hz : t.heap z = none) :
    ∃ t', t.insert c k v z = .next t' ∧ Stores c t' (OrdAssoc.insert c k v l) := by
  obtain ⟨T, hok, rfl⟩ := h
  obtain ⟨t', T', -, -, hrun, hok', -, -, -, hentries⟩ := insert_spec (k := k) (v := v) hc hok hz
  exact ⟨t', hrun, T', hok', hentries⟩

theorem Stores.extract (hc : LawfulCmp c) (h : Stores c t l) (hk : ∃ e ∈ l, c k e.1 = 0) :
    ∃ e t' l₁ l₂, t.extract c k = .next (e, t') ∧ c k e.1 = 0 ∧ l = l₁ ++ e :: l₂ ∧
      Stores c t' (l₁ ++ l₂) := by
  obtain ⟨T, hok, rfl⟩ := h
  obtain ⟨x, t', T', l₁, l₂, hrun, hok', -, hx, hT, hT'⟩ := extract_spec hc hok hk
  refine ⟨x.entry, t', _, _, hrun, hx, entries_split hT, T', hok', ?_⟩
  rw [RbTree.entries, hT', List.map_append]

theorem Stores.extract_aborts (hc : LawfulCmp c) (h : Stores c t l) (hk : ∀ e ∈ l, c k e.1 ≠ 0) :
    (t.extract c k).Aborts := by
  obtain ⟨T, hok, rfl⟩ := h
  exact AssocRbTree.extract_aborts hc hok hk

end AssocRbTree

open AssocRbTree

/-! ## The code -/

/-- `bi_map_t`. -/
structure BimapTrees (κ₁ κ₂ : Type) where
  left : AssocRbTree κ₁ κ₂
  right : AssocRbTree κ₂ κ₁
  /-- `right.free_func != NULL` -/
  rightFree : Bool

namespace BimapTrees

variable {κ₁ κ₂ : Type}

/-- `bi_map_init`, whose dummies are at `d₁` and `d₂`. -/
def init (d₁ d₂ : Addr) (free2 : Bool) : BimapTrees κ₁ κ₂ :=
  { left := AssocRbTree.init d₁, right := AssocRbTree.init d₂, rightFree := free2 }

/-- `bi_map_insert`; `malloc` gives `z₁` and `z₂` for the nodes. -/
def insert (c₁ : Cmp κ₁) (c₂ : Cmp κ₂) (m : BimapTrees κ₁ κ₂) (key1 : κ₁) (key2 : κ₂)
    (z₁ z₂ : Addr) : Outcome (BimapTrees κ₁ κ₂) := do
  .assert (c₂ key2 key2 == 0) "cmp == 0"
  let left ← m.left.insert c₁ key1 key2 z₁
  .assert (c₁ key1 key1 == 0) "cmp == 0"
  let right ← m.right.insert c₂ key2 key1 z₂
  return { m with left, right }

/-- What the two extractions have in common: the entry of `key` leaves `first`, the entry of
the value found there leaves `second`, and that one's value is compared with the key. -/
def extractTwin {κ₁ κ₂ : Type} (c₁ : Cmp κ₁) (c₂ : Cmp κ₂) (first : AssocRbTree κ₁ κ₂)
    (second : AssocRbTree κ₂ κ₁) (key : κ₁) :
    Outcome (κ₂ × AssocRbTree κ₁ κ₂ × AssocRbTree κ₂ κ₁) := do
  let (e, first) ← first.extract c₁ key
  let (x, second) ← second.extract c₂ e.2
  .assert (c₁ key x.2 == 0) "cmp == 0"
  return (e.2, first, second)

/-- `bi_map_extract_left`. -/
def extractLeft (c₁ : Cmp κ₁) (c₂ : Cmp κ₂) (m : BimapTrees κ₁ κ₂) (key1 : κ₁) :
    Outcome (κ₂ × BimapTrees κ₁ κ₂) := do
  let (key2, left, right) ← extractTwin c₁ c₂ m.left m.right key1
  .assert (left.size == right.size) "sz_1 == sz_2"
  return (key2, { m with left, right })

/-- `bi_map_extract_right`; alone of the two it asks for a free function. -/
def extractRight (c₁ : Cmp κ₁) (c₂ : Cmp κ₂) (m : BimapTrees κ₁ κ₂) (key2 : κ₂) :
    Outcome (κ₁ × BimapTrees κ₁ κ₂) := do
  let (key1, right, left) ← extractTwin c₂ c₁ m.right m.left key2
  .assert m.rightFree "map->right.free_func != NULL"
  .assert (left.size == right.size) "sz_1 == sz_2"
  return (key1, { m with left, right })

/-- `bi_map_size`. -/
def size (m : BimapTrees κ₁ κ₂) : Outcome Nat := do
  .assert (m.left.size == m.right.size) "Mismatch in the ds"
  return m.left.size

/-! ## Two trees of the same pairs -/

variable {c₁ : Cmp κ₁} {c₂ : Cmp κ₂} {m m' : BimapTrees κ₁ κ₂} {l l' : OrdAssoc κ₁ κ₂}
  {r r' : OrdAssoc κ₂ κ₁} {k a : κ₁} {b : κ₂} {z₁ z₂ : Addr}

/-- The trees hold the pairs of `l`, and of `r`, which are the same ones the other way round. -/
structure Twins (c₁ : Cmp κ₁) (c₂ : Cmp κ₂) (m : BimapTrees κ₁ κ₂) (l : OrdAssoc κ₁ κ₂)
    (r : OrdAssoc κ₂ κ₁) : Prop where
  left : Stores c₁ m.left l
  right : Stores c₂ m.right r
  bijective : Bimap.Bijective c₁ c₂ ⟨l, r⟩

theorem twins_init (d₁ d₂ : Addr) (free2 : Bool) : Twins c₁ c₂ (init d₁ d₂ free2) [] [] :=
  ⟨stores_init d₁, stores_init d₂, Bimap.bijective_empty⟩

/-- `bi_map_size` of twins. -/
theorem Twins.size (h : Twins c₁ c₂ m l r) : m.size = .next l.length := by
  have heq : m.left.size = m.right.size := by
    rw [h.left.size, h.right.size]
    exact h.bijective.mirror.length_eq.symm
  unfold BimapTrees.size
  rw [Outcome.assert_of (beq_iff_eq.mpr heq), Outcome.next_bind, h.left.size]
  rfl

theorem insert_heaps (h : m.insert c₁ c₂ a b z₁ z₂ = .next m') :
    m.left.heap z₁ = none ∧ m.right.heap z₂ = none := by
  obtain ⟨_, -, h⟩ := Outcome.bind_eq_next.mp h
  obtain ⟨left, hleft, h⟩ := Outcome.bind_eq_next.mp h
  obtain ⟨_, -, h⟩ := Outcome.bind_eq_next.mp h
  obtain ⟨right, hright, -⟩ := Outcome.bind_eq_next.mp h
  exact ⟨heap_of_insert hleft, heap_of_insert hright⟩

/-- **`bi_map_insert`** of fresh keys. -/
theorem Twins.insert (h₁ : LawfulCmp c₁) (h₂ : LawfulCmp c₂) (h : Twins c₁ c₂ m l r)
    (ha : ∀ e ∈ l, c₁ a e.1 ≠ 0) (hb : ∀ e ∈ r, c₂ b e.1 ≠ 0) (hz₁ : m.left.heap z₁ = none)
    (hz₂ : m.right.heap z₂ = none) :
    ∃ m', m.insert c₁ c₂ a b z₁ z₂ = .next m' ∧ m'.rightFree = m.rightFree ∧
      Twins c₁ c₂ m' (OrdAssoc.insert c₁ a b l) (OrdAssoc.insert c₂ b a r) := by
  obtain ⟨left, hleft, hl⟩ := h.left.insert (k := a) (v := b) h₁ hz₁
  obtain ⟨right, hright, hr⟩ := h.right.insert (k := b) (v := a) h₂ hz₂
  refine ⟨{ m with left, right }, ?_, rfl, hl, hr, (h.bijective.inserted_iff h₁ h₂).mpr ⟨ha, hb⟩⟩
  unfold BimapTrees.insert
  rw [Outcome.assert_of (beq_iff_eq.mpr (h₂.refl b)), Outcome.next_bind, hleft, Outcome.next_bind,
    Outcome.assert_of (beq_iff_eq.mpr (h₁.refl a)), Outcome.next_bind, hright]
  rfl

section Twin

variable {first : AssocRbTree κ₁ κ₂} {second : AssocRbTree κ₂ κ₁}

/-- **The twin is found through the value**: one pair leaves both trees. -/
theorem extractTwin_spec (h₁ : LawfulCmp c₁) (h₂ : LawfulCmp c₂) (hl : Stores c₁ first l)
    (hr : Stores c₂ second r) (hm : Bimap.Mirror l r) (hdl : OrdAssoc.Distinct c₁ l)
    (hdr : OrdAssoc.Distinct c₂ r) (hab : (a, b) ∈ l) (hk : c₁ k a = 0) :
    ∃ first' second' l' r', extractTwin c₁ c₂ first second k = .next (b, first', second') ∧
      Stores c₁ first' l' ∧ Stores c₂ second' r' ∧ Bimap.Removed l r a b l' r' := by
  obtain ⟨e, first', l₁, l₂, hrun₁, hke, hl₁, hl'⟩ := hl.extract h₁ ⟨(a, b), hab, hk⟩
  -- the keys are distinct, so that the entry found is the pair
  obtain rfl : e = (a, b) := by
    refine hdl.eq_of_mem h₁ ?_ hab (h₁.trans_zero (h₁.symm hke) hk)
    rw [hl₁]
    exact List.mem_append_right _ List.mem_cons_self
  have hba : (b, a) ∈ r := hm.mem.mp hab
  obtain ⟨x, second', r₁, r₂, hrun₂, hbx, hr₁, hr'⟩ := hr.extract h₂ ⟨(b, a), hba, h₂.refl b⟩
  obtain rfl : x = (b, a) := by
    refine hdr.eq_of_mem h₂ ?_ hba (h₂.symm hbx)
    rw [hr₁]
    exact List.mem_append_right _ List.mem_cons_self
  refine ⟨first', second', l₁ ++ l₂, r₁ ++ r₂, ?_, hl', hr', ⟨l₁, l₂, hl₁, rfl⟩, ⟨r₁, r₂, hr₁, rfl⟩⟩
  unfold extractTwin
  rw [hrun₁, Outcome.next_bind]
  dsimp only
  rw [hrun₂, Outcome.next_bind]
  dsimp only
  rw [Outcome.assert_of (beq_iff_eq.mpr hk)]
  rfl

theorem extractTwin_aborts (h₁ : LawfulCmp c₁) (hl : Stores c₁ first l)
    (hk : ∀ e ∈ l, c₁ k e.1 ≠ 0) : (extractTwin c₁ c₂ first second k).Aborts :=
  Outcome.bind_aborts.mpr (.inl (hl.extract_aborts h₁ hk))

end Twin

theorem Twins.removed (h : Twins c₁ c₂ m l r) (hl : Stores c₁ m'.left l')
    (hr : Stores c₂ m'.right r') (hrem : Bimap.Removed l r a b l' r') : Twins c₁ c₂ m' l' r' := by
  have hpairs : Bimap.RemovedPair ⟨l, r⟩ a b ⟨l', r'⟩ := hrem
  exact ⟨hl, hr, h.bijective.removed hpairs⟩

/-- `sz_1 == sz_2`. -/
theorem Twins.size_beq (h : Twins c₁ c₂ m l r) : (m.left.size == m.right.size) = true := by
  have heq := h.bijective.mirror.length_eq
  rw [beq_iff_eq, h.left.size, h.right.size]
  exact heq.symm

/-- **`bi_map_extract_left`** by a key of the pair. -/
theorem Twins.extractLeft (h₁ : LawfulCmp c₁) (h₂ : LawfulCmp c₂) (h : Twins c₁ c₂ m l r)
    (hab : (a, b) ∈ l) (hk : c₁ k a = 0) :
    ∃ m' l' r', m.extractLeft c₁ c₂ k = .next (b, m') ∧ m'.rightFree = m.rightFree ∧
      Twins c₁ c₂ m' l' r' ∧ Bimap.Removed l r a b l' r' := by
  obtain ⟨left, right, l', r', hrun, hl, hr, hrem⟩ := extractTwin_spec h₁ h₂ h.left h.right
    h.bijective.mirror h.bijective.left h.bijective.right hab hk
  have h' : Twins c₁ c₂ { m with left, right } l' r' := h.removed hl hr hrem
  refine ⟨{ m with left, right }, l', r', ?_, rfl, h', hrem⟩
  unfold BimapTrees.extractLeft
  rw [hrun, Outcome.next_bind]
  dsimp only
  rw [Outcome.assert_of h'.size_beq]
  rfl

/-- **`bi_map_extract_right`** by a key of the pair. -/
theorem Twins.extractRight {k : κ₂} (h₁ : LawfulCmp c₁) (h₂ : LawfulCmp c₂)
    (h : Twins c₁ c₂ m l r) (hf : m.rightFree = true) (hab : (a, b) ∈ l) (hk : c₂ k b = 0) :
    ∃ m' l' r', m.extractRight c₁ c₂ k = .next (a, m') ∧ m'.rightFree = m.rightFree ∧
      Twins c₁ c₂ m' l' r' ∧ Bimap.Removed l r a b l' r' := by
  obtain ⟨right, left, r', l', hrun, hr, hl, hrem⟩ := extractTwin_spec h₂ h₁ h.right h.left
    h.bijective.mirror.symm h.bijective.right h.bijective.left (h.bijective.mirror.mem.mp hab) hk
  have h' : Twins c₁ c₂ { m with left, right } l' r' := h.removed hl hr hrem.symm
  refine ⟨{ m with left, right }, l', r', ?_, rfl, h', hrem.symm⟩
  unfold BimapTrees.extractRight
  rw [hrun, Outcome.next_bind]
  dsimp only
  rw [Outcome.assert_of hf, Outcome.next_bind, Outcome.assert_of h'.size_beq]
  rfl

/-! ## Runs -/

/-- A map, with the pairs of the bijection it stands for. -/
structure PairState (κ₁ κ₂ : Type) where
  map : BimapTrees κ₁ κ₂
  pairs : List (κ₁ × κ₂)

inductive PairEvent (κ₁ κ₂ : Type) where
  /-- `malloc` gives the addresses `z₁` and `z₂` -/
  | insert (key1 : κ₁) (key2 : κ₂) (z₁ z₂ : Addr)
  | extractLeft (key1 : κ₁)
  | extractRight (key2 : κ₂)

def pairStep (c₁ : Cmp κ₁) (c₂ : Cmp κ₂) (s : PairState κ₁ κ₂) :
    PairEvent κ₁ κ₂ → Outcome (PairState κ₁ κ₂)
  | .insert key1 key2 z₁ z₂ => do
    let map ← s.map.insert c₁ c₂ key1 key2 z₁ z₂
    return { map, pairs := s.pairs ++ [(key1, key2)] }
  | .extractLeft key1 => do
    let (_, map) ← s.map.extractLeft c₁ c₂ key1
    return { map, pairs := s.pairs.eraseP fun e => c₁ key1 e.1 == 0 }
  | .extractRight key2 => do
    let (_, map) ← s.map.extractRight c₁ c₂ key2
    return { map, pairs := s.pairs.eraseP fun e => c₂ key2 e.2 == 0 }

/-- The operations from the empty map. -/
def pairRuns (c₁ : Cmp κ₁) (c₂ : Cmp κ₂) (d₁ d₂ : Addr) (free2 : Bool) :
    Machine (PairState κ₁ κ₂) (PairEvent κ₁ κ₂) where
  init := { map := init d₁ d₂ free2, pairs := [] }
  step := pairStep c₁ c₂

/-- No pair has one of the two keys. -/
def FreshKeys (c₁ : Cmp κ₁) (c₂ : Cmp κ₂) (pairs : List (κ₁ × κ₂)) (key1 : κ₁) (key2 : κ₂) :
    Prop :=
  ∀ e ∈ pairs, c₁ key1 e.1 ≠ 0 ∧ c₂ key2 e.2 ≠ 0

instance (c₁ : Cmp κ₁) (c₂ : Cmp κ₂) (pairs : List (κ₁ × κ₂)) (key1 : κ₁) (key2 : κ₂) :
    Decidable (FreshKeys c₁ c₂ pairs key1 key2) :=
  inferInstanceAs (Decidable (∀ e ∈ pairs, c₁ key1 e.1 ≠ 0 ∧ c₂ key2 e.2 ≠ 0))

/-- Only fresh keys are inserted. -/
def Fits (c₁ : Cmp κ₁) (c₂ : Cmp κ₂) (s : PairState κ₁ κ₂) : PairEvent κ₁ κ₂ → Prop
  | .insert key1 key2 _ _ => FreshKeys c₁ c₂ s.pairs key1 key2
  | .extractLeft _ => True
  | .extractRight _ => True

instance (c₁ : Cmp κ₁) (c₂ : Cmp κ₂) (s : PairState κ₁ κ₂) (e : PairEvent κ₁ κ₂) :
    Decidable (Fits c₁ c₂ s e) := by
  cases e <;> unfold Fits <;> infer_instance

/-- **What is asked of the map** in a state of a run. -/
structure IsBijection (c₁ : Cmp κ₁) (c₂ : Cmp κ₂) (s : PairState κ₁ κ₂) (l : OrdAssoc κ₁ κ₂)
    (r : OrdAssoc κ₂ κ₁) : Prop where
  /-- red-black trees of mutually inverse pairs, with distinct keys in each -/
  twins : Twins c₁ c₂ s.map l r
  /-- the pairs are those of the bijection -/
  left : l.Perm s.pairs
  right : r.Perm (s.pairs.map Prod.swap)
  /-- the trees are gone through in order -/
  entries_left : s.map.left.entries = .next l
  entries_right : s.map.right.entries = .next r
  size : s.map.size = .next s.pairs.length
  /-- fresh keys are put into both trees -/
  insert : ∀ k₁ k₂ z₁ z₂, FreshKeys c₁ c₂ s.pairs k₁ k₂ → s.map.left.heap z₁ = none →
    s.map.right.heap z₂ = none → ∃ m', s.map.insert c₁ c₂ k₁ k₂ z₁ z₂ = .next m' ∧
      Twins c₁ c₂ m' (OrdAssoc.insert c₁ k₁ k₂ l) (OrdAssoc.insert c₂ k₂ k₁ r)
  /-- by a left key its right key is returned, and that pair leaves both trees -/
  extractLeft : ∀ k a b, (a, b) ∈ s.pairs → c₁ k a = 0 → ∃ m' l' r',
    s.map.extractLeft c₁ c₂ k = .next (b, m') ∧ Twins c₁ c₂ m' l' r' ∧
      Bimap.Removed l r a b l' r'
  /-- by a right key its left key is returned, and that pair leaves both trees -/
  extractRight : ∀ k a b, (a, b) ∈ s.pairs → c₂ k b = 0 → ∃ m' l' r',
    s.map.extractRight c₁ c₂ k = .next (a, m') ∧ Twins c₁ c₂ m' l' r' ∧
      Bimap.Removed l r a b l' r'

/-- The invariant. -/
structure Inv (c₁ : Cmp κ₁) (c₂ : Cmp κ₂) (s : PairState κ₁ κ₂) (l : OrdAssoc κ₁ κ₂)
    (r : OrdAssoc κ₂ κ₁) : Prop where
  twins : Twins c₁ c₂ s.map l r
  left : l.Perm s.pairs

variable {s s' : PairState κ₁ κ₂} {e : PairEvent κ₁ κ₂}

/-- The trees' entries and the pairs lose the same one. -/
theorem perm_eraseP {p : κ₁ × κ₂ → Bool} {x : κ₁ × κ₂} {pairs : List (κ₁ × κ₂)}
    (hp : l.Perm pairs) (hx : x ∈ l) (hpx : p x = true) (hone : ∀ y ∈ l, p y = true → y = x)
    (hl : l.Perm (x :: l')) : l'.Perm (pairs.eraseP p) := by
  obtain ⟨y, p₁, p₂, -, hpy, hpairs, herase⟩ := List.exists_of_eraseP (hp.mem_iff.mp hx) hpx
  obtain rfl : y = x := by
    refine hone y (hp.mem_iff.mpr ?_) hpy
    rw [hpairs]
    exact List.mem_append_right _ List.mem_cons_self
  rw [herase]
  refine List.Perm.cons_inv (a := y) (hl.symm.trans (hp.trans ?_))
  rw [hpairs]
  exact List.perm_middle

theorem Inv.fresh (h : Inv c₁ c₂ s l r) {k₁ : κ₁} {k₂ : κ₂}
    (hfresh : FreshKeys c₁ c₂ s.pairs k₁ k₂) :
    (∀ e ∈ l, c₁ k₁ e.1 ≠ 0) ∧ ∀ e ∈ r, c₂ k₂ e.1 ≠ 0 :=
  ⟨fun e he => (hfresh e (h.left.mem_iff.mp he)).1, fun e he =>
    (hfresh (e.2, e.1) (h.left.mem_iff.mp (h.twins.bijective.mirror.mem.mpr he))).2⟩

/-- A key that is not in the map ends the process. -/
theorem Inv.present_left (h₁ : LawfulCmp c₁) (h : Inv c₁ c₂ s l r)
    {x : κ₂ × BimapTrees κ₁ κ₂} (hrun : s.map.extractLeft c₁ c₂ k = .next x) :
    ∃ e ∈ l, c₁ k e.1 = 0 := by
  by_contra hno
  push Not at hno
  exact Outcome.not_aborts_of_next hrun
    (Outcome.bind_aborts.mpr (.inl (extractTwin_aborts h₁ h.twins.left hno)))

theorem Inv.present_right {k : κ₂} (h₂ : LawfulCmp c₂) (h : Inv c₁ c₂ s l r)
    {x : κ₁ × BimapTrees κ₁ κ₂} (hrun : s.map.extractRight c₁ c₂ k = .next x) :
    ∃ e ∈ l, c₂ k e.2 = 0 := by
  by_contra hno
  push Not at hno
  exact Outcome.not_aborts_of_next hrun (Outcome.bind_aborts.mpr (.inl
    (extractTwin_aborts h₂ h.twins.right fun e he =>
      hno (e.2, e.1) (h.twins.bijective.mirror.mem.mpr he))))

/-- An extraction by a right key that goes through has found the free function. -/
theorem rightFree_of_extractRight {k : κ₂} {x : κ₁ × BimapTrees κ₁ κ₂}
    (hrun : m.extractRight c₁ c₂ k = .next x) : m.rightFree = true := by
  obtain ⟨_, -, hrun⟩ := Outcome.bind_eq_next.mp hrun
  obtain ⟨_, hfree, -⟩ := Outcome.bind_eq_next.mp hrun
  exact Outcome.assert_eq_next.mp hfree

/-- **Each operation** keeps the bijection, and the free function. -/
theorem Inv.step (h₁ : LawfulCmp c₁) (h₂ : LawfulCmp c₂) (h : Inv c₁ c₂ s l r)
    (hfits : Fits c₁ c₂ s e) (hstep : pairStep c₁ c₂ s e = .next s') :
    s'.map.rightFree = s.map.rightFree ∧ ∃ l' r', Inv c₁ c₂ s' l' r' := by
  cases e with
  | insert k₁ k₂ z₁ z₂ =>
    obtain ⟨map, hrun, hs'⟩ := Outcome.bind_eq_next.mp hstep
    obtain rfl := Outcome.next_inj.mp hs'
    obtain ⟨hl, hr⟩ := h.fresh hfits
    obtain ⟨hz₁, hz₂⟩ := insert_heaps hrun
    obtain ⟨m', hrun', hfree, htwins⟩ := h.twins.insert h₁ h₂ hl hr hz₁ hz₂
    obtain rfl := Outcome.next_inj.mp (hrun'.symm.trans hrun)
    refine ⟨hfree, _, _, htwins, ?_⟩
    calc OrdAssoc.insert c₁ k₁ k₂ l
      _ ~ (k₁, k₂) :: l := OrdAssoc.insert_perm c₁ k₁ k₂ l
      _ ~ (k₁, k₂) :: s.pairs := h.left.cons _
      _ ~ s.pairs ++ [(k₁, k₂)] := (List.perm_append_singleton _ _).symm
  | extractLeft k =>
    obtain ⟨⟨b, map⟩, hrun, hs'⟩ := Outcome.bind_eq_next.mp hstep
    obtain rfl := Outcome.next_inj.mp hs'
    obtain ⟨x, hx, hk⟩ := h.present_left h₁ hrun
    obtain ⟨m', l', r', hrun', hfree, htwins, hrem⟩ := h.twins.extractLeft h₁ h₂ hx hk
    cases hrun'.symm.trans hrun
    refine ⟨hfree, l', r', htwins, ?_⟩
    refine perm_eraseP h.left hx (beq_iff_eq.mpr hk) (fun y hy hky => ?_) hrem.perm_first
    exact h.twins.bijective.left.eq_of_mem h₁ hy hx
      (h₁.trans_zero (h₁.symm (beq_iff_eq.mp hky)) hk)
  | extractRight k =>
    obtain ⟨⟨a, map⟩, hrun, hs'⟩ := Outcome.bind_eq_next.mp hstep
    obtain rfl := Outcome.next_inj.mp hs'
    obtain ⟨x, hx, hk⟩ := h.present_right h₂ hrun
    obtain ⟨m', l', r', hrun', hfree, htwins, hrem⟩ :=
      h.twins.extractRight h₁ h₂ (rightFree_of_extractRight hrun) hx hk
    cases hrun'.symm.trans hrun
    refine ⟨hfree, l', r', htwins, ?_⟩
    refine perm_eraseP h.left hx (beq_iff_eq.mpr hk) (fun y hy hky => ?_) hrem.perm_first
    have hmem {w : κ₁ × κ₂} (hw : w ∈ l) : (w.2, w.1) ∈ r := h.twins.bijective.mirror.mem.mp hw
    have heq := h.twins.bijective.right.eq_of_mem h₂ (hmem hy) (hmem hx)
      (h₂.trans_zero (h₂.symm (beq_iff_eq.mp hky)) hk)
    exact Prod.swap_inj.mp heq

theorem Inv.isBijection (h₁ : LawfulCmp c₁) (h₂ : LawfulCmp c₂) (h : Inv c₁ c₂ s l r)
    (hfree : s.map.rightFree = true ∨ s.pairs = []) : IsBijection c₁ c₂ s l r where
  twins := h.twins
  left := h.left
  right := h.twins.bijective.mirror.trans (h.left.map Prod.swap)
  entries_left := h.twins.left.entries
  entries_right := h.twins.right.entries
  size := by rw [h.twins.size, h.left.length_eq]
  insert := fun k₁ k₂ z₁ z₂ hfresh hz₁ hz₂ => by
    obtain ⟨hl, hr⟩ := h.fresh hfresh
    obtain ⟨m', hrun, -, htwins⟩ := h.twins.insert h₁ h₂ hl hr hz₁ hz₂
    exact ⟨m', hrun, htwins⟩
  extractLeft := fun k a b hab hk => by
    obtain ⟨m', l', r', hrun, -, htwins, hrem⟩ :=
      h.twins.extractLeft h₁ h₂ (h.left.mem_iff.mpr hab) hk
    exact ⟨m', l', r', hrun, htwins, hrem⟩
  extractRight := fun k a b hab hk => by
    have hfree := hfree.resolve_right (List.ne_nil_of_mem hab)
    obtain ⟨m', l', r', hrun, -, htwins, hrem⟩ :=
      h.twins.extractRight h₁ h₂ hfree (h.left.mem_iff.mpr hab) hk
    exact ⟨m', l', r', hrun, htwins, hrem⟩

/-- A pair can be taken by its right key only where there is the free function. -/
theorem IsBijection.rightFree (h₂ : LawfulCmp c₂) (h : IsBijection c₁ c₂ s l r)
    (hne : s.pairs ≠ []) : s.map.rightFree = true := by
  obtain ⟨⟨a, b⟩, hab⟩ := List.exists_mem_of_ne_nil s.pairs hne
  obtain ⟨m', l', r', hrun, -⟩ := h.extractRight b a b hab (h₂.refl b)
  exact rightFree_of_extractRight hrun

/-- **In every run with fresh keys the map is a finite bijection**, kept in two trees, exactly in
the states in which it is empty or has a function that frees its right keys. -/
theorem bimap_bijection (c₁ : Cmp κ₁) (c₂ : Cmp κ₂) (h₁ : LawfulCmp c₁) (h₂ : LawfulCmp c₂)
    (d₁ d₂ : Addr) (free2 : Bool) (s : PairState κ₁ κ₂)
    (h : (pairRuns c₁ c₂ d₁ d₂ free2).ReachedBy (Fits c₁ c₂) s) :
    (∃ l r, IsBijection c₁ c₂ s l r) ↔ free2 = true ∨ s.pairs = [] := by
  have hinit : ∃ l r, Inv c₁ c₂ (pairRuns c₁ c₂ d₁ d₂ free2).init l r :=
    ⟨[], [], twins_init d₁ d₂ free2, .nil⟩
  obtain ⟨hfree, l, r, hinv⟩ := h.invariant
    (P := fun s => s.map.rightFree = free2 ∧ ∃ l r, Inv c₁ c₂ s l r) ⟨rfl, hinit⟩
    fun s e s' _ ⟨hfree, l, r, hinv⟩ hfits hstep => by
      obtain ⟨hsame, hinv'⟩ := hinv.step h₁ h₂ hfits hstep
      exact ⟨hsame.trans hfree, hinv'⟩
  rw [← hfree]
  constructor
  · rintro ⟨l, r, hbij⟩
    exact Classical.or_iff_not_imp_right.mpr fun hne => hbij.rightFree h₂ hne
  · exact fun hcond => ⟨l, r, hinv.isBijection h₁ h₂ hcond⟩

/-- Without it a pair cannot be taken by its right key: the assertion of `bi_map_extract_right`
fails, which `bi_map_extract_left` does not have. -/
theorem bimap_not_bijection :
    ¬ ∀ (free2 : Bool) (s : PairState Nat Nat),
      (pairRuns (cmpAsc (id : Nat → Nat)) (cmpAsc (id : Nat → Nat)) 0 0 free2).ReachedBy
        (Fits (cmpAsc id) (cmpAsc id)) s → ∃ l r, IsBijection (cmpAsc id) (cmpAsc id) s l r := by
  intro hclaim
  obtain ⟨s, hs, hpairs⟩ := Machine.ReachedBy.exists_of_run
    (M := pairRuns (cmpAsc (id : Nat → Nat)) (cmpAsc (id : Nat → Nat)) 0 0 false)
    (C := Fits (cmpAsc id) (cmpAsc id)) [.insert 1 40 1 1]
    (fun s => decide (s.map.rightFree = false ∧ s.pairs = [(1, 40)])) (by decide)
  obtain ⟨hfree, hpairs⟩ := of_decide_eq_true hpairs
  obtain ⟨l, r, hbij⟩ := hclaim false s hs
  have hfree' := hbij.rightFree (lawful_cmpAsc id) (by simp [hpairs])
  rw [hfree] at hfree'
  cases hfree'

/-- Four pairs, one of them taken by its left key and one by its right key. -/
theorem bimap_bijection_four :
    ∃ s, (pairRuns (cmpAsc (id : Nat → Nat)) (cmpAsc (id : Nat → Nat)) 0 0 true).ReachedBy
        (Fits (cmpAsc id) (cmpAsc id)) s ∧ s.pairs = [(1, 40), (4, 10)] ∧
      ∃ l r, IsBijection (cmpAsc id) (cmpAsc id) s l r := by
  obtain ⟨s, hs, hpairs⟩ := Machine.ReachedBy.exists_of_run
    (M := pairRuns (cmpAsc (id : Nat → Nat)) (cmpAsc (id : Nat → Nat)) 0 0 true)
    (C := Fits (cmpAsc id) (cmpAsc id))
    [.insert 1 40 1 1, .insert 2 30 2 2, .insert 3 20 3 3, .insert 4 10 4 4, .extractLeft 2,
      .extractRight 20]
    (fun s => decide (s.pairs = [(1, 40), (4, 10)])) (by decide)
  exact ⟨s, hs, of_decide_eq_true hpairs,
    (bimap_bijection (cmpAsc id) (cmpAsc id) (lawful_cmpAsc id) (lawful_cmpAsc id) 0 0 true s
      hs).mpr (.inl rfl)⟩

end BimapTrees

end FlexRic
