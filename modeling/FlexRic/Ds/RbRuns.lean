import FlexRic.Ds.RbInsert
import FlexRic.Ds.RbIterate

/-!
# FlexRic.Ds.RbRuns

The red-black tree over whole runs of insertions and extractions from the empty tree.

* `TreeState` has the entries that were inserted and taken out beside the tree;
* `Inv.step`: each operation keeps a red-black tree of the entries that are left;
* `rbTree_refines`: what holds in every state of every run.
-/

namespace FlexRic

open RbTree Heap

open scoped List

namespace AssocRbTree

variable {κ ν : Type} {c : Cmp κ} {t : AssocRbTree κ ν} {T : RbTree (Cell κ ν)}

/-- A tree, with what was put into it and what was taken out. -/
structure TreeState (κ ν : Type) where
  tree : AssocRbTree κ ν
  inserted : List (κ × ν)
  removed : List (κ × ν)

inductive TreeEvent (κ ν : Type) where
  /-- `malloc` gives the address `z` -/
  | insert (key : κ) (value : ν) (z : Addr)
  | extract (key : κ)
  | freeIt (it : Addr)

/-- One operation on a tree with or without a `freeFunc`. -/
def treeStep (c : Cmp κ) (freeFunc : Bool) (s : TreeState κ ν) :
    TreeEvent κ ν → Outcome (TreeState κ ν)
  | .insert key value z => do
    let tree ← s.tree.insert c key value z
    return { s with tree, inserted := s.inserted ++ [(key, value)] }
  | .extract key => do
    let (e, tree) ← s.tree.extract c key
    return { s with tree, removed := s.removed ++ [e] }
  | .freeIt it => do
    let (e, tree) ← s.tree.freeIt freeFunc it
    return { s with tree, removed := s.removed ++ [e] }

/-- The operations from the empty tree, whose dummy is at `d`. -/
def treeRuns (ν : Type) (c : Cmp κ) (freeFunc : Bool) (d : Addr) :
    Machine (TreeState κ ν) (TreeEvent κ ν) where
  init := { tree := init d, inserted := [], removed := [] }
  step := treeStep c freeFunc

/-- **What is asked of a tree** in a state of a run. -/
structure Refines (c : Cmp κ) (freeFunc : Bool) (s : TreeState κ ν) (T : RbTree (Cell κ ν)) :
    Prop where
  /-- it is linked, ordered, coloured, balanced and counted -/
  ok : RbOk c s.tree T
  /-- it is gone through in order -/
  entries : s.tree.entries = .next T.entries
  /-- the entries are those inserted and not yet taken out -/
  left : s.inserted.Perm (s.removed ++ T.entries)
  /-- a key is found when it is there -/
  find : ∀ k, ∃ it, s.tree.findRbTree c k (s.tree.size + 1) s.tree.root = .next it ∧
    ((∃ x ∈ T.toList, x.addr = it ∧ c k x.entry.1 = 0) ∨
      (it = s.tree.dummy ∧ ∀ e ∈ T.entries, c k e.1 ≠ 0))
  /-- an insertion puts its entry in order -/
  insert : ∀ k v z, s.tree.heap z = none → ∃ t', s.tree.insert c k v z = .next t' ∧
    t'.entries = .next (OrdAssoc.insert c k v T.entries)
  /-- an extraction takes one entry with the key -/
  extract : ∀ k, (∃ e ∈ T.entries, c k e.1 = 0) → ∃ e t' l₁ l₂,
    s.tree.extract c k = .next (e, t') ∧ c k e.1 = 0 ∧ T.entries = l₁ ++ e :: l₂ ∧
      t'.entries = .next (l₁ ++ l₂)
  /-- an iterator's is the one that is freed, if there is a function for that -/
  freeIt : ∀ x ∈ T.toList,
    if freeFunc then
      ∃ t' l₁ l₂, s.tree.freeIt freeFunc x.addr = .next (x.entry, t') ∧
        T.entries = l₁ ++ x.entry :: l₂ ∧ t'.entries = .next (l₁ ++ l₂)
    else (s.tree.freeIt freeFunc x.addr).Aborts

/-- The invariant. -/
def Inv (c : Cmp κ) (s : TreeState κ ν) : Prop :=
  ∃ T, RbOk c s.tree T ∧ s.inserted.Perm (s.removed ++ T.entries)

theorem ok_init (d : Addr) : RbOk c (init d : AssocRbTree κ ν) .leaf where
  linked := ⟨trivial, trivial, fun _ => Nat.zero_le _, rfl, rfl,
    ⟨(AssocNode.initNode none).setColor .black, if_pos rfl, rfl⟩, rfl, rfl, fun _ _ _ => rfl⟩
  alloc := fun _ _ hd => if_neg hd
  black := rfl
  balanced := ⟨0, .leaf⟩
  sorted := List.Pairwise.nil
  size := rfl

/-- `malloc` gives what is not in use. -/
theorem heap_of_insert {t' : AssocRbTree κ ν} {k : κ} {v : ν} {z : Addr}
    (h : t.insert c k v z = .next t') : t.heap z = none := by
  obtain ⟨_, hz, -⟩ := Outcome.bind_eq_next.mp h
  exact Option.isNone_iff_eq_none.mp (Outcome.await_eq_next.mp hz)

/-- Only iterators of the tree are freed, and with a free function. -/
theorem freeIt_mem {freeFunc : Bool} {it : Addr} {r : (κ × ν) × AssocRbTree κ ν} (h : RbOk c t T)
    (hrun : t.freeIt freeFunc it = .next r) : freeFunc = true ∧ ∃ x ∈ T.toList, x.addr = it := by
  obtain ⟨_, hd, hrun⟩ := Outcome.bind_eq_next.mp hrun
  have hd : it ≠ t.dummy := bne_iff_ne.mp (Outcome.assert_eq_next.mp hd)
  obtain ⟨_, hrun, hfree⟩ := Outcome.bind_eq_next.mp hrun
  obtain ⟨_, hfree, -⟩ := Outcome.bind_eq_next.mp hfree
  refine ⟨Outcome.assert_eq_next.mp hfree, ?_⟩
  by_contra hno
  have hocc : T.occ it = 0 := by
    by_contra hpos
    exact hno (mem_of_occ_pos (Nat.pos_of_ne_zero hpos))
  obtain ⟨_, -, hrun⟩ := Outcome.bind_eq_next.mp hrun
  obtain ⟨_, hrun, -⟩ := Outcome.bind_eq_next.mp hrun
  obtain ⟨n, hload, -⟩ := Outcome.bind_eq_next.mp hrun
  have hn := Outcome.expect_eq_next.mp hload
  rw [h.alloc it hocc hd] at hn
  cases hn

theorem entries_split {l₁ l₂ : List (Cell κ ν)} {x : Cell κ ν} (hT : T.toList = l₁ ++ x :: l₂) :
    T.entries = l₁.map Cell.entry ++ x.entry :: l₂.map Cell.entry := by
  rw [RbTree.entries, hT, List.map_append, List.map_cons]

variable {freeFunc : Bool} {s s' : TreeState κ ν} {e : TreeEvent κ ν}

/-- One entry is taken out. -/
theorem perm_removed {T' : RbTree (Cell κ ν)} {l₁ l₂ : List (Cell κ ν)} {x : Cell κ ν}
    (h : s.inserted.Perm (s.removed ++ T.entries)) (hT : T.toList = l₁ ++ x :: l₂)
    (hT' : T'.toList = l₁ ++ l₂) :
    s.inserted.Perm (s.removed ++ [x.entry] ++ T'.entries) := by
  rw [entries_split hT] at h
  rw [RbTree.entries, hT', List.map_append, List.append_assoc, List.singleton_append]
  exact h.trans (List.perm_middle.append_left _)

/-- **Each operation** keeps the tree, and the account of its entries. -/
theorem Inv.step (hc : LawfulCmp c) (h : Inv c s) (hstep : treeStep c freeFunc s e = .next s') :
    Inv c s' := by
  obtain ⟨T, hok, hleft⟩ := h
  cases e with
  | insert k v z =>
    obtain ⟨t', hrun, hs'⟩ := Outcome.bind_eq_next.mp hstep
    obtain rfl := Outcome.next_inj.mp hs'
    obtain ⟨t₁, T', l₁, l₂, hrun₁, hok', -, -, -, hentries⟩ :=
      insert_spec (k := k) (v := v) hc hok (heap_of_insert hrun)
    obtain rfl := Outcome.next_inj.mp (hrun₁.symm.trans hrun)
    refine ⟨T', hok', ?_⟩
    calc s.inserted ++ [(k, v)]
      _ ~ s.removed ++ T.entries ++ [(k, v)] := hleft.append_right _
      _ ~ s.removed ++ (T.entries ++ [(k, v)]) := List.Perm.of_eq (List.append_assoc _ _ _)
      _ ~ s.removed ++ T'.entries := by
        rw [hentries]
        exact ((List.perm_append_singleton _ _).trans
          (OrdAssoc.insert_perm c k v _).symm).append_left _
  | extract k =>
    obtain ⟨⟨e, t'⟩, hrun, hs'⟩ := Outcome.bind_eq_next.mp hstep
    obtain rfl := Outcome.next_inj.mp hs'
    have hk : ∃ e ∈ T.entries, c k e.1 = 0 := by
      by_contra hno
      push Not at hno
      exact Outcome.not_aborts_of_next hrun (extract_aborts hc hok hno)
    obtain ⟨x, t₁, T', l₁, l₂, hrun₁, hok', -, -, hT, hT'⟩ := extract_spec hc hok hk
    cases hrun₁.symm.trans hrun
    exact ⟨T', hok', perm_removed hleft hT hT'⟩
  | freeIt it =>
    obtain ⟨⟨e, t'⟩, hrun, hs'⟩ := Outcome.bind_eq_next.mp hstep
    obtain rfl := Outcome.next_inj.mp hs'
    obtain ⟨rfl, x, hx, rfl⟩ := freeIt_mem hok hrun
    obtain ⟨t₁, T', l₁, l₂, hrun₁, hok', -, hT, hT'⟩ := freeIt_spec hok hx
    cases hrun₁.symm.trans hrun
    exact ⟨T', hok', perm_removed hleft hT hT'⟩

theorem RbOk.refines (hc : LawfulCmp c) (h : RbOk c s.tree T)
    (hleft : s.inserted.Perm (s.removed ++ T.entries)) : Refines c freeFunc s T where
  ok := h
  entries := entries_spec h
  left := hleft
  find := fun k => by
    obtain ⟨hrun, hnone⟩ | ⟨fs, col, l, x, r, hrun, hT, hk⟩ := h.find hc k
    · exact ⟨_, hrun, .inr ⟨rfl, hnone⟩⟩
    · refine ⟨_, hrun, .inl ⟨x, ?_, rfl, hk⟩⟩
      rw [hT, toList_plug]
      simp [toList]
  insert := fun k v z hz => by
    obtain ⟨t', T', l₁, l₂, hrun, hok', -, -, -, hentries⟩ := insert_spec (k := k) (v := v) hc h hz
    exact ⟨t', hrun, by rw [entries_spec hok', hentries]⟩
  extract := fun k hk => by
    obtain ⟨x, t', T', l₁, l₂, hrun, hok', -, hkx, hT, hT'⟩ := extract_spec hc h hk
    refine ⟨x.entry, t', _, _, hrun, hkx, entries_split hT, ?_⟩
    rw [entries_spec hok', RbTree.entries, hT', List.map_append]
  freeIt := fun x hx => by
    cases freeFunc with
    | false => exact freeIt_aborts h hx
    | true =>
      obtain ⟨t', T', l₁, l₂, hrun, hok', -, hT, hT'⟩ := freeIt_spec h hx
      refine ⟨t', _, _, hrun, entries_split hT, ?_⟩
      rw [entries_spec hok', RbTree.entries, hT', List.map_append]

/-- **In every run the memory is a red-black tree** of the entries that were inserted and not
taken out. -/
theorem rbTree_refines (c : Cmp κ) (hc : LawfulCmp c) (freeFunc : Bool) (d : Addr)
    (s : TreeState κ ν) (h : (treeRuns ν c freeFunc d).Reachable s) :
    ∃ T, Refines c freeFunc s T := by
  obtain ⟨T, hok, hleft⟩ : Inv c s :=
    h.invariant ⟨.leaf, ok_init d, .refl _⟩ fun s e s' _ hinv hstep => hinv.step hc hstep
  exact ⟨T, hok.refines hc hleft⟩

/-- Five insertions, the extraction of a key and of an iterator. -/
theorem rbTree_refines_five : ∃ s, (treeRuns Nat (cmpAsc (id : Nat → Nat)) true 0).Reachable s ∧
    s.tree.entries = .next [(1, 10), (3, 30), (5, 50)] ∧ ∃ T, Refines (cmpAsc id) true s T := by
  obtain ⟨s, hs, hentries⟩ := Machine.Reachable.exists_of_run
    (M := treeRuns Nat (cmpAsc (id : Nat → Nat)) true 0)
    [.insert 1 10 1, .insert 2 20 2, .insert 3 30 3, .insert 4 40 4, .insert 5 50 5, .extract 2,
      .freeIt 4]
    (fun s => decide (s.tree.entries = .next [(1, 10), (3, 30), (5, 50)])) (by decide)
  exact ⟨s, hs, of_decide_eq_true hentries, rbTree_refines (cmpAsc id) (lawful_cmpAsc id) true 0 s hs⟩

end AssocRbTree

end FlexRic
