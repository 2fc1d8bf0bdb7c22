import FlexRic.Lib.Comparator
import Mathlib.Data.List.Perm.Basic
import Mathlib.Data.List.Pairwise

/-!
# FlexRic.Lib.OrdAssoc

A balanced search tree seen through its in-order sequence of entries.

`insert` puts a new entry behind the entries its key compares equal to, as
the descent of an insertion does.  `extract` takes out one entry whose key
compares equal; which one, when there are several, is the one nearest to
the root, so it depends on the shape of the tree: the argument `pick`
counts it among the equal ones and every result below holds for each pick.

* `insert_perm`, `mem_insert`, `sorted_insert`: what an insertion does;
* `extract_eq_some`, `extract_eq_none`: what an extraction does;
* `extract_unique`: with distinct keys the pick does not matter.
-/

namespace FlexRic

universe u v

/-- The entries of a search tree, from the left to the right. -/
abbrev OrdAssoc (κ : Type u) (ν : Type v) := List (κ × ν)

namespace OrdAssoc

variable {κ : Type u} {ν : Type v}

/-- Insert behind the entries that are equal or go to the left. -/
def insert (c : Cmp κ) (k : κ) (v : ν) : OrdAssoc κ ν → OrdAssoc κ ν
  | [] => [(k, v)]
  | e :: t => if c k e.1 = 1 then (k, v) :: e :: t else e :: insert c k v t

/-- Take out the `pick`-th of the entries equal to `k` (the last one, if
there are fewer). -/
def extract (c : Cmp κ) (k : κ) : Nat → OrdAssoc κ ν → Option ((κ × ν) × OrdAssoc κ ν)
  | _, [] => none
  | pick, e :: t =>
    if c k e.1 = 0 then
      match pick with
      | 0 => some (e, t)
      | n + 1 =>
        match extract c k n t with
        | some (x, t') => some (x, e :: t')
        | none => some (e, t)
    else
      match extract c k pick t with
      | some (x, t') => some (x, e :: t')
      | none => none

/-- The first entry, from the left, whose key satisfies `p`. -/
def findIf (p : κ → Bool) (t : OrdAssoc κ ν) : Option (κ × ν) := t.find? fun e => p e.1

/-- The keys never go down from the left to the right. -/
def Sorted (c : Cmp κ) (t : OrdAssoc κ ν) : Prop := t.Pairwise fun a b => c b.1 a.1 ≠ 1

/-- No two entries compare equal. -/
def Distinct (c : Cmp κ) (t : OrdAssoc κ ν) : Prop := t.Pairwise fun a b => c a.1 b.1 ≠ 0

instance (c : Cmp κ) (t : OrdAssoc κ ν) : Decidable (Distinct c t) :=
  inferInstanceAs (Decidable (t.Pairwise fun a b => c a.1 b.1 ≠ 0))

variable {c : Cmp κ} {k : κ} {v : ν} {t : OrdAssoc κ ν}

/-! ## Insertion -/

/-- **An insertion adds one entry.** -/
theorem insert_perm (c : Cmp κ) (k : κ) (v : ν) (t : OrdAssoc κ ν) :
    (insert c k v t).Perm ((k, v) :: t) := by
  induction t with
  | nil => exact .refl _
  | cons e t ih =>
    simp only [insert]
    split
    · exact .refl _
    · exact (ih.cons e).trans (.swap _ _ _)

/-- An insertion keeps the other entries. -/
@[simp] theorem mem_insert {e : κ × ν} : e ∈ insert c k v t ↔ e = (k, v) ∨ e ∈ t := by
  rw [(insert_perm c k v t).mem_iff, List.mem_cons]

/-- An insertion keeps the order. -/
theorem sorted_insert (hc : LawfulCmp c) (h : Sorted c t) : Sorted c (insert c k v t) := by
  induction t with
  | nil => exact List.pairwise_singleton _ _
  | cons e t ih =>
    obtain ⟨he, ht⟩ := List.pairwise_cons.mp h
    simp only [insert]
    split
    · rename_i hk
      -- everything behind `e` is not before `e`, so not before `k` either
      refine List.pairwise_cons.mpr ⟨fun x hx => ?_, h⟩
      obtain rfl | hx := List.mem_cons.mp hx
      · exact hc.ne_one_of_one hk
      · intro hxk
        exact he x hx (hc.trans _ _ _ hxk hk)
    · rename_i hk
      refine List.pairwise_cons.mpr ⟨fun x hx => ?_, ih ht⟩
      obtain rfl | hx := mem_insert.mp hx
      · exact hk
      · exact he x hx

/-- An insertion keeps the keys distinct if the new one is. -/
theorem distinct_insert (hc : LawfulCmp c) :
    Distinct c (insert c k v t) ↔ Distinct c t ∧ ∀ e ∈ t, c k e.1 ≠ 0 := by
  unfold Distinct
  rw [(insert_perm c k v t).pairwise_iff fun hab hba => hab (hc.symm hba),
    List.pairwise_cons]
  exact and_comm

/-! ## Extraction -/

/-- What is extracted is an entry equal to the key, and the other entries
keep their places. -/
theorem extract_eq_some {pick : Nat} {e : κ × ν} {t' : OrdAssoc κ ν}
    (h : extract c k pick t = some (e, t')) :
    c k e.1 = 0 ∧ ∃ l₁ l₂, t = l₁ ++ e :: l₂ ∧ t' = l₁ ++ l₂ := by
  induction t generalizing pick t' with
  | nil => simp [extract] at h
  | cons x t ih =>
    simp only [extract] at h
    split at h
    · rename_i hx
      split at h
      · simp only [Option.some.injEq, Prod.mk.injEq] at h
        obtain ⟨rfl, rfl⟩ := h
        exact ⟨hx, [], t, rfl, rfl⟩
      · split at h
        · rename_i y t'' hy
          simp only [Option.some.injEq, Prod.mk.injEq] at h
          obtain ⟨rfl, rfl⟩ := h
          obtain ⟨hk, l₁, l₂, rfl, rfl⟩ := ih hy
          exact ⟨hk, x :: l₁, l₂, rfl, rfl⟩
        · simp only [Option.some.injEq, Prod.mk.injEq] at h
          obtain ⟨rfl, rfl⟩ := h
          exact ⟨hx, [], t, rfl, rfl⟩
    · split at h
      · rename_i y t'' hy
        simp only [Option.some.injEq, Prod.mk.injEq] at h
        obtain ⟨rfl, rfl⟩ := h
        obtain ⟨hk, l₁, l₂, rfl, rfl⟩ := ih hy
        exact ⟨hk, x :: l₁, l₂, rfl, rfl⟩
      · contradiction

/-- Nothing is extracted only when no entry is equal to the key. -/
theorem extract_eq_none {pick : Nat} : extract c k pick t = none ↔ ∀ e ∈ t, c k e.1 ≠ 0 := by
  induction t generalizing pick with
  | nil => simp [extract]
  | cons x t ih =>
    simp only [extract]
    split
    · rename_i hx
      split
      · simp [hx]
      · split <;> simp [hx]
    · rename_i hx
      split
      · rename_i y t' hy
        simp only [reduceCtorEq, List.mem_cons, forall_eq_or_imp, false_iff, not_and]
        intro _ hall
        rw [ih.mpr hall] at hy
        contradiction
      · rename_i hn
        have hall := ih.mp hn
        exact ⟨fun _ e he => (List.mem_cons.mp he).elim (fun h => h ▸ hx) (hall e), fun _ => rfl⟩

/-- **An extraction takes one entry out.** -/
theorem extract_perm {pick : Nat} {e : κ × ν} {t' : OrdAssoc κ ν}
    (h : extract c k pick t = some (e, t')) : t.Perm (e :: t') := by
  obtain ⟨-, l₁, l₂, rfl, rfl⟩ := extract_eq_some h
  exact List.perm_middle

/-- An extraction keeps the other entries in order. -/
theorem extract_sublist {pick : Nat} {e : κ × ν} {t' : OrdAssoc κ ν}
    (h : extract c k pick t = some (e, t')) : t'.Sublist t := by
  obtain ⟨-, l₁, l₂, rfl, rfl⟩ := extract_eq_some h
  exact List.Sublist.append_left (List.sublist_cons_self _ _) _

/-- An extraction finds an entry where there is one. -/
theorem extract_isSome (pick : Nat) {e : κ × ν} (he : e ∈ t) (hk : c k e.1 = 0) :
    ∃ x t', extract c k pick t = some (x, t') := by
  cases h : extract c k pick t with
  | none => exact absurd hk (extract_eq_none.mp h e he)
  | some r => exact ⟨r.1, r.2, rfl⟩

/-- Two equal entries of a tree with distinct keys are one. -/
theorem Distinct.eq_of_mem (hc : LawfulCmp c) (h : Distinct c t) {a b : κ × ν} (ha : a ∈ t)
    (hb : b ∈ t) (hab : c a.1 b.1 = 0) : a = b := by
  induction t with
  | nil => contradiction
  | cons x t ih =>
    obtain ⟨hx, ht⟩ := List.pairwise_cons.mp h
    obtain hax | ha := List.mem_cons.mp ha <;> obtain hbx | hb := List.mem_cons.mp hb
    · rw [hax, hbx]
    · exact absurd (hax ▸ hab) (hx b hb)
    · exact absurd (hbx ▸ hc.symm hab) (hx a ha)
    · exact ih ht ha hb

/-- Each of the entries equal to the key is the one some pick takes out. -/
theorem extract_picks {e : κ × ν} (he : e ∈ t) (hk : c k e.1 = 0) :
    ∃ pick t', extract c k pick t = some (e, t') := by
  induction t with
  | nil => exact absurd he List.not_mem_nil
  | cons x t ih =>
    obtain rfl | he := List.mem_cons.mp he
    · exact ⟨0, t, by simp [extract, hk]⟩
    · obtain ⟨pick, t', ht⟩ := ih he
      by_cases hx : c k x.1 = 0
      · exact ⟨pick + 1, x :: t', by simp [extract, hx, ht]⟩
      · exact ⟨pick, x :: t', by simp [extract, hx, ht]⟩

/-- With distinct keys an extraction takes the one entry that is equal to
the key, whatever the shape of the tree. -/
theorem extract_unique (hc : LawfulCmp c) (h : Distinct c t) {pick : Nat} {e x : κ × ν}
    {t' : OrdAssoc κ ν} (he : e ∈ t) (hk : c k e.1 = 0)
    (hx : extract c k pick t = some (x, t')) : x = e := by
  have hxt : x ∈ t := (extract_perm hx).mem_iff.mpr List.mem_cons_self
  have hkx := (extract_eq_some hx).1
  exact h.eq_of_mem hc hxt he (hc.trans_zero (hc.symm hkx) hk)

/-! ## Search from the left -/

/-- What a search finds is an entry. -/
theorem mem_of_findIf {p : κ → Bool} {e : κ × ν} (h : findIf p t = some e) : e ∈ t :=
  List.mem_of_find?_eq_some h

/-- What a search finds is what was searched for. -/
theorem findIf_key {p : κ → Bool} {e : κ × ν} (h : findIf p t = some e) : p e.1 = true :=
  List.find?_some (p := fun e : κ × ν => p e.1) h

/-- A search finds nothing where there is nothing. -/
theorem findIf_eq_none {p : κ → Bool} : findIf p t = none ↔ ∀ e ∈ t, p e.1 = false := by
  simp [findIf]

theorem findIf_isSome {p : κ → Bool} {e : κ × ν} (he : e ∈ t) (hp : p e.1 = true) :
    ∃ x, findIf p t = some x := by
  cases h : findIf p t with
  | none => simp [findIf_eq_none.mp h e he] at hp
  | some x => exact ⟨x, rfl⟩

/-- An insertion the test does not see leaves the search as it was. -/
theorem findIf_insert {p : κ → Bool} (hk : p k = false) :
    findIf p (insert c k v t) = findIf p t := by
  induction t with
  | nil => simp [insert, findIf, hk]
  | cons e t ih =>
    simp only [insert]
    split
    · simp [findIf, hk]
    · simp only [findIf, List.find?_cons] at ih ⊢
      rw [ih]

/-- In a sorted tree the search stops at the leftmost entry: everything it
passed over fails the test, and what lies behind is not before it. -/
theorem findIf_leftmost {p : κ → Bool} {e x : κ × ν} (hs : Sorted c t)
    (h : findIf p t = some e) (hx : x ∈ t) (hpx : p x.1 = true) : x = e ∨ c x.1 e.1 ≠ 1 := by
  induction t with
  | nil => contradiction
  | cons y t ih =>
    obtain ⟨hy, ht⟩ := List.pairwise_cons.mp hs
    simp only [findIf, List.find?_cons] at h
    split at h
    · simp only [Option.some.injEq] at h
      subst h
      obtain rfl | hx := List.mem_cons.mp hx
      · exact .inl rfl
      · exact .inr (hy x hx)
    · rename_i hpy
      obtain rfl | hx := List.mem_cons.mp hx
      · rw [hpx] at hpy
        contradiction
      · exact ih ht h hx

end OrdAssoc

end FlexRic
