import FlexRic.Ds.RegSearch

/-!
# FlexRic.Ds.RegMap

The registry over whole runs of pushes and erasures: it is a finite map with keys that
increase.

* `Ok.pushBack`, `Ok.erase_next` and `Ok.removeIfRange`: what the operations do to the
  entries.  Erasures leave holes (`Ok.killed`).
* `RegState` has the map and the keys that were given out beside the registry; `regMap` is
  for the runs with keys of 32 bits and fewer than `2 ^ 31` buckets, `regMap_missed` is
  where a key is not found.
-/

namespace FlexRic

namespace AssocReg

variable {α : Type} {t t' : AssocReg α} {b : Bucket α} {i j k n : Nat} {v : α}

/-! ## A push -/

/-- **A push** puts an entry behind the others, with the next key. -/
theorem Ok.pushBack (h : Ok t) (hkey : t.keyId < 2 ^ 32) (v : α) :
    ∃ t', t.pushBack v = .next (t', t.keyId) ∧ Ok t' ∧ t'.entries = t.entries ++ [(t.keyId, v)] ∧
      t'.keyId = t.keyId + 1 ∧ t'.occBucket = t.nextOcc + 1 ∧ t'.sz = t.sz + 1 := by
  obtain ⟨⟨h₁, hentries, hsz, hkey₁, -⟩, hocc, hroom⟩ := h.expandIfNeccesary
  generalize hexp : t.expandIfNeccesary = t₁ at h₁ hentries hsz hkey₁ hocc hroom
  have hmod : t₁.keyId % 2 ^ 32 = t₁.keyId := Nat.mod_eq_of_lt (by omega)
  have hassert : (t₁.keyId != 2 ^ 64 - 1) = true := bne_iff_ne.2 (by omega)
  have hlt : t₁.occBucket < t₁.arr.length := by rw [h₁.length]; exact h₁.room
  have hused : used ⟨t₁.arr.set t₁.occBucket ⟨t₁.keyId, true, some v⟩, t₁.sz + 1, t₁.cap,
      t₁.occBucket + 1, t₁.keyId + 1⟩ = t₁.used ++ [⟨t₁.keyId, true, some v⟩] := by
    show (t₁.arr.set t₁.occBucket _).take (t₁.occBucket + 1) = _
    rw [List.take_succ_eq_append_getElem (by rw [List.length_set]; exact hlt),
      List.getElem_set_self, List.take_set_of_le (Nat.le_refl _)]
    rfl
  refine ⟨⟨t₁.arr.set t₁.occBucket ⟨t₁.keyId, true, some v⟩, t₁.sz + 1, t₁.cap,
    t₁.occBucket + 1, t₁.keyId + 1⟩, ?_,
    ⟨?_, hroom, h₁.pow, ?_, ?_, ?_, ?_, Nat.succ_pos _⟩, ?_, ?_, ?_, ?_⟩
  · rw [AssocReg.pushBack, hexp, Outcome.assert_of hassert, Outcome.next_bind, hmod, hkey₁]
    rfl
  · rw [List.length_set]
    exact h₁.length
  · rw [hused, List.pairwise_append]
    refine ⟨h₁.sorted, List.pairwise_singleton _ _, fun a ha b hb => ?_⟩
    rw [List.mem_singleton.1 hb]
    exact (h₁.keys a ha).2
  · intro b hb
    rw [hused] at hb
    rcases List.mem_append.1 hb with hb | hb
    · exact ⟨(h₁.keys b hb).1, Nat.lt_succ_of_lt (h₁.keys b hb).2⟩
    · rw [List.mem_singleton.1 hb]
      exact ⟨h₁.pos, Nat.lt_succ_self _⟩
  · intro b hb hv
    rw [hused] at hb
    rcases List.mem_append.1 hb with hb | hb
    · exact h₁.value b hb hv
    · rw [List.mem_singleton.1 hb]
      rfl
  · rw [hused, List.countP_append, h₁.live]
    rfl
  · rw [entries, hused, List.filterMap_append, ← hentries, ← hkey₁]
    rfl
  · rw [← hkey₁]
  · rw [← hocc]
  · rw [← hsz]

/-! ## Holes -/

/-- Buckets that meet a condition lose their values. -/
def killIf (p : Bucket α → Bool) (b : Bucket α) : Bucket α := if p b then kill b else b

@[simp] theorem key_killIf (p : Bucket α → Bool) (b : Bucket α) : (killIf p b).key = b.key := by
  unfold killIf
  split
  · rfl
  · rfl

@[simp] theorem val_killIf (p : Bucket α → Bool) (b : Bucket α) : (killIf p b).val = b.val := by
  unfold killIf
  split
  · rfl
  · rfl

theorem hasValue_killIf {p : Bucket α → Bool} (h : (killIf p b).hasValue = true) :
    b.hasValue = true := by
  unfold killIf at h
  split at h
  · cases h
  · exact h

/-- The entries that are killed are not there any more. -/
theorem filterMap_killIf {p : Bucket α → Bool} {q : Nat × α → Bool} {bs : List (Bucket α)}
    (hpq : ∀ b ∈ bs, ∀ e, entry b = some e → p b = q e) :
    (bs.map (killIf p)).filterMap entry = (bs.filterMap entry).filter fun e => !q e := by
  induction bs with
  | nil => rfl
  | cons b bs ih =>
    have ih := ih fun b hb => hpq b (List.mem_cons_of_mem _ hb)
    rw [List.map_cons, List.filterMap_cons, List.filterMap_cons]
    cases he : entry b with
    | none =>
      have hnone : entry (killIf p b) = none := by
        unfold killIf
        split
        · rfl
        · exact he
      rw [hnone]
      exact ih
    | some e =>
      have hp := hpq b List.mem_cons_self e he
      dsimp only
      rw [List.filter_cons, ← hp]
      cases hpb : p b with
      | true =>
        rw [show killIf p b = kill b by rw [killIf, hpb]; rfl, entry_kill]
        exact ih
      | false =>
        rw [show killIf p b = b by rw [killIf, hpb]; rfl, he, ih]
        rfl

/-- **Buckets become holes**, and the other entries stay. -/
theorem Ok.killed (h : Ok t) {p : Bucket α → Bool} {q : Nat × α → Bool}
    (hlen : t'.arr.length = t.arr.length) (hcap : t'.cap = t.cap)
    (hocc : t'.occBucket = t.occBucket) (hkey : t'.keyId = t.keyId)
    (hused : t'.used = t.used.map (killIf p)) (hlive : t'.used.countP (·.hasValue) = t'.sz)
    (hpq : ∀ b ∈ t.used, ∀ e, entry b = some e → p b = q e) :
    Ok t' ∧ t'.entries = t.entries.filter fun e => !q e := by
  have hmem : ∀ b' ∈ t'.used, ∃ b ∈ t.used, b' = killIf p b := by
    intro b' hb'
    rw [hused] at hb'
    obtain ⟨b, hb, rfl⟩ := List.mem_map.1 hb'
    exact ⟨b, hb, rfl⟩
  refine ⟨⟨by rw [hlen, hcap, h.length], by rw [hocc, hcap]; exact h.room, hcap ▸ h.pow, ?_,
    fun b' hb' => ?_, fun b' hb' hv => ?_, hlive, hkey ▸ h.pos⟩, ?_⟩
  · rw [hused, List.pairwise_map]
    simpa using h.sorted
  · obtain ⟨b, hb, rfl⟩ := hmem b' hb'
    rw [key_killIf, hkey]
    exact h.keys b hb
  · obtain ⟨b, hb, rfl⟩ := hmem b' hb'
    rw [val_killIf]
    exact h.value b hb (hasValue_killIf hv)
  · rw [entries, hused, filterMap_killIf hpq, entries]

/-! ## Erasing a range -/

/-- The registry after the bucket at `i` lost its value. -/
def erased (t : AssocReg α) (i : Nat) : AssocReg α :=
  { t with arr := t.arr.set i (kill (t.bucket i)), sz := t.sz - 1 }

theorem bucket_erased (hi : i < t.arr.length) (p : Nat) :
    (t.erased i).bucket p = if p = i then kill (t.bucket i) else t.bucket p := by
  rw [bucket, erased, List.getD_eq_getElem?_getD, List.getElem?_set]
  by_cases hp : i = p
  · subst hp
    rw [if_pos rfl, if_pos hi, if_pos rfl]
    rfl
  · rw [if_neg hp, if_neg (Ne.symm hp), bucket, List.getD_eq_getElem?_getD]

/-- What is asked of the counter, and the array. -/
def Counted (t : AssocReg α) : Prop :=
  t.occBucket < t.arr.length ∧ t.used.countP (·.hasValue) = t.sz

theorem Counted.erased (h : Counted t) (hi : i < t.occBucket)
    (hv : (t.bucket i).hasValue = true) : Counted (t.erased i) := by
  have hlt : i < t.used.length := by
    rw [used, List.length_take]
    have := h.1
    omega
  have hget : t.used[i]? = some (t.bucket i) := by
    rw [List.getElem?_eq_getElem hlt, getElem_used]
  have hcount := countP_set_add (p := fun b : Bucket α => b.hasValue) (b := kill (t.bucket i)) hget
  have hset : (t.erased i).used = t.used.set i (kill (t.bucket i)) := List.take_set
  refine ⟨by rw [AssocReg.erased, List.length_set]; exact h.1, ?_⟩
  rw [hset]
  show _ = t.sz - 1
  have hone : (true : Bool).toNat = 1 := rfl
  have hzero : (kill (t.bucket i)).hasValue.toNat = 0 := rfl
  rw [hv, hone, hzero, h.2] at hcount
  omega

/-- The registry after a range of buckets lost their values. -/
structure Erased (t t' : AssocReg α) (i j : Nat) : Prop where
  length : t'.arr.length = t.arr.length
  cap : t'.cap = t.cap
  occ : t'.occBucket = t.occBucket
  keyId : t'.keyId = t.keyId
  bucket : ∀ p, t'.bucket p = if i ≤ p ∧ p < j then kill (t.bucket p) else t.bucket p
  counted : Counted t'

/-- **The loop of an erasure**: when it ends, the range is erased. -/
theorem eraseFrom_next (h : Counted t) (hi : i ≤ t.occBucket)
    (hrun : eraseFrom j n t i = .next t') : i ≤ j ∧ j ≤ t.occBucket ∧ Erased t t' i j := by
  induction n generalizing t i with
  | zero => cases hrun
  | succ n ih =>
    rw [eraseFrom] at hrun
    split at hrun
    · rename_i heq
      subst heq
      rw [Outcome.next_inj] at hrun
      subst hrun
      refine ⟨Nat.le_refl _, hi, rfl, rfl, rfl, rfl, fun p => ?_, h⟩
      rw [if_neg (by omega)]
    · obtain ⟨s, hnext, hrun⟩ := Outcome.bind_eq_next.1 hrun
      obtain ⟨hlt, hv, rfl⟩ := next_inv hnext
      obtain ⟨hle, hend, -, hholes⟩ := seek_spec (show i + 1 ≤ t.occBucket from hlt)
      obtain ⟨hsj, hj, herased⟩ := ih (t := t.erased i) (h.erased hlt hv) hend hrun
      refine ⟨by omega, hj, ?_⟩
      refine ⟨?_, herased.cap, herased.occ, herased.keyId, fun p => ?_, herased.counted⟩
      · rw [herased.length, erased, List.length_set]
      · rw [herased.bucket, bucket_erased (Nat.lt_trans hlt h.1)]
        rcases Nat.lt_trichotomy p i with hp | rfl | hp
        · rw [if_neg (by omega), if_neg (by omega), if_neg (by omega)]
        · rw [if_neg (by omega), if_pos rfl, if_pos (by omega)]
        · rw [if_neg (Nat.ne_of_gt hp)]
          by_cases hps : t.seek (i + 1) ≤ p
          · by_cases hpj : p < j
            · rw [if_pos ⟨hps, hpj⟩, if_pos (by omega)]
            · rw [if_neg (by omega), if_neg (by omega)]
          · -- a hole between two entries
            rw [if_neg (by omega), if_pos (by omega), kill_of_not (hholes p (by omega) (by omega))]

/-- A range that starts at an entry, and ends at one or at `end`; or an empty one. -/
def ValidRange (t : AssocReg α) (i j : Nat) : Prop :=
  i = j ∨ (i < j ∧ j ≤ t.occBucket ∧ (t.bucket i).hasValue = true ∧
    (j < t.occBucket → (t.bucket j).hasValue = true))

/-- **The loop ends**, for a range that `assoc_reg_next` goes through. -/
theorem eraseFrom_exists (h : Counted t) (hij : i ≤ j) (hj : j ≤ t.occBucket)
    (hvi : i < j → (t.bucket i).hasValue = true)
    (hvj : j < t.occBucket → (t.bucket j).hasValue = true) (hn : j - i < n) :
    ∃ t', eraseFrom j n t i = .next t' := by
  induction n generalizing t i with
  | zero => cases hn
  | succ n ih =>
    rw [eraseFrom]
    split
    · exact ⟨t, rfl⟩
    · have hlt : i < j := by omega
      have hi : i < t.occBucket := by omega
      obtain ⟨hle, hend, hlive, -⟩ := seek_spec (show i + 1 ≤ t.occBucket from hi)
      have hsj : t.seek (i + 1) ≤ j := seek_le hlt hj hvj
      have hbucket : ∀ p, i < p → (t.erased i).bucket p = t.bucket p := by
        intro p hp
        rw [bucket_erased (Nat.lt_trans hi h.1), if_neg (Nat.ne_of_gt hp)]
      rw [next_eq hi (hvi hlt), Outcome.next_bind]
      refine ih (t := t.erased i) (h.erased hi (hvi hlt)) hsj hj (fun hsj' => ?_) (fun hj' => ?_)
        (by omega)
      · rw [hbucket _ (by omega)]
        exact hlive (by omega)
      · rw [hbucket _ (by omega)]
        exact hvj hj'

/-- The keys of a range of entries. -/
def inRange (t : AssocReg α) (i j k : Nat) : Bool :=
  decide ((t.bucket i).key ≤ k ∧ (j = t.occBucket ∨ k < (t.bucket j).key))

/-- A key is in the range when its bucket is. -/
theorem Ok.inRange_iff (h : Ok t) {p : Nat} (hi : i < j) (hj : j ≤ t.occBucket)
    (hp : p < t.occBucket) : t.inRange i j (t.bucket p).key = decide (i ≤ p ∧ p < j) := by
  refine decide_eq_decide.2 (and_congr ?_ ?_)
  · constructor
    · intro hle
      by_contra hlt
      have := h.key_lt (show p < i by omega) (by omega)
      omega
    · intro hle
      rcases Nat.lt_or_eq_of_le hle with hlt | rfl
      · exact Nat.le_of_lt (h.key_lt hlt hp)
      · exact Nat.le_refl _
  · constructor
    · rintro (rfl | hkey)
      · exact hp
      · by_contra hle
        rcases Nat.lt_or_eq_of_le (Nat.le_of_not_lt hle) with hlt | rfl
        · have := h.key_lt hlt hp
          omega
        · exact absurd hkey (Nat.lt_irrefl _)
    · intro hlt
      rcases Nat.lt_or_eq_of_le hj with hj' | rfl
      · exact .inr (h.key_lt hlt hj')
      · exact .inl rfl

theorem Ok.counted (h : Ok t) : Counted t := ⟨by rw [h.length]; exact h.room, h.live⟩

/-- A range of buckets without values is a range of keys without entries. -/
theorem Ok.erased_range (h : Ok t) (hi : i < j) (hj : j ≤ t.occBucket) (he : Erased t t' i j) :
    Ok t' ∧ t'.entries = t.entries.filter fun e => !t.inRange i j e.1 := by
  have hlen : t'.used.length = t.used.length := by
    rw [used, used, List.length_take, List.length_take, he.length, he.occ]
  refine h.killed (p := fun b => t.inRange i j b.key) he.length he.cap he.occ he.keyId
    (List.ext_getElem (by rw [List.length_map, hlen]) fun p hp hp' => ?_) he.counted.2
    fun b _ e hb => ?_
  · have hlt : p < t.occBucket := by
      rw [← h.length_used, ← hlen]
      exact hp
    have harr : p < t.arr.length := Nat.lt_trans hlt h.counted.1
    have hget : t'.used[p] = t'.bucket p := by
      rw [bucket, List.getD_eq_getElem _ _ (by rw [he.length]; exact harr)]
      exact List.getElem_take
    rw [hget, he.bucket, List.getElem_map, getElem_used, killIf, h.inRange_iff hi hj hlt]
    simp only [decide_eq_true_eq]
  · obtain ⟨k, v⟩ := e
    dsimp only
    rw [(entry_eq_some.1 hb).2.1]

/-- **An erasure** takes the entries of the range, and leaves the others. -/
theorem Ok.erase_next (h : Ok t) (hrun : t.erase i j = .next t') :
    Ok t' ∧ t'.keyId = t.keyId ∧ t'.occBucket ≤ t.occBucket ∧ t'.entries =
      if i = j then t.entries else t.entries.filter fun e => !t.inRange i j e.1 := by
  rw [erase] at hrun
  split at hrun
  · rename_i heq
    rw [Outcome.next_inj] at hrun
    subst hrun
    exact ⟨h, rfl, Nat.le_refl _, by rw [if_pos heq]⟩
  · rename_i hne
    obtain ⟨_, hin, hrun⟩ := Outcome.bind_eq_next.1 hrun
    obtain ⟨t₁, hloop, hrun⟩ := Outcome.bind_eq_next.1 hrun
    have hi : i < t.occBucket := of_decide_eq_true (Outcome.assert_eq_next.1 hin)
    obtain ⟨hij, hj, herased⟩ := eraseFrom_next h.counted (Nat.le_of_lt hi) hloop
    obtain ⟨h₁, hentries₁⟩ := h.erased_range (Nat.lt_of_le_of_ne hij hne) hj herased
    obtain ⟨t₂, hcompact, h₂, hentries₂, -, hkey₂, hocc₂⟩ := h₁.compactIfNecessary
    obtain ⟨t₃, hshrink, h₃, hentries₃, -, hkey₃, hocc₃⟩ := h₂.shrinkIfNecessary
    rw [hcompact, Outcome.next_bind, hshrink, Outcome.next_inj] at hrun
    subst hrun
    exact ⟨h₃, by rw [hkey₃, hkey₂, herased.keyId],
      herased.occ ▸ Nat.le_trans hocc₃ hocc₂, by rw [if_neg hne, hentries₃, hentries₂, hentries₁]⟩

theorem Ok.erase_exists (h : Ok t) (hr : t.ValidRange i j) : ∃ t', t.erase i j = .next t' := by
  rw [erase]
  split
  · exact ⟨t, rfl⟩
  · rename_i hne
    obtain ⟨hij, hj, hvi, hvj⟩ := hr.resolve_left hne
    obtain ⟨t₁, hloop⟩ := eraseFrom_exists h.counted (Nat.le_of_lt hij) hj (fun _ => hvi) hvj
      (show j - i < t.occBucket + 1 by omega)
    obtain ⟨-, -, herased⟩ := eraseFrom_next h.counted (by omega) hloop
    obtain ⟨h₁, -⟩ := h.erased_range hij hj herased
    obtain ⟨t₂, hcompact, h₂, -⟩ := h₁.compactIfNecessary
    obtain ⟨t₃, hshrink, -⟩ := h₂.shrinkIfNecessary
    refine ⟨t₃, ?_⟩
    rw [Outcome.assert_of (iteratorInDs_of (by omega)), Outcome.next_bind, hloop,
      Outcome.next_bind, hcompact, Outcome.next_bind, hshrink]

/-! ## Erasing by a condition -/

/-- The buckets that `remove_if_range_reg` takes the values of. -/
def Chosen (f : α → Bool) (b : Bucket α) : Bool := b.hasValue && b.val.any f

theorem removeIfFrom_eq (f : α → Bool) (bs : List (Bucket α)) :
    removeIfFrom f bs = (bs.map (killIf (Chosen f)), (bs.filter (Chosen f)).map (·.key)) := by
  induction bs with
  | nil => rfl
  | cons b bs ih =>
    rw [removeIfFrom, ih, List.map_cons, List.filter_cons, killIf]
    show (if Chosen f b then _ else _) = _
    split
    · rfl
    · rfl

theorem chosen_entry {f : α → Bool} {e : Nat × α} (he : entry b = some e) :
    Chosen f b = f e.2 := by
  obtain ⟨hv, -, hval⟩ := entry_eq_some.1 (show entry b = some (e.1, e.2) from he)
  rw [Chosen, hv, hval]
  rfl

/-- The keys are those of the entries that meet the condition. -/
theorem chosen_keys {f : α → Bool} {bs : List (Bucket α)}
    (h : ∀ b ∈ bs, b.hasValue = true → b.val.isSome = true) :
    (bs.filter (Chosen f)).map (·.key) =
      ((bs.filterMap entry).filter fun e => f e.2).map Prod.fst := by
  induction bs with
  | nil => rfl
  | cons b bs ih =>
    have ih := ih fun b hb => h b (List.mem_cons_of_mem _ hb)
    rw [List.filter_cons, List.filterMap_cons]
    cases he : entry b with
    | none =>
      have hnot : Chosen f b = false := by
        by_contra hyes
        have hv := (Bool.and_eq_true_iff.1 (Bool.not_eq_false _ ▸ hyes)).1
        obtain ⟨v, hval⟩ := Option.isSome_iff_exists.1 (h b List.mem_cons_self hv)
        rw [entry, hv, hval] at he
        cases he
      rw [hnot]
      exact ih
    | some e =>
      have hkey := (entry_eq_some.1 (show entry b = some (e.1, e.2) from he)).2.1
      dsimp only
      rw [List.filter_cons, chosen_entry he]
      cases f e.2 with
      | true => exact congrArg₂ List.cons hkey ih
      | false => exact ih

theorem countP_killIf (f : α → Bool) (bs : List (Bucket α)) :
    (bs.map (killIf (Chosen f))).countP (·.hasValue) + (bs.filter (Chosen f)).length =
      bs.countP (·.hasValue) := by
  induction bs with
  | nil => rfl
  | cons b bs ih =>
    rw [List.map_cons, List.countP_cons, List.filter_cons, List.countP_cons, ← ih]
    cases hb : Chosen f b with
    | true =>
      have hv := (Bool.and_eq_true_iff.1 hb).1
      rw [show killIf (Chosen f) b = kill b by rw [killIf, hb]; rfl, hv, if_pos rfl, if_pos rfl,
        List.length_cons]
      exact (Nat.add_assoc _ _ 1).symm
    | false =>
      rw [show killIf (Chosen f) b = b by rw [killIf, hb]; rfl, if_neg Bool.false_ne_true]
      omega

/-- **An erasure by a condition** takes the entries that meet it. -/
theorem Ok.removeIfRange (h : Ok t) (f : α → Bool) : ∃ t',
    t.removeIfRange f = .next (t', (t.entries.filter fun e => f e.2).map Prod.fst) ∧ Ok t' ∧
      t'.keyId = t.keyId ∧ t'.occBucket ≤ t.occBucket ∧
      t'.entries = t.entries.filter fun e => !f e.2 := by
  have hkeys := chosen_keys (f := f) h.value
  have hlen : (t.used.map (killIf (Chosen f))).length = t.occBucket := by
    rw [List.length_map, h.length_used]
  have hcount := countP_killIf f t.used
  rw [h.live] at hcount
  generalize ht₁ : (⟨t.used.map (killIf (Chosen f)) ++ t.arr.drop t.occBucket,
    t.sz - (t.used.filter (Chosen f)).length, t.cap, t.occBucket, t.keyId⟩ : AssocReg α) = t₁
  have hused : t₁.used = t.used.map (killIf (Chosen f)) := by
    rw [← ht₁]
    exact List.take_left' hlen
  obtain ⟨h₁, hentries₁⟩ := h.killed (p := Chosen f) (q := fun e => f e.2)
    (by
      rw [← ht₁, List.length_append, hlen, List.length_drop]
      exact Nat.add_sub_of_le (Nat.le_of_lt h.counted.1))
    (by rw [← ht₁]) (by rw [← ht₁]) (by rw [← ht₁]) hused
    (by
      rw [hused, ← ht₁]
      show _ = t.sz - _
      omega)
    fun b _ e he => chosen_entry he
  obtain ⟨t₂, hcompact, h₂, hentries₂, -, hkey₂, hocc₂⟩ := h₁.compactIfNecessary
  obtain ⟨t₃, hshrink, h₃, hentries₃, -, hkey₃, hocc₃⟩ := h₂.shrinkIfNecessary
  have hocc : t₃.occBucket ≤ t.occBucket := by
    rw [← ht₁] at hocc₂
    exact Nat.le_trans hocc₃ hocc₂
  refine ⟨t₃, ?_, h₃, by rw [hkey₃, hkey₂, ← ht₁], hocc, by rw [hentries₃, hentries₂, hentries₁]⟩
  rw [AssocReg.removeIfRange, show t.arr.take t.occBucket = t.used from rfl, removeIfFrom_eq]
  dsimp only
  rw [List.length_map, ht₁, hcompact, Outcome.next_bind, hshrink, Outcome.next_bind, hkeys]
  rfl

/-! ## Runs -/

theorem Ok.init : Ok (init : AssocReg α) where
  length := List.length_replicate
  room := show 0 < 16 by decide
  pow := ⟨0, rfl⟩
  sorted := List.Pairwise.nil
  keys := fun _ hb => absurd hb List.not_mem_nil
  value := fun _ hb => absurd hb List.not_mem_nil
  live := rfl
  pos := Nat.one_pos

/-- A registry, the map it stands for, and the keys that were given out. -/
structure RegState (α : Type) where
  reg : AssocReg α
  map : List (Nat × α)
  issued : List Nat

inductive RegEvent (α : Type) where
  | pushBack (value : α)
  | erase (startIt endIt : Nat)
  | removeIfRange (f : α → Bool)

def regStep (s : RegState α) : RegEvent α → Outcome (RegState α)
  | .pushBack value => do
    let (reg, key) ← s.reg.pushBack value
    return { reg, map := s.map ++ [(key, value)], issued := s.issued ++ [key] }
  | .erase i j => do
    let reg ← s.reg.erase i j
    return { s with
      reg, map := if i = j then s.map else s.map.filter fun e => !s.reg.inRange i j e.1 }
  | .removeIfRange f => do
    let (reg, _) ← s.reg.removeIfRange f
    return { s with reg, map := s.map.filter fun e => !f e.2 }

def registry (α : Type) : Machine (RegState α) (RegEvent α) where
  init := { reg := init, map := [], issued := [] }
  step := regStep

/-- The next key is a `uint32_t`, and the number of buckets will be an `int`. -/
def Room (t : AssocReg α) : Prop := t.keyId < 2 ^ 32 ∧ t.nextOcc + 1 < 2 ^ 31

instance (t : AssocReg α) : Decidable t.Room := inferInstanceAs (Decidable (_ ∧ _))

/-- The condition on the steps: pushes have room. -/
def Fits (s : RegState α) : RegEvent α → Prop
  | .pushBack _ => s.reg.Room
  | _ => True

instance (s : RegState α) : (e : RegEvent α) → Decidable (Fits s e)
  | .pushBack _ => inferInstanceAs (Decidable (Room _))
  | .erase _ _ => inferInstanceAs (Decidable True)
  | .removeIfRange _ => inferInstanceAs (Decidable True)

/-- **What is asked of a registry**: it is the map. -/
structure Refines (s : RegState α) : Prop where
  /-- it is gone through in the order of the keys -/
  iterate : s.reg.iterate = .next s.map
  sorted : s.map.Pairwise fun a b => a.1 < b.1
  size : s.reg.sz = s.map.length
  /-- each key was larger than all before it -/
  issued : s.issued.Pairwise (· < ·)
  keys : ∀ e ∈ s.map, e.1 ∈ s.issued
  /-- a key is found when it is there, and has its value -/
  find : ∀ k, 0 < k → ∃ o, s.reg.lookup k = .next o ∧ ∀ v, o = some v ↔ (k, v) ∈ s.map
  /-- the search ends at its entry -/
  lower : ∀ k, ∃ it, s.reg.lowerBoundReg s.reg.front s.reg.occBucket k = .next it ∧
    ∀ v, (k, v) ∈ s.map ↔ s.reg.At it k v
  /-- another array is gone through in the same way -/
  expand : s.reg.expandIfNeccesary.iterate = .next s.map
  compact : ∃ t, s.reg.compactIfNecessary = .next t ∧ t.iterate = .next s.map
  shrink : ∃ t, s.reg.shrinkIfNecessary = .next t ∧ t.iterate = .next s.map

structure Inv (s : RegState α) : Prop where
  ok : Ok s.reg
  entries : s.reg.entries = s.map
  issued : s.issued.Pairwise (· < ·)
  below : ∀ k ∈ s.issued, k < s.reg.keyId
  keys : ∀ e ∈ s.map, e.1 ∈ s.issued

variable {s s' : RegState α} {e : RegEvent α}

theorem Inv.init : Inv (registry α).init where
  ok := Ok.init
  entries := rfl
  issued := List.Pairwise.nil
  below := fun _ hk => absurd hk List.not_mem_nil
  keys := fun _ he => absurd he List.not_mem_nil

theorem Inv.pushBack (h : Inv s) (hkey : s.reg.keyId < 2 ^ 32) (v : α) :
    ∃ s', regStep s (.pushBack v) = .next s' ∧ Inv s' ∧ s'.map = s.map ++ [(s.reg.keyId, v)] ∧
      s'.reg.keyId = s.reg.keyId + 1 ∧ s'.reg.occBucket = s.reg.nextOcc + 1 ∧
      s'.reg.sz = s.reg.sz + 1 := by
  obtain ⟨t', hrun, hok, hentries, hid, hocc, hsz⟩ := h.ok.pushBack hkey v
  refine ⟨⟨t', s.map ++ [(s.reg.keyId, v)], s.issued ++ [s.reg.keyId]⟩,
    by rw [regStep, hrun, Outcome.next_bind]; rfl, ⟨hok, by rw [hentries, h.entries], ?_, ?_, ?_⟩,
    rfl, hid, hocc, hsz⟩
  · rw [List.pairwise_append]
    refine ⟨h.issued, List.pairwise_singleton _ _, fun a ha b hb => ?_⟩
    rw [List.mem_singleton.1 hb]
    exact h.below a ha
  · intro k hk
    dsimp only
    rw [hid]
    rcases List.mem_append.1 hk with hk | hk
    · exact Nat.lt_succ_of_lt (h.below k hk)
    · rw [List.mem_singleton.1 hk]
      exact Nat.lt_succ_self _
  · intro e he
    rcases List.mem_append.1 he with he | he
    · exact List.mem_append_left _ (h.keys e he)
    · rw [List.mem_singleton.1 he]
      exact List.mem_append_right _ (List.mem_singleton.2 rfl)

/-- Entries are taken away. -/
theorem Inv.of_filter (h : Inv s) {q : Nat × α → Bool} {t' : AssocReg α} (hok : Ok t')
    (hkey : t'.keyId = s.reg.keyId) (hentries : t'.entries = s.map.filter q) :
    Inv { s with reg := t', map := s.map.filter q } where
  ok := hok
  entries := hentries
  issued := h.issued
  below := fun k hk => by
    dsimp only
    rw [hkey]
    exact h.below k hk
  keys := fun e he => h.keys e (List.mem_of_mem_filter he)

/-- **One step** keeps the invariant, and the number of buckets an `int`. -/
theorem Inv.step (h : Inv s) (hint : s.reg.occBucket < 2 ^ 31) (hfits : Fits s e)
    (hstep : regStep s e = .next s') : Inv s' ∧ s'.reg.occBucket < 2 ^ 31 := by
  cases e with
  | pushBack v =>
    obtain ⟨s₁, hrun, hinv, -, -, hocc, -⟩ := h.pushBack hfits.1 v
    rw [hrun, Outcome.next_inj] at hstep
    subst hstep
    exact ⟨hinv, hocc ▸ hfits.2⟩
  | erase i j =>
    obtain ⟨t', hrun, hstep⟩ := Outcome.bind_eq_next.1 hstep
    obtain ⟨hok, hkey, hocc, hentries⟩ := h.ok.erase_next hrun
    obtain rfl := Outcome.next_inj.1 hstep
    refine ⟨?_, Nat.lt_of_le_of_lt hocc hint⟩
    rw [h.entries] at hentries
    split
    · rename_i heq
      rw [if_pos heq] at hentries
      exact ⟨hok, hentries, h.issued, fun k hk => by rw [hkey]; exact h.below k hk, h.keys⟩
    · rename_i hne
      rw [if_neg hne] at hentries
      exact h.of_filter hok hkey hentries
  | removeIfRange f =>
    obtain ⟨t', hrun, hok, hkey, hocc, hentries⟩ := h.ok.removeIfRange f
    rw [regStep, hrun, Outcome.next_bind] at hstep
    obtain rfl := Outcome.next_inj.1 hstep
    rw [h.entries] at hentries
    exact ⟨h.of_filter hok hkey hentries, Nat.lt_of_le_of_lt hocc hint⟩

theorem Inv.refines (h : Inv s) (hint : s.reg.occBucket < 2 ^ 31) : Refines s where
  iterate := by rw [h.ok.iterate_eq, h.entries]
  sorted := h.entries ▸ h.ok.sorted_entries
  size := by rw [← h.ok.length_entries, h.entries]
  issued := h.issued
  keys := h.keys
  find := fun k hk => by
    obtain ⟨o, hrun, hfound⟩ := h.ok.lookup_eq hk hint
    exact ⟨o, hrun, fun v => by rw [hfound, h.entries]⟩
  lower := fun k => by
    obtain ⟨it, hrun, -, -, hbelow, habove⟩ := h.ok.lowerBoundReg_eq k front_le_end
      (Nat.le_refl _) (Nat.lt_of_le_of_lt (Nat.sub_le _ _) hint)
    refine ⟨it, hrun, fun v => ?_⟩
    rw [← h.entries, h.ok.mem_entries]
    constructor
    · rintro ⟨i, hat⟩
      obtain rfl := h.ok.at_lowerBound hbelow habove (front_le hat) hat.1 hat
      exact hat
    · exact fun hat => ⟨it, hat⟩
  expand := by
    obtain ⟨⟨hok, hentries, -⟩, -⟩ := h.ok.expandIfNeccesary
    rw [hok.iterate_eq, hentries, h.entries]
  compact := by
    obtain ⟨t, hrun, hok, hentries, -⟩ := h.ok.compactIfNecessary
    exact ⟨t, hrun, by rw [hok.iterate_eq, hentries, h.entries]⟩
  shrink := by
    obtain ⟨t, hrun, hok, hentries, -⟩ := h.ok.shrinkIfNecessary
    exact ⟨t, hrun, by rw [hok.iterate_eq, hentries, h.entries]⟩

/-- **The registry is the map**, in every run whose pushes have room; and the operations go
on: a push gives a key larger than all before it, a range of iterators is erased, and so is
what meets a condition, whose keys are given back. -/
theorem regMap (s : RegState α) (h : (registry α).ReachedBy Fits s) :
    Refines s ∧
      (s.reg.Room → ∀ v, ∃ t key, s.reg.pushBack v = .next (t, key) ∧ ∀ k ∈ s.issued, k < key) ∧
      (∀ i j, s.reg.ValidRange i j → ∃ t, s.reg.erase i j = .next t) ∧
      ∀ f, ∃ t, s.reg.removeIfRange f =
        .next (t, (s.map.filter fun e => f e.2).map Prod.fst) := by
  obtain ⟨hinv, hint⟩ : Inv s ∧ s.reg.occBucket < 2 ^ 31 :=
    h.invariant (P := fun s => Inv s ∧ s.reg.occBucket < 2 ^ 31)
      ⟨Inv.init, show 0 < 2 ^ 31 by decide⟩ fun s e s' _ hinv hfits hstep =>
        hinv.1.step hinv.2 hfits hstep
  refine ⟨hinv.refines hint, fun hroom v => ?_, fun i j hr => hinv.ok.erase_exists hr,
    fun f => ?_⟩
  · obtain ⟨t', hrun, -⟩ := hinv.ok.pushBack hroom.1 v
    exact ⟨t', _, hrun, hinv.below⟩
  · obtain ⟨t', hrun, -⟩ := hinv.ok.removeIfRange f
    rw [hinv.entries] at hrun
    exact ⟨t', hrun⟩

/-- Three pushes, and an erasure of the first. -/
theorem regMap_three : ∃ s : RegState Nat, (registry Nat).ReachedBy Fits s ∧ Refines s ∧
    s.map = [(2, 8), (3, 9)] := by
  obtain ⟨s, hs, hmap⟩ := Machine.ReachedBy.exists_of_run (M := registry Nat) (C := Fits)
    [.pushBack 7, .pushBack 8, .pushBack 9, .erase 0 1]
    (fun s => decide (s.map = [(2, 8), (3, 9)])) (by decide)
  exact ⟨s, hs, (regMap s hs).1, of_decide_eq_true hmap⟩

/-! ## Too many buckets -/

/-- The registry has `n` entries, and no holes. -/
def Numbered (s : RegState Nat) (n : Nat) : Prop :=
  Inv s ∧ s.reg.occBucket = n ∧ s.reg.sz = n ∧ s.reg.keyId = n + 1

theorem Numbered.pushBack {s : RegState Nat} (h : Numbered s n) (hn : n + 1 < 2 ^ 32) :
    ∃ s', regStep s (.pushBack 0) = .next s' ∧ Numbered s' (n + 1) ∧ (n + 1, 0) ∈ s'.map := by
  obtain ⟨hinv, hocc, hsz, hkey⟩ := h
  obtain ⟨s', hstep, hinv', hmap, hkey', hocc', hsz'⟩ := hinv.pushBack (hkey ▸ hn) 0
  have hnext : s.reg.nextOcc = n := by
    rw [nextOcc, hocc, hsz, ite_self]
  refine ⟨s', hstep, ⟨hinv', by rw [hocc', hnext], by rw [hsz', hsz], by rw [hkey', hkey]⟩, ?_⟩
  rw [hmap, hkey]
  exact List.mem_append_right _ (List.mem_singleton.2 rfl)

theorem exists_numbered (hn : n < 2 ^ 32) :
    ∃ s, (registry Nat).Reachable s ∧ Numbered s n := by
  induction n with
  | zero => exact ⟨_, .init, Inv.init, rfl, rfl, rfl⟩
  | succ n ih =>
    obtain ⟨s, hs, hnum⟩ := ih (Nat.lt_of_succ_lt hn)
    obtain ⟨s', hstep, hnum', -⟩ := hnum.pushBack hn
    exact ⟨s', .step (e := .pushBack 0) hs trivial hstep, hnum'⟩

/-- With `2 ^ 31` buckets the search does not start. -/
theorem Ok.lookup_missed {t : AssocReg Nat} {v : Nat} (h : Ok t) (hocc : t.occBucket = 2 ^ 31)
    (hsz : t.sz = t.occBucket) (hkey : 0 < k) (hat : t.At i k v) (hi : 0 < i) :
    t.lookup k = .next none := by
  have hpos : 0 < t.occBucket := Nat.zero_lt_of_lt hat.1
  have hall : ∀ b ∈ t.used, b.hasValue = true :=
    List.countP_eq_length.1 (by rw [h.live, hsz, h.length_used])
  have hlive : (t.bucket 0).hasValue = true := hall _ (h.bucket_mem hpos)
  have hne : (t.bucket 0).key ≠ k := by
    intro heq
    obtain ⟨v₀, hat₀⟩ := h.exists_at hpos hlive
    rw [heq] at hat₀
    exact absurd (h.at_inj hat₀ hat) (Nat.ne_of_lt hi)
  have hfront : t.front = 0 := seek_of_live hpos hlive
  have hassert : decide (0 < t.occBucket ∧ t.occBucket - 0 < t.cap) = true :=
    decide_eq_true ⟨hpos, h.room⟩
  have hneg : ¬ toInt ((t.occBucket - 0 : Nat) : Int) > 0 := by
    rw [hocc]
    decide
  have hsearch : t.lowerBoundReg 0 t.occBucket k = .next 0 := by
    rw [lowerBoundReg, if_neg (Nat.ne_of_lt hpos), Outcome.assert_of hassert, Outcome.next_bind,
      lowerFrom, if_neg hneg]
    rfl
  have hfind : t.findReg 0 t.occBucket k = .next t.occBucket := by
    rw [findReg, Outcome.assert_of (decide_eq_true hkey), Outcome.next_bind,
      if_neg (Nat.ne_of_lt hpos), hsearch, Outcome.next_bind,
      Outcome.assert_of (decide_eq_true (Nat.zero_le _)), Outcome.next_bind,
      if_pos (.inr (.inr hne))]
    rfl
  rw [lookup, hfront, hfind, Outcome.next_bind, if_pos rfl]
  rfl

/-- **The last of `2 ^ 31` pushes is not found.** -/
theorem regMap_missed : ∃ s : RegState Nat, (registry Nat).Reachable s ∧ ¬ Refines s := by
  obtain ⟨s, hs, hnum⟩ := exists_numbered (show 2 ^ 31 - 1 < 2 ^ 32 by decide)
  obtain ⟨s', hstep, ⟨hinv, hocc, hsz, hid⟩, hmem⟩ := hnum.pushBack (by decide)
  refine ⟨s', .step (e := .pushBack 0) hs trivial hstep, fun href => ?_⟩
  obtain ⟨i, hat⟩ := hinv.ok.mem_entries.1 (hinv.entries ▸ hmem)
  have hi : 0 < i := by
    -- the first bucket is not the last one
    by_contra hle
    obtain rfl : i = 0 := by omega
    have hlt := hinv.ok.key_lt Nat.zero_lt_one (show 1 < s'.reg.occBucket by rw [hocc]; decide)
    have hbound := (hinv.ok.keys _ (hinv.ok.bucket_mem (show 1 < _ by rw [hocc]; decide))).2
    rw [hat.key_eq] at hlt
    omega
  obtain ⟨o, hrun, hfound⟩ := href.find _ (Nat.succ_pos _)
  rw [hinv.ok.lookup_missed hocc (hsz.trans hocc.symm) (Nat.succ_pos _) hat hi,
    Outcome.next_inj] at hrun
  rw [← hrun] at hfound
  cases (hfound 0).2 hmem

end AssocReg

end FlexRic
