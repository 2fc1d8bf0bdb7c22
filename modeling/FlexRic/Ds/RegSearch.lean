import FlexRic.Ds.AssocReg

/-!
# FlexRic.Ds.RegSearch

Going through a registry, and the search for a key.

* `seek` is the next bucket with a value: `front_eq` and `next_eq` go there, and
  `iterate_eq` goes through all the entries.
* `lowerFrom_eq`: the search ends at the first key that is not smaller, as long as the
  number of buckets is an `int`.
* `Ok.lowerBoundReg_eq`, `Ok.findReg_eq` and `Ok.lookup_eq` are what is found.
-/

namespace FlexRic

namespace AssocReg

variable {α : Type} {t : AssocReg α} {i j k n startIt endIt key : Nat} {v v' : α}

/-! ## Positions -/

theorem getElem_used (hi : i < t.used.length) : t.used[i] = t.bucket i := by
  have hlt : i < t.arr.length := Nat.lt_of_lt_of_le hi (List.length_take_le' _ _)
  rw [bucket, List.getD_eq_getElem _ _ hlt]
  exact List.getElem_take

theorem Ok.bucket_mem (h : Ok t) (hi : i < t.occBucket) : t.bucket i ∈ t.used := by
  have hlt : i < t.used.length := by rwa [h.length_used]
  rw [← getElem_used hlt]
  exact List.getElem_mem hlt

/-- Keys increase with the position. -/
theorem Ok.key_lt (h : Ok t) (hij : i < j) (hj : j < t.occBucket) :
    (t.bucket i).key < (t.bucket j).key := by
  have hj' : j < t.used.length := by rwa [h.length_used]
  have hi' : i < t.used.length := Nat.lt_trans hij hj'
  have hlt := List.pairwise_iff_getElem.1 h.sorted i j hi' hj' hij
  rwa [getElem_used hi', getElem_used hj'] at hlt

/-- The bucket at a position has the entry. -/
def At (t : AssocReg α) (i k : Nat) (v : α) : Prop :=
  i < t.occBucket ∧ entry (t.bucket i) = some (k, v)

theorem Ok.mem_entries (h : Ok t) : (k, v) ∈ t.entries ↔ ∃ i, t.At i k v := by
  rw [entries, List.mem_filterMap]
  constructor
  · rintro ⟨b, hb, he⟩
    obtain ⟨i, hi, rfl⟩ := List.getElem_of_mem hb
    rw [getElem_used hi] at he
    exact ⟨i, by rwa [h.length_used] at hi, he⟩
  · rintro ⟨i, hi, he⟩
    exact ⟨_, h.bucket_mem hi, he⟩

/-- A bucket with a value has an entry. -/
theorem Ok.exists_at (h : Ok t) (hi : i < t.occBucket) (hv : (t.bucket i).hasValue = true) :
    ∃ v, t.At i (t.bucket i).key v := by
  obtain ⟨v, hval⟩ := Option.isSome_iff_exists.1 (h.value _ (h.bucket_mem hi) hv)
  exact ⟨v, hi, entry_eq_some.2 ⟨hv, rfl, hval⟩⟩

theorem iteratorInDs_of (hi : i < t.occBucket) : t.iteratorInDs i = true := decide_eq_true hi

theorem At.hasValue (h : t.At i k v) : (t.bucket i).hasValue = true := (entry_eq_some.1 h.2).1

theorem At.key_eq (h : t.At i k v) : (t.bucket i).key = k := (entry_eq_some.1 h.2).2.1

theorem At.keyAt (h : t.At i k v) : t.keyAt i = .next k := by
  rw [AssocReg.keyAt, Outcome.assert_of (iteratorInDs_of h.1), Outcome.next_bind,
    Outcome.assert_of h.hasValue, Outcome.next_bind, h.key_eq]
  rfl

theorem At.valueAt (h : t.At i k v) : t.valueAt i = .next v := by
  rw [AssocReg.valueAt, Outcome.assert_of (iteratorInDs_of h.1), Outcome.next_bind,
    Outcome.assert_of h.hasValue, Outcome.next_bind, (entry_eq_some.1 h.2).2.2]
  rfl

/-- A key has one position. -/
theorem Ok.at_inj (h : Ok t) (hi : t.At i k v) (hj : t.At j k v') : i = j := by
  rcases Nat.lt_trichotomy i j with hlt | heq | hlt
  · have hsorted := h.key_lt hlt hj.1
    rw [hi.key_eq, hj.key_eq] at hsorted
    exact absurd hsorted (Nat.lt_irrefl _)
  · exact heq
  · have hsorted := h.key_lt hlt hi.1
    rw [hi.key_eq, hj.key_eq] at hsorted
    exact absurd hsorted (Nat.lt_irrefl _)

/-! ## Iteration -/

/-- The first bucket with a value from `i` on, or `end`. -/
def seek (t : AssocReg α) (i : Nat) : Nat := t.frontFrom (t.occBucket - i) i

theorem seek_end : t.seek t.occBucket = t.occBucket := by
  rw [seek, Nat.sub_self]
  rfl

theorem seek_of_live (hi : i < t.occBucket) (hv : (t.bucket i).hasValue = true) :
    t.seek i = i := by
  rw [seek, show t.occBucket - i = (t.occBucket - (i + 1)) + 1 by omega, frontFrom, if_pos hv]

theorem seek_of_hole (hi : i < t.occBucket) (hv : (t.bucket i).hasValue = false) :
    t.seek i = t.seek (i + 1) := by
  rw [seek, show t.occBucket - i = (t.occBucket - (i + 1)) + 1 by omega, frontFrom, hv,
    if_neg Bool.false_ne_true]
  rfl

theorem front_eq : t.front = t.seek 0 := rfl

/-- There are only holes before it. -/
theorem seek_spec (hi : i ≤ t.occBucket) : i ≤ t.seek i ∧ t.seek i ≤ t.occBucket ∧
    (t.seek i < t.occBucket → (t.bucket (t.seek i)).hasValue = true) ∧
    ∀ p, i ≤ p → p < t.seek i → (t.bucket p).hasValue = false := by
  induction hd : t.occBucket - i generalizing i with
  | zero =>
    obtain rfl : i = t.occBucket := by omega
    rw [seek_end]
    exact ⟨Nat.le_refl _, Nat.le_refl _, fun hlt => absurd hlt (Nat.lt_irrefl _), by omega⟩
  | succ d ih =>
    by_cases hv : (t.bucket i).hasValue = true
    · rw [seek_of_live (by omega) hv]
      exact ⟨Nat.le_refl _, hi, fun _ => hv, by omega⟩
    · have hv' : (t.bucket i).hasValue = false := Bool.eq_false_iff.2 hv
      rw [seek_of_hole (by omega) hv']
      obtain ⟨hle, hend, hlive, hholes⟩ := ih (i := i + 1) (by omega) (by omega)
      refine ⟨by omega, hend, hlive, fun p hp hlt => ?_⟩
      rcases Nat.lt_or_eq_of_le hp with hp | rfl
      · exact hholes p hp hlt
      · exact hv'

/-- A bucket with a value is not passed. -/
theorem seek_le (hi : i ≤ j) (hj : j ≤ t.occBucket)
    (hv : j < t.occBucket → (t.bucket j).hasValue = true) : t.seek i ≤ j := by
  obtain ⟨-, hend, -, hholes⟩ := seek_spec (t := t) (Nat.le_trans hi hj)
  by_contra hlt
  have hhole := hholes j hi (by omega)
  rw [hv (by omega)] at hhole
  cases hhole

theorem nextFrom_eq (hb : i + j ≤ t.occBucket) (hn : t.occBucket - (i + j) < n) :
    t.nextFrom i n j (i + j) = .next (t.seek (i + j)) := by
  induction n generalizing j with
  | zero => cases hn
  | succ n ih =>
    rw [nextFrom]
    rcases Nat.lt_or_eq_of_le hb with hlt | heq
    · by_cases hv : (t.bucket (i + j)).hasValue = true
      · rw [hv, if_neg (fun h => Bool.noConfusion h.2), seek_of_live hlt hv]
      · have hv' : (t.bucket (i + j)).hasValue = false := Bool.eq_false_iff.2 hv
        rw [if_pos ⟨Nat.ne_of_lt hlt, hv'⟩, seek_of_hole hlt hv']
        exact ih (by omega) (by omega)
    · rw [heq, if_neg (fun h => h.1 rfl), seek_end]

/-- **`assoc_reg_next`** goes to the next bucket with a value. -/
theorem next_eq (hi : i < t.occBucket) (hv : (t.bucket i).hasValue = true) :
    t.next i = .next (t.seek (i + 1)) := by
  rw [next, Outcome.assert_of hv, Outcome.next_bind, Outcome.assert_of (iteratorInDs_of hi),
    Outcome.next_bind, nextFrom]
  rcases Nat.lt_or_eq_of_le (show i + 1 ≤ t.occBucket from hi) with hlt | heq
  · by_cases hv' : (t.bucket (i + 1)).hasValue = true
    · rw [hv', if_neg (fun h => Bool.noConfusion h.2), seek_of_live hlt hv']
    · have hhole : (t.bucket (i + 1)).hasValue = false := Bool.eq_false_iff.2 hv'
      -- the second round looks at the same bucket
      rw [if_pos ⟨Nat.ne_of_lt hlt, hhole⟩]
      exact nextFrom_eq hi (by omega)
  · rw [heq, if_neg (fun h => h.1 rfl), seek_end]

/-- A step to the next bucket starts at one with a value, and seeks from the one behind it. -/
theorem next_inv (h : t.next i = .next j) :
    i < t.occBucket ∧ (t.bucket i).hasValue = true ∧ j = t.seek (i + 1) := by
  have hcopy := h
  rw [next] at hcopy
  obtain ⟨_, hlive, hcopy⟩ := Outcome.bind_eq_next.1 hcopy
  obtain ⟨_, hin, -⟩ := Outcome.bind_eq_next.1 hcopy
  have hv := Outcome.assert_eq_next.1 hlive
  have hi : i < t.occBucket := of_decide_eq_true (Outcome.assert_eq_next.1 hin)
  rw [next_eq hi hv, Outcome.next_inj] at h
  exact ⟨hi, hv, h.symm⟩

theorem Ok.iterateFrom_eq (h : Ok t) (hi : i ≤ t.occBucket) (hn : t.occBucket - i < n) :
    t.iterateFrom n (t.seek i) = .next ((t.used.drop i).filterMap entry) := by
  induction hd : t.occBucket - i generalizing i n with
  | zero =>
    obtain rfl : i = t.occBucket := by omega
    cases n with
    | zero => cases hn
    | succ n =>
      rw [seek_end, iterateFrom, if_pos rfl, ← h.length_used, List.drop_length]
      rfl
  | succ d ih =>
    have hlt : i < t.occBucket := by omega
    have hlt' : i < t.used.length := by rwa [h.length_used]
    rw [List.drop_eq_getElem_cons hlt', getElem_used hlt', List.filterMap_cons]
    by_cases hv : (t.bucket i).hasValue = true
    · obtain ⟨v, hat⟩ := h.exists_at hlt hv
      cases n with
      | zero => cases hn
      | succ n =>
        rw [seek_of_live hlt hv, iterateFrom, if_neg (Nat.ne_of_lt hlt), hat.keyAt,
          Outcome.next_bind, hat.valueAt, Outcome.next_bind, next_eq hlt hv, Outcome.next_bind,
          ih (i := i + 1) (by omega) (by omega) (by omega), hat.2]
        rfl
    · have hv' : (t.bucket i).hasValue = false := Bool.eq_false_iff.2 hv
      rw [seek_of_hole hlt hv', ih (i := i + 1) (by omega) (by omega) (by omega),
        entry_of_not hv']

/-- **Iteration** gives the entries. -/
theorem Ok.iterate_eq (h : Ok t) : t.iterate = .next t.entries := by
  rw [iterate, front_eq, h.iterateFrom_eq (Nat.zero_le _) (by omega)]
  rfl

/-! ## The search -/

/-- Where the search ends: keys are smaller before it, and not from there on. -/
def Splits (t : AssocReg α) (startIt n key r : Nat) : Prop :=
  (∀ p < r, (t.bucket (startIt + p)).key < key) ∧
    ∀ p, r ≤ p → p < n → key ≤ (t.bucket (startIt + p)).key

/-- **The search halves** what is between keys that are smaller and keys that are not. -/
theorem Ok.lowerFrom_eq (h : Ok t) (lower len fuel : Nat) (hend : startIt + n ≤ t.occBucket)
    (hlen : lower + len ≤ n) (hfuel : len < fuel)
    (hbelow : ∀ p < lower, (t.bucket (startIt + p)).key < key)
    (habove : ∀ p, lower + len ≤ p → p < n → key ≤ (t.bucket (startIt + p)).key) :
    ∃ r ≤ n, t.lowerFrom startIt key fuel lower len = .next r ∧ t.Splits startIt n key r := by
  induction fuel generalizing lower len with
  | zero => cases hfuel
  | succ fuel ih =>
    rw [lowerFrom]
    by_cases hpos : 0 < len
    · have hhalf : ((len : Int) / 2).toNat = len / 2 := rfl
      have hlt : len / 2 < len := Nat.div_lt_self hpos (by decide)
      rw [if_pos (Int.natCast_pos.2 hpos)]
      dsimp only
      rw [hhalf]
      split
      · rename_i hkey
        have hrest : (len : Int) - (len : Int) / 2 - 1 = ((len - len / 2 - 1 : Nat) : Int) := by
          omega
        rw [hrest]
        refine ih _ _ (by omega) (by omega) (fun p hp => ?_) fun p hp => habove p (by omega)
        rcases Nat.lt_or_eq_of_le (Nat.le_of_lt_succ hp) with hp | rfl
        · exact Nat.lt_trans (h.key_lt (by omega) (by omega)) hkey
        · exact hkey
      · rename_i hkey
        refine ih lower (len / 2) (by omega) (by omega) hbelow fun p hp hpn => ?_
        have hle : key ≤ (t.bucket (startIt + (lower + len / 2))).key := Nat.le_of_not_lt hkey
        rcases Nat.lt_or_eq_of_le hp with hp | rfl
        · exact Nat.le_trans hle (Nat.le_of_lt (h.key_lt (by omega) (by omega)))
        · exact hle
    · obtain rfl : len = 0 := by omega
      rw [if_neg (by decide)]
      exact ⟨lower, hlen, rfl, hbelow, habove⟩

/-- **`lower_bound_reg`** ends at the first key that is not smaller. -/
theorem Ok.lowerBoundReg_eq (h : Ok t) (key : Nat) (hle : startIt ≤ endIt)
    (hend : endIt ≤ t.occBucket) (hint : endIt - startIt < 2 ^ 31) :
    ∃ it, t.lowerBoundReg startIt endIt key = .next it ∧ startIt ≤ it ∧ it ≤ endIt ∧
      (∀ p, startIt ≤ p → p < it → (t.bucket p).key < key) ∧
      ∀ p, it ≤ p → p < endIt → key ≤ (t.bucket p).key := by
  rw [lowerBoundReg]
  split
  · rename_i heq
    exact ⟨endIt, rfl, hle, Nat.le_refl _, by omega, by omega⟩
  · rename_i hne
    have hroom := h.room
    have hassert : decide (startIt < endIt ∧ endIt - startIt < t.cap) = true :=
      decide_eq_true (by omega)
    obtain ⟨r, hr, hrun, hbelow, habove⟩ := h.lowerFrom_eq 0 (endIt - startIt) _
      (show startIt + (endIt - startIt) ≤ t.occBucket by omega) (Nat.le_of_eq (Nat.zero_add _)) (Nat.lt_succ_self _)
      (fun p hp => absurd hp (Nat.not_lt_zero p)) fun p hp hlt => by omega
    rw [Outcome.assert_of hassert, Outcome.next_bind, toInt_of_lt hint, hrun, Outcome.next_bind]
    refine ⟨startIt + r, rfl, by omega, by omega, fun p hp hlt => ?_, fun p hp hlt => ?_⟩
    · have hkey := hbelow (p - startIt) (by omega)
      rwa [Nat.add_sub_of_le hp] at hkey
    · have hkey := habove (p - startIt) (by omega) (by omega)
      rwa [Nat.add_sub_of_le (by omega)] at hkey

/-- An entry with the key is where the search ends. -/
theorem Ok.at_lowerBound (h : Ok t) {it : Nat}
    (hbelow : ∀ p, startIt ≤ p → p < it → (t.bucket p).key < key)
    (habove : ∀ p, it ≤ p → p < endIt → key ≤ (t.bucket p).key) (hi : startIt ≤ i)
    (hlt : i < endIt) (hat : t.At i key v) : i = it := by
  have hkey := hat.key_eq
  rcases Nat.lt_trichotomy i it with hi' | rfl | hi'
  · have hless := hbelow i hi hi'
    omega
  · rfl
  · have hmore := habove it (Nat.le_refl _) (Nat.lt_trans hi' hlt)
    have hsorted := h.key_lt hi' hat.1
    omega

/-- **`find_reg`** finds the entry of a key, or `end`. -/
theorem Ok.findReg_eq (h : Ok t) (hkey : 0 < key) (hle : startIt ≤ endIt)
    (hend : endIt ≤ t.occBucket) (hint : endIt - startIt < 2 ^ 31) :
    ∃ it, t.findReg startIt endIt key = .next it ∧
      ((startIt ≤ it ∧ it < endIt ∧ ∃ v, t.At it key v) ∨
        (it = endIt ∧ ∀ p v, startIt ≤ p → p < endIt → ¬ t.At p key v)) := by
  rw [findReg, Outcome.assert_of (decide_eq_true hkey), Outcome.next_bind]
  split
  · exact ⟨endIt, rfl, .inr ⟨rfl, by omega⟩⟩
  · obtain ⟨it, hrun, hit, hit', hbelow, habove⟩ := h.lowerBoundReg_eq key hle hend hint
    rw [hrun, Outcome.next_bind, Outcome.assert_of (decide_eq_true hit'), Outcome.next_bind]
    split
    · rename_i hnot
      refine ⟨endIt, rfl, .inr ⟨rfl, fun p v hp hlt hat => ?_⟩⟩
      obtain rfl := h.at_lowerBound hbelow habove hp hlt hat
      rcases hnot with hnot | hnot | hnot
      · exact Nat.ne_of_lt hlt hnot
      · rw [hat.hasValue] at hnot
        cases hnot
      · exact hnot hat.key_eq
    · rename_i hyes
      rw [not_or, not_or, Bool.not_eq_false, not_not] at hyes
      obtain ⟨hne, hv, heq⟩ := hyes
      have hlt : it < endIt := Nat.lt_of_le_of_ne hit' hne
      obtain ⟨v, hat⟩ := h.exists_at (Nat.lt_of_lt_of_le hlt hend) hv
      exact ⟨it, rfl, .inl ⟨hit, hlt, v, heq ▸ hat⟩⟩

/-- Entries before the front are not there. -/
theorem front_le (hat : t.At i k v) : t.front ≤ i :=
  seek_le (Nat.zero_le _) (Nat.le_of_lt hat.1) fun _ => hat.hasValue

theorem front_le_end : t.front ≤ t.occBucket := (seek_spec (Nat.zero_le _)).2.1

/-- The value of a key. -/
theorem Ok.lookup_eq (h : Ok t) (hkey : 0 < key) (hint : t.occBucket < 2 ^ 31) :
    ∃ o, t.lookup key = .next o ∧ ∀ v, o = some v ↔ (key, v) ∈ t.entries := by
  obtain ⟨it, hrun, ⟨-, hlt, v, hat⟩ | ⟨rfl, hnone⟩⟩ := h.findReg_eq hkey front_le_end
    (Nat.le_refl _) (Nat.lt_of_le_of_lt (Nat.sub_le _ _) hint)
  · refine ⟨some v, ?_, fun v' => ?_⟩
    · rw [lookup, hrun, Outcome.next_bind, if_neg (Nat.ne_of_lt hlt), hat.valueAt]
      rfl
    · rw [Option.some.injEq, h.mem_entries]
      constructor
      · rintro rfl
        exact ⟨it, hat⟩
      · rintro ⟨i, hat'⟩
        obtain rfl := h.at_inj hat hat'
        have hsame := hat.2.symm.trans hat'.2
        rw [Option.some.injEq, Prod.mk.injEq] at hsame
        exact hsame.2
  · refine ⟨none, ?_, fun v => ?_⟩
    · rw [lookup, hrun, Outcome.next_bind, if_pos rfl]
      rfl
    · rw [h.mem_entries]
      constructor
      · intro hno
        cases hno
      · rintro ⟨i, hat⟩
        exact absurd hat (hnone i v (front_le hat) hat.1)

end AssocReg

end FlexRic
