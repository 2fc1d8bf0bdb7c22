import FlexRic.Ds.HashTab

/-!
# FlexRic.Ds.HashTabMap

The hash table over whole runs of insertions and removals: it is a finite map.

* `Ok` has the counters and the capacity beside `Core`.  `expandOrShrink_eq`: a table is
  resized before each operation to one with the same entries that is half free.
* `Ok.insert`, `Ok.removeValue`, `Ok.value`: what the operations do to the entries.
* `MapState` has the map that the table stands for beside it; `hashTab_map` is for the
  runs whose `uint32_t` arithmetic does not wrap, `hashTab_full` is where it does.
-/

namespace FlexRic

namespace HashTab

variable {κ ν : Type} {K : HashFns κ} {t t' : HashTab κ ν} {i idx : Nat} {k k' : κ} {v v' : ν}

/-- The table between two operations. -/
structure Ok (K : HashFns κ) (t : HashTab κ ν) : Prop where
  core : Core K t
  live : t.arr.countP (·.hasValue) = t.sz
  pow : ∃ n, 4 ≤ n ∧ n ≤ 31 ∧ t.cap = 2 ^ n
  half : t.numDirty * 2 ≤ t.cap + 2

/-- The counters can be doubled, or need not be. -/
def Room (t : HashTab κ ν) : Prop := t.cap < 2 ^ 31 ∨ (t.numDirty ≤ 2 ^ 30 ∧ t.sz < 2 ^ 30)

instance (t : HashTab κ ν) : Decidable t.Room := inferInstanceAs (Decidable (_ ∨ _))

theorem Ok.cap_le (h : Ok K t) : t.cap ≤ 2 ^ 31 := by
  obtain ⟨n, -, hn, hcap⟩ := h.pow
  rw [hcap]
  exact Nat.pow_le_pow_right (by decide) hn

theorem Ok.le_cap (h : Ok K t) : 16 ≤ t.cap := by
  obtain ⟨n, hn, -, hcap⟩ := h.pow
  rw [hcap]
  exact Nat.pow_le_pow_right (n := 2) (by decide) hn

/-- **A slot is free.** -/
theorem Ok.numDirty_lt (h : Ok K t) : t.numDirty < t.cap := by
  have hhalf := h.half
  have hcap := h.le_cap
  omega

theorem Ok.sz_le (h : Ok K t) : t.sz ≤ t.numDirty := by
  rw [← h.live, ← h.core.dirty]
  refine List.countP_mono_left fun e he hv => ?_
  obtain ⟨i, hi, rfl⟩ := List.getElem_of_mem he
  rw [getElem_eq_slot] at hv ⊢
  exact (h.core.entry i hv).1

theorem Ok.init : Ok K (init : HashTab κ ν) where
  core := (core_empty (by decide)).1
  live := by
    rw [HashTab.init, List.countP_replicate]
    rfl
  pow := ⟨4, by decide, by decide, rfl⟩
  half := Nat.zero_le _

theorem u32_of_lt {n : Nat} (h : n < 2 ^ 32) : u32 n = n := Nat.mod_eq_of_lt h

/-- The table in an array of another capacity. -/
theorem Ok.rehash (hK : K.Lawful) (h : Ok K t) {cap : Nat}
    (hpow : ∃ n, 4 ≤ n ∧ n ≤ 31 ∧ cap = 2 ^ n) (hroom : t.sz * 2 ≤ cap) :
    ∃ t', t.rehashTable K cap = .next t' ∧ Ok K t' ∧ t'.numDirty * 2 ≤ t'.cap ∧ t'.sz = t.sz ∧
      ∀ k v, t'.Has k v ↔ t.Has k v := by
  obtain ⟨n, hn, hn', rfl⟩ := hpow
  obtain ⟨t', hrun, hcore, hcap, hsz, hnd, hlive, hhas⟩ := rehashTable_eq hK h.core
    (Nat.two_pow_pos n) (Nat.pow_le_pow_right (by decide) hn')
    (by rw [h.live]; exact Nat.le_trans (Nat.le_mul_of_pos_right _ (by decide)) hroom)
  have hhalf : t'.numDirty * 2 ≤ t'.cap := by rw [hnd, hcap, h.live]; exact hroom
  exact ⟨t', hrun, ⟨hcore, by rw [hlive, h.live, hsz], ⟨n, hn, hn', hcap⟩, by omega⟩, hhalf, hsz,
    hhas⟩

/-- **Before each operation** the table is made half free, with the same entries. -/
theorem Ok.expandOrShrink_eq (hK : K.Lawful) (h : Ok K t) (hroom : t.Room) :
    ∃ t', t.expandOrShrinkIfNeccesary K = .next t' ∧ Ok K t' ∧ t'.numDirty * 2 ≤ t'.cap ∧
      t'.sz = t.sz ∧ ∀ k v, t'.Has k v ↔ t.Has k v := by
  have hcap := h.cap_le
  have hlt := h.numDirty_lt
  have hsz := h.sz_le
  have hhalf := h.half
  have hresize : ∃ t', t.resize K = .next t' ∧ Ok K t' ∧ t'.numDirty * 2 ≤ t'.cap ∧
      t'.sz = t.sz ∧ ∀ k v, t'.Has k v ↔ t.Has k v := by
    obtain ⟨n, hn, hn', hpow⟩ := h.pow
    rw [resize, u32_of_lt (show t.numDirty * 2 < 2 ^ 32 by omega)]
    by_cases hexpand : t.numDirty * 2 > t.cap
    · have hcap' : t.cap < 2 ^ 31 := by
        rcases hroom with hroom | ⟨hroom, -⟩
        · exact hroom
        · omega
      have hn31 : n < 31 := by
        rw [hpow] at hcap'
        exact (Nat.pow_lt_pow_iff_right (by decide)).1 hcap'
      rw [if_pos hexpand, u32_of_lt (show t.cap * 2 < 2 ^ 32 by omega)]
      exact h.rehash hK ⟨n + 1, by omega, by omega, by rw [hpow, Nat.pow_succ]⟩ (by omega)
    · rw [if_neg hexpand]
      by_cases hshrink : u32 (t.sz * 4) < t.cap ∧ t.cap > MIN_SIZE_HT
      · have hsz4 : t.sz * 4 < 2 ^ 32 := by
          rcases hroom with hroom | ⟨-, hroom⟩ <;> omega
        rw [if_pos hshrink]
        rw [u32_of_lt hsz4, hpow] at hshrink
        have hn4 : 4 < n := by
          by_contra hle
          rw [show n = 4 by omega] at hshrink
          exact absurd hshrink.2 (by decide)
        have hhalfCap : t.cap / 2 = 2 ^ (n - 1) := by
          rw [hpow, show n = (n - 1) + 1 by omega, Nat.pow_succ]
          exact Nat.mul_div_cancel _ (by decide)
        have hdouble : 2 ^ n = 2 ^ (n - 1) * 2 := by
          rw [← Nat.pow_succ]
          congr 1
          omega
        exact h.rehash hK ⟨n - 1, by omega, by omega, hhalfCap⟩ (by
          have hlt4 := hshrink.1
          rw [hhalfCap]
          omega)
      · rw [if_neg hshrink]
        exact ⟨t, rfl, h, by omega, rfl, fun k v => Iff.rfl⟩
  obtain ⟨t', hrun, hok, hdirty, hsz', hhas⟩ := hresize
  have hcap' := hok.cap_le
  have hle := hok.sz_le
  have hassert₁ : decide (u32 (t'.sz * 2) ≤ t'.cap) = true := by
    rw [u32_of_lt (by omega)]
    exact decide_eq_true (by omega)
  have hassert₂ : decide (u32 (t'.numDirty * 2) ≤ t'.cap) = true := by
    rw [u32_of_lt (by omega)]
    exact decide_eq_true hdirty
  refine ⟨t', ?_, hok, hdirty, hsz', hhas⟩
  rw [expandOrShrinkIfNeccesary, hrun, Outcome.next_bind, Outcome.assert_of hassert₁,
    Outcome.next_bind, Outcome.assert_of hassert₂]
  rfl

/-! ## The operations -/

/-- The key is in the table, or it is not. -/
theorem present_or_absent (K : HashFns κ) (t : HashTab κ ν) (k : κ) :
    (∃ i k' v', t.Live i k' v' ∧ K.keyEq k k' = true) ∨
      ∀ i k' v', t.Live i k' v' → K.keyEq k k' = false := by
  by_cases h : ∃ i k' v', t.Live i k' v' ∧ K.keyEq k k' = true
  · exact .inl h
  · exact .inr fun i k' v' hlive => Bool.eq_false_iff.2 fun heq => h ⟨i, k', v', hlive, heq⟩

theorem Core.lt_cap (h : Core K t) (hlive : t.Live i k v) : i < t.cap := by
  obtain ⟨d, -, rfl, -⟩ := h.reach i k v hlive
  exact Nat.mod_lt _ h.pos

/-- Another value for the key of a slot. -/
theorem Core.replace (h : Core K t) (hK : K.Lawful) (hlive : t.Live i k' v')
    (heq : K.keyEq k k' = true) (v : ν) (sz : Nat) :
    Core K ⟨t.arr.set i ⟨some (k', v), K.hashFunc k, true, true⟩, sz, t.cap, t.numDirty⟩ ∧
      ∀ k₁ v₁, Has ⟨t.arr.set i ⟨some (k', v), K.hashFunc k, true, true⟩, sz, t.cap, t.numDirty⟩
        k₁ v₁ ↔ (k₁ = k' ∧ v₁ = v) ∨ (t.Has k₁ v₁ ∧ K.keyEq k k₁ = false) := by
  have hidx := h.lt_cap hlive
  have he : Entry (⟨some (k', v), K.hashFunc k, true, true⟩ : Slot κ ν) k' v := ⟨rfl, rfl⟩
  constructor
  · refine h.set hidx _ sz t.numDirty rfl ?_ (fun _ => ⟨k', v, rfl, hK.hash heq⟩) ?_ ?_
    · rw [(h.entry i hlive.1).1]
      rfl
    · intro k₁ v₁ he'
      obtain ⟨rfl, -⟩ := entry_inj he he'
      exact h.reach i _ v' hlive
    · intro k₁ v₁ j k₂ v₂ he' hold hne
      obtain ⟨rfl, -⟩ := entry_inj he he'
      exact ⟨Bool.eq_false_iff.2 fun heq' => hne (h.unique i j _ _ _ _ hlive hold heq').symm,
        Bool.eq_false_iff.2 fun heq' => hne (h.unique j i _ _ _ _ hold hlive heq')⟩
  · intro k₁ v₁
    constructor
    · rintro ⟨j, hj⟩
      rcases (live_set h hidx _ sz _).1 hj with ⟨-, he'⟩ | ⟨hne, hold⟩
      · obtain ⟨rfl, rfl⟩ := entry_inj he he'
        exact .inl ⟨rfl, rfl⟩
      · refine .inr ⟨⟨j, hold⟩, Bool.eq_false_iff.2 fun heq' => hne ?_⟩
        exact h.unique j i k₁ v₁ k' v' hold hlive (hK.trans (hK.symm heq') heq)
    · rintro (⟨rfl, rfl⟩ | ⟨⟨j, hold⟩, hne⟩)
      · exact ⟨i, (live_set h hidx _ sz _).2 (.inl ⟨rfl, he⟩)⟩
      · refine ⟨j, (live_set h hidx _ sz _).2 (.inr ⟨?_, hold⟩)⟩
        rintro rfl
        obtain ⟨rfl, -⟩ := entry_inj hlive hold
        rw [heq] at hne
        cases hne

/-- No entry in a slot any more, which stays dirty. -/
theorem Core.remove (h : Core K t) (hK : K.Lawful) (hlive : t.Live i k' v')
    (heq : K.keyEq k k' = true) (sz : Nat) :
    Core K ⟨t.arr.set i { t.slot i with hasValue := false }, sz, t.cap, t.numDirty⟩ ∧
      ∀ k₁ v₁, Has ⟨t.arr.set i { t.slot i with hasValue := false }, sz, t.cap, t.numDirty⟩
        k₁ v₁ ↔ t.Has k₁ v₁ ∧ K.keyEq k k₁ = false := by
  have hidx := h.lt_cap hlive
  have hdirty := (h.entry i hlive.1).1
  have hnot : ∀ k₁ v₁, ¬ Entry ({ t.slot i with hasValue := false } : Slot κ ν) k₁ v₁ :=
    fun _ _ he => Bool.noConfusion he.1
  constructor
  · refine h.set hidx _ sz t.numDirty hdirty ?_ (fun hv => Bool.noConfusion hv)
      (fun k₁ v₁ he => absurd he (hnot k₁ v₁)) fun k₁ v₁ _ _ _ he => absurd he (hnot k₁ v₁)
    rw [hdirty]
    rfl
  · intro k₁ v₁
    constructor
    · rintro ⟨j, hj⟩
      rcases (live_set h hidx _ sz _).1 hj with ⟨-, he⟩ | ⟨hne, hold⟩
      · exact absurd he (hnot k₁ v₁)
      · refine ⟨⟨j, hold⟩, Bool.eq_false_iff.2 fun heq' => hne ?_⟩
        exact h.unique j i k₁ v₁ k' v' hold hlive (hK.trans (hK.symm heq') heq)
    · rintro ⟨⟨j, hold⟩, hne⟩
      refine ⟨j, (live_set h hidx _ sz _).2 (.inr ⟨?_, hold⟩)⟩
      rintro rfl
      obtain ⟨rfl, -⟩ := entry_inj hlive hold
      rw [heq] at hne
      cases hne

/-- **Insert**: the entry is in the table, under an equal key that was there before or under
the new one, and the others are as they were. -/
theorem Ok.insert (hK : K.Lawful) (h : Ok K t) (hroom : t.Room) (k : κ) (v : ν) :
    ∃ t', t.insert K k v = .next t' ∧ Ok K t' ∧
      (t'.sz = t.sz + 1 ∨ ∃ k' v', t.Has k' v' ∧ K.keyEq k k' = true) ∧
      ∃ k₀, K.keyEq k k₀ = true ∧
        ∀ k₁ v₁, t'.Has k₁ v₁ ↔ (k₁ = k₀ ∧ v₁ = v) ∨ (t.Has k₁ v₁ ∧ K.keyEq k k₁ = false) := by
  obtain ⟨t₁, hrun, h₁, hdirty, hsz₁, hhas⟩ := h.expandOrShrink_eq hK hroom
  have hcap := h₁.cap_le
  have hlt := h₁.numDirty_lt
  have hsz := h₁.sz_le
  have hassert : decide (u32 (t₁.numDirty * 2) ≤ t₁.cap) = true := by
    rw [u32_of_lt (by omega)]
    exact decide_eq_true hdirty
  rcases present_or_absent K t₁ k with ⟨i, k', v', hlive, heq⟩ | habs
  · have hfind := h₁.core.findIdx_found hK hlt hlive heq
    have hidx := h₁.core.lt_cap hlive
    have hdirtyi := (h₁.core.entry i hlive.1).1
    have hholds : holds K k (t₁.slot i) = true := holds_iff.2 ⟨hlive.1, _, hlive.2, heq⟩
    obtain ⟨hcore, hhas'⟩ := h₁.core.replace hK hlive heq v t₁.sz
    have hput : t₁.put i ((t₁.slot i).kv.map fun kv => (kv.1, v)) (K.hashFunc k) t₁.sz =
        ⟨t₁.arr.set i ⟨some (k', v), K.hashFunc k, true, true⟩, t₁.sz, t₁.cap, t₁.numDirty⟩ := by
      rw [put, hlive.2, hdirtyi]
      rfl
    refine ⟨_, ?_, ⟨hcore, ?_, h₁.pow, h₁.half⟩,
      .inr ⟨k', v', (hhas k' v').1 ⟨i, hlive⟩, heq⟩, k', heq, fun k₁ v₁ => ?_⟩
    · rw [HashTab.insert, hrun, Outcome.next_bind, Outcome.assert_of hassert, Outcome.next_bind]
      dsimp only
      rw [hfind, Outcome.next_bind, Outcome.assert_of (decide_eq_true hidx), Outcome.next_bind,
        if_pos hlive.1, Outcome.assert_of hdirtyi, Outcome.next_bind, Outcome.assert_of hholds,
        Outcome.next_bind, hput]
      rfl
    · have hcount := countP_set_hasValue h₁.core hidx
        (⟨some (k', v), K.hashFunc k, true, true⟩ : Slot κ ν)
      rw [hlive.1, h₁.live] at hcount
      exact Nat.add_right_cancel hcount
    · rw [hhas', hhas]
  · obtain ⟨idx, hfind, hidx, hf⟩ := h₁.core.findIdx_absent hlt habs
    have hnone : (t₁.slot idx).hasValue = false := by
      by_contra hv
      have hdirty' := (h₁.core.entry idx (by simpa using hv)).1
      rw [hf.clean] at hdirty'
      cases hdirty'
    obtain ⟨hcore, hhas'⟩ := h₁.core.enter hK hidx hf
      (show Entry (⟨some (k, v), K.hashFunc k, true, true⟩ : Slot κ ν) k v from ⟨rfl, rfl⟩) rfl rfl
      (t₁.sz + 1)
    have hput : t₁.put idx (some (k, v)) (K.hashFunc k) (u32 (t₁.sz + 1)) =
        ⟨t₁.arr.set idx ⟨some (k, v), K.hashFunc k, true, true⟩, t₁.sz + 1, t₁.cap,
          t₁.numDirty + 1⟩ := by
      rw [put, if_pos hf.clean, u32_of_lt (by omega), u32_of_lt (by omega)]
    refine ⟨_, ?_, ⟨hcore, ?_, h₁.pow, ?_⟩, .inl (by rw [← hsz₁]), k, hK.refl k,
      fun k₁ v₁ => ?_⟩
    · rw [HashTab.insert, hrun, Outcome.next_bind, Outcome.assert_of hassert, Outcome.next_bind]
      dsimp only
      rw [hfind, Outcome.next_bind, Outcome.assert_of (decide_eq_true hidx), Outcome.next_bind,
        hnone, if_neg Bool.false_ne_true, hput]
      rfl
    · have hcount := countP_set_hasValue h₁.core hidx
        (⟨some (k, v), K.hashFunc k, true, true⟩ : Slot κ ν)
      rw [hnone, h₁.live] at hcount
      exact hcount
    · show (t₁.numDirty + 1) * 2 ≤ t₁.cap + 2
      omega
    · rw [hhas', hhas]
      refine or_congr_right (iff_self_and.2 fun hold => ?_)
      obtain ⟨i, hlive⟩ := (hhas k₁ v₁).2 hold
      exact habs i k₁ v₁ hlive

theorem Core.findEntry_eq (h : Core K t) (k : κ) :
    t.findEntry K k = do
      let idx ← t.findIdx K k (K.hashFunc k)
      return if (t.slot idx).isDirty = false then none else some idx := by
  have hpos : (t.cap != 0) = true := bne_iff_ne.2 (Nat.ne_of_gt h.pos)
  rw [findEntry, findIdx, Outcome.assert_of hpos, Outcome.next_bind, Outcome.next_bind]
  exact findEntryFrom_eq fun i hv => (h.entry i hv).1

theorem Core.findEntry_found (h : Core K t) (hK : K.Lawful) (hfree : t.numDirty < t.cap)
    (hlive : t.Live i k' v) (heq : K.keyEq k k' = true) : t.findEntry K k = .next (some i) := by
  have hdirty := (h.entry i hlive.1).1
  rw [h.findEntry_eq, h.findIdx_found hK hfree hlive heq, Outcome.next_bind, hdirty]
  rfl

theorem Core.findEntry_absent (h : Core K t) (hfree : t.numDirty < t.cap)
    (habs : ∀ i k' v, t.Live i k' v → K.keyEq k k' = false) : t.findEntry K k = .next none := by
  obtain ⟨idx, hfind, -, hf⟩ := h.findIdx_absent hfree habs
  rw [h.findEntry_eq, hfind, Outcome.next_bind, if_pos hf.clean]
  rfl

/-- **Remove**: the entry is not in the table any more, and the others are as they were. -/
theorem Ok.removeValue (hK : K.Lawful) (h : Ok K t) (hroom : t.Room) (k : κ) :
    ∃ t', t.removeValue K k = .next t' ∧ Ok K t' ∧
      ∀ k₁ v₁, t'.Has k₁ v₁ ↔ t.Has k₁ v₁ ∧ K.keyEq k k₁ = false := by
  obtain ⟨t₁, hrun, h₁, hdirty, -, hhas⟩ := h.expandOrShrink_eq hK hroom
  have hcap := h₁.cap_le
  have hlt := h₁.numDirty_lt
  have hsz := h₁.sz_le
  have hassert : decide (u32 (t₁.numDirty * 2) ≤ t₁.cap) = true := by
    rw [u32_of_lt (by omega)]
    exact decide_eq_true hdirty
  have hstart : t.removeValue K k = (t₁.findEntry K k >>= t₁.clear) := by
    rw [HashTab.removeValue, hrun, Outcome.next_bind, Outcome.assert_of hassert]
    rfl
  rcases present_or_absent K t₁ k with ⟨i, k', v', hlive, heq⟩ | habs
  · have hidx := h₁.core.lt_cap hlive
    have hdirtyi := (h₁.core.entry i hlive.1).1
    have hboth : ((t₁.slot i).isDirty && (t₁.slot i).hasValue) = true := by
      rw [hdirtyi, hlive.1]
      rfl
    have hcount := countP_set_hasValue h₁.core hidx { t₁.slot i with hasValue := false }
    rw [hlive.1, h₁.live] at hcount
    have hpos : 0 < t₁.sz := by
      have hone : (true : Bool).toNat = 1 ∧ (false : Bool).toNat = 0 := ⟨rfl, rfl⟩
      dsimp only at hcount
      omega
    have hsub : u32 (t₁.sz + (2 ^ 32 - 1)) = t₁.sz - 1 := by
      unfold u32
      omega
    obtain ⟨hcore, hhas'⟩ := h₁.core.remove hK hlive heq (t₁.sz - 1)
    refine ⟨_, ?_, ⟨hcore, ?_, h₁.pow, h₁.half⟩, fun k₁ v₁ => ?_⟩
    · rw [hstart, h₁.core.findEntry_found hK hlt hlive heq, Outcome.next_bind, clear,
        Outcome.assert_of hboth, Outcome.next_bind, hsub]
      rfl
    · show _ = t₁.sz - 1
      have hone : (true : Bool).toNat = 1 ∧ (false : Bool).toNat = 0 := ⟨rfl, rfl⟩
      dsimp only at hcount ⊢
      omega
    · rw [hhas', hhas]
  · refine ⟨t₁, ?_, h₁, fun k₁ v₁ => ?_⟩
    · rw [hstart, h₁.core.findEntry_absent hlt habs]
      rfl
    · rw [hhas]
      refine iff_self_and.2 fun hold => ?_
      obtain ⟨i, hlive⟩ := (hhas k₁ v₁).2 hold
      exact habs i k₁ v₁ hlive

/-! ## Runs -/

/-- The map has the value of the entry with an equal key. -/
def Maps (K : HashFns κ) (t : HashTab κ ν) (m : κ → Option ν) : Prop :=
  ∀ k v, m k = some v ↔ ∃ k', K.keyEq k k' = true ∧ t.Has k' v

/-- **Find**: the value that the map has. -/
theorem Ok.value (hK : K.Lawful) (h : Ok K t) {m : κ → Option ν} (hm : Maps K t m) (k : κ) :
    t.value K k = .next (m k) := by
  rcases present_or_absent K t k with ⟨i, k', v, hlive, heq⟩ | habs
  · have hsome : m k = some v := (hm k v).2 ⟨k', heq, i, hlive⟩
    rw [HashTab.value, h.core.findEntry_found hK h.numDirty_lt hlive heq, Outcome.next_bind, hsome]
    show Outcome.next ((t.slot i).kv.map Prod.snd) = _
    rw [hlive.2]
    rfl
  · have hnone : m k = none := by
      by_contra hne
      obtain ⟨v, hv⟩ := Option.ne_none_iff_exists'.1 hne
      obtain ⟨k', heq, i, hlive⟩ := (hm k v).1 hv
      rw [habs i k' v hlive] at heq
      cases heq
    rw [HashTab.value, h.core.findEntry_absent h.numDirty_lt habs, Outcome.next_bind, hnone]
    rfl

/-- A table, and the map it stands for. -/
structure MapState (κ ν : Type) where
  table : HashTab κ ν
  map : κ → Option ν

inductive MapEvent (κ ν : Type) where
  | insert (key : κ) (value : ν)
  | remove (key : κ)

def mapStep (K : HashFns κ) (s : MapState κ ν) : MapEvent κ ν → Outcome (MapState κ ν)
  | .insert key value => do
    let table ← s.table.insert K key value
    return { table, map := fun k => if K.keyEq k key then some value else s.map k }
  | .remove key => do
    let table ← s.table.removeValue K key
    return { table, map := fun k => if K.keyEq k key then none else s.map k }

def hashMap (K : HashFns κ) : Machine (MapState κ ν) (MapEvent κ ν) where
  init := { table := init, map := fun _ => none }
  step := mapStep K

/-- **What is asked of a table**: it is the map. -/
structure Refines (K : HashFns κ) (s : MapState κ ν) : Prop where
  /-- what is found of a key is its value -/
  find : ∀ k, s.table.value K k = .next (s.map k)
  /-- the size is the number of keys -/
  size : ∃ keys : List κ, keys.length = s.table.sz ∧
    keys.Pairwise (fun a b => K.keyEq a b = false) ∧
    ∀ k, (s.map k).isSome = true ↔ ∃ k' ∈ keys, K.keyEq k k' = true
  /-- and a slot is free -/
  free : ∃ i < s.table.cap, (s.table.slot i).isDirty = false

structure Inv (K : HashFns κ) (s : MapState κ ν) : Prop where
  ok : Ok K s.table
  maps : Maps K s.table s.map

variable {s s' : MapState κ ν} {e : MapEvent κ ν}

theorem Inv.insert (hK : K.Lawful) (h : Inv K s) (hroom : s.table.Room) (k : κ) (v : ν) :
    ∃ s', mapStep K s (.insert k v) = .next s' ∧ Inv K s' ∧
      (s'.table.sz = s.table.sz + 1 ∨ ∃ k' v', s.table.Has k' v' ∧ K.keyEq k k' = true) ∧
      ∀ k' v', s'.table.Has k' v' → K.keyEq k k' = true ∨ s.table.Has k' v' := by
  obtain ⟨t', hrun, hok, hsz, k₀, hk₀, hhas⟩ := h.ok.insert hK hroom k v
  refine ⟨⟨t', _⟩, by rw [mapStep, hrun, Outcome.next_bind]; rfl, ⟨hok, fun k₁ v₁ => ?_⟩, hsz,
    fun k' v' hold => ?_⟩
  · show (if K.keyEq k₁ k then some v else s.map k₁) = some v₁ ↔ _
    by_cases heq : K.keyEq k₁ k = true
    · rw [if_pos heq, Option.some.injEq]
      constructor
      · rintro rfl
        exact ⟨k₀, hK.trans heq hk₀, (hhas _ _).2 (.inl ⟨rfl, rfl⟩)⟩
      · rintro ⟨k', hkeq, hold⟩
        rcases (hhas k' v₁).1 hold with ⟨-, rfl⟩ | ⟨-, hne⟩
        · rfl
        · rw [hK.trans (hK.symm heq) hkeq] at hne
          cases hne
    · rw [if_neg heq, h.maps]
      constructor
      · rintro ⟨k', hkeq, hold⟩
        refine ⟨k', hkeq, (hhas k' v₁).2 (.inr ⟨hold, Bool.eq_false_iff.2 fun hne => heq ?_⟩)⟩
        exact hK.trans hkeq (hK.symm hne)
      · rintro ⟨k', hkeq, hold⟩
        rcases (hhas k' v₁).1 hold with ⟨rfl, -⟩ | ⟨hold, -⟩
        · exact absurd (hK.trans hkeq (hK.symm hk₀)) heq
        · exact ⟨k', hkeq, hold⟩
  · rcases (hhas k' v').1 hold with ⟨rfl, -⟩ | ⟨hold, -⟩
    · exact .inl hk₀
    · exact .inr hold

theorem Inv.remove (hK : K.Lawful) (h : Inv K s) (hroom : s.table.Room) (k : κ) :
    ∃ s', mapStep K s (.remove k) = .next s' ∧ Inv K s' := by
  obtain ⟨t', hrun, hok, hhas⟩ := h.ok.removeValue hK hroom k
  refine ⟨⟨t', _⟩, by rw [mapStep, hrun, Outcome.next_bind]; rfl, hok, fun k₁ v₁ => ?_⟩
  show (if K.keyEq k₁ k then none else s.map k₁) = some v₁ ↔ _
  by_cases heq : K.keyEq k₁ k = true
  · rw [if_pos heq]
    constructor
    · intro hnone
      cases hnone
    · rintro ⟨k', hkeq, hold⟩
      have hne := ((hhas k' v₁).1 hold).2
      rw [hK.trans (hK.symm heq) hkeq] at hne
      cases hne
  · rw [if_neg heq, h.maps]
    constructor
    · rintro ⟨k', hkeq, hold⟩
      refine ⟨k', hkeq, (hhas k' v₁).2 ⟨hold, Bool.eq_false_iff.2 fun hne => heq ?_⟩⟩
      exact hK.trans hkeq (hK.symm hne)
    · rintro ⟨k', hkeq, hold⟩
      exact ⟨k', hkeq, ((hhas k' v₁).1 hold).1⟩

theorem Inv.step (hK : K.Lawful) (h : Inv K s) (hroom : s.table.Room)
    (hstep : mapStep K s e = .next s') : Inv K s' := by
  cases e with
  | insert k v =>
    obtain ⟨s₁, hrun, hinv, -⟩ := h.insert hK hroom k v
    rw [hrun, Outcome.next_inj] at hstep
    exact hstep ▸ hinv
  | remove k =>
    obtain ⟨s₁, hrun, hinv⟩ := h.remove hK hroom k
    rw [hrun, Outcome.next_inj] at hstep
    exact hstep ▸ hinv

theorem Inv.init : Inv K (hashMap K : Machine (MapState κ ν) (MapEvent κ ν)).init where
  ok := Ok.init
  maps := fun k v => by
    constructor
    · intro hnone
      cases hnone
    · rintro ⟨k', -, hold⟩
      exact absurd hold ((core_empty (K := K) (s := 0) (by decide)).2 k' v)

/-- The key of a slot that has an entry. -/
def keyOf (e : Slot κ ν) : Option κ := if e.hasValue then e.kv.map Prod.fst else none

theorem keyOf_eq_some {e : Slot κ ν} : keyOf e = some k ↔ ∃ v, Entry e k v := by
  unfold keyOf
  split
  · rename_i hv
    rw [Option.map_eq_some_iff]
    constructor
    · rintro ⟨⟨k', v⟩, hkv, rfl⟩
      exact ⟨v, hv, hkv⟩
    · rintro ⟨v, -, hkv⟩
      exact ⟨(k, v), hkv, rfl⟩
  · rename_i hv
    constructor
    · intro hnone
      cases hnone
    · rintro ⟨v, hv', -⟩
      exact absurd hv' hv

/-- The keys of a table. -/
theorem Inv.exists_keys (h : Inv K s) : ∃ keys : List κ, keys.length = s.table.sz ∧
    keys.Pairwise (fun a b => K.keyEq a b = false) ∧
    ∀ k, (s.map k).isSome = true ↔ ∃ k' ∈ keys, K.keyEq k k' = true := by
  refine ⟨s.table.arr.filterMap keyOf, ?_, ?_, fun k => ?_⟩
  · rw [List.length_filterMap_eq_countP, ← h.ok.live]
    refine List.countP_congr fun e he => ?_
    obtain ⟨i, hi, rfl⟩ := List.getElem_of_mem he
    rw [getElem_eq_slot, Option.isSome_iff_exists]
    constructor
    · rintro ⟨k, hk⟩
      obtain ⟨v, hv⟩ := keyOf_eq_some.1 hk
      exact hv.1
    · intro hv
      obtain ⟨-, k, v, hkv, -⟩ := h.ok.core.entry i hv
      exact ⟨k, keyOf_eq_some.2 ⟨v, hv, hkv⟩⟩
  · refine List.pairwise_filterMap.2 (h.ok.core.pairwise.imp fun {a b} hab k hk k' hk' => ?_)
    obtain ⟨v, hv⟩ := keyOf_eq_some.1 hk
    obtain ⟨v', hv'⟩ := keyOf_eq_some.1 hk'
    exact (hab k v k' v' hv hv').1
  · rw [Option.isSome_iff_exists]
    constructor
    · rintro ⟨v, hv⟩
      obtain ⟨k', heq, hold⟩ := (h.maps k v).1 hv
      obtain ⟨e, he, hentry⟩ := has_iff_mem.1 hold
      exact ⟨k', List.mem_filterMap.2 ⟨e, he, keyOf_eq_some.2 ⟨v, hentry⟩⟩, heq⟩
    · rintro ⟨k', hmem, heq⟩
      obtain ⟨e, he, hkey⟩ := List.mem_filterMap.1 hmem
      obtain ⟨v, hentry⟩ := keyOf_eq_some.1 hkey
      exact ⟨v, (h.maps k v).2 ⟨k', heq, has_iff_mem.2 ⟨e, he, hentry⟩⟩⟩

theorem Inv.refines (hK : K.Lawful) (h : Inv K s) : Refines K s where
  find := h.ok.value hK h.maps
  size := h.exists_keys
  free := h.ok.core.exists_clean h.ok.numDirty_lt

/-! ## A full table -/

/-- There is no slot to put an entry into. -/
theorem rehashFrom_zero (hcap : t.cap = 0) (es : List (Slot κ ν)) :
    (rehashFrom K es t).Aborts ∨ rehashFrom K es t = .next t := by
  induction es with
  | nil => exact .inr rfl
  | cons e es ih =>
    rw [rehashFrom, rehashOne]
    by_cases hv : e.hasValue = true
    · rw [if_pos hv]
      refine .inl (Outcome.bind_aborts.2 (.inl (Outcome.assert_bind_aborts.2 ?_)))
      refine or_iff_not_imp_left.2 fun _ => ?_
      cases e.kv with
      | none => exact ⟨_, rfl⟩
      | some kv =>
        refine Outcome.bind_aborts.2 (.inr ⟨kv, rfl, Outcome.bind_aborts.2 (.inl ?_)⟩)
        exact Outcome.assert_bind_aborts.2 (.inl (bne_eq_false_iff_eq.2 hcap))
    · rw [if_neg hv, Outcome.next_bind]
      exact ih

/-- **Twice a counter is 0**: the table gets no slots, or half of those its entries need. -/
theorem Ok.expandOrShrink_full (hK : K.Lawful) (h : Ok K t) (hfull : ¬ t.Room) :
    (t.expandOrShrinkIfNeccesary K).Aborts ∨
      ∃ t', t.expandOrShrinkIfNeccesary K = .next t' ∧ t'.cap = 0 := by
  obtain ⟨hbig, hcount⟩ := not_or.1 hfull
  have hcap : t.cap = 2 ^ 31 := Nat.le_antisymm h.cap_le (Nat.le_of_not_lt hbig)
  have hlt := h.numDirty_lt
  have hsz := h.sz_le
  have hdirty := h.half
  rw [expandOrShrinkIfNeccesary, resize, u32_of_lt (show t.numDirty * 2 < 2 ^ 32 by omega)]
  by_cases hexpand : t.numDirty * 2 > t.cap
  · have hzero : u32 (t.cap * 2) = 0 := by
      rw [hcap]
      rfl
    rw [if_pos hexpand, hzero, rehashTable]
    have hempty : (⟨List.replicate 0 free, t.sz, 0, 0⟩ : HashTab κ ν).cap = 0 := rfl
    rcases rehashFrom_zero (K := K) hempty t.arr with habort | hrun
    · exact .inl (Outcome.bind_aborts.2 (.inl habort))
    · rw [hrun, Outcome.next_bind]
      by_cases hassert : decide (u32 (t.sz * 2) ≤ 0) = true
      · refine .inr ⟨⟨List.replicate 0 free, t.sz, 0, 0⟩, ?_, hempty⟩
        rw [Outcome.assert_of hassert]
        rfl
      · exact .inl (Outcome.assert_bind_aborts.2 (.inl (Bool.eq_false_iff.2 hassert)))
  · have hsz30 : t.sz = 2 ^ 30 := by omega
    have hshrink : u32 (t.sz * 4) < t.cap ∧ t.cap > MIN_SIZE_HT := by
      rw [hsz30, hcap]
      decide
    have hhalf : t.cap / 2 = 2 ^ 30 := by
      rw [hcap]
      rfl
    obtain ⟨t', hrun, -, hcap', hsz', -⟩ := rehashTable_eq hK h.core (show 0 < 2 ^ 30 by decide)
      (by decide) (by rw [h.live, hsz30])
    rw [if_neg hexpand, if_pos hshrink, hhalf, hrun, Outcome.next_bind, hsz', hcap', hsz30]
    exact .inl (Outcome.assert_bind_aborts.2 (.inl (by decide)))

/-- **No operation works on a full table.** -/
theorem Ok.aborts_of_full (hK : K.Lawful) (h : Ok K t) (hfull : ¬ t.Room) (k : κ) :
    (∀ v, (t.insert K k v).Aborts) ∧ (t.removeValue K k).Aborts := by
  rcases h.expandOrShrink_full hK hfull with habort | ⟨t', hrun, hcap⟩
  · exact ⟨fun v => Outcome.bind_aborts.2 (.inl habort), Outcome.bind_aborts.2 (.inl habort)⟩
  · have hmod : (t'.cap != 0) = false := bne_eq_false_iff_eq.2 hcap
    constructor
    · intro v
      rw [HashTab.insert, hrun, Outcome.next_bind]
      refine Outcome.assert_bind_aborts.2 (.inr (Outcome.bind_aborts.2 (.inl ?_)))
      exact Outcome.assert_bind_aborts.2 (.inl hmod)
    · rw [HashTab.removeValue, hrun, Outcome.next_bind]
      refine Outcome.assert_bind_aborts.2 (.inr (Outcome.bind_aborts.2 (.inl ?_)))
      exact Outcome.assert_bind_aborts.2 (.inl hmod)

theorem Inv.step_aborts (hK : K.Lawful) (h : Inv K s) (hfull : ¬ s.table.Room)
    (e : MapEvent κ ν) : (mapStep K s e).Aborts := by
  cases e with
  | insert k v => exact Outcome.bind_aborts.2 (.inl ((h.ok.aborts_of_full hK hfull k).1 v))
  | remove k => exact Outcome.bind_aborts.2 (.inl (h.ok.aborts_of_full hK hfull k).2)

theorem Inv.step_iff (hK : K.Lawful) (h : Inv K s) (e : MapEvent κ ν) :
    (∃ s', mapStep K s e = .next s') ↔ s.table.Room := by
  constructor
  · rintro ⟨s', hstep⟩
    by_contra hfull
    exact Outcome.not_aborts_of_next hstep (h.step_aborts hK hfull e)
  · intro hroom
    cases e with
    | insert k v =>
      obtain ⟨s', hstep, -⟩ := h.insert hK hroom k v
      exact ⟨s', hstep⟩
    | remove k =>
      obtain ⟨s', hstep, -⟩ := h.remove hK hroom k
      exact ⟨s', hstep⟩

/-- **The table is the map**, for every comparison and every hash that agrees with it, in
every run whose counters do not wrap; the next operation works as long as they do not. -/
theorem hashTab_map (K : HashFns κ) (hK : K.Lawful) (s : MapState κ ν)
    (h : (hashMap K).ReachedBy (fun s _ => s.table.Room) s) :
    Refines K s ∧ ∀ e, (∃ s', mapStep K s e = .next s') ↔ s.table.Room := by
  have hinv : Inv K s := h.invariant Inv.init fun s e s' _ hinv hroom hstep =>
    hinv.step hK hroom hstep
  exact ⟨hinv.refines hK, hinv.step_iff hK⟩

/-- Numbers, all with the hash 0. -/
def colliding : HashFns Nat := ⟨fun a b => a == b, fun _ => 0⟩

theorem colliding_lawful : colliding.Lawful where
  refl := fun a => beq_self_eq_true a
  symm := fun h => by rw [beq_iff_eq.1 h]; exact beq_self_eq_true _
  trans := fun h h' => by rw [beq_iff_eq.1 h, beq_iff_eq.1 h']; exact beq_self_eq_true _
  hash := fun _ => rfl

/-- Two keys that collide, of which the first is removed. -/
theorem hashTab_map_two : ∃ s, (hashMap colliding).ReachedBy (fun s _ => s.table.Room) s ∧
    Refines colliding s ∧ s.map 1 = none ∧ s.map 2 = some 8 := by
  obtain ⟨s, hs, hmap⟩ := Machine.ReachedBy.exists_of_run (M := (hashMap colliding : Machine (MapState Nat Nat) _))
    (C := fun s _ => s.table.Room) [.insert 1 7, .insert 2 8, .remove 1]
    (fun s => decide (s.map 1 = none ∧ s.map 2 = some 8)) (by decide)
  exact ⟨s, hs, (hashTab_map colliding colliding_lawful s hs).1, of_decide_eq_true hmap⟩

/-- The table has `n` entries, with keys below `n`. -/
def Numbered (s : MapState Nat Nat) (n : Nat) : Prop :=
  Inv colliding s ∧ s.table.sz = n ∧ ∀ k v, s.table.Has k v → k < n

theorem Numbered.insert {s : MapState Nat Nat} {n : Nat} (h : Numbered s n)
    (hroom : s.table.Room) :
    ∃ s', mapStep colliding s (.insert n 0) = .next s' ∧ Numbered s' (n + 1) := by
  obtain ⟨hinv, hsz, hkeys⟩ := h
  obtain ⟨s', hstep, hinv', hsz', hkeys'⟩ := hinv.insert colliding_lawful hroom n 0
  refine ⟨s', hstep, hinv', ?_, fun k v hold => ?_⟩
  · rcases hsz' with hsz' | ⟨k, v, hold, heq⟩
    · rw [hsz', hsz]
    · have hlt := hkeys k v hold
      have hn : n = k := beq_iff_eq.1 heq
      omega
  · rcases hkeys' k v hold with heq | hold
    · have hn : n = k := beq_iff_eq.1 heq
      omega
    · have hlt := hkeys k v hold
      omega

/-- A run either fills the table before the `n`-th entry, or gets it in. -/
theorem exists_numbered (n : Nat) : ∃ s, (hashMap colliding).Reachable s ∧
    (Numbered s n ∨ (Inv colliding s ∧ ¬ s.table.Room)) := by
  induction n with
  | zero =>
    refine ⟨_, .init, .inl ⟨Inv.init, rfl, fun k v hold => ?_⟩⟩
    exact absurd hold ((core_empty (K := colliding) (s := 0) (by decide)).2 k v)
  | succ n ih =>
    obtain ⟨s, hs, hnum | hfull⟩ := ih
    · by_cases hroom : s.table.Room
      · obtain ⟨s', hstep, hnum'⟩ := hnum.insert hroom
        exact ⟨s', .step (e := .insert n 0) hs trivial hstep, .inl hnum'⟩
      · exact ⟨s, hs, .inr ⟨hnum.1, hroom⟩⟩
    · exact ⟨s, hs, .inr hfull⟩

/-- **With `2 ^ 30` keys the next operation fails**, at the latest. -/
theorem hashTab_full : ∃ s : MapState Nat Nat, (hashMap colliding).Reachable s ∧
    ∀ e, (mapStep colliding s e).Aborts := by
  obtain ⟨s, hs, hnum | ⟨hinv, hfull⟩⟩ := exists_numbered (2 ^ 30)
  · refine ⟨s, hs, hnum.1.step_aborts colliding_lawful fun hroom => ?_⟩
    have hle := hnum.1.ok.sz_le
    have hhalf := hnum.1.ok.half
    have hsz := hnum.2.1
    rcases hroom with hroom | ⟨-, hroom⟩
    · -- the next smaller power of two is too small
      obtain ⟨n, -, -, hpow⟩ := hnum.1.ok.pow
      rw [hpow] at hroom
      have hn := (Nat.pow_lt_pow_iff_right (by decide)).1 hroom
      have hcap := Nat.pow_le_pow_right (n := 2) (by decide) (Nat.le_of_lt_succ hn)
      omega
    · omega
  · exact ⟨s, hs, hinv.step_aborts colliding_lawful hfull⟩

end HashTab

end FlexRic
