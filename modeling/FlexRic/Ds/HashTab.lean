import FlexRic.Lib.Machine
import FlexRic.Lib.Count
import Mathlib.Data.List.GetD
import Mathlib.Data.Nat.ModEq

/-!
# FlexRic.Ds.HashTab

The hash table with open addressing (`assoc_ht_open_t`): linear probing, slots that stay
dirty when their entry is removed, and a new array when too many are.

* Counters are `uint32_t`; `u32` is where their arithmetic wraps.
* `Core` is what probing rests on: an entry is reached over dirty slots only, and no two
  have the same key.  `findIdx_found` and `findIdx_absent` say where a probe ends.
* `Core.enter`, `Core.replace` and `Core.remove`: a new, another and no entry in a slot.
* `rehashTable_eq`: a new array has the same entries.
-/

namespace FlexRic

/-- What a table is made with: the comparison of keys, and their hash. -/
structure HashFns (κ : Type) where
  keyEq : κ → κ → Bool
  hashFunc : κ → UInt32

/-- Keys are compared by an equivalence, and equal ones have one hash. -/
structure HashFns.Lawful {κ : Type} (K : HashFns κ) : Prop where
  refl : ∀ a, K.keyEq a a = true
  symm : ∀ {a b}, K.keyEq a b = true → K.keyEq b a = true
  trans : ∀ {a b c}, K.keyEq a b = true → K.keyEq b c = true → K.keyEq a c = true
  hash : ∀ {a b}, K.keyEq a b = true → K.hashFunc a = K.hashFunc b

/-- `hentry_t`, with what its pointers point to. -/
structure Slot (κ ν : Type) where
  kv : Option (κ × ν)
  hash : UInt32
  isDirty : Bool
  hasValue : Bool

/-- `assoc_ht_open_t`, without the functions. -/
structure HashTab (κ ν : Type) where
  arr : List (Slot κ ν)
  sz : Nat
  cap : Nat
  numDirty : Nat

namespace HashTab

variable {κ ν : Type}

def MIN_SIZE_HT : Nat := 16

/-- The value a number has as a `uint32_t`. -/
def u32 (n : Nat) : Nat := n % 2 ^ 32

/-- A slot of zeroes. -/
def free : Slot κ ν := ⟨none, 0, false, false⟩

def slot (t : HashTab κ ν) (i : Nat) : Slot κ ν := t.arr.getD i free

/-- `entry->has_value == true && htab->key_eq(key, entry->kv.key) == true`. -/
def holds (K : HashFns κ) (key : κ) (e : Slot κ ν) : Bool :=
  e.hasValue && e.kv.any fun kv => K.keyEq key kv.1

/-- `idx += 1; if(idx == htab->cap) idx = 0;` -/
def nextIdx (t : HashTab κ ν) (idx : Nat) : Nat := if idx + 1 = t.cap then 0 else idx + 1

/-- The loop of `find_idx`, for `n` rounds; it comes round after `cap`. -/
def findFrom (K : HashFns κ) (t : HashTab κ ν) (key : κ) : Nat → Nat → Outcome Nat
  | 0, _ => .abort "Impossible code path. There must be a free entry."
  | n + 1, idx =>
    if (t.slot idx).isDirty = false then .next idx
    else if holds K key (t.slot idx) then .next idx
    else t.findFrom K key n (t.nextIdx idx)

/-- `find_idx`. -/
def findIdx (K : HashFns κ) (t : HashTab κ ν) (key : κ) (hash : UInt32) : Outcome Nat := do
  .assert (t.cap != 0) "hash % htab->cap"
  t.findFrom K key t.cap (hash.toNat % t.cap)

/-- The body of the loop of `rehash_table`. -/
def rehashOne (K : HashFns κ) (e : Slot κ ν) (t : HashTab κ ν) : Outcome (HashTab κ ν) :=
  if e.hasValue then do
    .assert e.isDirty "old_htab.arr[idx_old].is_dirty == true"
    let kv ← .expect e.kv "old_htab.arr[idx_old].kv.key"
    let idx ← t.findIdx K kv.1 e.hash
    return { t with arr := t.arr.set idx e, numDirty := u32 (t.numDirty + 1) }
  else .next t

def rehashFrom (K : HashFns κ) : List (Slot κ ν) → HashTab κ ν → Outcome (HashTab κ ν)
  | [], t => .next t
  | e :: es, t => do
    let t ← rehashOne K e t
    rehashFrom K es t

/-- `rehash_table`. -/
def rehashTable (K : HashFns κ) (t : HashTab κ ν) (cap : Nat) : Outcome (HashTab κ ν) :=
  rehashFrom K t.arr { t with arr := List.replicate cap free, cap, numDirty := 0 }

/-- The branches of `expand_or_shrink_if_neccesary`. -/
def resize (K : HashFns κ) (t : HashTab κ ν) : Outcome (HashTab κ ν) :=
  if u32 (t.numDirty * 2) > t.cap then t.rehashTable K (u32 (t.cap * 2))
  else if u32 (t.sz * 4) < t.cap ∧ t.cap > MIN_SIZE_HT then t.rehashTable K (t.cap / 2)
  else .next t

/-- `expand_or_shrink_if_neccesary`. -/
def expandOrShrinkIfNeccesary (K : HashFns κ) (t : HashTab κ ν) : Outcome (HashTab κ ν) := do
  let t ← t.resize K
  .assert (decide (u32 (t.sz * 2) ≤ t.cap)) "htab->sz * 2 <= htab->cap"
  .assert (decide (u32 (t.numDirty * 2) ≤ t.cap)) "htab->num_dirty * 2 <= htab->cap"
  return t

/-- `assoc_ht_open_init`. -/
def init : HashTab κ ν := ⟨List.replicate MIN_SIZE_HT free, 0, MIN_SIZE_HT, 0⟩

/-- What is written into the slot at `idx`, with the size. -/
def put (t : HashTab κ ν) (idx : Nat) (kv : Option (κ × ν)) (hash : UInt32) (sz : Nat) :
    HashTab κ ν where
  arr := t.arr.set idx ⟨kv, hash, true, true⟩
  sz := sz
  cap := t.cap
  numDirty := if (t.slot idx).isDirty = false then u32 (t.numDirty + 1) else t.numDirty

/-- `assoc_ht_open_insert`; a key that is there already stays as it is. -/
def insert (K : HashFns κ) (t : HashTab κ ν) (key : κ) (value : ν) : Outcome (HashTab κ ν) := do
  let t ← t.expandOrShrinkIfNeccesary K
  .assert (decide (u32 (t.numDirty * 2) ≤ t.cap)) "htab->num_dirty * 2 <= htab->cap"
  let hash := K.hashFunc key
  let idx ← t.findIdx K key hash
  .assert (decide (idx < t.cap)) "idx < htab->cap"
  if (t.slot idx).hasValue then
    .assert (t.slot idx).isDirty "entry->is_dirty == true"
    .assert (holds K key (t.slot idx)) "Different keys?"
    return t.put idx ((t.slot idx).kv.map fun kv => (kv.1, value)) hash t.sz
  else return t.put idx (some (key, value)) hash (u32 (t.sz + 1))

/-- The loop of `find_entry`, for `n` rounds. -/
def findEntryFrom (K : HashFns κ) (t : HashTab κ ν) (key : κ) : Nat → Nat → Outcome (Option Nat)
  | 0, _ => .abort "Impossible code path. There must be a free entry."
  | n + 1, idx =>
    if (t.slot idx).isDirty = false then do
      .assert (!(t.slot idx).hasValue) "entry->has_value == false"
      return none
    else if holds K key (t.slot idx) then .next (some idx)
    else t.findEntryFrom K key n (t.nextIdx idx)

/-- `find_entry`. -/
def findEntry (K : HashFns κ) (t : HashTab κ ν) (key : κ) : Outcome (Option Nat) := do
  .assert (t.cap != 0) "hash % htab->cap"
  t.findEntryFrom K key t.cap ((K.hashFunc key).toNat % t.cap)

/-- The rest of `remove_value_htab`, once it has the entry. -/
def clear (t : HashTab κ ν) : Option Nat → Outcome (HashTab κ ν)
  | none => .next t
  | some idx => do
    .assert ((t.slot idx).isDirty && (t.slot idx).hasValue)
      "entry->is_dirty == true && entry->has_value == true"
    return { t with
      arr := t.arr.set idx { t.slot idx with hasValue := false }
      sz := u32 (t.sz + (2 ^ 32 - 1)) }

/-- `remove_value_htab`. -/
def removeValue (K : HashFns κ) (t : HashTab κ ν) (key : κ) : Outcome (HashTab κ ν) := do
  let t ← t.expandOrShrinkIfNeccesary K
  .assert (decide (u32 (t.numDirty * 2) ≤ t.cap)) "htab->num_dirty * 2 <= htab->cap"
  let entry ← t.findEntry K key
  t.clear entry

/-- `assoc_ht_open_value`. -/
def value (K : HashFns κ) (t : HashTab κ ν) (key : κ) : Outcome (Option ν) := do
  let entry ← t.findEntry K key
  return entry.bind fun idx => (t.slot idx).kv.map Prod.snd

/-! ## Slots and entries -/

variable {K : HashFns κ} {t t' : HashTab κ ν} {e : Slot κ ν} {i j idx n s d : Nat} {k k' : κ}
  {v v' : ν}

/-- The slot has the entry. -/
def Entry (e : Slot κ ν) (k : κ) (v : ν) : Prop := e.hasValue = true ∧ e.kv = some (k, v)

/-- The table has the entry, at position `i`. -/
def Live (t : HashTab κ ν) (i : Nat) (k : κ) (v : ν) : Prop := Entry (t.slot i) k v

/-- The position a probe for the key starts at. -/
def start (K : HashFns κ) (cap : Nat) (k : κ) : Nat := (K.hashFunc k).toNat % cap

/-- What probing rests on. -/
structure Core (K : HashFns κ) (t : HashTab κ ν) : Prop where
  length : t.arr.length = t.cap
  pos : 0 < t.cap
  dirty : t.arr.countP (·.isDirty) = t.numDirty
  /-- a slot with an entry is dirty, and has the hash of the key -/
  entry : ∀ i, (t.slot i).hasValue = true →
    (t.slot i).isDirty = true ∧ ∃ k v, (t.slot i).kv = some (k, v) ∧ (t.slot i).hash = K.hashFunc k
  /-- an entry is reached over dirty slots -/
  reach : ∀ i k v, t.Live i k v → ∃ d, d < t.cap ∧ i = (start K t.cap k + d) % t.cap ∧
    ∀ d' < d, (t.slot ((start K t.cap k + d') % t.cap)).isDirty = true
  /-- keys are different -/
  unique : ∀ i j k v k' v', t.Live i k v → t.Live j k' v' → K.keyEq k k' = true → i = j

theorem entry_inj (h : Entry e k v) (h' : Entry e k' v') : k = k' ∧ v = v' := by
  have heq := h.2.symm.trans h'.2
  rw [Option.some.injEq, Prod.mk.injEq] at heq
  exact heq

theorem holds_iff : holds K k e = true ↔ e.hasValue = true ∧
    ∃ kv, e.kv = some kv ∧ K.keyEq k kv.1 = true := by
  rw [holds, Bool.and_eq_true, Option.any_eq_true]

/-- A slot after one was written. -/
theorem getD_set (l : List (Slot κ ν)) (h : idx < l.length) (i : Nat) :
    (l.set idx e).getD i free = if i = idx then e else l.getD i free := by
  rw [List.getD_eq_getElem?_getD, List.getElem?_set, List.getD_eq_getElem?_getD]
  by_cases hi : idx = i
  · subst hi
    rw [if_pos rfl, if_pos h, if_pos rfl]
    rfl
  · rw [if_neg hi, if_neg (Ne.symm hi)]

theorem getElem_eq_slot (h : i < t.arr.length) : t.arr[i] = t.slot i := by
  rw [slot, List.getD_eq_getElem _ _ h]

theorem getElem?_eq_slot (h : i < t.arr.length) : t.arr[i]? = some (t.slot i) := by
  rw [List.getElem?_eq_getElem h, getElem_eq_slot]

/-! ## Probing -/

/-- A probe for the key ends at the slot. -/
def Stops (K : HashFns κ) (k : κ) (e : Slot κ ν) : Prop :=
  e.isDirty = false ∨ holds K k e = true

theorem nextIdx_eq (hs : s < t.cap) : t.nextIdx s = (s + 1) % t.cap := by
  unfold nextIdx
  split
  · rename_i heq
    rw [heq, Nat.mod_self]
  · rw [Nat.mod_eq_of_lt (by omega)]

/-- **A probe ends at the first slot it can.** -/
theorem findFrom_eq (hs : s < t.cap) (hd : ∃ d < n, Stops K k (t.slot ((s + d) % t.cap))) :
    ∃ d, t.findFrom K k n s = .next ((s + d) % t.cap) ∧ d < n ∧
      Stops K k (t.slot ((s + d) % t.cap)) ∧
      ∀ d' < d, ¬ Stops K k (t.slot ((s + d') % t.cap)) := by
  induction n generalizing s with
  | zero =>
    obtain ⟨d, hd, -⟩ := hd
    cases hd
  | succ n ih =>
    have hself : (s + 0) % t.cap = s := Nat.mod_eq_of_lt hs
    rw [findFrom]
    by_cases hstop : Stops K k (t.slot s)
    · refine ⟨0, ?_, Nat.succ_pos n, by rwa [hself], fun d' hd' => absurd hd' (Nat.not_lt_zero _)⟩
      rw [hself]
      rcases hstop with hclean | hholds
      · rw [if_pos hclean]
      · rw [hholds, if_pos rfl, ite_self]
    · obtain ⟨hdirty, hnot⟩ := not_or.1 hstop
      have hshift : ∀ d, ((s + 1) % t.cap + d) % t.cap = (s + (d + 1)) % t.cap := by
        intro d
        rw [Nat.mod_add_mod, Nat.add_assoc, Nat.add_comm 1 d]
      have hlt : (s + 1) % t.cap < t.cap := Nat.mod_lt _ (Nat.zero_lt_of_lt hs)
      obtain ⟨d, hrun, hdn, hstops, hfirst⟩ := ih hlt (by
        obtain ⟨d, hd, hstops⟩ := hd
        cases d with
        | zero =>
          rw [hself] at hstops
          exact absurd hstops hstop
        | succ d =>
          refine ⟨d, Nat.lt_of_succ_lt_succ hd, ?_⟩
          rwa [hshift])
      rw [hshift] at hrun hstops
      refine ⟨d + 1, ?_, Nat.succ_lt_succ hdn, hstops, fun d' hd' => ?_⟩
      · rw [if_neg hdirty, if_neg hnot, nextIdx_eq hs, hrun]
      · cases d' with
        | zero => rwa [hself]
        | succ d' =>
          have hnot' := hfirst d' (Nat.lt_of_succ_lt_succ hd')
          rwa [hshift] at hnot'

/-- `find_entry` goes the same way. -/
theorem findEntryFrom_eq (h : ∀ i, (t.slot i).hasValue = true → (t.slot i).isDirty = true) :
    t.findEntryFrom K k n s = do
      let idx ← t.findFrom K k n s
      return if (t.slot idx).isDirty = false then none else some idx := by
  induction n generalizing s with
  | zero => rfl
  | succ n ih =>
    rw [findEntryFrom, findFrom]
    by_cases hclean : (t.slot s).isDirty = false
    · have hnone : (t.slot s).hasValue = false := by
        by_contra hv
        have hdirty := h s (by simpa using hv)
        rw [hclean] at hdirty
        cases hdirty
      rw [if_pos hclean, if_pos hclean, hnone, Outcome.next_bind, if_pos hclean]
      rfl
    · rw [if_neg hclean, if_neg hclean]
      by_cases hholds : holds K k (t.slot s) = true
      · rw [if_pos hholds, if_pos hholds, Outcome.next_bind, if_neg hclean]
        rfl
      · rw [if_neg hholds, if_neg hholds, ih]

/-- A slot is free as long as not all of them are counted. -/
theorem Core.exists_clean (h : Core K t) (hfree : t.numDirty < t.cap) :
    ∃ i < t.cap, (t.slot i).isDirty = false := by
  have hclean : ∃ e ∈ t.arr, ¬ e.isDirty = true := by
    by_contra hall
    push Not at hall
    have hcount := List.countP_eq_length.2 hall
    rw [h.dirty, h.length] at hcount
    omega
  obtain ⟨e, he, hdirty⟩ := hclean
  obtain ⟨i, hi, rfl⟩ := List.getElem_of_mem he
  rw [getElem_eq_slot] at hdirty
  exact ⟨i, h.length ▸ hi, Bool.eq_false_iff.2 hdirty⟩

/-- **A probe ends** there at the latest. -/
theorem Core.exists_stop (h : Core K t) (hfree : t.numDirty < t.cap) (hs : s < t.cap) (k : κ) :
    ∃ d < t.cap, Stops K k (t.slot ((s + d) % t.cap)) := by
  obtain ⟨i, hi, hclean⟩ := h.exists_clean hfree
  refine ⟨(i + t.cap - s) % t.cap, Nat.mod_lt _ h.pos, .inl ?_⟩
  have hmod : (s + (i + t.cap - s) % t.cap) % t.cap = i := by
    rw [Nat.add_mod_mod, show s + (i + t.cap - s) = i + t.cap by omega, Nat.add_mod_right,
      Nat.mod_eq_of_lt hi]
  rwa [hmod]

theorem Core.start_lt (h : Core K t) (k : κ) : start K t.cap k < t.cap := Nat.mod_lt _ h.pos

theorem Core.findIdx_eq (h : Core K t) (k : κ) :
    t.findIdx K k (K.hashFunc k) = t.findFrom K k t.cap (start K t.cap k) := by
  have hpos : (t.cap != 0) = true := bne_iff_ne.2 (Nat.ne_of_gt h.pos)
  rw [findIdx, Outcome.assert_of hpos, Outcome.next_bind]
  rfl

/-- What a key that is not in the table is put into. -/
structure Fresh (K : HashFns κ) (t : HashTab κ ν) (k : κ) (idx : Nat) : Prop where
  clean : (t.slot idx).isDirty = false
  reach : ∃ d, d < t.cap ∧ idx = (start K t.cap k + d) % t.cap ∧
    ∀ d' < d, (t.slot ((start K t.cap k + d') % t.cap)).isDirty = true
  absent : ∀ i k' v, t.Live i k' v → K.keyEq k k' = false

/-- **A key that is in the table is found**, also behind slots of removed entries. -/
theorem Core.findIdx_found (h : Core K t) (hK : K.Lawful) (hfree : t.numDirty < t.cap)
    (hlive : t.Live i k' v) (heq : K.keyEq k k' = true) :
    t.findIdx K k (K.hashFunc k) = .next i := by
  have hsame : start K t.cap k' = start K t.cap k := by rw [start, start, hK.hash heq]
  obtain ⟨d₀, -, hi, hdirty⟩ := h.reach i k' v hlive
  rw [hsame] at hi hdirty
  obtain ⟨d, hrun, -, hstops, hfirst⟩ :=
    findFrom_eq (h.start_lt k) (h.exists_stop hfree (h.start_lt k) k)
  have hstop₀ : Stops K k (t.slot ((start K t.cap k + d₀) % t.cap)) := by
    rw [← hi]
    exact .inr (holds_iff.2 ⟨hlive.1, _, hlive.2, heq⟩)
  have hle : d ≤ d₀ := by
    by_contra hlt
    exact hfirst d₀ (by omega) hstop₀
  rw [h.findIdx_eq, hrun]
  congr 1
  rcases Nat.lt_or_eq_of_le hle with hlt | rfl
  · -- what was found before it would have the same key
    rcases hstops with hclean | hholds
    · rw [hdirty d hlt] at hclean
      cases hclean
    · obtain ⟨hv, kv, hkv, hkeq⟩ := holds_iff.1 hholds
      exact h.unique _ i kv.1 kv.2 k' v ⟨hv, hkv⟩ hlive (hK.trans (hK.symm hkeq) heq)
  · exact hi.symm

/-- **Any other key leads to a free slot.** -/
theorem Core.findIdx_absent (h : Core K t) (hfree : t.numDirty < t.cap)
    (habs : ∀ i k' v, t.Live i k' v → K.keyEq k k' = false) :
    ∃ idx, t.findIdx K k (K.hashFunc k) = .next idx ∧ idx < t.cap ∧ Fresh K t k idx := by
  obtain ⟨d, hrun, hd, hstops, hfirst⟩ :=
    findFrom_eq (h.start_lt k) (h.exists_stop hfree (h.start_lt k) k)
  refine ⟨_, by rw [h.findIdx_eq, hrun], Nat.mod_lt _ h.pos, ?_, ⟨d, hd, rfl, fun d' hd' => ?_⟩,
    habs⟩
  · rcases hstops with hclean | hholds
    · exact hclean
    · obtain ⟨hv, kv, hkv, hkeq⟩ := holds_iff.1 hholds
      rw [habs _ kv.1 kv.2 ⟨hv, hkv⟩] at hkeq
      cases hkeq
  · have hnot := (not_or.1 (hfirst d' hd')).1
    simpa using hnot

/-! ## Writing a slot -/

/-- A slot that is not dirty has no entry. -/
theorem Core.not_live (h : Core K t) (hclean : (t.slot i).isDirty = false) : ¬ t.Live i k v := by
  intro hlive
  have hdirty := (h.entry i hlive.1).1
  rw [hclean] at hdirty
  cases hdirty

/-- The table with another slot at `idx`; slots stay dirty. -/
theorem slot_set (h : Core K t) (hidx : idx < t.cap) (e : Slot κ ν) (sz numDirty : Nat) (i : Nat) :
    slot ⟨t.arr.set idx e, sz, t.cap, numDirty⟩ i = if i = idx then e else t.slot i :=
  getD_set t.arr (by rw [h.length]; exact hidx) i

theorem live_set (h : Core K t) (hidx : idx < t.cap) (e : Slot κ ν) (sz numDirty : Nat) :
    Live ⟨t.arr.set idx e, sz, t.cap, numDirty⟩ i k v ↔
      (i = idx ∧ Entry e k v) ∨ (i ≠ idx ∧ t.Live i k v) := by
  rw [Live, slot_set h hidx, Live]
  by_cases hi : i = idx
  · rw [if_pos hi]
    simp [hi]
  · rw [if_neg hi]
    simp [hi]

/-- How many slots have an entry. -/
theorem countP_set_hasValue (h : Core K t) (hidx : idx < t.cap) (e : Slot κ ν) :
    (t.arr.set idx e).countP (·.hasValue) + (t.slot idx).hasValue.toNat =
      t.arr.countP (·.hasValue) + e.hasValue.toNat :=
  countP_set_add (p := fun e : Slot κ ν => e.hasValue)
    (getElem?_eq_slot (by rw [h.length]; exact hidx))

/-- **A slot is written** with an entry that is reached over dirty slots, and has no other's
key. -/
theorem Core.set (h : Core K t) (hidx : idx < t.cap) (e : Slot κ ν) (sz numDirty : Nat)
    (hdirty : e.isDirty = true)
    (hcount : numDirty + (t.slot idx).isDirty.toNat = t.numDirty + 1)
    (hhash : e.hasValue = true → ∃ k v, e.kv = some (k, v) ∧ e.hash = K.hashFunc k)
    (hreach : ∀ k v, Entry e k v → ∃ d, d < t.cap ∧ idx = (start K t.cap k + d) % t.cap ∧
      ∀ d' < d, (t.slot ((start K t.cap k + d') % t.cap)).isDirty = true)
    (hunique : ∀ k v i k' v', Entry e k v → t.Live i k' v' → i ≠ idx →
      K.keyEq k k' = false ∧ K.keyEq k' k = false) :
    Core K ⟨t.arr.set idx e, sz, t.cap, numDirty⟩ where
  length := by rw [List.length_set]; exact h.length
  pos := h.pos
  dirty := by
    have hget : t.arr[idx]? = some (t.slot idx) := getElem?_eq_slot (by rw [h.length]; exact hidx)
    have hset := countP_set_add (p := fun e : Slot κ ν => e.isDirty) (b := e) hget
    have hold := h.dirty
    have hone : (true : Bool).toNat = 1 := rfl
    dsimp only at hset ⊢
    rw [hdirty, hone] at hset
    omega
  entry := fun i => by
    rw [slot_set h hidx]
    split
    · exact fun hv => ⟨hdirty, hhash hv⟩
    · exact h.entry i
  reach := fun i k v hlive => by
    have hmono : ∀ d : Nat, (t.slot ((start K t.cap k + d) % t.cap)).isDirty = true →
        (slot ⟨t.arr.set idx e, sz, t.cap, numDirty⟩ ((start K t.cap k + d) % t.cap)).isDirty =
          true := by
      intro d hd
      rw [slot_set h hidx]
      split
      · exact hdirty
      · exact hd
    rcases (live_set h hidx e sz numDirty).1 hlive with ⟨rfl, he⟩ | ⟨-, hold⟩
    · obtain ⟨d, hd, hi, hall⟩ := hreach k v he
      exact ⟨d, hd, hi, fun d' hd' => hmono d' (hall d' hd')⟩
    · obtain ⟨d, hd, hi, hall⟩ := h.reach i k v hold
      exact ⟨d, hd, hi, fun d' hd' => hmono d' (hall d' hd')⟩
  unique := fun i j k v k' v' hi hj heq => by
    rcases (live_set h hidx e sz numDirty).1 hi with ⟨rfl, he⟩ | ⟨hne, hold⟩
    · rcases (live_set h hidx e sz numDirty).1 hj with ⟨rfl, -⟩ | ⟨hne', hold'⟩
      · rfl
      · rw [(hunique k v j k' v' he hold' hne').1] at heq
        cases heq
    · rcases (live_set h hidx e sz numDirty).1 hj with ⟨rfl, he'⟩ | ⟨-, hold'⟩
      · rw [(hunique k' v' i k v he' hold hne).2] at heq
        cases heq
      · exact h.unique i j k v k' v' hold hold' heq

/-- The table has the entry. -/
def Has (t : HashTab κ ν) (k : κ) (v : ν) : Prop := ∃ i, t.Live i k v

/-- **A new key** is put where its probe ended. -/
theorem Core.enter (h : Core K t) (hK : K.Lawful) (hidx : idx < t.cap) (hf : Fresh K t k idx)
    (he : Entry e k v) (hdirty : e.isDirty = true) (hhash : e.hash = K.hashFunc k) (sz : Nat) :
    Core K ⟨t.arr.set idx e, sz, t.cap, t.numDirty + 1⟩ ∧
      ∀ k' v', Has ⟨t.arr.set idx e, sz, t.cap, t.numDirty + 1⟩ k' v' ↔
        (k' = k ∧ v' = v) ∨ t.Has k' v' := by
  constructor
  · refine h.set hidx e sz (t.numDirty + 1) hdirty ?_ (fun _ => ⟨k, v, he.2, hhash⟩) ?_ ?_
    · rw [hf.clean]
      rfl
    · intro k' v' he'
      obtain ⟨rfl, -⟩ := entry_inj he he'
      exact hf.reach
    · intro k₁ v₁ i k' v' he' hlive _
      obtain ⟨rfl, -⟩ := entry_inj he he'
      have hne := hf.absent i k' v' hlive
      refine ⟨hne, Bool.eq_false_iff.2 fun heq => ?_⟩
      rw [hK.symm heq] at hne
      cases hne
  · intro k' v'
    constructor
    · rintro ⟨i, hlive⟩
      rcases (live_set h hidx e sz _).1 hlive with ⟨-, he'⟩ | ⟨-, hold⟩
      · obtain ⟨rfl, rfl⟩ := entry_inj he he'
        exact .inl ⟨rfl, rfl⟩
      · exact .inr ⟨i, hold⟩
    · rintro (⟨rfl, rfl⟩ | ⟨i, hold⟩)
      · exact ⟨idx, (live_set h hidx e sz _).2 (.inl ⟨rfl, he⟩)⟩
      · refine ⟨i, (live_set h hidx e sz _).2 (.inr ⟨?_, hold⟩)⟩
        rintro rfl
        exact h.not_live hf.clean hold

/-! ## A new array -/

theorem core_empty {cap s : Nat} (hpos : 0 < cap) :
    Core K (⟨List.replicate cap free, s, cap, 0⟩ : HashTab κ ν) ∧
      ∀ k v, ¬ Has (⟨List.replicate cap free, s, cap, 0⟩ : HashTab κ ν) k v := by
  have hslot : ∀ i, slot (⟨List.replicate cap free, s, cap, 0⟩ : HashTab κ ν) i = free := by
    intro i
    rw [slot, List.getD_eq_getElem?_getD, List.getElem?_replicate]
    split <;> rfl
  have hnot : ∀ i k v, ¬ Live (⟨List.replicate cap free, s, cap, 0⟩ : HashTab κ ν) i k v := by
    intro i k v hlive
    rw [Live, hslot] at hlive
    cases hlive.1
  refine ⟨⟨List.length_replicate, hpos, ?_, fun i hv => ?_, fun i k v hlive => ?_,
    fun i j k v k' v' hlive => ?_⟩, fun k v ⟨i, hlive⟩ => hnot i k v hlive⟩
  · rw [List.countP_replicate]
    rfl
  · rw [hslot] at hv
    cases hv
  · exact absurd hlive (hnot i k v)
  · exact absurd hlive (hnot i k v)

/-- The keys of two slots differ. -/
def Apart (K : HashFns κ) (a b : Slot κ ν) : Prop :=
  ∀ k v k' v', Entry a k v → Entry b k' v' → K.keyEq k k' = false ∧ K.keyEq k' k = false

/-- **The loop of the rehash** puts the entries of the old slots into the new table. -/
theorem rehashFrom_eq (hK : K.Lawful) {es : List (Slot κ ν)} (h : Core K t)
    (hes : ∀ e ∈ es, e.hasValue = true →
      e.isDirty = true ∧ ∃ k v, e.kv = some (k, v) ∧ e.hash = K.hashFunc k)
    (hnew : ∀ e ∈ es, ∀ k v, Entry e k v → ∀ k' v', t.Has k' v' → K.keyEq k k' = false)
    (hpair : es.Pairwise (Apart K)) (hroom : t.numDirty + es.countP (·.hasValue) ≤ t.cap)
    (hcap : t.cap ≤ 2 ^ 31) :
    ∃ t', rehashFrom K es t = .next t' ∧ Core K t' ∧ t'.cap = t.cap ∧ t'.sz = t.sz ∧
      t'.numDirty = t.numDirty + es.countP (·.hasValue) ∧
      t'.arr.countP (·.hasValue) = t.arr.countP (·.hasValue) + es.countP (·.hasValue) ∧
      ∀ k v, t'.Has k v ↔ t.Has k v ∨ ∃ e ∈ es, Entry e k v := by
  induction es generalizing t with
  | nil => exact ⟨t, rfl, h, rfl, rfl, rfl, rfl, by simp⟩
  | cons e es ih =>
    obtain ⟨hapart, hpair⟩ := List.pairwise_cons.1 hpair
    have hes' := fun e' he' => hes e' (List.mem_cons_of_mem e he')
    rw [List.countP_cons] at hroom ⊢
    by_cases hv : e.hasValue = true
    · obtain ⟨hdirty, k, v, hkv, hhash⟩ := hes e List.mem_cons_self hv
      have he : Entry e k v := ⟨hv, hkv⟩
      rw [if_pos hv] at hroom ⊢
      obtain ⟨idx, hfind, hidx, hf⟩ := h.findIdx_absent (k := k) (by omega) fun i k' v' hlive =>
        hnew e List.mem_cons_self k v he k' v' ⟨i, hlive⟩
      obtain ⟨hcore, hhas⟩ := h.enter hK hidx hf he hdirty hhash t.sz
      have hone : rehashOne K e t = .next ⟨t.arr.set idx e, t.sz, t.cap, t.numDirty + 1⟩ := by
        have hu : u32 (t.numDirty + 1) = t.numDirty + 1 := Nat.mod_eq_of_lt (by omega)
        rw [rehashOne, if_pos hv, Outcome.assert_of hdirty, Outcome.next_bind, hkv, hhash]
        show (t.findIdx K k (K.hashFunc k) >>= _) = _
        rw [hfind, Outcome.next_bind, hu]
        rfl
      have hlive := countP_set_hasValue h hidx e
      have hnone : (t.slot idx).hasValue = false := by
        by_contra hv'
        have hdirty' := (h.entry idx (by simpa using hv')).1
        rw [hf.clean] at hdirty'
        cases hdirty'
      rw [hnone, hv] at hlive
      obtain ⟨t', hrun, hcore', hcap', hsz', hnd', hlive', hhas'⟩ := ih hcore hes' (by
          intro e' he' k₁ v₁ hentry k₂ v₂ hold
          rcases (hhas k₂ v₂).1 hold with ⟨rfl, rfl⟩ | hold
          · exact (hapart e' he' _ _ _ _ he hentry).2
          · exact hnew e' (List.mem_cons_of_mem e he') k₁ v₁ hentry k₂ v₂ hold) hpair
        (by dsimp only; omega) hcap
      have hone' : (true : Bool).toNat = 1 ∧ (false : Bool).toNat = 0 := ⟨rfl, rfl⟩
      refine ⟨t', ?_, hcore', hcap', hsz', by rw [hnd']; dsimp only; omega,
        by rw [hlive']; dsimp only; omega, fun k₁ v₁ => ?_⟩
      · rw [rehashFrom, hone, Outcome.next_bind, hrun]
      · rw [hhas', hhas]
        constructor
        · rintro ((⟨rfl, rfl⟩ | hold) | ⟨e', he', hentry⟩)
          · exact .inr ⟨e, List.mem_cons_self, he⟩
          · exact .inl hold
          · exact .inr ⟨e', List.mem_cons_of_mem e he', hentry⟩
        · rintro (hold | ⟨e', he', hentry⟩)
          · exact .inl (.inr hold)
          · rcases List.mem_cons.1 he' with rfl | he'
            · exact .inl (.inl ⟨(entry_inj hentry he).1, (entry_inj hentry he).2⟩)
            · exact .inr ⟨e', he', hentry⟩
    · rw [if_neg hv] at hroom ⊢
      obtain ⟨t', hrun, hcore', hcap', hsz', hnd', hlive', hhas'⟩ := ih h hes'
        (fun e' he' => hnew e' (List.mem_cons_of_mem e he')) hpair hroom hcap
      refine ⟨t', ?_, hcore', hcap', hsz', hnd', hlive', fun k₁ v₁ => ?_⟩
      · rw [rehashFrom, rehashOne, if_neg hv, Outcome.next_bind, hrun]
      · rw [hhas']
        constructor
        · rintro (hold | ⟨e', he', hentry⟩)
          · exact .inl hold
          · exact .inr ⟨e', List.mem_cons_of_mem e he', hentry⟩
        · rintro (hold | ⟨e', he', hentry⟩)
          · exact .inl hold
          · rcases List.mem_cons.1 he' with rfl | he'
            · exact absurd hentry.1 hv
            · exact .inr ⟨e', he', hentry⟩

theorem has_iff_mem : t.Has k v ↔ ∃ e ∈ t.arr, Entry e k v := by
  constructor
  · rintro ⟨i, hlive⟩
    have hi : i < t.arr.length := by
      by_contra hle
      rw [Live, slot, List.getD_eq_default _ _ (by omega)] at hlive
      cases hlive.1
    refine ⟨t.arr[i], List.getElem_mem hi, ?_⟩
    rwa [getElem_eq_slot]
  · rintro ⟨e, he, hentry⟩
    obtain ⟨i, hi, rfl⟩ := List.getElem_of_mem he
    rw [getElem_eq_slot] at hentry
    exact ⟨i, hentry⟩

theorem Core.pairwise (h : Core K t) : t.arr.Pairwise (Apart K) := by
  refine List.pairwise_iff_getElem.2 fun i j hi hj hij k v k' v' ha hb => ?_
  rw [getElem_eq_slot] at ha hb
  constructor
  · refine Bool.eq_false_iff.2 fun heq => ?_
    have := h.unique i j k v k' v' ha hb heq
    omega
  · refine Bool.eq_false_iff.2 fun heq => ?_
    have := h.unique j i k' v' k v hb ha heq
    omega

/-- **A new array has the same entries.** -/
theorem rehashTable_eq (hK : K.Lawful) (h : Core K t) {cap : Nat} (hpos : 0 < cap)
    (hcap : cap ≤ 2 ^ 31) (hroom : t.arr.countP (·.hasValue) ≤ cap) :
    ∃ t', t.rehashTable K cap = .next t' ∧ Core K t' ∧ t'.cap = cap ∧ t'.sz = t.sz ∧
      t'.numDirty = t.arr.countP (·.hasValue) ∧
      t'.arr.countP (·.hasValue) = t.arr.countP (·.hasValue) ∧
      ∀ k v, t'.Has k v ↔ t.Has k v := by
  obtain ⟨hcore, hempty⟩ := core_empty (K := K) (s := t.sz) hpos
  have hnone : (List.replicate cap (free : Slot κ ν)).countP (·.hasValue) = 0 := by
    rw [List.countP_replicate]
    rfl
  obtain ⟨t', hrun, hcore', hcap', hsz', hnd', hlive', hhas'⟩ := rehashFrom_eq hK hcore
    (by
      intro e he hv
      obtain ⟨i, hi, rfl⟩ := List.getElem_of_mem he
      rw [getElem_eq_slot] at hv ⊢
      exact h.entry i hv)
    (fun e _ k v _ k' v' hold => absurd hold (hempty k' v'))
    h.pairwise
    (by rw [Nat.zero_add]; exact hroom) hcap
  refine ⟨t', hrun, hcore', hcap', hsz', by rw [hnd', Nat.zero_add],
    by rw [hlive', hnone, Nat.zero_add], fun k v => ?_⟩
  rw [hhas', has_iff_mem (t := t)]
  exact ⟨fun hor => hor.resolve_left (hempty k v), .inr⟩

end HashTab

end FlexRic
