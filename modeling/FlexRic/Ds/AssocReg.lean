import FlexRic.Lib.Ints
import FlexRic.Lib.Count
import Mathlib.Data.List.GetD

/-!
# FlexRic.Ds.AssocReg

The registry (`assoc_reg_t`): buckets in the order of their keys, some of them without a
value, in an array that is rebuilt when it is full or mostly holes.

* An iterator is the position of a bucket; `end` is the position after the last one.
* `Ok` is what the operations rest on, `entries` what the registry holds.
* `Ok.rebuilt`: a new array has the same entries; `expandIfNeccesary`,
  `compactIfNecessary` and `shrinkIfNecessary` make one, or do nothing.
-/

namespace FlexRic

/-- `registry_bucket_t`; a bucket of zeroes has no value. -/
structure Bucket (α : Type) where
  key : Nat
  hasValue : Bool
  val : Option α

/-- `assoc_reg_t`, for elements of one type. -/
structure AssocReg (α : Type) where
  arr : List (Bucket α)
  sz : Nat
  cap : Nat
  occBucket : Nat
  keyId : Nat

namespace AssocReg

variable {α : Type}

def MIN_SIZE : Nat := 16

/-- A bucket of zeroes. -/
def zero : Bucket α := ⟨0, false, none⟩

def bucket (t : AssocReg α) (it : Nat) : Bucket α := t.arr.getD it zero

/-- `iterator_in_ds`. -/
def iteratorInDs (t : AssocReg α) (it : Nat) : Bool := decide (it < t.occBucket)

/-- `copy_if` of the buckets with a value. -/
def copyIf : List (Bucket α) → List (Bucket α) → Nat → List (Bucket α) × Nat
  | [], out, iOut => (out, iOut)
  | b :: bs, out, iOut =>
    if b.hasValue then copyIf bs (out.set iOut b) (iOut + 1) else copyIf bs out iOut

/-- The loop of `partition`, for `n` more buckets: those with a value are moved forward. -/
def partitionFrom : Nat → Nat → Nat → List (Bucket α) → List (Bucket α) × Nat
  | 0, _, j, arr => (arr, j)
  | n + 1, i, j, arr =>
    if (arr.getD i zero).hasValue then
      partitionFrom n (i + 1) (j + 1) (arr.set j (arr.getD i zero))
    else partitionFrom n (i + 1) j arr

/-- `partition`. -/
def partition (arr : List (Bucket α)) (n : Nat) : List (Bucket α) × Nat := partitionFrom n 0 0 arr

/-- `memset(reg->arr + b_size*idx, 0, (reg->cap - idx)*b_size)`. -/
def clearFrom (arr : List (Bucket α)) (idx cap : Nat) : List (Bucket α) :=
  arr.take idx ++ List.replicate (cap - idx) zero

/-- `shrink_if_necessary`. -/
def shrinkIfNecessary (t : AssocReg α) : Outcome (AssocReg α) :=
  if t.cap = MIN_SIZE ∨ t.sz * 4 > t.cap then .next t
  else do
    let (arr, idx) := partition t.arr t.occBucket
    .assert (decide (idx ≤ t.occBucket)) "idx <= reg->occ_bucket"
    return { t with
      arr := clearFrom (clearFrom arr idx t.cap) idx (t.cap / 2)
      occBucket := idx
      cap := t.cap / 2 }

/-- `compact_if_necessary`. -/
def compactIfNecessary (t : AssocReg α) : Outcome (AssocReg α) :=
  if t.sz * 2 > t.occBucket then .next t
  else do
    let (arr, idx) := partition t.arr t.occBucket
    .assert (decide (idx ≤ t.occBucket)) "idx <= reg->occ_bucket"
    return { t with arr := clearFrom arr idx t.cap, occBucket := idx }

/-- `expand_if_neccesary`. -/
def expandIfNeccesary (t : AssocReg α) : AssocReg α :=
  if t.occBucket < t.cap - 1 then t
  else
    let (arr, outIdx) :=
      copyIf (t.arr.take t.occBucket) (List.replicate (t.cap * 2) zero) 0
    { t with arr, occBucket := outIdx, cap := t.cap * 2 }

/-- `assoc_reg_init`. -/
def init : AssocReg α := ⟨List.replicate MIN_SIZE zero, 0, MIN_SIZE, 0, 1⟩

/-- `assoc_reg_push_back`; the key is the lower half of `key_id`. -/
def pushBack (t : AssocReg α) (value : α) : Outcome (AssocReg α × Nat) := do
  let t := t.expandIfNeccesary
  let key := t.keyId % 2 ^ 32
  .assert (t.keyId != 2 ^ 64 - 1) "Overflow reached!"
  return ({ t with
    arr := t.arr.set t.occBucket ⟨key, true, some value⟩
    keyId := t.keyId + 1
    occBucket := t.occBucket + 1
    sz := t.sz + 1 }, key)

/-- `assoc_reg_key`. -/
def keyAt (t : AssocReg α) (it : Nat) : Outcome Nat := do
  .assert (t.iteratorInDs it) "Iterator out of range"
  .assert (t.bucket it).hasValue "b->has_value == true"
  return (t.bucket it).key

/-- `assoc_reg_value`. -/
def valueAt (t : AssocReg α) (it : Nat) : Outcome α := do
  .assert (t.iteratorInDs it) "Iterator out of range"
  .assert (t.bucket it).hasValue "b->has_value == true"
  .expect (t.bucket it).val "b->val"

/-- The loop of `assoc_reg_front`, over `n` more buckets. -/
def frontFrom (t : AssocReg α) : Nat → Nat → Nat
  | 0, idx => idx
  | n + 1, idx => if (t.bucket idx).hasValue then idx else t.frontFrom n (idx + 1)

/-- `assoc_reg_front`. -/
def front (t : AssocReg α) : Nat := t.frontFrom t.occBucket 0

/-- The loop of `assoc_reg_next`, for at most `n` rounds; the first hole is looked at twice. -/
def nextFrom (t : AssocReg α) (it : Nat) : Nat → Nat → Nat → Outcome Nat
  | 0, _, _ => .abort "past the end of the registry"
  | n + 1, idx, b =>
    if b ≠ t.occBucket ∧ (t.bucket b).hasValue = false then
      t.nextFrom it n (idx + 1) (it + (idx + 1))
    else .next b

/-- `assoc_reg_next`. -/
def next (t : AssocReg α) (it : Nat) : Outcome Nat := do
  .assert (t.bucket it).hasValue "b->has_value == true"
  .assert (t.iteratorInDs it) "Iterator out of range"
  t.nextFrom it (t.occBucket + 1) 0 (it + 1)

/-- The bucket loses its value. -/
def kill (b : Bucket α) : Bucket α := { b with hasValue := false }

/-- The loop of `assoc_reg_erase`, for at most `n` rounds. -/
def eraseFrom (endIt : Nat) : Nat → AssocReg α → Nat → Outcome (AssocReg α)
  | 0, _, _ => .abort "past the end of the registry"
  | n + 1, t, it =>
    if it = endIt then .next t
    else do
      let nextIt ← t.next it
      eraseFrom endIt n { t with arr := t.arr.set it (kill (t.bucket it)), sz := t.sz - 1 } nextIt

/-- `assoc_reg_erase`. -/
def erase (t : AssocReg α) (startIt endIt : Nat) : Outcome (AssocReg α) :=
  if startIt = endIt then .next t
  else do
    .assert (t.iteratorInDs startIt) "Iterator out of range"
    let t ← eraseFrom endIt (t.occBucket + 1) t startIt
    let t ← t.compactIfNecessary
    t.shrinkIfNecessary

/-- The loop of `remove_if_range_reg`, over the buckets: what they become, and the keys. -/
def removeIfFrom (f : α → Bool) : List (Bucket α) → List (Bucket α) × List Nat
  | [] => ([], [])
  | b :: bs =>
    let (bs, keys) := removeIfFrom f bs
    if b.hasValue && b.val.any f then (kill b :: bs, b.key :: keys) else (b :: bs, keys)

/-- `remove_if_range_reg`. -/
def removeIfRange (t : AssocReg α) (f : α → Bool) : Outcome (AssocReg α × List Nat) := do
  let (bs, keys) := removeIfFrom f (t.arr.take t.occBucket)
  let t := { t with arr := bs ++ t.arr.drop t.occBucket, sz := t.sz - keys.length }
  let t ← t.compactIfNecessary
  let t ← t.shrinkIfNecessary
  return (t, keys)

/-- The loop of `lower_bound_reg`, for at most `n` rounds. -/
def lowerFrom (t : AssocReg α) (startIt key : Nat) : Nat → Nat → Int → Outcome Nat
  | 0, _, _ => .abort "the search goes on"
  | n + 1, lower, len =>
    if len > 0 then
      let half := len / 2
      let idx := lower + half.toNat
      if (t.bucket (startIt + idx)).key < key then
        t.lowerFrom startIt key n (idx + 1) (len - half - 1)
      else t.lowerFrom startIt key n lower half
    else .next lower

/-- `lower_bound_reg`; the number of buckets becomes an `int`. -/
def lowerBoundReg (t : AssocReg α) (startIt endIt key : Nat) : Outcome Nat :=
  if startIt = endIt then .next endIt
  else do
    .assert (decide (startIt < endIt ∧ endIt - startIt < t.cap)) "iterator out of the range"
    let lower ← t.lowerFrom startIt key (endIt - startIt + 1) 0 (toInt (endIt - startIt : Nat))
    return startIt + lower

/-- `find_reg`. -/
def findReg (t : AssocReg α) (startIt endIt key : Nat) : Outcome Nat := do
  .assert (decide (key > 0)) "Reserved value"
  if startIt = endIt then return endIt
  else
    let it ← t.lowerBoundReg startIt endIt key
    .assert (decide (it ≤ endIt)) "it <= end_it"
    return if it = endIt ∨ (t.bucket it).hasValue = false ∨ (t.bucket it).key ≠ key then endIt
      else it

/-- All entries, by `assoc_reg_front` and `assoc_reg_next`. -/
def iterateFrom (t : AssocReg α) : Nat → Nat → Outcome (List (Nat × α))
  | 0, _ => .abort "past the end of the registry"
  | n + 1, it =>
    if it = t.occBucket then .next []
    else do
      let key ← t.keyAt it
      let value ← t.valueAt it
      let it ← t.next it
      let rest ← t.iterateFrom n it
      return (key, value) :: rest

def iterate (t : AssocReg α) : Outcome (List (Nat × α)) :=
  t.iterateFrom (t.occBucket + 1) t.front

/-- The value of a key, as `find_act_proc` looks for it. -/
def lookup (t : AssocReg α) (key : Nat) : Outcome (Option α) := do
  let it ← t.findReg t.front t.occBucket key
  if it = t.occBucket then return none
  else
    let value ← t.valueAt it
    return some value

/-! ## Buckets and entries -/

variable {t t' : AssocReg α} {bs : List (Bucket α)} {b : Bucket α} {i j k n : Nat} {v : α}

/-- What a bucket holds. -/
def entry (b : Bucket α) : Option (Nat × α) :=
  if b.hasValue then b.val.map fun v => (b.key, v) else none

/-- The buckets that iterators run over. -/
def used (t : AssocReg α) : List (Bucket α) := t.arr.take t.occBucket

/-- What the registry holds. -/
def entries (t : AssocReg α) : List (Nat × α) := t.used.filterMap entry

/-- What the operations rest on. -/
structure Ok (t : AssocReg α) : Prop where
  length : t.arr.length = t.cap
  /-- one more bucket can be written -/
  room : t.occBucket < t.cap
  pow : ∃ n, t.cap = MIN_SIZE * 2 ^ n
  /-- keys increase, those of holes too -/
  sorted : t.used.Pairwise fun a b => a.key < b.key
  keys : ∀ b ∈ t.used, 0 < b.key ∧ b.key < t.keyId
  value : ∀ b ∈ t.used, b.hasValue = true → b.val.isSome = true
  live : t.used.countP (·.hasValue) = t.sz
  pos : 0 < t.keyId

theorem Ok.length_used (h : Ok t) : t.used.length = t.occBucket := by
  rw [used, List.length_take, h.length]
  exact Nat.min_eq_left (Nat.le_of_lt h.room)

theorem Ok.le_cap (h : Ok t) : MIN_SIZE ≤ t.cap := by
  obtain ⟨n, hcap⟩ := h.pow
  rw [hcap]
  exact Nat.le_mul_of_pos_right _ (Nat.two_pow_pos n)

theorem Ok.sz_le (h : Ok t) : t.sz ≤ t.occBucket := by
  rw [← h.live, ← h.length_used]
  exact List.countP_le_length

theorem entry_eq_some : entry b = some (k, v) ↔ b.hasValue = true ∧ b.key = k ∧ b.val = some v := by
  unfold entry
  split
  · rename_i hv
    rw [Option.map_eq_some_iff]
    constructor
    · rintro ⟨v', hval, heq⟩
      rw [Prod.mk.injEq] at heq
      exact ⟨hv, heq.1, by rw [hval, heq.2]⟩
    · rintro ⟨-, rfl, hval⟩
      exact ⟨v, hval, rfl⟩
  · rename_i hv
    simp [hv]

theorem entry_of_not (h : b.hasValue = false) : entry b = none := by
  rw [entry, h]
  rfl

theorem entry_kill : entry (kill b) = none := rfl

theorem kill_of_not (h : b.hasValue = false) : kill b = b := by
  rw [kill, ← h]

/-- The number of entries. -/
theorem length_filterMap_entry (h : ∀ b ∈ bs, b.hasValue = true → b.val.isSome = true) :
    (bs.filterMap entry).length = bs.countP (·.hasValue) := by
  rw [List.length_filterMap_eq_countP]
  refine List.countP_congr fun b hb => ?_
  constructor
  · intro hsome
    obtain ⟨⟨k, v⟩, hkv⟩ := Option.isSome_iff_exists.1 hsome
    exact (entry_eq_some.1 hkv).1
  · intro hv
    obtain ⟨v, hval⟩ := Option.isSome_iff_exists.1 (h b hb hv)
    exact Option.isSome_iff_exists.2 ⟨(b.key, v), entry_eq_some.2 ⟨hv, rfl, hval⟩⟩

theorem Ok.length_entries (h : Ok t) : t.entries.length = t.sz := by
  rw [entries, length_filterMap_entry h.value, h.live]

/-- Entries have the keys of their buckets. -/
theorem Ok.sorted_entries (h : Ok t) : t.entries.Pairwise fun a b => a.1 < b.1 := by
  refine List.pairwise_filterMap.2 (h.sorted.imp fun {a b} hab e he e' he' => ?_)
  obtain ⟨-, hk, -⟩ := entry_eq_some.1 he
  obtain ⟨-, hk', -⟩ := entry_eq_some.1 he'
  rwa [← hk, ← hk']

/-! ## A new array -/

/-- The registry without holes, in an array of a given capacity. -/
def rebuilt (t : AssocReg α) (cap : Nat) : AssocReg α where
  arr := t.used.filter (·.hasValue) ++ List.replicate (cap - t.sz) zero
  sz := t.sz
  cap := cap
  occBucket := t.sz
  keyId := t.keyId

theorem Ok.length_live (h : Ok t) : (t.used.filter (·.hasValue)).length = t.sz := by
  rw [← List.countP_eq_length_filter, h.live]

theorem Ok.used_rebuilt (h : Ok t) (cap : Nat) :
    (t.rebuilt cap).used = t.used.filter (·.hasValue) := by
  rw [used, rebuilt]
  exact List.take_left' h.length_live

theorem filterMap_filter_hasValue (bs : List (Bucket α)) :
    (bs.filter (·.hasValue)).filterMap entry = bs.filterMap entry := by
  induction bs with
  | nil => rfl
  | cons b bs ih =>
    rw [List.filter_cons]
    split
    · rw [List.filterMap_cons, List.filterMap_cons, ih]
    · rename_i hv
      rw [List.filterMap_cons, entry_of_not (Bool.eq_false_iff.2 hv), ih]

/-- **A new array has the same entries.** -/
theorem Ok.rebuilt (h : Ok t) {cap : Nat} (hpow : ∃ n, cap = MIN_SIZE * 2 ^ n)
    (hroom : t.sz < cap) : Ok (t.rebuilt cap) ∧ (t.rebuilt cap).entries = t.entries := by
  have hused := h.used_rebuilt cap
  have hmem : ∀ b ∈ (t.rebuilt cap).used, b ∈ t.used := by
    rw [hused]
    exact fun b hb => List.mem_of_mem_filter hb
  refine ⟨⟨?_, hroom, hpow, ?_, fun b hb => h.keys b (hmem b hb),
    fun b hb => h.value b (hmem b hb), ?_, h.pos⟩, ?_⟩
  · rw [AssocReg.rebuilt, List.length_append, h.length_live, List.length_replicate]
    exact Nat.add_sub_of_le (Nat.le_of_lt hroom)
  · rw [hused]
    exact h.sorted.filter _
  · rw [hused, List.countP_filter]
    exact (List.countP_congr fun b _ => by rw [Bool.and_self]).trans h.live
  · rw [entries, hused, filterMap_filter_hasValue, entries]

/-- **`copy_if`** appends the buckets with a value. -/
theorem copyIf_eq {pre post : List (Bucket α)} (hpre : pre.length = n)
    (hroom : bs.countP (·.hasValue) ≤ post.length) :
    copyIf bs (pre ++ post) n = (pre ++ (bs.filter (·.hasValue) ++
      post.drop (bs.countP (·.hasValue))), n + bs.countP (·.hasValue)) := by
  induction bs generalizing pre post n with
  | nil => rfl
  | cons b bs ih =>
    rw [copyIf, List.countP_cons, List.filter_cons]
    split
    · rename_i hv
      rw [List.countP_cons, if_pos hv] at hroom
      cases post with
      | nil => cases hroom
      | cons p post =>
        have hset : (pre ++ p :: post).set n b = (pre ++ [b]) ++ post := by
          rw [List.set_append_right _ _ (Nat.le_of_eq hpre), hpre, Nat.sub_self,
            List.append_assoc]
          rfl
        rw [hset, ih (by rw [List.length_append, hpre]; rfl) (Nat.le_of_succ_le_succ hroom),
          List.append_assoc, Nat.add_assoc, Nat.add_comm 1]
        rfl
    · rename_i hv
      rw [List.countP_cons, if_neg hv] at hroom
      exact ih hpre hroom

/-- **`partition`** moves them to the front. -/
theorem partitionFrom_eq (arr : List (Bucket α)) (hj : j ≤ i) (hi : i + n ≤ arr.length) :
    (partitionFrom n i j arr).1.length = arr.length ∧
      (partitionFrom n i j arr).2 = j + ((arr.drop i).take n).countP (·.hasValue) ∧
      (partitionFrom n i j arr).1.take (partitionFrom n i j arr).2 =
        arr.take j ++ ((arr.drop i).take n).filter (·.hasValue) := by
  induction n generalizing i j arr with
  | zero => simp [partitionFrom]
  | succ n ih =>
    have hlt : i < arr.length := by omega
    have hcons : (arr.drop i).take (n + 1) = arr.getD i zero :: (arr.drop (i + 1)).take n := by
      rw [List.drop_eq_getElem_cons hlt, List.take_succ_cons, List.getD_eq_getElem _ _ hlt]
    rw [partitionFrom, hcons, List.countP_cons, List.filter_cons]
    split
    · obtain ⟨hlen, hidx, htake⟩ := ih (arr.set j (arr.getD i zero))
        (show j + 1 ≤ i + 1 by omega) (by rw [List.length_set]; omega)
      rw [List.drop_set_of_lt (by omega)] at hidx htake
      have hset : (arr.set j (arr.getD i zero)).take (j + 1) =
          arr.take j ++ [arr.getD i zero] := by
        rw [List.take_succ_eq_append_getElem (by rw [List.length_set]; omega),
          List.getElem_set_self, List.take_set_of_le (Nat.le_refl j)]
      rw [hset, List.append_assoc] at htake
      exact ⟨by rw [hlen, List.length_set], by rw [hidx]; omega, htake⟩
    · obtain ⟨hlen, hidx, htake⟩ := ih arr (Nat.le_succ_of_le hj) (by omega)
      exact ⟨hlen, hidx, htake⟩

/-- `partition`, and what the array is with the rest of it zeroed. -/
theorem Ok.partition_eq (h : Ok t) : ∃ arr, partition t.arr t.occBucket = (arr, t.sz) ∧
    t.sz ≤ arr.length ∧ ∀ cap, clearFrom arr t.sz cap = (t.rebuilt cap).arr := by
  obtain ⟨hlen, hidx, htake⟩ := partitionFrom_eq (n := t.occBucket) t.arr
    (Nat.le_refl 0) (by rw [h.length, Nat.zero_add]; exact Nat.le_of_lt h.room)
  rw [List.drop_zero, Nat.zero_add] at hidx
  have hsz : (partitionFrom t.occBucket 0 0 t.arr).2 = t.sz := hidx.trans h.live
  rw [hsz, List.drop_zero, List.take_zero, List.nil_append] at htake
  refine ⟨_, Prod.ext rfl hsz, ?_, fun cap => ?_⟩
  · show t.sz ≤ (partitionFrom t.occBucket 0 0 t.arr).1.length
    rw [hlen, h.length]
    exact Nat.le_trans h.sz_le (Nat.le_of_lt h.room)
  · exact congrArg (· ++ _) htake

theorem clearFrom_clearFrom {arr : List (Bucket α)} {cap cap' : Nat} (hi : i ≤ arr.length) :
    clearFrom (clearFrom arr i cap) i cap' = clearFrom arr i cap' := by
  rw [clearFrom, clearFrom, clearFrom, List.take_append_of_le_length (by simp [hi]),
    List.take_take, Nat.min_self]

/-- A registry that is the old one, or a new one without holes. -/
def Rebuilt (t t' : AssocReg α) : Prop :=
  Ok t' ∧ t'.entries = t.entries ∧ t'.sz = t.sz ∧ t'.keyId = t.keyId ∧
    t'.occBucket ≤ t.occBucket

theorem Ok.rebuilt_self (h : Ok t) : Rebuilt t t := ⟨h, rfl, rfl, rfl, Nat.le_refl _⟩

theorem Ok.rebuilt_rebuilt (h : Ok t) {cap : Nat} (hpow : ∃ n, cap = MIN_SIZE * 2 ^ n)
    (hroom : t.sz < cap) : Rebuilt t (t.rebuilt cap) := by
  obtain ⟨hok, hentries⟩ := h.rebuilt hpow hroom
  exact ⟨hok, hentries, rfl, rfl, h.sz_le⟩

theorem Ok.compactIfNecessary (h : Ok t) :
    ∃ t', t.compactIfNecessary = .next t' ∧ Rebuilt t t' := by
  rw [AssocReg.compactIfNecessary]
  split
  · exact ⟨t, rfl, h.rebuilt_self⟩
  · have hlt : t.sz < t.cap := Nat.lt_of_le_of_lt h.sz_le h.room
    obtain ⟨arr, hpart, -, harr⟩ := h.partition_eq
    refine ⟨t.rebuilt t.cap, ?_, h.rebuilt_rebuilt h.pow hlt⟩
    rw [hpart]
    dsimp only
    rw [Outcome.assert_of (decide_eq_true h.sz_le), Outcome.next_bind, harr]
    rfl

theorem Ok.shrinkIfNecessary (h : Ok t) :
    ∃ t', t.shrinkIfNecessary = .next t' ∧ Rebuilt t t' := by
  rw [AssocReg.shrinkIfNecessary]
  split
  · exact ⟨t, rfl, h.rebuilt_self⟩
  · rename_i hshrink
    obtain ⟨hmin, hfew⟩ := not_or.1 hshrink
    obtain ⟨n, hpow⟩ := h.pow
    -- the capacity is twice one that is large enough
    have hhalf : ∃ m, t.cap / 2 = MIN_SIZE * 2 ^ m := by
      cases n with
      | zero => exact absurd hpow hmin
      | succ m =>
        refine ⟨m, ?_⟩
        rw [hpow, Nat.pow_succ, ← Nat.mul_assoc]
        exact Nat.mul_div_cancel _ (by decide)
    have hcap : MIN_SIZE ≤ t.cap / 2 := by
      obtain ⟨m, hm⟩ := hhalf
      rw [hm]
      exact Nat.le_mul_of_pos_right _ (Nat.two_pow_pos m)
    have hroom : t.sz < t.cap / 2 := by
      have hpos : 0 < MIN_SIZE := by decide
      omega
    obtain ⟨arr, hpart, hlen, harr⟩ := h.partition_eq
    refine ⟨t.rebuilt (t.cap / 2), ?_, h.rebuilt_rebuilt hhalf hroom⟩
    rw [hpart]
    dsimp only
    rw [Outcome.assert_of (decide_eq_true h.sz_le), Outcome.next_bind, clearFrom_clearFrom hlen,
      harr]
    rfl

/-- Where the next entry is put. -/
def nextOcc (t : AssocReg α) : Nat := if t.occBucket < t.cap - 1 then t.occBucket else t.sz

/-- **After an expansion two more buckets are free**, the last of which stays so. -/
theorem Ok.expandIfNeccesary (h : Ok t) :
    Rebuilt t t.expandIfNeccesary ∧ t.expandIfNeccesary.occBucket = t.nextOcc ∧
      t.expandIfNeccesary.occBucket + 1 < t.expandIfNeccesary.cap := by
  rw [AssocReg.expandIfNeccesary, nextOcc]
  split
  · rename_i hlt
    exact ⟨h.rebuilt_self, rfl, by omega⟩
  · have hle := h.sz_le
    have hroom := h.room
    obtain ⟨n, hpow⟩ := h.pow
    have hcopy : copyIf t.used ([] ++ List.replicate (t.cap * 2) zero) 0 = _ :=
      copyIf_eq rfl (by rw [h.live, List.length_replicate]; omega)
    rw [List.nil_append, List.nil_append, h.live, Nat.zero_add, List.drop_replicate] at hcopy
    rw [show t.arr.take t.occBucket = t.used from rfl, hcopy]
    have hpow' : t.cap * 2 = MIN_SIZE * 2 ^ (n + 1) := by rw [hpow, Nat.pow_succ, Nat.mul_assoc]
    have hreb := h.rebuilt_rebuilt ⟨n + 1, hpow'⟩ (by omega)
    exact ⟨hreb, rfl, by dsimp only; omega⟩

end AssocReg

end FlexRic
