import FlexRic.Lib.Ints
import FlexRic.Lib.Plain
import Mathlib.Tactic.Ring

/-!
# FlexRic.Ds.SeqArr

The growing array (`seq_arr_t`): elements of one size in a block that is
reallocated when it is full, and when most of it is empty.

* The block is its octets, and an access past its end ends the run.  Sizes are
  natural numbers: no block has `2 ^ 64` octets.
* `State` has the elements that were put in and not taken out beside the array.
  `Ok` says that the block holds them; `Ok.pushBack` and `Ok.erase` keep it.
* The block that `maybeShrink` asks for has `cap / 2` octets for each element,
  whatever the size of an element is: `seqArr_holds` is for the runs where that
  is enough, `seqArr_short` is one where it is not.
-/

namespace FlexRic

open Plain

/-! ## Lists of octets of one length -/

section Flatten

variable {xs : List (List Octet)} {n : Nat}

theorem length_flatten_of (h : ∀ x ∈ xs, x.length = n) : xs.flatten.length = xs.length * n := by
  induction xs with
  | nil => simp
  | cons x xs ih =>
    have hx := h x List.mem_cons_self
    have hxs := ih fun y hy => h y (List.mem_cons_of_mem x hy)
    rw [List.flatten_cons, List.length_append, hx, hxs, List.length_cons]
    ring

end Flatten

/-- Octets stored in front of the rest of a buffer. -/
theorem store_front {off : Nat} {bs pre post : List Octet} (hpre : pre.length = off)
    (hle : bs.length ≤ post.length) :
    store off bs (pre ++ post) = .done (pre ++ (bs ++ post.drop bs.length)) := by
  have hmid : (post.take bs.length).length = bs.length := List.length_take_of_le hle
  have hstore : store off bs (pre ++ (post.take bs.length ++ post.drop bs.length)) = _ :=
    store_append hpre hmid
  rwa [List.take_append_drop] at hstore

/-! ## Single precision -/

/-- The multiple of `u` that is nearest to `n`, the even one of two. -/
def roundTo (u n : Nat) : Nat :=
  if u < 2 * (n % u) ∨ (u = 2 * (n % u) ∧ n / u % 2 = 1) then (n / u + 1) * u else n / u * u

/-- `(float)n`: 24 binary digits of it. -/
def toFloat (n : Nat) : Nat := roundTo (2 ^ (n.log2 - 23)) n

theorem roundTo_near {u : Nat} (hu : 0 < u) (n : Nat) :
    2 * roundTo u n ≤ 2 * n + u ∧ 2 * n ≤ 2 * roundTo u n + u := by
  have hdiv := Nat.div_add_mod n u
  have hlt := Nat.mod_lt n hu
  unfold roundTo
  rw [Nat.mul_comm u] at hdiv
  split
  · rw [Nat.add_mul, Nat.one_mul]
    omega
  · omega

/-- **A number is off by one part in `2 ^ 24`** at most. -/
theorem toFloat_near (n : Nat) :
    2 ^ 24 * toFloat n ≤ (2 ^ 24 + 1) * n ∧ 2 ^ 24 * n ≤ 2 ^ 24 * toFloat n + n := by
  rcases Nat.lt_or_ge n (2 ^ 24) with hlt | hge
  · have hlog : n.log2 - 23 = 0 := by
      rcases Nat.eq_zero_or_pos n with rfl | hpos
      · simp
      · have := (Nat.log2_lt (Nat.ne_of_gt hpos)).2 hlt
        omega
    have hself : toFloat n = n := by
      rw [toFloat, hlog, Nat.pow_zero, roundTo]
      simp [Nat.mod_one]
    rw [hself]
    omega
  · have hne : n ≠ 0 := by omega
    have hlog : 24 ≤ n.log2 := (Nat.le_log2 hne).2 hge
    have hunit : 2 ^ (n.log2 - 23) * 2 ^ 23 ≤ n := by
      rw [← Nat.pow_add, Nat.sub_add_cancel (by omega)]
      exact (Nat.le_log2 hne).1 (Nat.le_refl _)
    have hnear := roundTo_near (Nat.two_pow_pos (n.log2 - 23)) n
    rw [toFloat]
    generalize roundTo (2 ^ (n.log2 - 23)) n = m at hnear ⊢
    omega

/-! ## The array -/

/-- `seq_arr_t`; `data` is the block that is allocated. -/
structure SeqArr where
  data : List Octet
  size : Nat
  eltSize : Nat
  cap : Nat
  deriving DecidableEq

namespace SeqArr

def MIN_SIZE : Nat := 8

/-- What an access to a block does to the run. -/
def access {α : Type} : Access α → Outcome α
  | .done a => .next a
  | .refused msg => .abort msg
  | .overread => .abort "read past the end of a block"
  | .overwrite => .abort "written past the end of a block"

@[simp] theorem access_done {α : Type} (a : α) : access (.done a) = .next a := rfl

/-- `calloc`. -/
def calloc (n size : Nat) : List Octet := List.replicate (n * size) 0

/-- `realloc`, which returns `NULL` where nothing is asked for.  The octets behind the
old ones can be any; they are zeroes here, and nothing reads them. -/
def realloc (data : List Octet) (n : Nat) : Outcome (List Octet) := do
  .assert (n != 0) "arr->data != NULL && realloc failed to allocate memory"
  return data.take n ++ List.replicate (n - data.length) 0

/-- `maybe_expand`. -/
def maybeExpand (arr : SeqArr) : Outcome SeqArr :=
  if arr.size + 1 = arr.cap then do
    let data ← realloc arr.data (2 * arr.cap * arr.eltSize)
    return { arr with data, cap := arr.cap * 2 }
  else .next arr

/-- `arr->size > MIN_SIZE && occ < 0.25`; the quotient by a power of two is exact. -/
def sparse (size cap : Nat) : Bool :=
  decide (MIN_SIZE < size) && decide (4 * toFloat size < toFloat cap)

/-- `maybe_shrink`. -/
def maybeShrink (arr : SeqArr) : Outcome SeqArr :=
  if sparse arr.size arr.cap then do
    .assert (decide (MIN_SIZE < arr.cap)) "arr->cap > MIN_SIZE"
    let cap := arr.cap / 2
    let tmp := calloc cap cap
    .assert (decide (arr.size ≤ cap)) "arr->size <= tmp.cap"
    let elems ← access (load 0 (arr.size * arr.eltSize) arr.data)
    let data ← access (store 0 elems tmp)
    return { arr with data, cap }
  else .next arr

/-- `seq_arr_init`. -/
def init (eltSize : Nat) : SeqArr where
  data := calloc MIN_SIZE eltSize
  size := 0
  eltSize := eltSize
  cap := MIN_SIZE

/-- `seq_arr_push_back` of the `len` octets at `data`. -/
def pushBack (arr : SeqArr) (data : List Octet) : Outcome SeqArr := do
  .assert (data.length == arr.eltSize) "len == arr->elt_size"
  let arr ← arr.maybeExpand
  let block ← access (store (arr.size * arr.eltSize) data arr.data)
  return { arr with data := block, size := arr.size + 1 }

/-- `seq_arr_front` moved on by `seq_arr_next`, as an offset into the block. -/
def iter (arr : SeqArr) (i : Nat) : Nat := i * arr.eltSize

/-- `seq_arr_end`. -/
def endIt (arr : SeqArr) : Nat := arr.size * arr.eltSize

/-- `memmove` inside a block. -/
def memmove (data : List Octet) (dst src n : Nat) : Outcome (List Octet) := do
  let moved ← access (load src n data)
  access (store dst moved data)

/-- `seq_arr_erase`; iterators are offsets into the block. -/
def erase (arr : SeqArr) (startIt stopIt : Nat) : Outcome SeqArr := do
  .assert (decide (startIt ≤ stopIt)) "end_it >= start_it"
  if startIt = stopIt then return arr
  else
    let numBytesMove := toInt (arr.endIt - stopIt)
    .assert (decide (-1 < numBytesMove)) "num_bytes_move > -1"
    let data ← memmove arr.data startIt stopIt numBytesMove.toNat
    let numBytesErase := toInt (stopIt - startIt)
    -- the `int` is made a `size_t` for the division, and its result an `int32_t`
    let numElmErase := toInt (toSizeT numBytesErase / arr.eltSize : Nat)
    .assert (decide (0 < numElmErase)) "num_elm_erase > 0"
    let size := arr.size - numElmErase.toNat
    let data ← access
      (store (size * arr.eltSize) (List.replicate (toSizeT numBytesErase) 0) data)
    maybeShrink { arr with data, size }

/-! ## The elements in the block -/

variable {arr : SeqArr} {elems : List (List Octet)}

/-- The block holds `elems`, and has room for as many elements as the capacity says. -/
structure Ok (arr : SeqArr) (elems : List (List Octet)) : Prop where
  size_eq : arr.size = elems.length
  length_eq : ∀ x ∈ elems, x.length = arr.eltSize
  size_lt : arr.size < arr.cap
  cap_pow : ∃ k, arr.cap = MIN_SIZE * 2 ^ k
  fits : arr.cap * arr.eltSize ≤ arr.data.length
  data_eq : ∃ rest, arr.data = elems.flatten ++ rest

theorem Ok.init (eltSize : Nat) : Ok (init eltSize) [] where
  size_eq := rfl
  length_eq := fun x hx => absurd hx List.not_mem_nil
  size_lt := Nat.succ_pos 7
  cap_pow := ⟨0, rfl⟩
  fits := by simp [SeqArr.init, calloc]
  data_eq := ⟨_, rfl⟩

theorem Ok.flatten_length (h : Ok arr elems) : elems.flatten.length = arr.size * arr.eltSize := by
  rw [length_flatten_of h.length_eq, h.size_eq]

/-- The octets behind the elements. -/
theorem Ok.exists_rest (h : Ok arr elems) :
    ∃ rest, arr.data = elems.flatten ++ rest ∧
      (arr.cap - arr.size) * arr.eltSize ≤ rest.length := by
  obtain ⟨rest, hrest⟩ := h.data_eq
  refine ⟨rest, hrest, ?_⟩
  have hfits := h.fits
  rw [hrest, List.length_append, h.flatten_length] at hfits
  rw [Nat.sub_mul]
  omega

/-- **An element is where its index says**, inside the block. -/
theorem Ok.load_eq (h : Ok arr elems) {i : Nat} (hi : i < elems.length) :
    load (arr.iter i) arr.eltSize arr.data = .done elems[i] := by
  obtain ⟨rest, hrest⟩ := h.data_eq
  have hsplit : elems = elems.take i ++ elems[i] :: elems.drop (i + 1) := by
    rw [← List.drop_eq_getElem_cons hi, List.take_append_drop]
  have htake : (elems.take i).flatten.length = arr.iter i := by
    rw [length_flatten_of fun x hx => h.length_eq x (List.mem_of_mem_take hx),
      List.length_take_of_le (Nat.le_of_lt hi), iter]
  have hdata : arr.data =
      (elems.take i).flatten ++ (elems[i] ++ ((elems.drop (i + 1)).flatten ++ rest)) :=
    calc arr.data = elems.flatten ++ rest := hrest
      _ = (elems.take i ++ elems[i] :: elems.drop (i + 1)).flatten ++ rest := by rw [← hsplit]
      _ = _ := by simp only [List.flatten_append, List.flatten_cons, List.append_assoc]
  rw [hdata]
  exact load_append htake (h.length_eq _ (List.getElem_mem hi))

/-- **There is room for an element** below the capacity. -/
theorem Ok.store_eq (h : Ok arr elems) {x : List Octet} (hx : x.length = arr.eltSize) :
    ∃ rest, store (arr.size * arr.eltSize) x arr.data = .done ((elems ++ [x]).flatten ++ rest) ∧
      (elems ++ [x]).flatten.length + rest.length = arr.data.length := by
  obtain ⟨rest, hrest, hlen⟩ := h.exists_rest
  have hroom : x.length ≤ rest.length := by
    have hone : 1 * arr.eltSize ≤ (arr.cap - arr.size) * arr.eltSize :=
      Nat.mul_le_mul_right _ (Nat.sub_pos_of_lt h.size_lt)
    omega
  refine ⟨rest.drop x.length, ?_, ?_⟩
  · rw [hrest, store_front h.flatten_length hroom]
    simp
  · simp only [List.flatten_append, List.length_append, List.length_drop, hrest,
      List.flatten_cons, List.flatten_nil, List.length_nil]
    omega

/-! ## Growing and shrinking -/

theorem maybeExpand_eq (h : Ok arr elems) (hpos : arr.size + 1 = arr.cap → 0 < arr.eltSize) :
    ∃ arr', arr.maybeExpand = .next arr' ∧ Ok arr' elems ∧ arr'.eltSize = arr.eltSize ∧
      arr'.size = arr.size ∧ arr.size + 1 < arr'.cap := by
  unfold maybeExpand
  by_cases hfull : arr.size + 1 = arr.cap
  · have hlt := h.size_lt
    have hflat := h.flatten_length
    have hn : 2 * arr.cap * arr.eltSize ≠ 0 := by
      have := Nat.mul_pos (show 0 < 2 * arr.cap by omega) (hpos hfull)
      omega
    have hne : (2 * arr.cap * arr.eltSize != 0) = true := bne_iff_ne.2 hn
    rw [if_pos hfull, realloc, Outcome.assert_of hne]
    refine ⟨_, rfl, ⟨h.size_eq, h.length_eq, ?_, ?_, ?_, ?_⟩, rfl, rfl, ?_⟩
    · show arr.size < arr.cap * 2
      omega
    · obtain ⟨k, hk⟩ := h.cap_pow
      refine ⟨k + 1, ?_⟩
      show arr.cap * 2 = MIN_SIZE * 2 ^ (k + 1)
      rw [hk, Nat.pow_succ, Nat.mul_assoc]
    · show arr.cap * 2 * arr.eltSize ≤ _
      rw [List.length_append, List.length_take, List.length_replicate, Nat.mul_comm arr.cap]
      omega
    · obtain ⟨rest, hrest⟩ := h.data_eq
      have hle : elems.flatten.length ≤ 2 * arr.cap * arr.eltSize := by
        rw [hflat]
        exact Nat.mul_le_mul_right _ (by omega)
      refine ⟨rest.take (2 * arr.cap * arr.eltSize - elems.flatten.length) ++
        List.replicate (2 * arr.cap * arr.eltSize - arr.data.length) 0, ?_⟩
      show arr.data.take _ ++ _ = _
      rw [hrest, List.take_append, List.take_of_length_le hle, List.append_assoc]
    · show arr.size + 1 < arr.cap * 2
      omega
  · have hlt := h.size_lt
    rw [if_neg hfull]
    exact ⟨arr, rfl, h, rfl, rfl, by omega⟩

/-- An array that is shrunk is less than half full, also after rounding. -/
theorem sparse_spec {size cap : Nat} (h : sparse size cap = true) :
    MIN_SIZE < size ∧ 2 * size < cap := by
  rw [sparse, Bool.and_eq_true, decide_eq_true_eq, decide_eq_true_eq] at h
  have hsize := (toFloat_near size).2
  have hcap := (toFloat_near cap).1
  have hlt := h.2
  refine ⟨h.1, ?_⟩
  generalize toFloat size = u at hsize hlt
  generalize toFloat cap = v at hcap hlt
  omega

/-- **Shrinking keeps the elements** if the new block, of `cap / 2` octets for each of
them, is large enough. -/
theorem maybeShrink_eq (h : Ok arr elems)
    (hroom : sparse arr.size arr.cap = true → arr.eltSize ≤ arr.cap / 2) :
    ∃ arr', arr.maybeShrink = .next arr' ∧ Ok arr' elems ∧ arr'.eltSize = arr.eltSize := by
  unfold maybeShrink
  by_cases hsp : sparse arr.size arr.cap = true
  · obtain ⟨hmin, hhalf⟩ := sparse_spec hsp
    have helt := hroom hsp
    have hflat := h.flatten_length
    have hcap : ∃ k, arr.cap / 2 = MIN_SIZE * 2 ^ k ∧ arr.cap = 2 * (arr.cap / 2) := by
      obtain ⟨k, hk⟩ := h.cap_pow
      cases k with
      | zero =>
        rw [hk] at hhalf
        omega
      | succ k =>
        rw [Nat.pow_succ, ← Nat.mul_assoc] at hk
        exact ⟨k, by omega, by omega⟩
    obtain ⟨k, hk, heven⟩ := hcap
    have hsize : arr.size < arr.cap / 2 := by omega
    have hload : load 0 (arr.size * arr.eltSize) arr.data = .done elems.flatten := by
      obtain ⟨rest, hrest⟩ := h.data_eq
      rw [hrest]
      exact load_append (List.length_nil : ([] : List Octet).length = 0) hflat
    have hle : elems.flatten.length ≤ (calloc (arr.cap / 2) (arr.cap / 2)).length := by
      rw [hflat, calloc, List.length_replicate]
      exact Nat.mul_le_mul (Nat.le_of_lt hsize) helt
    have hstore := store_front (List.length_nil : ([] : List Octet).length = 0) hle
    rw [List.nil_append, List.nil_append] at hstore
    have hminCap : decide (MIN_SIZE < arr.cap) = true := decide_eq_true (by omega)
    rw [if_pos hsp, Outcome.assert_of hminCap, Outcome.next_bind]
    dsimp only
    rw [Outcome.assert_of (decide_eq_true (Nat.le_of_lt hsize)), Outcome.next_bind, hload,
      access_done, Outcome.next_bind, hstore]
    refine ⟨_, rfl, ⟨h.size_eq, h.length_eq, hsize, ⟨k, hk⟩, ?_, ⟨_, rfl⟩⟩, rfl⟩
    show arr.cap / 2 * arr.eltSize ≤ _
    rw [List.length_append, List.length_drop, Nat.add_sub_cancel' hle, calloc,
      List.length_replicate]
    exact Nat.mul_le_mul_left _ helt
  · rw [if_neg hsp]
    exact ⟨arr, rfl, h, rfl⟩

/-! ## The operations -/

/-- **A push appends.** -/
theorem Ok.pushBack (h : Ok arr elems) {x : List Octet} (hx : x.length = arr.eltSize)
    (hpos : arr.size + 1 = arr.cap → 0 < arr.eltSize) :
    ∃ arr', arr.pushBack x = .next arr' ∧ Ok arr' (elems ++ [x]) ∧
      arr'.eltSize = arr.eltSize := by
  obtain ⟨arr₁, hexp, h₁, helt, hsize, hcap⟩ := maybeExpand_eq h hpos
  rw [← helt] at hx
  obtain ⟨rest, hstore, hlen⟩ := h₁.store_eq hx
  have hassert : (x.length == arr.eltSize) = true := beq_iff_eq.2 (hx.trans helt)
  rw [SeqArr.pushBack, Outcome.assert_of hassert, Outcome.next_bind, hexp, Outcome.next_bind,
    hstore, access_done, Outcome.next_bind]
  refine ⟨_, rfl, ⟨?_, fun y hy => ?_, ?_, h₁.cap_pow, ?_, ⟨rest, rfl⟩⟩, helt⟩
  · rw [List.length_append, ← h₁.size_eq]
    rfl
  · rcases List.mem_append.1 hy with hy | hy
    · exact h₁.length_eq y hy
    · rw [List.mem_singleton.1 hy]
      exact hx
  · show arr₁.size + 1 < arr₁.cap
    omega
  · have hfits := h₁.fits
    rw [← hlen, ← List.length_append] at hfits
    exact hfits

/-- Elements are moved over the ones in front of them. -/
theorem memmove_eq {l₁ l₂ l₃ rest : List Octet} {dst src n : Nat} (hdst : l₁.length = dst)
    (hsrc : l₁.length + l₂.length = src) (hn : l₃.length = n) :
    ∃ rest', memmove (l₁ ++ (l₂ ++ (l₃ ++ rest))) dst src n = .next (l₁ ++ (l₃ ++ rest')) ∧
      rest'.length = l₂.length + rest.length := by
  have hload : load src n (l₁ ++ (l₂ ++ (l₃ ++ rest))) = .done l₃ := by
    rw [← List.append_assoc]
    exact load_append (by rw [List.length_append, hsrc]) hn
  have hle : l₃.length ≤ (l₂ ++ (l₃ ++ rest)).length := by
    rw [List.length_append, List.length_append]
    omega
  refine ⟨(l₂ ++ (l₃ ++ rest)).drop l₃.length, ?_, ?_⟩
  · have hstore := store_front hdst hle
    rw [memmove, hload, access_done, Outcome.next_bind, hstore, access_done]
  · rw [List.length_drop, List.length_append, List.length_append]
    omega

/-- The number of elements that an erasure computes from the octets of them. -/
theorem numElmErase_eq {m n : Nat} (hn : 0 < n) (h : m * n < 2 ^ 31) :
    toSizeT (toInt (m * n : Nat)) = m * n ∧
      toInt (toSizeT (toInt (m * n : Nat)) / n : Nat) = m := by
  have hle : m * 1 ≤ m * n := Nat.mul_le_mul_left m hn
  have hbytes : toSizeT (toInt (m * n : Nat)) = m * n := by
    rw [toInt_of_lt h, toSizeT_of_lt h]
  refine ⟨hbytes, ?_⟩
  rw [hbytes, Nat.mul_div_cancel m hn]
  exact toInt_of_lt (by omega)

/-- **An erasure takes the range out**, and leaves what is before and behind it. -/
theorem Ok.erase {l₁ l₂ l₃ : List (List Octet)} (h : Ok arr (l₁ ++ (l₂ ++ l₃))) (hne : l₂ ≠ [])
    (hpos : 0 < arr.eltSize) (hmove : l₃.length * arr.eltSize < 2 ^ 31)
    (herase : l₂.length * arr.eltSize < 2 ^ 31)
    (hroom : sparse (l₁.length + l₃.length) arr.cap = true → arr.eltSize ≤ arr.cap / 2) :
    ∃ arr', arr.erase (arr.iter l₁.length) (arr.iter (l₁.length + l₂.length)) = .next arr' ∧
      Ok arr' (l₁ ++ l₃) ∧ arr'.eltSize = arr.eltSize := by
  obtain ⟨data, size, eltSize, cap⟩ := arr
  have hsize : size = l₁.length + (l₂.length + l₃.length) := by
    have := h.size_eq
    simpa using this
  have hlen : ∀ x ∈ l₁ ++ (l₂ ++ l₃), x.length = eltSize := h.length_eq
  have hlen' : ∀ x ∈ l₁ ++ l₃, x.length = eltSize := by
    intro x hx
    apply hlen
    rcases List.mem_append.1 hx with hx | hx
    · exact List.mem_append_left _ hx
    · exact List.mem_append_right _ (List.mem_append_right _ hx)
  have h₁ : l₁.flatten.length = l₁.length * eltSize :=
    length_flatten_of fun x hx => hlen x (List.mem_append_left _ hx)
  have h₂ : l₂.flatten.length = l₂.length * eltSize :=
    length_flatten_of fun x hx => hlen x (List.mem_append_right _ (List.mem_append_left _ hx))
  have h₃ : l₃.flatten.length = l₃.length * eltSize :=
    length_flatten_of fun x hx => hlen x (List.mem_append_right _ (List.mem_append_right _ hx))
  have hpos₂ : 0 < l₂.length := List.length_pos_of_ne_nil hne
  have hbytes : 0 < l₂.length * eltSize := Nat.mul_pos hpos₂ hpos
  have hstop : (l₁.length + l₂.length) * eltSize = l₁.length * eltSize + l₂.length * eltSize :=
    Nat.add_mul ..
  have hend : size * eltSize =
      l₁.length * eltSize + (l₂.length * eltSize + l₃.length * eltSize) := by
    rw [hsize, Nat.add_mul, Nat.add_mul]
  obtain ⟨rest, hdata⟩ := h.data_eq
  -- the elements behind the range are moved to where it starts
  obtain ⟨rest', hmem, hrest'⟩ : ∃ rest',
      memmove (l₁.flatten ++ (l₂.flatten ++ (l₃.flatten ++ rest))) (l₁.length * eltSize)
        ((l₁.length + l₂.length) * eltSize) (l₃.length * eltSize) =
          .next (l₁.flatten ++ (l₃.flatten ++ rest')) ∧
        rest'.length = l₂.flatten.length + rest.length :=
    memmove_eq h₁ (by rw [h₁, h₂, hstop]) h₃
  -- and the octets behind them are cleared
  have hflat : (l₁ ++ l₃).flatten.length = (size - l₂.length) * eltSize := by
    rw [length_flatten_of hlen', List.length_append, hsize]
    congr 1
    omega
  have hclear : (List.replicate (l₂.length * eltSize) (0 : Octet)).length ≤ rest'.length := by
    rw [List.length_replicate, hrest', h₂]
    exact Nat.le_add_right _ _
  have hstore := store_front hflat hclear
  obtain ⟨hbytesEq, hcount⟩ := numElmErase_eq hpos herase
  have hdataEq : data = l₁.flatten ++ (l₂.flatten ++ (l₃.flatten ++ rest)) := by
    simpa using hdata
  have hmoveLen : ((size * eltSize : Nat) : Int) - ((l₁.length + l₂.length) * eltSize : Nat) =
      (l₃.length * eltSize : Nat) := by
    omega
  have heraseLen : (((l₁.length + l₂.length) * eltSize : Nat) : Int) -
      (l₁.length * eltSize : Nat) = (l₂.length * eltSize : Nat) := by
    omega
  have hle : l₁.length * eltSize ≤ (l₁.length + l₂.length) * eltSize := by omega
  have hneIt : l₁.length * eltSize ≠ (l₁.length + l₂.length) * eltSize := by omega
  have hsub : size - l₂.length = l₁.length + l₃.length := by omega
  have hmoveInt := toInt_of_lt hmove
  have hnonneg : decide (-1 < toInt (l₃.length * eltSize : Nat)) = true := by
    rw [hmoveInt]
    exact decide_eq_true (Int.lt_of_lt_of_le (by decide) (Int.natCast_nonneg _))
  have hmoveNat : (toInt (l₃.length * eltSize : Nat)).toNat = l₃.length * eltSize := by
    rw [hmoveInt, Int.toNat_natCast]
  have hsome : decide (0 < toInt (toSizeT (toInt (l₂.length * eltSize : Nat)) / eltSize : Nat)) =
      true := by
    rw [hcount]
    exact decide_eq_true (Int.natCast_pos.2 hpos₂)
  have hcountNat : (toInt (toSizeT (toInt (l₂.length * eltSize : Nat)) / eltSize : Nat)).toNat =
      l₂.length := by
    rw [hcount, Int.toNat_natCast]
  have hrun : SeqArr.erase ⟨data, size, eltSize, cap⟩ (l₁.length * eltSize)
      ((l₁.length + l₂.length) * eltSize) =
      maybeShrink ⟨(l₁ ++ l₃).flatten ++ (List.replicate (l₂.length * eltSize) 0 ++
        rest'.drop (l₂.length * eltSize)), size - l₂.length, eltSize, cap⟩ := by
    unfold SeqArr.erase
    rw [Outcome.assert_of (decide_eq_true hle), Outcome.next_bind, if_neg hneIt]
    dsimp only [endIt]
    rw [hmoveLen, heraseLen, Outcome.assert_of hnonneg, Outcome.next_bind, hmoveNat, hdataEq, hmem,
      Outcome.next_bind, Outcome.assert_of hsome, Outcome.next_bind, hcountNat, hbytesEq]
    rw [List.flatten_append, List.append_assoc, List.length_replicate] at hstore
    rw [hstore, access_done, Outcome.next_bind, List.flatten_append, List.append_assoc]
  have hok : Ok ⟨(l₁ ++ l₃).flatten ++ (List.replicate (l₂.length * eltSize) 0 ++
      rest'.drop (l₂.length * eltSize)), size - l₂.length, eltSize, cap⟩ (l₁ ++ l₃) := by
    have hlt : size < cap := h.size_lt
    have hfits : cap * eltSize ≤ data.length := h.fits
    refine ⟨?_, hlen', ?_, h.cap_pow, ?_, ⟨_, rfl⟩⟩
    · show size - l₂.length = _
      rw [List.length_append, hsub]
    · show size - l₂.length < cap
      exact Nat.lt_of_le_of_lt (Nat.sub_le _ _) hlt
    · show cap * eltSize ≤ _
      rw [hdataEq] at hfits
      simp only [List.length_append, List.flatten_append, List.length_replicate,
        List.length_drop] at hfits ⊢
      omega
  obtain ⟨arr', hshrink, hok', helt⟩ := maybeShrink_eq hok (by
    rw [hsub]
    exact hroom)
  exact ⟨arr', hrun.trans hshrink, hok', helt⟩

/-! ## Runs -/

/-- An array, and what was put in and not taken out. -/
structure State where
  arr : SeqArr
  elems : List (List Octet)

inductive Event where
  | pushBack (data : List Octet)
  /-- the elements from position `i` on, up to position `j` -/
  | erase (i j : Nat)

def step (s : State) : Event → Outcome State
  | .pushBack data => do
    let arr ← s.arr.pushBack data
    return { arr, elems := s.elems ++ [data] }
  | .erase i j => do
    .await (decide (i ≤ j ∧ j ≤ s.arr.size))
    let arr ← s.arr.erase (s.arr.iter i) (s.arr.iter j)
    return { arr, elems := s.elems.take i ++ s.elems.drop j }

def machine (eltSize : Nat) : Machine State Event where
  init := { arr := init eltSize, elems := [] }
  step := step

/-- Where the block is shrunk, an element has at most as many octets as the new block has
elements, and the numbers of octets fit an `int`. -/
def Safe (s : State) : Event → Prop
  | .pushBack _ => s.arr.size + 1 = s.arr.cap → 0 < s.arr.eltSize
  | .erase i j =>
    i = j ∨ (0 < s.arr.eltSize ∧ (s.arr.size - j) * s.arr.eltSize < 2 ^ 31 ∧
      (j - i) * s.arr.eltSize < 2 ^ 31 ∧
      (sparse (s.arr.size - (j - i)) s.arr.cap = true → s.arr.eltSize ≤ s.arr.cap / 2))

instance (s : State) : (e : Event) → Decidable (Safe s e)
  | .pushBack _ => inferInstanceAs (Decidable (_ → 0 < s.arr.eltSize))
  | .erase i j => inferInstanceAs (Decidable (i = j ∨ _))

/-- **What is asked of an array**: the block has room for as many elements as the
capacity says, and holds the elements. -/
structure Holds (s : State) : Prop where
  buffer : s.arr.cap * s.arr.eltSize ≤ s.arr.data.length
  size_le : s.arr.size ≤ s.arr.cap
  size_eq : s.arr.size = s.elems.length
  /-- an element is read inside the block -/
  get : ∀ i (h : i < s.elems.length),
    load (s.arr.iter i) s.arr.eltSize s.arr.data = .done s.elems[i]
  /-- and the next one is written inside the block -/
  put : ∀ data : List Octet, data.length = s.arr.eltSize → s.arr.size < s.arr.cap →
    ∃ block, store s.arr.endIt data s.arr.data = .done block

variable {s s' : State} {e : Event}

theorem Ok.holds (h : Ok s.arr s.elems) : Holds s where
  buffer := h.fits
  size_le := Nat.le_of_lt h.size_lt
  size_eq := h.size_eq
  get := fun _ hi => h.load_eq hi
  put := fun _ hx _ =>
    let ⟨_, hstore, _⟩ := h.store_eq hx
    ⟨_, hstore⟩

theorem step_pushBack (h : Ok s.arr s.elems) {data : List Octet}
    (hdata : data.length = s.arr.eltSize) (hsafe : Safe s (.pushBack data)) :
    ∃ s', step s (.pushBack data) = .next s' ∧ Ok s'.arr s'.elems ∧
      s'.arr.eltSize = s.arr.eltSize := by
  obtain ⟨arr', hpush, hok, helt⟩ := h.pushBack hdata hsafe
  refine ⟨⟨arr', s.elems ++ [data]⟩, ?_, hok, helt⟩
  rw [step, hpush, Outcome.next_bind]
  rfl

theorem step_erase (h : Ok s.arr s.elems) {i j : Nat} (hij : i ≤ j) (hj : j ≤ s.arr.size)
    (hsafe : Safe s (.erase i j)) :
    ∃ s', step s (.erase i j) = .next s' ∧ Ok s'.arr s'.elems ∧
      s'.arr.eltSize = s.arr.eltSize := by
  have hawait : decide (i ≤ j ∧ j ≤ s.arr.size) = true := decide_eq_true ⟨hij, hj⟩
  have hrange : Outcome.await (decide (i ≤ j ∧ j ≤ s.arr.size)) = .next ⟨⟩ :=
    Outcome.await_eq_next.2 hawait
  rcases Nat.eq_or_lt_of_le hij with rfl | hlt
  · refine ⟨s, ?_, h, rfl⟩
    rw [step, hrange, Outcome.next_bind, erase, Outcome.assert_of (decide_eq_true (Nat.le_refl _)),
      Outcome.next_bind, if_pos rfl, Outcome.pure_eq, Outcome.next_bind, List.take_append_drop]
    rfl
  · obtain ⟨hpos, hmove, herase, hroom⟩ := hsafe.resolve_left (Nat.ne_of_lt hlt)
    have hsize := h.size_eq
    have hsplit : s.elems =
        s.elems.take i ++ ((s.elems.drop i).take (j - i) ++ s.elems.drop j) := by
      conv_lhs => rw [← List.take_append_drop i s.elems,
        ← List.take_append_drop (j - i) (s.elems.drop i), List.drop_drop, Nat.add_sub_cancel' hij]
    have h₁ : (s.elems.take i).length = i := List.length_take_of_le (by omega)
    have h₂ : ((s.elems.drop i).take (j - i)).length = j - i :=
      List.length_take_of_le (by rw [List.length_drop]; omega)
    have h₃ : (s.elems.drop j).length = s.arr.size - j := by rw [List.length_drop, hsize]
    have hne : (s.elems.drop i).take (j - i) ≠ [] := by
      intro hnil
      rw [hnil, List.length_nil] at h₂
      omega
    rw [hsplit] at h
    obtain ⟨arr', hrun, hok, helt⟩ := h.erase hne hpos (by rwa [h₃]) (by rwa [h₂]) (by
      rw [h₁, h₃, show i + (s.arr.size - j) = s.arr.size - (j - i) by omega]
      exact hroom)
    rw [h₁, h₂, Nat.add_sub_cancel' hij] at hrun
    refine ⟨⟨arr', s.elems.take i ++ s.elems.drop j⟩, ?_, hok, helt⟩
    rw [step, hrange, Outcome.next_bind, hrun, Outcome.next_bind]
    rfl

theorem step_ok (h : Ok s.arr s.elems) (hsafe : Safe s e) (hstep : step s e = .next s') :
    Ok s'.arr s'.elems ∧ s'.arr.eltSize = s.arr.eltSize := by
  cases e with
  | pushBack data =>
    have hdata : data.length = s.arr.eltSize := by
      simp only [step, pushBack, Outcome.bind_eq_next, Outcome.assert_eq_next, beq_iff_eq] at hstep
      obtain ⟨arr, ⟨_, hlen, _⟩, _⟩ := hstep
      exact hlen
    obtain ⟨s₁, hrun, hok⟩ := step_pushBack h hdata hsafe
    rw [hrun, Outcome.next_inj] at hstep
    exact hstep ▸ hok
  | erase i j =>
    have hrange : i ≤ j ∧ j ≤ s.arr.size := by
      simp only [step, Outcome.bind_eq_next, Outcome.await_eq_next, decide_eq_true_eq] at hstep
      obtain ⟨_, hrange, _⟩ := hstep
      exact hrange
    obtain ⟨s₁, hrun, hok⟩ := step_erase h hrange.1 hrange.2 hsafe
    rw [hrun, Outcome.next_inj] at hstep
    exact hstep ▸ hok

/-- **The block holds the elements and has room for the capacity**, in every run whose
erasures leave it to a shrunk block that is large enough; and the next operation works. -/
theorem seqArr_holds (eltSize : Nat) (s : State) (h : (machine eltSize).ReachedBy Safe s) :
    Holds s ∧ s.arr.eltSize = eltSize ∧
      (∀ data, data.length = eltSize → Safe s (.pushBack data) →
        ∃ s', step s (.pushBack data) = .next s') ∧
      ∀ i j, i ≤ j → j ≤ s.arr.size → Safe s (.erase i j) →
        ∃ s', step s (.erase i j) = .next s' := by
  have hok : Ok s.arr s.elems ∧ s.arr.eltSize = eltSize := by
    refine h.invariant (P := fun s => Ok s.arr s.elems ∧ s.arr.eltSize = eltSize)
      ⟨.init eltSize, rfl⟩ fun s e s' _ hok hsafe hstep => ?_
    obtain ⟨hok', helt⟩ := step_ok hok.1 hsafe hstep
    exact ⟨hok', helt.trans hok.2⟩
  obtain ⟨hok, helt⟩ := hok
  refine ⟨hok.holds, helt, fun data hdata hsafe => ?_, fun i j hij hj hsafe => ?_⟩
  · obtain ⟨s', hstep, _⟩ := step_pushBack hok (hdata.trans helt.symm) hsafe
    exact ⟨s', hstep⟩
  · obtain ⟨s', hstep, _⟩ := step_erase hok hij hj hsafe
    exact ⟨s', hstep⟩

/-- Three elements of two octets, the first one taken out. -/
theorem seqArr_holds_pair :
    ∃ s, (machine 2).ReachedBy Safe s ∧ Holds s ∧ s.elems = [[3, 4], [5, 6]] := by
  obtain ⟨s, hs, helems⟩ := Machine.ReachedBy.exists_of_run (M := machine 2) (C := Safe)
    [.pushBack [1, 2], .pushBack [3, 4], .pushBack [5, 6], .erase 0 1]
    (fun s => decide (s.elems = [[3, 4], [5, 6]])) (by decide)
  exact ⟨s, hs, (seqArr_holds 2 s hs).1, of_decide_eq_true helems⟩

/-- `n` elements of 40 zeroes, in a block of zeroes. -/
def zeroes (n cap : Nat) : State where
  arr := { data := List.replicate (cap * 40) 0, size := n, eltSize := 40, cap }
  elems := List.replicate n (List.replicate 40 0)

theorem store_zeroes {off n m : Nat} (h : off + n ≤ m) :
    store off (List.replicate n 0) (List.replicate m 0) = .done (List.replicate m 0) := by
  rw [store, if_pos (by simpa only [List.length_replicate] using h)]
  simp only [List.take_replicate, List.drop_replicate, List.length_replicate,
    List.replicate_append_replicate]
  congr 2
  omega

/-- One more element, and the block grows with the capacity. -/
theorem step_zeroes {n cap : Nat} (h : n < cap) :
    step (zeroes n cap) (.pushBack (List.replicate 40 0)) =
      .next (zeroes (n + 1) (if n + 1 = cap then cap * 2 else cap)) := by
  have hstored (m : Nat) (hm : cap ≤ m) :
      store (n * 40) (List.replicate 40 0) (List.replicate (m * 40) 0) =
        .done (List.replicate (m * 40) 0) := store_zeroes (by omega)
  have hlen : (List.replicate 40 (0 : Octet)).length == 40 := by
    simp only [List.length_replicate, beq_self_eq_true]
  have helems : List.replicate n (List.replicate 40 (0 : Octet)) ++ [List.replicate 40 0] =
      List.replicate (n + 1) (List.replicate 40 0) := List.replicate_succ'.symm
  by_cases hfull : n + 1 = cap
  · have hgrown : realloc (List.replicate (cap * 40) 0) (2 * cap * 40) =
        .next (List.replicate (cap * 2 * 40) 0) := by
      rw [realloc, Outcome.assert_of (bne_iff_ne.2 (by omega)), Outcome.next_bind,
        List.take_replicate, List.replicate_append_replicate, List.length_replicate]
      congr 2
      omega
    have hroom : cap ≤ cap * 2 := Nat.le_mul_of_pos_right cap Nat.two_pos
    rw [step, pushBack, zeroes, Outcome.assert_of hlen, Outcome.next_bind, maybeExpand,
      if_pos hfull, hgrown, Outcome.next_bind, if_pos hfull]
    simp only [Outcome.pure_eq, Outcome.next_bind, hstored _ hroom, access_done, zeroes, helems]
  · rw [step, pushBack, zeroes, Outcome.assert_of hlen, Outcome.next_bind, maybeExpand,
      if_neg hfull, Outcome.next_bind, if_neg hfull]
    simp only [hstored _ (Nat.le_refl cap), access_done, Outcome.next_bind, Outcome.pure_eq,
      zeroes, helems]

/-- The capacity after up to 32 elements. -/
def capAt (n : Nat) : Nat :=
  if n < 8 then 8 else if n < 16 then 16 else if n < 32 then 32 else 64

theorem reachable_zeroes {n : Nat} (hn : n ≤ 32) : (machine 40).Reachable (zeroes n (capAt n)) := by
  induction n with
  | zero => exact .init
  | succ n ih =>
    have hlt : n < capAt n := by
      unfold capAt
      split_ifs <;> omega
    have hcap : (if n + 1 = capAt n then capAt n * 2 else capAt n) = capAt (n + 1) := by
      unfold capAt
      split_ifs <;> omega
    have hstep : (machine 40).step (zeroes n (capAt n)) (.pushBack (List.replicate 40 0)) =
        .next (zeroes (n + 1) (capAt (n + 1))) := hcap ▸ step_zeroes hlt
    exact .step (ih (by omega)) trivial hstep

/-- Octets of a block of zeroes. -/
theorem load_zeroes {off n m : Nat} (h : off + n ≤ m) :
    load off n (List.replicate m (0 : Octet)) = .done (List.replicate n 0) := by
  rw [load, if_pos (by simpa only [List.length_replicate] using h), List.drop_replicate,
    List.take_replicate, Nat.min_eq_left (Nat.le_sub_of_add_le' h)]

/-- 23 of 32 elements taken out leave a block of 32 times 32 octets. -/
theorem erase_zeroes : (zeroes 32 64).arr.erase ((zeroes 32 64).arr.iter 0)
    ((zeroes 32 64).arr.iter 23) =
      .next { data := List.replicate 1024 0, size := 9, eltSize := 40, cap := 32 } := by
  have hsparse : sparse 9 64 = true := by decide
  have hmove : memmove (List.replicate 2560 0) 0 920 360 = .next (List.replicate 2560 0) := by
    rw [memmove, load_zeroes (by decide), access_done, Outcome.next_bind,
      store_zeroes (by decide), access_done]
  have hclear : store 360 (List.replicate 920 0) (List.replicate 2560 0) =
      .done (List.replicate 2560 0) := store_zeroes (by decide)
  have hshrink : maybeShrink ⟨List.replicate 2560 0, 9, 40, 64⟩ =
      .next ⟨List.replicate 1024 0, 9, 40, 32⟩ := by
    have hload : load 0 360 (List.replicate 2560 (0 : Octet)) = _ := load_zeroes (by decide)
    have hstore : store 0 (List.replicate 360 0) (calloc 32 32) = _ := store_zeroes (by decide)
    rw [maybeShrink, if_pos hsparse]
    simp only [Outcome.assert_of (by decide : decide (MIN_SIZE < 64) = true), Outcome.next_bind,
      Outcome.assert_of (by decide : decide (9 ≤ 64 / 2) = true), hload, access_done]
    rw [hstore]
    rfl
  have hstart : (zeroes 32 64).arr.iter 0 = 0 := rfl
  have hstop : (zeroes 32 64).arr.iter 23 = 920 := rfl
  have hend : (zeroes 32 64).arr.endIt = 1280 := rfl
  have hbytes : toSizeT (toInt (920 : Nat)) = 920 := rfl
  have hcount : toInt ((920 / 40 : Nat) : Int) = 23 := rfl
  have hmoved : toInt ((1280 : Nat) - (920 : Nat) : Int) = 360 := rfl
  rw [erase, hstart, hstop, hend, Outcome.assert_of (c := decide (0 ≤ 920)) rfl,
    Outcome.next_bind, if_neg (by decide)]
  simp only [hmoved]
  rw [Outcome.assert_of (c := decide (-1 < (360 : Int))) rfl, Outcome.next_bind]
  change (memmove (List.replicate 2560 0) 0 920 360 >>= _) = _
  rw [hmove, Outcome.next_bind, Outcome.assert_of (by decide), Outcome.next_bind]
  change (access (store 360 (List.replicate 920 0) (List.replicate 2560 0)) >>= _) = _
  rw [hclear, access_done, Outcome.next_bind]
  exact hshrink

/-- **Elements of 40 octets**: 32 are pushed and 23 taken out of the front, and the block
is shrunk to 1024 octets for a capacity of 32. -/
theorem seqArr_short : ∃ s, (machine 40).Reachable s ∧ ¬ Holds s := by
  have hstep : step (zeroes 32 64) (.erase 0 23) =
      .next ⟨{ data := List.replicate 1024 0, size := 9, eltSize := 40, cap := 32 },
        (zeroes 32 64).elems.take 0 ++ (zeroes 32 64).elems.drop 23⟩ := by
    have hrange : Outcome.await (decide (0 ≤ 23 ∧ 23 ≤ (zeroes 32 64).arr.size)) = .next ⟨⟩ := rfl
    rw [step, hrange, Outcome.next_bind, erase_zeroes, Outcome.next_bind, Outcome.pure_eq]
  have hmachine : (machine 40).step (zeroes 32 64) (.erase 0 23) = _ := hstep
  have hreached : (machine 40).Reachable (zeroes 32 64) := reachable_zeroes (Nat.le_refl 32)
  refine ⟨_, .step hreached trivial hmachine, fun hholds => ?_⟩
  have hbuffer : 32 * 40 ≤ (List.replicate 1024 (0 : Octet)).length := hholds.buffer
  rw [List.length_replicate] at hbuffer
  exact absurd hbuffer (by decide)

end SeqArr

end FlexRic
