import FlexRic.Lib.Octets

/-!
# FlexRic.Lib.Plain

Encoders and decoders that `memcpy` fields to and from a buffer, with a pointer
that moves past them.

* `Access α` is what such a function does: hand over a value, fail an assertion,
  or touch memory it must not.
* A `Reader` takes octets from the front of those that are left, a `Writer` puts
  octets behind those that are written, into a block of fixed size.
* `Reads`: what a reader takes from the front, and makes of it.  `Writes`: what a
  writer puts where there is room.  `Codes`: a writer puts as many octets as were
  computed, and a reader makes the value of them.  Each says how many octets have
  to follow, since a function may assert that some do.
* `Gives r P`: whatever `r` hands over has `P`.
* A `Scalar` is a type of fixed size, with the proof that its octets come back.
* An `Arr` is an array with its length in a `uint32_t`.
-/

namespace FlexRic

abbrev Octet := UInt8

namespace Plain

/-! ## Accesses -/

/-- What a function that moves octets does. -/
inductive Access (α : Type) where
  | done (a : α)
  /-- an assertion failed -/
  | refused (msg : String)
  /-- octets past the end of the buffer are read -/
  | overread
  /-- octets past the end of a block are written -/
  | overwrite
  deriving DecidableEq

namespace Access

variable {α β : Type}

def bind (x : Access α) (f : α → Access β) : Access β :=
  match x with
  | done a => f a
  | refused m => refused m
  | overread => overread
  | overwrite => overwrite

@[simp] theorem done_inj {a b : α} : (done a : Access α) = done b ↔ a = b :=
  ⟨fun h => by injection h, fun h => by rw [h]⟩

/-- **A sequence of accesses ends** if both its parts do. -/
@[simp] theorem bind_eq_done {x : Access α} {f : α → Access β} {b : β} :
    x.bind f = done b ↔ ∃ a, x = done a ∧ f a = done b := by
  cases x <;> simp [bind]

instance : Monad Access where
  pure := done
  bind := bind

@[simp] theorem pure_eq (a : α) : (pure a : Access α) = done a := rfl

/-- A bind goes on where its first part ends. -/
theorem bind_of_done {x : Access α} {f : α → Access β} {a : α} (h : x = done a) :
    x >>= f = f a := by
  rw [h]
  rfl

/-- What comes after is only looked at where there is a value. -/
theorem bind_congr {x : Access α} {f g : α → Access β} (h : ∀ a, x = done a → f a = g a) :
    x >>= f = x >>= g := by
  cases x with
  | done a => exact h a rfl
  | refused m => rfl
  | overread => rfl
  | overwrite => rfl

theorem bind_bind {γ : Type} (x : Access α) (f : α → Access β) (g : β → Access γ) :
    x >>= f >>= g = x >>= fun a => f a >>= g := by
  cases x <;> rfl

end Access

/-- A function that moves octets and changes what it keeps track of. -/
def Pass (σ α : Type) := σ → Access (α × σ)

instance (σ : Type) : Monad (Pass σ) where
  pure a := fun s => .done (a, s)
  bind x f := fun s => (x s).bind fun p => f p.1 p.2

namespace Pass

variable {σ α β : Type}

@[simp] theorem pure_apply (a : α) (s : σ) : (pure a : Pass σ α) s = .done (a, s) := rfl

theorem bind_apply (x : Pass σ α) (f : α → Pass σ β) (s : σ) :
    (x >>= f) s = (x s).bind fun p => f p.1 p.2 := rfl

theorem bind_of_done {x : Pass σ α} {f : α → Pass σ β} {s s' : σ} {a : α}
    (h : x s = .done (a, s')) : (x >>= f) s = f a s' := by
  rw [bind_apply, h]
  rfl

/-- `assert(0 != 0 && msg)`. -/
def refuse (msg : String) : Pass σ α := fun _ => .refused msg

/-- More is copied into a block than it holds. -/
def overrun : Pass σ α := fun _ => .overwrite

/-- `assert` of what is kept track of. -/
def check (p : σ → Bool) (msg : String) : Pass σ Unit := fun s =>
  if p s then .done ((), s) else .refused msg

/-- A check that holds changes nothing. -/
theorem check_of {p : σ → Bool} {msg : String} {s : σ} (h : p s = true) :
    check p msg s = .done ((), s) := by
  rw [check, if_pos h]

end Pass

/-! ## Readers -/

/-- A reader keeps the octets that are left. -/
abbrev Reader := Pass (List Octet)

/-- `memcpy` of `n` octets, and the pointer past them. -/
def take (n : Nat) : Reader { bs : List Octet // bs.length = n } := fun s =>
  if h : n ≤ s.length then .done (⟨s.take n, List.length_take_of_le h⟩, s.drop n) else .overread

/-- `memcpy` of `n` octets into a block of `size`. -/
def takeInto (size n : Nat) : Reader { bs : List Octet // bs.length = n } :=
  if n ≤ size then take n else Pass.overrun

/-- `assert(it < buf + len && msg)`. -/
def left (msg : String) : Reader Unit := Pass.check (fun s => decide (s ≠ [])) msg

/-- `for(i = 0; i < n; ++i)`, into an array of `n`. -/
def times {α : Type} (r : Reader α) : (n : Nat) → Reader { xs : List α // xs.length = n }
  | 0 => pure ⟨[], rfl⟩
  | n + 1 => do
    let x ← r
    let xs ← times r n
    return ⟨x :: xs.1, congrArg (· + 1) xs.2⟩

/-- Reading a whole buffer, and the assertion that nothing is left. -/
def whole {α : Type} (msg : String) (r : Reader α) (bs : List Octet) : Access α :=
  (r bs).bind fun p => if p.2 = [] then .done p.1 else .refused msg

/-- In front of `k` octets or more, `r` takes `bs` and makes `a` of them. -/
def Reads {α : Type} (k : Nat) (r : Reader α) (bs : List Octet) (a : α) : Prop :=
  ∀ rest : List Octet, k ≤ rest.length → r (bs ++ rest) = .done (a, rest)

/-- A reader of `n` octets takes `n`. -/
theorem reads_take {k n : Nat} {bs : List Octet} (h : bs.length = n) :
    Reads k (take n) bs ⟨bs, h⟩ := by
  intro rest _
  have hle : n ≤ (bs ++ rest).length := by
    rw [List.length_append]
    omega
  rw [take, dif_pos hle]
  congr 2
  · exact Subtype.ext (List.take_left' h)
  · exact List.drop_left' h

section Reads

variable {α β : Type} {k n : Nat} {r : Reader α} {f : α → Reader β} {bs bs' : List Octet}
  {a : α} {b : β}

/-- Two readers take what both take. -/
theorem Reads.bind (h : Reads (bs'.length + k) r bs a) (h' : Reads k (f a) bs' b) :
    Reads k (r >>= f) (bs ++ bs') b := by
  intro rest hrest
  have hlen : bs'.length + k ≤ (bs' ++ rest).length := by
    rw [List.length_append]
    omega
  rw [List.append_assoc, Pass.bind_of_done (h _ hlen), h' rest hrest]

theorem Reads.map {g : α → β} (h : Reads k r bs a) :
    Reads k (r >>= fun x => pure (g x)) bs (g a) := by
  intro rest hrest
  rw [Pass.bind_of_done (h rest hrest), Pass.pure_apply]

/-- A loop reads what its body takes on each turn. -/
theorem reads_times {g : α → List Octet} (h : ∀ x k, Reads k r (g x) x) {xs : List α}
    (hn : xs.length = n) : Reads k (times r n) (xs.flatMap g) ⟨xs, hn⟩ := by
  subst hn
  induction xs with
  | nil => exact fun _ _ => rfl
  | cons x xs ih =>
    rw [List.flatMap_cons]
    exact (h x _).bind ih.map

/-- A loop that reads makes its first turn, and then the others. -/
theorem reads_times_cons (h : ∀ k, Reads k r bs a) {bs' : List Octet} {xs : List α}
    (h' : ∀ k, Reads k (times r xs.length) bs' ⟨xs, rfl⟩) (hn : (a :: xs).length = n) :
    Reads k (times r n) (bs ++ bs') ⟨a :: xs, hn⟩ := by
  subst hn
  exact (h _).bind (h' k).map

/-- A reader that takes the whole buffer is not refused. -/
theorem Reads.whole (h : Reads 0 r bs a) (msg : String) : whole msg r bs = .done a := by
  have hread := h [] (Nat.le_refl _)
  rw [List.append_nil] at hread
  rw [Plain.whole, hread]
  rfl

end Reads

/-! ### What a reader hands over -/

/-- Whatever `r` hands over has `P`. -/
def Gives {α : Type} (r : Reader α) (P : α → Prop) : Prop :=
  ∀ s a s', r s = .done (a, s') → P a

section Gives

variable {α β : Type}

theorem gives_true (r : Reader α) : Gives r fun _ => True := fun _ _ _ _ => trivial

theorem gives_pure {P : α → Prop} {a : α} (h : P a) : Gives (pure a) P := by
  intro s b s' hb
  have : a = b := congrArg Prod.fst (Access.done_inj.1 hb)
  exact this ▸ h

theorem gives_refuse {P : α → Prop} (msg : String) : Gives (Pass.refuse msg) P := by
  intro s a s' h
  cases h

/-- The second reader may use what the first one gives. -/
theorem Gives.bind {r : Reader α} {f : α → Reader β} {P : α → Prop} {Q : β → Prop}
    (h : Gives r P) (h' : ∀ a, P a → Gives (f a) Q) : Gives (r >>= f) Q := by
  intro s b s' hb
  obtain ⟨p, hp, hf⟩ := Access.bind_eq_done.1 hb
  exact h' p.1 (h s p.1 p.2 hp) p.2 b s' hf

/-- A part whose value does not matter. -/
theorem Gives.skip {r : Reader α} {f : α → Reader β} {Q : β → Prop}
    (h : ∀ a, Gives (f a) Q) : Gives (r >>= f) Q :=
  (gives_true r).bind fun a _ => h a

/-- What holds of one element holds of each. -/
theorem gives_times {r : Reader α} {P : α → Prop} (h : Gives r P) (n : Nat) :
    Gives (times r n) fun xs => ∀ x ∈ xs.1, P x := by
  induction n with
  | zero => exact gives_pure fun x hx => absurd hx List.not_mem_nil
  | succ n ih =>
    refine h.bind fun x hx => ih.bind fun xs hxs => gives_pure ?_
    intro y hy
    rcases List.mem_cons.1 hy with rfl | hy
    · exact hx
    · exact hxs y hy

/-- Nothing is read into a room that is too small. -/
theorem gives_takeInto {size n : Nat} : Gives (takeInto size n) fun _ => n ≤ size := by
  intro s a s' h
  by_contra hn
  rw [takeInto, if_neg hn] at h
  cases h

/-- The property of the value that a whole buffer gives. -/
theorem Gives.whole {r : Reader α} {P : α → Prop} (h : Gives r P) {msg : String}
    {bs : List Octet} {a : α} (hw : whole msg r bs = .done a) : P a := by
  obtain ⟨⟨b, rest⟩, hr, hb⟩ := Access.bind_eq_done.1 hw
  split at hb
  · cases hb
    exact h bs _ rest hr
  · cases hb

end Gives

/-! ## Writers -/

/-- A block from `malloc`, and what is written of it. -/
structure Block where
  size : Nat
  written : List Octet

abbrev Writer := Pass Block Unit

/-- `memcpy` of octets behind those that are written. -/
def put (bs : List Octet) : Writer := fun b =>
  if b.written.length + bs.length ≤ b.size then .done ((), ⟨b.size, b.written ++ bs⟩)
  else .overwrite

/-- `assert(it < end && msg)`. -/
def room (msg : String) : Writer := Pass.check (fun b => b.written.length < b.size) msg

/-- `for(i = 0; i < n; ++i)` over an array. -/
def forEach {α : Type} (w : α → Writer) : List α → Writer
  | [] => pure ()
  | x :: xs => do
    w x
    forEach w xs

/-- `malloc` of a size, a writer into it, and the assertion that it is full. -/
def fill (msg : String) (size : Nat) (w : Writer) : Access (List Octet) :=
  (w ⟨size, []⟩).bind fun p =>
    if p.2.written.length = size then .done p.2.written else .refused msg

/-- Where there is room for them and `k` octets or more, `w` puts `bs`. -/
def Writes (k : Nat) (w : Writer) (bs : List Octet) : Prop :=
  ∀ b : Block, b.written.length + bs.length + k ≤ b.size →
    w b = .done ((), ⟨b.size, b.written ++ bs⟩)

/-- A writer of octets writes them. -/
theorem writes_put {k : Nat} (bs : List Octet) : Writes k (put bs) bs :=
  fun _ h => if_pos (Nat.le_of_add_right_le h)

theorem writes_pure {k : Nat} : Writes k (pure ()) [] := by
  intro b _
  rw [List.append_nil]
  rfl

/-- Two writers write what both write. -/
theorem Writes.bind {k : Nat} {w w' : Writer} {bs bs' : List Octet}
    (h : Writes (bs'.length + k) w bs) (h' : Writes k w' bs') :
    Writes k (w >>= fun _ => w') (bs ++ bs') := by
  intro b hroom
  rw [List.length_append] at hroom
  have hlen : (b.written ++ bs).length + bs'.length + k ≤ b.size := by
    rw [List.length_append]
    omega
  rw [Pass.bind_of_done (h b (by omega)), h' _ hlen, List.append_assoc]

/-- A loop writes what its body writes on each turn. -/
theorem writes_forEach {α : Type} {w : α → Writer} {g : α → List Octet} {k : Nat}
    (h : ∀ x k, Writes k (w x) (g x)) (xs : List α) : Writes k (forEach w xs) (xs.flatMap g) := by
  induction xs with
  | nil => exact writes_pure
  | cons x xs ih =>
    rw [List.flatMap_cons]
    exact (h x _).bind ih

/-- **A buffer of the right size is filled.** -/
theorem Writes.fill {w : Writer} {bs : List Octet} {n : Nat} (h : Writes 0 w bs)
    (hn : bs.length = n) (msg : String) : fill msg n w = .done bs := by
  subst hn
  rw [Plain.fill, h ⟨bs.length, []⟩ (by simp)]
  exact if_pos rfl

/-! ## Access by position -/

/-- `memcpy` of `n` octets from a position of a buffer. -/
def load (off n : Nat) (buf : List Octet) : Access (List Octet) :=
  if off + n ≤ buf.length then .done ((buf.drop off).take n) else .overread

/-- `memcpy` to a position of a buffer. -/
def store (off : Nat) (bs buf : List Octet) : Access (List Octet) :=
  if off + bs.length ≤ buf.length then
    .done (buf.take off ++ bs ++ buf.drop (off + bs.length))
  else
    .overwrite

/-- Octets are read where they were put. -/
theorem load_append {off n : Nat} {pre mid post : List Octet} (hpre : pre.length = off)
    (hmid : mid.length = n) : load off n (pre ++ (mid ++ post)) = .done mid := by
  have hle : off + n ≤ (pre ++ (mid ++ post)).length := by
    rw [List.length_append, List.length_append]
    omega
  rw [load, if_pos hle, List.drop_left' hpre, List.take_left' hmid]

/-- Octets are replaced where they are. -/
theorem store_append {off : Nat} {bs pre mid post : List Octet} (hpre : pre.length = off)
    (hmid : mid.length = bs.length) :
    store off bs (pre ++ (mid ++ post)) = .done (pre ++ (bs ++ post)) := by
  have hle : off + bs.length ≤ (pre ++ (mid ++ post)).length := by
    rw [List.length_append, List.length_append]
    omega
  rw [store, if_pos hle, ← List.drop_drop, List.take_left' hpre, List.drop_left' hpre,
    List.drop_left' hmid, List.append_assoc]

/-- A store neither adds nor removes octets. -/
theorem length_of_store {off : Nat} {bs buf buf' : List Octet}
    (h : store off bs buf = .done buf') : buf'.length = buf.length := by
  unfold store at h
  split at h
  · rw [Access.done_inj] at h
    subst h
    rw [List.length_append, List.length_append, List.length_take, List.length_drop]
    omega
  · cases h

/-- A buffer is as it was where it held what is stored. -/
theorem store_eq_self_iff {off : Nat} {bs buf : List Octet} :
    store off bs buf = .done buf ↔
      off + bs.length ≤ buf.length ∧ (buf.drop off).take bs.length = bs := by
  by_cases hle : off + bs.length ≤ buf.length
  · have hbuf : buf = buf.take off ++ ((buf.drop off).take bs.length ++
        buf.drop (off + bs.length)) := by
      rw [← List.drop_drop, List.take_append_drop, List.take_append_drop]
    have hiff : buf.take off ++ (bs ++ buf.drop (off + bs.length)) =
        buf.take off ++ ((buf.drop off).take bs.length ++ buf.drop (off + bs.length)) ↔
        (buf.drop off).take bs.length = bs := by
      rw [List.append_cancel_left_eq, List.append_cancel_right_eq, eq_comm]
    rw [← hbuf] at hiff
    rw [store, if_pos hle, Access.done_inj, and_iff_right hle, List.append_assoc, hiff]
  · rw [store, if_neg hle]
    exact iff_of_false (fun h => by cases h) fun h => hle h.1

/-! ## Codes -/

/-- `w` puts `n` octets of which `r` makes `a`, where `k` octets or more follow. -/
def Codes {α : Type} (k n : Nat) (w : Writer) (r : Reader α) (a : α) : Prop :=
  ∃ bs : List Octet, bs.length = n ∧ Writes k w bs ∧ Reads k r bs a

section Codes

variable {α β : Type} {k m n : Nat} {w w' : Writer} {r : Reader α} {f : α → Reader β} {a : α}
  {b : β}

theorem Codes.of_eq (h : Codes k n w r a) (hn : n = m) : Codes k m w r a := hn ▸ h

theorem codes_pure (a : α) : Codes k 0 (pure ()) (pure a) a :=
  ⟨[], rfl, writes_pure, fun _ _ => rfl⟩

/-- **One behind the other.** -/
theorem Codes.bind (h : Codes (m + k) n w r a) (h' : Codes k m w' (f a) b) :
    Codes k (n + m) (w >>= fun _ => w') (r >>= f) b := by
  obtain ⟨bs, rfl, hw, hr⟩ := h
  obtain ⟨bs', rfl, hw', hr'⟩ := h'
  exact ⟨bs ++ bs', List.length_append, hw.bind hw', hr.bind hr'⟩

/-- The last part of a value, and the value. -/
theorem Codes.map {g : α → β} (h : Codes k n w r a) :
    Codes k n w (r >>= fun x => pure (g x)) (g a) := by
  obtain ⟨bs, hn, hw, hr⟩ := h
  exact ⟨bs, hn, hw, hr.map⟩

theorem writes_room {msg : String} (hk : 0 < k) : Writes k (room msg) [] := by
  intro b hroom
  have hlt : b.written.length < b.size := by
    rw [List.length_nil] at hroom
    omega
  rw [List.append_nil]
  exact Pass.check_of (decide_eq_true hlt)

/-- The assertion holds where anything follows. -/
theorem Codes.room {msg : String} (h : Codes k n w r a) (hpos : 0 < n + k) :
    Codes k n (room msg >>= fun _ => w) r a := by
  obtain ⟨bs, rfl, hw, hr⟩ := h
  refine ⟨bs, rfl, fun b hroom => ?_, hr⟩
  have hempty : Writes (bs.length + k) (Plain.room msg) [] := writes_room hpos
  have hcheck := hempty b (by rw [List.length_nil]; omega)
  rw [List.append_nil] at hcheck
  rw [Pass.bind_of_done hcheck, hw b hroom]

theorem codes_left {msg msg' : String} (hk : 0 < k) :
    Codes k 0 (Plain.room msg) (left msg') () := by
  refine ⟨[], rfl, writes_room hk, fun rest hrest => ?_⟩
  have hne : rest ≠ [] := List.ne_nil_of_length_pos (Nat.lt_of_lt_of_le hk hrest)
  exact Pass.check_of (decide_eq_true hne)

/-- **A loop reads what a loop wrote**, if the bodies do. -/
theorem codes_times {α : Type} {w : α → Writer} {size : α → Nat} {g : α → β} {r : Reader β}
    {xs : List α} (h : ∀ x ∈ xs, ∀ k' ≥ k, Codes k' (size x) (w x) r (g x))
    (hn : xs.length = n) :
    Codes k (xs.map size).sum (forEach w xs) (times r n)
      ⟨xs.map g, (List.length_map g).trans hn⟩ := by
  subst hn
  induction xs with
  | nil => exact codes_pure _
  | cons x xs ih =>
    have hx := h x List.mem_cons_self ((xs.map size).sum + k) (Nat.le_add_left _ _)
    have hxs := ih fun y hy => h y (List.mem_cons_of_mem x hy)
    exact hx.bind hxs.map

/-- **A block of the size that is put is filled, and read as a whole.** -/
theorem Codes.whole (h : Codes 0 n w r a) (msg msg' : String) :
    ∃ bs, fill msg n w = .done bs ∧ bs.length = n ∧ whole msg' r bs = .done a := by
  obtain ⟨bs, rfl, hw, hr⟩ := h
  exact ⟨bs, hw.fill rfl msg, rfl, hr.whole msg'⟩

/-- A block of another size fails the assertion. -/
theorem Codes.mismatch (h : Codes k n w r a) {size : Nat} (hroom : n + k ≤ size)
    (hne : n ≠ size) (msg : String) : fill msg size w = .refused msg := by
  obtain ⟨bs, rfl, hw, -⟩ := h
  rw [fill, hw ⟨size, []⟩ (by simpa using hroom)]
  exact if_neg hne

end Codes

/-! ## Types of fixed size -/

/-- A type whose values are copied as octets. -/
structure Scalar (α : Type) where
  size : Nat
  octets : α → List Octet
  ofOctets : List Octet → α
  length_octets (a : α) : (octets a).length = size
  ofOctets_octets (a : α) : ofOctets (octets a) = a

namespace Scalar

variable {α β : Type} (s : Scalar α) (t : Scalar β)

def read : Reader α := do
  let bs ← take s.size
  return s.ofOctets bs.1

def write (a : α) : Writer := put (s.octets a)

/-- A value of fixed size is read from its octets. -/
theorem reads {k : Nat} {bs : List Octet} (h : bs.length = s.size) :
    Reads k s.read bs (s.ofOctets bs) :=
  (reads_take h).map

/-- A value of fixed size is read as itself from the octets it was written as. -/
theorem reads_octets {k : Nat} (a : α) : Reads k s.read (s.octets a) a := by
  have hread : Reads k s.read (s.octets a) (s.ofOctets (s.octets a)) :=
    s.reads (s.length_octets a)
  rwa [s.ofOctets_octets] at hread

/-- The reader of a value of fixed size reads what its writer wrote. -/
theorem codes {k : Nat} (a : α) : Codes k s.size (s.write a) s.read a :=
  ⟨s.octets a, s.length_octets a, writes_put _, s.reads_octets a⟩

/-- Two fields one behind the other. -/
def pair : Scalar (α × β) where
  size := s.size + t.size
  octets p := s.octets p.1 ++ t.octets p.2
  ofOctets bs := (s.ofOctets (bs.take s.size), t.ofOctets (bs.drop s.size))
  length_octets p := by rw [List.length_append, s.length_octets, t.length_octets]
  ofOctets_octets p := by
    rw [List.take_left' (s.length_octets _), List.drop_left' (s.length_octets _),
      s.ofOctets_octets, t.ofOctets_octets]

/-- Two values of fixed size stand one behind the other. -/
theorem pair_ofOctets {bs bs' : List Octet} (h : bs.length = s.size) :
    (s.pair t).ofOctets (bs ++ bs') = (s.ofOctets bs, t.ofOctets bs') := by
  show (s.ofOctets ((bs ++ bs').take s.size), t.ofOctets ((bs ++ bs').drop s.size)) = _
  rw [List.take_left' h, List.drop_left' h]

/-- A structure of those fields. -/
def equiv (f : β → α) (g : α → β) (h : ∀ b, g (f b) = b) : Scalar β where
  size := s.size
  octets b := s.octets (f b)
  ofOctets bs := g (s.ofOctets bs)
  length_octets b := s.length_octets _
  ofOctets_octets b := by rw [s.ofOctets_octets, h]

/-- A field and `n` octets of padding behind it. -/
def padded (n : Nat) : Scalar α where
  size := s.size + n
  octets a := s.octets a ++ List.replicate n 0
  ofOctets bs := s.ofOctets (bs.take s.size)
  length_octets a := by rw [List.length_append, s.length_octets, List.length_replicate]
  ofOctets_octets a := by rw [List.take_left' (s.length_octets _), s.ofOctets_octets]

/-- A padded value has octets behind it that nothing reads. -/
theorem padded_ofOctets {n : Nat} {bs bs' : List Octet} (h : bs.length = s.size) :
    (s.padded n).ofOctets (bs ++ bs') = s.ofOctets bs := by
  show s.ofOctets ((bs ++ bs').take s.size) = _
  rw [List.take_left' h]

end Scalar

attribute [simp] Scalar.length_octets

/-- `uint8_t`. -/
def u8 : Scalar UInt8 where
  size := 1
  octets v := [v]
  ofOctets bs := bs.headD 0
  length_octets _ := rfl
  ofOctets_octets _ := rfl

/-- `uint16_t`. -/
def u16 : Scalar UInt16 where
  size := 2
  octets v := Octets.split 2 v.toNat
  ofOctets bs := (Octets.combine bs).toUInt16
  length_octets _ := Octets.length_split _ _
  ofOctets_octets v := by
    rw [Octets.combine_split_of_lt v.toNat_lt]
    exact UInt16.ofNat_toNat

/-- `uint32_t`, and the bits of a `float`. -/
def u32 : Scalar UInt32 where
  size := 4
  octets v := Octets.split 4 v.toNat
  ofOctets bs := (Octets.combine bs).toUInt32
  length_octets _ := Octets.length_split _ _
  ofOctets_octets v := by
    rw [Octets.combine_split_of_lt v.toNat_lt]
    exact UInt32.ofNat_toNat

/-- The bits of a `float`. -/
abbrev FloatBits := UInt32

/-- `uint64_t`. -/
def u64 : Scalar UInt64 where
  size := 8
  octets v := Octets.split 8 v.toNat
  ofOctets bs := (Octets.combine bs).toUInt64
  length_octets _ := Octets.length_split _ _
  ofOctets_octets v := by
    rw [Octets.combine_split_of_lt v.toNat_lt]
    exact UInt64.ofNat_toNat

/-- `int32_t`. -/
def i32 : Scalar Int32 := u32.equiv Int32.toUInt32 UInt32.toInt32 fun _ => rfl

/-- `int64_t`. -/
def i64 : Scalar Int64 := u64.equiv Int64.toUInt64 UInt64.toInt64 fun _ => rfl

/-! ## Arrays -/

/-- An array with its length in a `uint32_t`. -/
@[ext] structure Arr (α : Type) where
  items : List α
  bound : items.length < 2 ^ 32
  deriving DecidableEq

namespace Arr

variable {α : Type}

theorem bound_nil : ([] : List α).length < 2 ^ 32 := Nat.two_pow_pos 32

/-- The length, as the `uint32_t` has it. -/
def len (xs : Arr α) : UInt32 := xs.items.length.toUInt32

/-- The length field says the length. -/
theorem toNat_len (xs : Arr α) : xs.len.toNat = xs.items.length := by
  rw [len, Nat.toUInt32, UInt32.toNat_ofNat', Nat.mod_eq_of_lt xs.bound]

/-- `n` elements. -/
def read (r : Reader α) (n : UInt32) : Reader (Arr α) := do
  let xs ← times r n.toNat
  return ⟨xs.1, by rw [xs.2]; exact n.toNat_lt⟩

/-- `n` octets, into a block of `size`. -/
def copy (size : Nat) (n : UInt32) : Reader (Arr Octet) := do
  let bs ← takeInto size n.toNat
  return ⟨bs.1, by rw [bs.2]; exact n.toNat_lt⟩

def map {β : Type} (g : α → β) (xs : Arr α) : Arr β :=
  ⟨xs.items.map g, by rw [List.length_map]; exact xs.bound⟩

/-- Each element comes as `g` has it. -/
theorem codes_map {β : Type} {k : Nat} {r : Reader β} {w : α → Writer} {size : α → Nat}
    {g : α → β} {xs : Arr α} (h : ∀ x ∈ xs.items, ∀ k' ≥ k, Codes k' (size x) (w x) r (g x)) :
    Codes k (xs.items.map size).sum (forEach w xs.items) (read r xs.len) (xs.map g) :=
  (codes_times h xs.toNat_len.symm).map

theorem codes {k : Nat} {r : Reader α} {w : α → Writer} {size : α → Nat} {xs : Arr α}
    (h : ∀ x ∈ xs.items, ∀ k' ≥ k, Codes k' (size x) (w x) r x) :
    Codes k (xs.items.map size).sum (forEach w xs.items) (read r xs.len) xs := by
  have hmap := codes_map (g := id) h
  rwa [show xs.map id = xs from Arr.ext (List.map_id _)] at hmap

/-- An array of numbers is read as it was written. -/
theorem codes_scalar {k : Nat} (s : Scalar α) (xs : Arr α) :
    Codes k (xs.items.length * s.size) (forEach s.write xs.items) (read s.read xs.len) xs :=
  (codes fun a _ _ _ => s.codes a).of_eq (by rw [List.map_const', List.sum_replicate_nat])

/-- An array that is copied into a room of fixed size is read as it was written. -/
theorem codes_copy {k size : Nat} (xs : Arr Octet) (h : xs.items.length ≤ size) :
    Codes k xs.items.length (put xs.items) (copy size xs.len) xs := by
  refine ⟨xs.items, rfl, writes_put _, fun rest hrest => ?_⟩
  rw [← xs.toNat_len] at h
  have htake : takeInto size xs.len.toNat = take xs.len.toNat := if_pos h
  rw [copy, htake, Pass.bind_of_done (reads_take xs.toNat_len.symm rest hrest)]
  rfl

/-- What holds of each element holds of those of an array. -/
theorem gives_read {r : Reader α} {P : α → Prop} (h : Gives r P) (n : UInt32) :
    Gives (read r n) fun xs => ∀ x ∈ xs.items, P x :=
  (gives_times h n.toNat).bind fun _ hxs => gives_pure hxs

/-- A copied array has as many elements as its count says. -/
theorem gives_copy (size : Nat) (n : UInt32) :
    Gives (copy size n) fun xs => xs.items.length = n.toNat ∧ n.toNat ≤ size :=
  gives_takeInto.bind fun bs h => gives_pure ⟨bs.2, h⟩

end Arr

end Plain

end FlexRic
