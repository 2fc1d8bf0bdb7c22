import FlexRic.Lib.Layout
import FlexRic.Sm.StatsPlain

/-!
# FlexRic.Sm.StatsImages

The indications of the MAC, RLC, PDCP and GTP service models with their elements as they are in
memory, padding included: `memcpy` takes them to the buffer and back.

* The four service models differ in the sizes, in what the decoder asserts of the length and in
  the type the encoder has the size in: a `Form`.
* `typed`: the decoders of `FlexRic.Sm.StatsPlain` are these, with the elements looked at.
* `indications_come_back`: a message comes back, the decoder takes just the buffers of the right
  length, and they come back from what is made of them, as long as the encoder's size is right.
-/

namespace FlexRic

namespace Stats

open Plain

/-! ## The four service models -/

/-- What the four service models differ in. -/
structure Form where
  /-- the size of an element -/
  element : Nat
  /-- the size of what is behind the time stamp -/
  behind : Nat
  /-- the bits of the type that the encoder has the size in -/
  width : Nat
  longEnough : List Octet → Bool
  tooShort : String
  decMismatch : String
  encMismatch : String

/-- `mac_enc_plain.c` has the size in a `uint32_t`. -/
def mac : Form where
  element := macUeStatsImpl.size
  behind := 0
  width := 32
  longEnough _ := true
  tooShort := ""
  decMismatch := "data layout mismacth"
  encMismatch := "Data layout mismacth"

def rlc : Form where
  element := rlcRadioBearerStats.size
  behind := 0
  width := 64
  longEnough := rlcLenOk
  tooShort := "Less bytes than the case where there are not active Radio bearers! Next pow2 trick used for aligned struct"
  decMismatch := "Mismatch of data layout"
  encMismatch := "Mismatch of data layout"

def pdcp : Form where
  element := pdcpRadioBearerStats.size
  behind := 0
  width := 64
  longEnough bs := decide (bs.length ≥ u32.size + i64.size)
  tooShort := "len >= sizeof(uint32_t) + sizeof(int64_t)"
  decMismatch := "Data layout mismatch"
  encMismatch := "Mismatch of data layout"

def gtp : Form where
  element := gtpNguTStats.size
  behind := gtpHoInfo.size
  width := 64
  longEnough := gtpLenOk
  tooShort := "Less bytes than the case where there are not active Radio bearers! Next pow2 trick used for aligned struct"
  decMismatch := "Mismatch of data layout"
  encMismatch := "Mismatch of data layout"

inductive Model where
  | mac
  | rlc
  | pdcp
  | gtp
  deriving DecidableEq

def Model.form : Model → Form
  | mac => Stats.mac
  | rlc => Stats.rlc
  | pdcp => Stats.pdcp
  | gtp => Stats.gtp

/-! ## Messages in memory -/

/-- A structure of `n` octets, as it is in memory. -/
abbrev Image (n : Nat) := { bs : List Octet // bs.length = n }

/-- `mac_ind_msg_t` and the like. -/
@[ext] structure Indication (f : Form) where
  elements : Arr (Image f.element)
  tstamp : Int64
  /-- `ho_info`, in GTP. -/
  behind : Image f.behind
  deriving DecidableEq

variable {f : Form}

def decIndMsg (f : Form) : Reader (Indication f) := do
  let len ← u32.read
  let elements ← Arr.read (take f.element) len
  let tstamp ← i64.read
  let behind ← take f.behind
  return { elements, tstamp, behind }

/-- `mac_dec_ind_msg_plain` and the like. -/
def decIndMsgPlain (f : Form) (bs : List Octet) : Access (Indication f) :=
  if f.longEnough bs then whole f.decMismatch (decIndMsg f) bs else .refused f.tooShort

def encIndMsg (indMsg : Indication f) : Writer := do
  u32.write indMsg.elements.len
  forEach (fun element => put element.1) indMsg.elements.items
  i64.write indMsg.tstamp
  put indMsg.behind.1

/-- The octets of `n` elements with what is around them. -/
def Form.size (f : Form) (n : Nat) : Nat := u32.size + f.element * n + i64.size + f.behind

/-- The size that the encoder works out. -/
def Form.encSize (f : Form) (n : Nat) : Nat := f.size n % 2 ^ f.width

/-- `mac_enc_ind_msg_plain` and the like. -/
def encIndMsgPlain (indMsg : Indication f) : Access (List Octet) :=
  fill f.encMismatch (f.encSize indMsg.elements.items.length) (encIndMsg indMsg)

/-! ## What is asked of them -/

/-- The length is that of as many elements as the count in front says. -/
def Exact (f : Form) (bs : List Octet) : Prop := bs.length = f.size (front bs).toNat

/-- The size of `n` elements fits into the type that the encoder has it in. -/
def Fits (f : Form) (n : Nat) : Prop := f.size n < 2 ^ f.width

/-- **What is asked** of the encoder and the decoder at a message and at a buffer. -/
structure ComesBack (indMsg : Indication f) (bs : List Octet) : Prop where
  roundTrip : ∃ out, encIndMsgPlain indMsg = .done out ∧ decIndMsgPlain f out = .done indMsg
  accepted : (∃ m, decIndMsgPlain f bs = .done m) ↔ Exact f bs
  longEnough : Exact f bs → f.longEnough bs
  again : ∀ m, decIndMsgPlain f bs = .done m → encIndMsgPlain m = .done bs

/-! ## The octets of a message -/

/-- The octets of a message. -/
def Indication.octets (indMsg : Indication f) : List Octet :=
  u32.octets indMsg.elements.len ++ (indMsg.elements.items.flatMap (·.1) ++
    (i64.octets indMsg.tstamp ++ indMsg.behind.1))

/-- Elements of one size lie one behind the other. -/
theorem length_elements {n : Nat} (xs : List (Image n)) :
    (xs.flatMap (·.1)).length = n * xs.length := by
  induction xs with
  | nil => rfl
  | cons x xs ih => rw [List.flatMap_cons, List.length_append, ih, x.2, List.length_cons,
      Nat.mul_succ, Nat.add_comm]

/-- The octets of a message are as many as its decoder wants. -/
theorem Indication.length_octets (indMsg : Indication f) :
    indMsg.octets.length = f.size indMsg.elements.items.length := by
  rw [octets, List.length_append, List.length_append, List.length_append, length_elements,
    u32.length_octets, i64.length_octets, indMsg.behind.2, Form.size]
  omega

/-- The encoder writes the octets of the message into a buffer that has room. -/
theorem writes_encIndMsg (indMsg : Indication f) : Writes 0 (encIndMsg indMsg) indMsg.octets := by
  have helements := writes_forEach (k := (i64.octets indMsg.tstamp ++ indMsg.behind.1).length + 0)
    (w := fun element : Image f.element => put element.1) (g := (·.1))
    (fun x k => writes_put _) indMsg.elements.items
  exact (writes_put _).bind (helements.bind ((writes_put _).bind (writes_put _)))

/-- The decoder reads the message back from its octets. -/
theorem reads_decIndMsg (indMsg : Indication f) : Reads 0 (decIndMsg f) indMsg.octets indMsg := by
  have htake {n : Nat} (x : Image n) (k : Nat) : Reads k (take n) x.1 x := reads_take x.2
  have helements (k : Nat) : Reads k (Arr.read (take f.element) indMsg.elements.len)
      (indMsg.elements.items.flatMap (·.1)) indMsg.elements :=
    (reads_times htake indMsg.elements.toNat_len.symm).map
  exact (u32.reads_octets _).bind ((helements _).bind ((i64.reads_octets _).bind
    (htake indMsg.behind _).map))

/-! ## What is written, and where it fits -/

/-- Whatever `w` gets written is `bs`. -/
def OnlyWrites (w : Writer) (bs : List Octet) : Prop :=
  ∀ b b', w b = .done ((), b') → b'.written = b.written ++ bs

theorem onlyWrites_put (bs : List Octet) : OnlyWrites (put bs) bs := by
  intro b b' h
  unfold put at h
  split at h
  · cases h
    rfl
  · cases h

/-- Two writers, one behind the other, write nothing but their octets. -/
theorem OnlyWrites.bind {w w' : Writer} {bs bs' : List Octet} (h : OnlyWrites w bs)
    (h' : OnlyWrites w' bs') : OnlyWrites (w >>= fun _ => w') (bs ++ bs') := by
  intro b b' hb
  obtain ⟨⟨u, b₁⟩, h₁, h₂⟩ := Access.bind_eq_done.1 hb
  rw [h' b₁ b' h₂, h b b₁ h₁, List.append_assoc]

theorem onlyWrites_forEach {α : Type} {w : α → Writer} {g : α → List Octet}
    (h : ∀ x, OnlyWrites (w x) (g x)) (xs : List α) : OnlyWrites (forEach w xs) (xs.flatMap g) := by
  induction xs with
  | nil =>
    intro b b' hb
    cases hb
    exact (List.append_nil _).symm
  | cons x xs ih =>
    rw [List.flatMap_cons]
    exact (h x).bind ih

/-- **The encoder writes the octets of the message and nothing else.** -/
theorem onlyWrites_encIndMsg (indMsg : Indication f) :
    OnlyWrites (encIndMsg indMsg) indMsg.octets :=
  (onlyWrites_put _).bind ((onlyWrites_forEach (fun _ => onlyWrites_put _) _).bind
    ((onlyWrites_put _).bind (onlyWrites_put _)))

/-- **The encoder** puts the octets of a message where their size is worked out. -/
theorem encIndMsgPlain_eq_done_iff {indMsg : Indication f} {out : List Octet} :
    encIndMsgPlain indMsg = .done out ↔
      Fits f indMsg.elements.items.length ∧ out = indMsg.octets := by
  have hpos : 0 < 2 ^ f.width := Nat.two_pow_pos _
  constructor
  · intro h
    obtain ⟨⟨u, b⟩, hw, hb⟩ := Access.bind_eq_done.1 h
    split at hb
    · next hlen =>
      obtain rfl := Access.done_inj.1 hb
      have hwritten : b.written = indMsg.octets := onlyWrites_encIndMsg indMsg _ b hw
      refine ⟨?_, hwritten⟩
      dsimp only at hlen
      rw [hwritten, indMsg.length_octets, Form.encSize] at hlen
      rw [Fits, hlen]
      exact Nat.mod_lt _ hpos
    · cases hb
  · rintro ⟨hfits, rfl⟩
    refine (writes_encIndMsg indMsg).fill ?_ _
    rw [indMsg.length_octets, Form.encSize, Nat.mod_eq_of_lt hfits]

/-! ## What is read -/

/-- What is taken was in front. -/
theorem of_take {n : Nat} {s s' : List Octet} {x : Image n} (h : take n s = .done (x, s')) :
    s = x.1 ++ s' := by
  unfold take at h
  split at h
  · cases h
    exact (List.take_append_drop n s).symm
  · cases h

/-- The elements of an array were in front, one behind the other. -/
theorem of_times_take {n k : Nat} {s s' : List Octet} {xs : { xs : List (Image n) // xs.length = k }}
    (h : times (take n) k s = .done (xs, s')) : s = xs.1.flatMap (·.1) ++ s' := by
  induction k generalizing s with
  | zero =>
    cases h
    rfl
  | succ k ih =>
    obtain ⟨⟨x, s₁⟩, hx, h⟩ := Access.bind_eq_done.1 h
    obtain ⟨⟨ys, s₂⟩, hys, h⟩ := Access.bind_eq_done.1 h
    cases h
    have hs₁ : s₁ = ys.1.flatMap (·.1) ++ s₂ := ih hys
    calc s = x.1 ++ s₁ := of_take hx
      _ = (x :: ys.1).flatMap (·.1) ++ s₂ := by
        rw [hs₁, List.flatMap_cons, List.append_assoc]

/-- Four octets are those of the word that they are read as. -/
theorem octets_ofOctets_u32 {bs : List Octet} (h : bs.length = u32.size) :
    u32.octets (u32.ofOctets bs) = bs := by
  have hlt : Octets.combine bs < 2 ^ 32 := by
    have hcombine := Octets.combine_lt bs
    rw [h] at hcombine
    exact hcombine
  have hnat : (Octets.combine bs).toUInt32.toNat = Octets.combine bs := by
    rw [Nat.toUInt32, UInt32.toNat_ofNat', Nat.mod_eq_of_lt hlt]
  show Octets.split 4 (Octets.combine bs).toUInt32.toNat = bs
  rw [hnat, ← show bs.length = 4 from h, Octets.split_combine]

/-- Eight octets are those of the time stamp that they are read as. -/
theorem octets_ofOctets_i64 {bs : List Octet} (h : bs.length = i64.size) :
    i64.octets (i64.ofOctets bs) = bs := by
  have hlt : Octets.combine bs < 2 ^ 64 := by
    have hcombine := Octets.combine_lt bs
    rw [h] at hcombine
    exact hcombine
  have hnat : (Octets.combine bs).toUInt64.toNat = Octets.combine bs := by
    rw [Nat.toUInt64, UInt64.toNat_ofNat', Nat.mod_eq_of_lt hlt]
  show Octets.split 8 (Octets.combine bs).toUInt64.toInt64.toUInt64.toNat = bs
  rw [UInt64.toUInt64_toInt64, hnat, ← show bs.length = 8 from h, Octets.split_combine]

/-- What is read from a type of fixed size is what it is written as. -/
theorem Scalar.of_read {α : Type} {t : Scalar α} {s s' : List Octet} {a : α}
    (ht : ∀ bs : List Octet, bs.length = t.size → t.octets (t.ofOctets bs) = bs)
    (h : t.read s = .done (a, s')) : s = t.octets a ++ s' := by
  obtain ⟨⟨x, s₁⟩, hx, h⟩ := Access.bind_eq_done.1 h
  cases h
  rw [ht x.1 x.2]
  exact of_take hx

/-- **What is decoded has the octets that were read.** -/
theorem of_decIndMsg {s s' : List Octet} {indMsg : Indication f}
    (h : decIndMsg f s = .done (indMsg, s')) : s = indMsg.octets ++ s' := by
  obtain ⟨⟨len, s₁⟩, hlen, h⟩ := Access.bind_eq_done.1 h
  obtain ⟨⟨elements, s₂⟩, helements, h⟩ := Access.bind_eq_done.1 h
  obtain ⟨⟨tstamp, s₃⟩, htstamp, h⟩ := Access.bind_eq_done.1 h
  obtain ⟨⟨behind, s₄⟩, hbehind, h⟩ := Access.bind_eq_done.1 h
  obtain ⟨⟨xs, s₅⟩, hxs, heq⟩ := Access.bind_eq_done.1 helements
  cases heq
  cases h
  have hcount : xs.1.length.toUInt32 = len := by
    rw [xs.2]
    exact UInt32.ofNat_toNat
  have hs : s = u32.octets xs.1.length.toUInt32 ++ s₁ := by
    rw [hcount]
    exact Scalar.of_read (fun _ => octets_ofOctets_u32) hlen
  have hs₁ : s₁ = xs.1.flatMap (·.1) ++ s₅ := of_times_take hxs
  have hs₅ : s₅ = i64.octets tstamp ++ s₃ := Scalar.of_read (fun _ => octets_ofOctets_i64) htstamp
  have hs₃ : s₃ = behind.1 ++ s₄ := of_take hbehind
  rw [hs, hs₁, hs₅, hs₃]
  simp only [Indication.octets, List.append_assoc]
  rfl

/-- All four decoders follow one layout: a count, elements, a time stamp, and what is behind. -/
theorem follows_decIndMsg (f : Form) :
    Follows (decIndMsg f) (.counted f.element (i64.size + f.behind)) :=
  follows_word fun n => (Arr.follows_read (follows_take f.element) n).bind fun _ =>
    (i64.follows.bind fun _ => (follows_take f.behind).map).skip_add

/-- The word in front is the number of elements. -/
theorem front_octets (indMsg : Indication f) :
    (front indMsg.octets).toNat = indMsg.elements.items.length := by
  have htake : indMsg.octets.take 4 = u32.octets indMsg.elements.len :=
    List.take_left' (u32.length_octets _)
  rw [front, htake, u32.ofOctets_octets, Arr.toNat_len]

theorem exact_octets (indMsg : Indication f) : Exact f indMsg.octets := by
  rw [Exact, front_octets, indMsg.length_octets]

/-- **What the decoder accepts**, the first assertion apart: the octets of messages. -/
theorem whole_eq_done_iff {msg : String} {bs : List Octet} {indMsg : Indication f} :
    whole msg (decIndMsg f) bs = .done indMsg ↔ bs = indMsg.octets := by
  constructor
  · intro h
    obtain ⟨⟨m, rest⟩, hr, hb⟩ := Access.bind_eq_done.1 h
    split at hb
    · next hrest =>
      cases hb
      have hbs : bs = m.octets ++ rest := of_decIndMsg hr
      rwa [show rest = [] from hrest, List.append_nil] at hbs
    · cases hb
  · rintro rfl
    exact (reads_decIndMsg indMsg).whole msg

/-- **The octets of a message** are those whose number is what the word in front announces. -/
theorem exact_iff {bs : List Octet} : Exact f bs ↔ ∃ indMsg : Indication f, bs = indMsg.octets := by
  constructor
  · intro h
    have hend : 4 + (front bs).toNat * f.element + (i64.size + f.behind) = bs.length := by
      have hsize : f.size (front bs).toNat =
          4 + f.element * (front bs).toNat + i64.size + f.behind := rfl
      rw [h, hsize, Nat.mul_comm f.element]
      omega
    have hs := follows_decIndMsg f bs
    rw [Layout.span_counted (Nat.le_of_eq hend)] at hs
    obtain ⟨indMsg, hread⟩ := hs
    have hbs := of_decIndMsg hread
    rw [hend, List.drop_length, List.append_nil] at hbs
    exact ⟨indMsg, hbs⟩
  · rintro ⟨indMsg, rfl⟩
    exact exact_octets indMsg

/-! ## The first assertion -/

/-- **The first assertion** does not fail for a buffer of the right length. -/
theorem Exact.longEnough {m : Model} {bs : List Octet} (h : Exact m.form bs) :
    m.form.longEnough bs = true := by
  have hcount : (front bs).toNat < 2 ^ 32 := (front bs).toNat_lt
  unfold Exact at h
  generalize (front bs).toNat = n at h hcount
  cases m with
  | mac => rfl
  | rlc =>
    have hlen : bs.length = 4 + 152 * n + 8 := h
    refine decide_eq_true ?_
    cases n with
    | zero =>
      -- Twelve octets, which the power of two makes sixteen.
      rw [hlen]
      decide
    | succ n =>
      have h16 : (24 - 8 : UInt64).toNat = 16 := rfl
      exact le_nextPow2_length _ (by omega) (by omega)
  | pdcp =>
    have hlen : bs.length = 4 + 68 * n + 8 := h
    have hsize : u32.size + i64.size = 12 := rfl
    exact decide_eq_true (by omega)
  | gtp =>
    have hlen : bs.length = 4 + 48 * n + 8 + 13 := h
    have h25 : (33 - 8 : UInt64).toNat = 25 := rfl
    exact decide_eq_true (le_nextPow2_length _ (by omega) (by omega))

/-- **The decoder** accepts the octets of messages. -/
theorem decIndMsgPlain_eq_done_iff {m : Model} {bs : List Octet} {indMsg : Indication m.form} :
    decIndMsgPlain m.form bs = .done indMsg ↔ bs = indMsg.octets := by
  unfold decIndMsgPlain
  by_cases hlong : m.form.longEnough bs = true
  · rw [if_pos hlong]
    exact whole_eq_done_iff
  · rw [if_neg hlong]
    refine iff_of_false (fun h => nomatch h) ?_
    rintro rfl
    exact hlong (exact_octets indMsg).longEnough

/-! ## Messages come back -/

/-- **When messages and buffers come back**: where the size of the message, and of the message of
a buffer, fits into what the encoder has it in. -/
theorem indications_come_back (m : Model) (indMsg : Indication m.form) (bs : List Octet) :
    ComesBack indMsg bs ↔ Fits m.form indMsg.elements.items.length ∧
      (Exact m.form bs → Fits m.form (front bs).toNat) := by
  constructor
  · intro h
    obtain ⟨out, henc, -⟩ := h.roundTrip
    refine ⟨(encIndMsgPlain_eq_done_iff.mp henc).1, fun hexact => ?_⟩
    obtain ⟨indMsg', rfl⟩ := exact_iff.mp hexact
    have hagain := h.again indMsg' (decIndMsgPlain_eq_done_iff.mpr rfl)
    rw [front_octets]
    exact (encIndMsgPlain_eq_done_iff.mp hagain).1
  · rintro ⟨hfits, hbs⟩
    refine ⟨⟨indMsg.octets, ?_, decIndMsgPlain_eq_done_iff.mpr rfl⟩, ?_, Exact.longEnough, ?_⟩
    · exact encIndMsgPlain_eq_done_iff.mpr ⟨hfits, rfl⟩
    · simp only [decIndMsgPlain_eq_done_iff]
      exact exact_iff.symm
    · intro indMsg' hdec
      obtain rfl := decIndMsgPlain_eq_done_iff.mp hdec
      have hfits' := hbs (exact_octets indMsg')
      rw [front_octets] at hfits'
      exact encIndMsgPlain_eq_done_iff.mpr ⟨hfits', rfl⟩

/-- The size fits always but in MAC. -/
theorem fits_iff (m : Model) {n : Nat} (hn : n < 2 ^ 32) :
    Fits m.form n ↔ (m = .mac → n < 20648882) := by
  cases m with
  | mac =>
    have hsize : mac.size n = 4 + 208 * n + 8 + 0 := rfl
    show mac.size n < 2 ^ 32 ↔ _
    simp only [forall_const]
    omega
  | rlc =>
    have hsize : rlc.size n = 4 + 152 * n + 8 + 0 := rfl
    refine iff_of_true ?_ nofun
    show rlc.size n < 2 ^ 64
    omega
  | pdcp =>
    have hsize : pdcp.size n = 4 + 68 * n + 8 + 0 := rfl
    refine iff_of_true ?_ nofun
    show pdcp.size n < 2 ^ 64
    omega
  | gtp =>
    have hsize : gtp.size n = 4 + 48 * n + 8 + 13 := rfl
    refine iff_of_true ?_ nofun
    show gtp.size n < 2 ^ 64
    omega

/-- `n` UEs of which all statistics are zero. -/
def zeroUes (n : Nat) (hn : n < 2 ^ 32) : Indication Model.mac.form where
  elements := ⟨List.replicate n ⟨List.replicate 208 0, List.length_replicate⟩,
    by rwa [List.length_replicate]⟩
  tstamp := 0
  behind := ⟨[], rfl⟩

/-- The size of a MAC message of more than four gigabytes is cut off. -/
theorem mac_size_cut :
    ¬∀ (m : Model) (indMsg : Indication m.form) (bs : List Octet), ComesBack indMsg bs := by
  intro h
  obtain ⟨out, henc, -⟩ := (h .mac (zeroUes 20648882 (by decide)) []).roundTrip
  have hfits := (encIndMsgPlain_eq_done_iff.mp henc).1
  have hlen : (zeroUes 20648882 (by decide)).elements.items.length = 20648882 :=
    List.length_replicate
  rw [hlen, fits_iff .mac (by decide)] at hfits
  exact absurd (hfits rfl) (by decide)

/-! ## The elements looked at -/

section Typed

variable {σ α β γ : Type}

/-- Steps in brackets. -/
theorem pass_bind_assoc (x : Pass σ α) (g : α → Pass σ β) (h : β → Pass σ γ) :
    x >>= g >>= h = x >>= fun a => g a >>= h := by
  funext s
  exact Access.bind_bind (x s) _ _

theorem pass_pure_bind (a : α) (g : α → Pass σ β) : pure a >>= g = g a := rfl

/-- An array of a scalar type is an array of octets, taken apart. -/
theorem times_scalar (t : Scalar α) (n : Nat) : times t.read n =
    times (take t.size) n >>= fun xs =>
      pure ⟨xs.1.map fun x => t.ofOctets x.1, by rw [List.length_map]; exact xs.2⟩ := by
  induction n with
  | zero => rfl
  | succ n ih =>
    rw [times, times, ih]
    simp only [Scalar.read, pass_bind_assoc, pass_pure_bind]
    rfl

theorem arr_read_scalar (t : Scalar α) (n : UInt32) : Arr.read t.read n =
    Arr.read (take t.size) n >>= fun xs => pure (xs.map fun x => t.ofOctets x.1) := by
  simp only [Arr.read, times_scalar, pass_bind_assoc, pass_pure_bind]
  rfl

/-- A decoder of a whole buffer, with a last step. -/
theorem whole_map {r : Reader α} (g : α → β) (msg : String) (bs : List Octet) :
    whole msg (r >>= fun a => pure (g a)) bs = (do return g (← whole msg r bs)) := by
  unfold whole
  rw [Pass.bind_apply]
  cases hr : r bs with
  | done p =>
    show (if p.2 = [] then _ else _) = (if p.2 = [] then _ else _) >>= _
    split <;> rfl
  | refused m => rfl
  | overread => rfl
  | overwrite => rfl

end Typed

def Indication.elementsAs {α : Type} (indMsg : Indication f) (t : Scalar α) : Arr α :=
  indMsg.elements.map fun x => t.ofOctets x.1

def Indication.mac (indMsg : Indication Stats.mac) : MacIndMsg :=
  ⟨indMsg.elementsAs macUeStatsImpl, indMsg.tstamp⟩

def Indication.rlc (indMsg : Indication Stats.rlc) : RlcIndMsg :=
  ⟨indMsg.elementsAs rlcRadioBearerStats, indMsg.tstamp⟩

def Indication.pdcp (indMsg : Indication Stats.pdcp) : PdcpIndMsg :=
  ⟨indMsg.elementsAs pdcpRadioBearerStats, indMsg.tstamp⟩

def Indication.gtp (indMsg : Indication Stats.gtp) : GtpIndMsg :=
  ⟨indMsg.elementsAs gtpNguTStats, indMsg.tstamp, gtpHoInfo.ofOctets indMsg.behind.1⟩

/-- A decoder whose elements are looked at. -/
theorem decIndMsgPlain_map {α : Type} {r : Reader α} {g : Indication f → α}
    (h : r = decIndMsg f >>= fun indMsg => pure (g indMsg)) (bs : List Octet) :
    (if f.longEnough bs then whole f.decMismatch r bs else .refused f.tooShort) =
      (do return g (← decIndMsgPlain f bs)) := by
  unfold decIndMsgPlain
  split
  · rw [h, whole_map]
  · rfl

/-- **The decoders** are those of the messages in memory. -/
theorem typed (bs : List Octet) :
    macDecIndMsgPlain bs = (do return (← decIndMsgPlain mac bs).mac) ∧
    rlcDecIndMsgPlain bs = (do return (← decIndMsgPlain rlc bs).rlc) ∧
    pdcpDecIndMsgPlain bs = (do return (← decIndMsgPlain pdcp bs).pdcp) ∧
    gtpDecIndMsgPlain bs = (do return (← decIndMsgPlain gtp bs).gtp) := by
  have hmac : macDecIndMsg = decIndMsg mac >>= fun indMsg => pure indMsg.mac := by
    simp only [macDecIndMsg, decIndMsg, arr_read_scalar, pass_bind_assoc, pass_pure_bind]
    rfl
  have hrlc : rlcDecIndMsg = decIndMsg rlc >>= fun indMsg => pure indMsg.rlc := by
    simp only [rlcDecIndMsg, decIndMsg, arr_read_scalar, pass_bind_assoc, pass_pure_bind]
    rfl
  have hpdcp : pdcpDecIndMsg = decIndMsg pdcp >>= fun indMsg => pure indMsg.pdcp := by
    simp only [pdcpDecIndMsg, decIndMsg, arr_read_scalar, pass_bind_assoc, pass_pure_bind]
    rfl
  have hgtp : gtpDecIndMsg = decIndMsg gtp >>= fun indMsg => pure indMsg.gtp := by
    have hhoInfo : gtpHoInfo.read =
        take gtpHoInfo.size >>= fun bs => pure (gtpHoInfo.ofOctets bs.1) := rfl
    simp only [gtpDecIndMsg, decIndMsg, arr_read_scalar, hhoInfo, pass_bind_assoc, pass_pure_bind]
    rfl
  refine ⟨decIndMsgPlain_map hmac bs, decIndMsgPlain_map hrlc bs, ?_, decIndMsgPlain_map hgtp bs⟩
  rw [← decIndMsgPlain_map hpdcp bs]
  simp only [pdcp, decide_eq_true_eq]
  rfl

end Stats

end FlexRic
