import FlexRic.Lib.Plain

/-!
# FlexRic.Lib.Layout

What a buffer announces, and readers that go by it without looking at where the
buffer ends.

* A `Layout` is the shape of a message: octets whose value does not matter, and
  words whose value says what comes next.
* `Layout.Holds l s`: the octets that are announced are there.
* `Follows r l`: reader `r` takes what `l` announces.  `follows_safe_iff` says
  that such a reader stays inside the buffer when and only when it holds.
-/

namespace FlexRic

namespace Plain

/-! ## Layouts -/

inductive Layout where
  /-- octets -/
  | skip (n : Nat)
  /-- a `uint32_t`, and what follows such a one -/
  | word (k : UInt32 → Layout)
  /-- one behind the other -/
  | seq (l l' : Layout)
  /-- `n` times -/
  | rep (n : Nat) (l : Layout)
  /-- something is left -/
  | more
  /-- not a message -/
  | stop
  /-- more than the block it goes to has room for -/
  | never

/-- What is left behind a layout, if there is one and if it is all there. -/
inductive Span where
  | past (rest : List Octet)
  | stop
  | short
  deriving DecidableEq

def Span.bind (x : Span) (f : List Octet → Span) : Span :=
  match x with
  | past rest => f rest
  | stop => stop
  | short => short

/-- The word in front. -/
def front (s : List Octet) : UInt32 := u32.ofOctets (s.take 4)

namespace Layout

def spans (f : List Octet → Span) : Nat → List Octet → Span
  | 0, s => .past s
  | n + 1, s => (f s).bind (spans f n)

def span : Layout → List Octet → Span
  | skip n, s => if n ≤ s.length then .past (s.drop n) else .short
  | word k, s => if 4 ≤ s.length then (k (front s)).span (s.drop 4) else .short
  | seq l l', s => (l.span s).bind l'.span
  | rep n l, s => spans l.span n s
  | more, s => if s = [] then .stop else .past s
  | stop, _ => .stop
  | never, _ => .short

/-- **The octets that are announced are there**, up to where it is not a message. -/
def Holds (l : Layout) (s : List Octet) : Prop := l.span s ≠ .short

instance (l : Layout) (s : List Octet) : Decidable (l.Holds s) :=
  inferInstanceAs (Decidable (l.span s ≠ .short))

/-- Two stretches of octets are one. -/
theorem span_skip_add (m n : Nat) (s : List Octet) :
    ((skip m).span s).bind (skip n).span = (skip (m + n)).span s := by
  by_cases hm : m ≤ s.length
  · rw [span, if_pos hm, Span.bind, span, span, List.drop_drop, List.length_drop]
    by_cases hn : m + n ≤ s.length
    · rw [if_pos hn, if_pos (by omega)]
    · rw [if_neg hn, if_neg (by omega)]
  · rw [span, if_neg hm, Span.bind, span, if_neg (by omega)]

/-- Several stretches of octets are one. -/
theorem span_rep_skip (m n : Nat) (s : List Octet) :
    (rep n (skip m)).span s = (skip (n * m)).span s := by
  induction n generalizing s with
  | zero => rw [Nat.zero_mul]; rfl
  | succ n ih =>
    have hstep : (rep n (skip m)).span = (skip (n * m)).span := funext ih
    calc (rep (n + 1) (skip m)).span s
        = ((skip m).span s).bind (rep n (skip m)).span := rfl
      _ = (skip (m + n * m)).span s := by rw [hstep, span_skip_add]
      _ = (skip ((n + 1) * m)).span s := by rw [Nat.succ_mul, Nat.add_comm]

/-- A stretch needs as many octets as it has. -/
theorem holds_skip {n : Nat} {s : List Octet} : (skip n).Holds s ↔ n ≤ s.length := by
  rw [Holds, span]
  split
  · exact iff_of_true nofun ‹_›
  · exact iff_of_false (fun h => h rfl) ‹_›

/-- A count needs four octets, and what it counts needs the rest. -/
theorem holds_word {k : UInt32 → Layout} {s : List Octet} :
    (word k).Holds s ↔ 4 ≤ s.length ∧ (k (front s)).Holds (s.drop 4) := by
  rw [Holds, span]
  split
  · exact (and_iff_right ‹_›).symm
  · exact iff_of_false (fun h => h rfl) fun h => absurd h.1 ‹_›

/-- A word that says how many elements of `m` octets follow, and `k` octets behind them. -/
def counted (m k : Nat) : Layout := word fun n => seq (rep n.toNat (skip m)) (skip k)

/-- Records of fixed size, and octets behind them. -/
theorem span_seq_rep_skip (n m k : Nat) (s : List Octet) :
    (seq (rep n (skip m)) (skip k)).span s = (skip (n * m + k)).span s :=
  calc (seq (rep n (skip m)) (skip k)).span s
      = ((rep n (skip m)).span s).bind (skip k).span := rfl
    _ = (skip (n * m + k)).span s := by rw [span_rep_skip, span_skip_add]

/-- **An array with its count ends behind its last element.** -/
theorem span_counted {m k : Nat} {s : List Octet}
    (h : 4 + (front s).toNat * m + k ≤ s.length) :
    (counted m k).span s = .past (s.drop (4 + (front s).toNat * m + k)) := by
  have hword : 4 ≤ s.length := by omega
  have hrest : (front s).toNat * m + k ≤ (s.drop 4).length := by
    rw [List.length_drop]
    omega
  rw [counted, span, if_pos hword, span_seq_rep_skip, span, if_pos hrest, List.drop_drop,
    Nat.add_assoc]

/-- An array with its count fits if the buffer has all its elements. -/
theorem holds_counted {m k : Nat} {s : List Octet} :
    (counted m k).Holds s ↔ 4 + (front s).toNat * m + k ≤ s.length := by
  rw [counted, holds_word, Holds, span_seq_rep_skip, ← Holds, holds_skip, List.length_drop]
  omega

end Layout

/-! ## Readers that follow a layout -/

/-- The reader ends as the span does: past it, with a refusal, or outside of a block. -/
def Agrees {α : Type} (x : Access (α × List Octet)) : Span → Prop
  | .past rest => ∃ a, x = .done (a, rest)
  | .stop => ∃ msg, x = .refused msg
  | .short => x = .overread ∨ x = .overwrite

/-- Reader `r` takes what `l` announces. -/
def Follows {α : Type} (r : Reader α) (l : Layout) : Prop := ∀ s, Agrees (r s) (l.span s)

section Follows

variable {α β : Type} {r : Reader α} {f : α → Reader β} {l l' : Layout}

/-- A reader goes on where the layout does. -/
theorem Agrees.bind {x : Access (α × List Octet)} {y : Span}
    {g : α × List Octet → Access (β × List Octet)} {z : List Octet → Span} (h : Agrees x y) (h' : ∀ a rest, Agrees (g (a, rest)) (z rest)) :
    Agrees (x.bind g) (y.bind z) := by
  cases y with
  | past rest =>
    obtain ⟨a, rfl⟩ := h
    exact h' a rest
  | stop =>
    obtain ⟨msg, rfl⟩ := h
    exact ⟨msg, rfl⟩
  | short =>
    obtain rfl | rfl := h
    · exact .inl rfl
    · exact .inr rfl

/-- **One behind the other.** -/
theorem Follows.bind (h : Follows r l) (h' : ∀ a, Follows (f a) l') :
    Follows (r >>= f) (.seq l l') := fun s => (h s).bind fun a rest => h' a rest

/-- The last part of a value. -/
theorem Follows.map {g : α → β} (h : Follows r l) : Follows (r >>= fun x => pure (g x)) l := by
  intro s
  have hs := h s
  rw [Pass.bind_apply]
  cases hspan : l.span s with
  | past rest =>
    rw [hspan] at hs
    obtain ⟨a, ha⟩ := hs
    exact ⟨g a, by rw [ha]; rfl⟩
  | stop =>
    rw [hspan] at hs
    obtain ⟨msg, hmsg⟩ := hs
    exact ⟨msg, by rw [hmsg]; rfl⟩
  | short =>
    rw [hspan] at hs
    obtain hs | hs := hs
    · exact .inl (by rw [hs]; rfl)
    · exact .inr (by rw [hs]; rfl)

/-- Octets are skipped as they are read. -/
theorem follows_take (n : Nat) : Follows (take n) (.skip n) := by
  intro s
  rw [Layout.span, take]
  split
  · exact ⟨_, rfl⟩
  · exact .inl rfl

/-- Octets that are read into a room are skipped, unless the room is too small. -/
theorem follows_takeInto {size n : Nat} :
    Follows (takeInto size n) (if n ≤ size then .skip n else .never) := by
  rw [takeInto]
  split
  · exact follows_take n
  · exact fun s => .inr rfl

/-- A number is skipped as it is read. -/
theorem Scalar.follows (t : Scalar α) : Follows t.read (.skip t.size) := (follows_take _).map

/-- A word is read, and what is read next goes by its value. -/
theorem follows_word {g : UInt32 → Reader β} {k : UInt32 → Layout} (h : ∀ v, Follows (g v) (k v)) :
    Follows (u32.read >>= g) (.word k) := by
  intro s
  have hsize : u32.size = 4 := rfl
  rw [Layout.span]
  split
  · rename_i hs
    have hread : u32.read s = .done (front s, s.drop 4) := by
      rw [Scalar.read, hsize, Pass.bind_apply, take, dif_pos hs]
      rfl
    rw [Pass.bind_of_done hread]
    exact h (front s) (s.drop 4)
  · rename_i hs
    refine .inl ?_
    rw [Scalar.read, hsize, Pass.bind_apply, Pass.bind_apply, take, dif_neg hs]
    rfl

theorem follows_pure (a : α) : Follows (pure a) (.skip 0) := fun _ => ⟨a, rfl⟩

/-- Octets behind octets. -/
theorem Follows.skip_add {m n : Nat} (h : Follows r (.seq (.skip m) (.skip n))) :
    Follows r (.skip (m + n)) := by
  intro s
  have hs := h s
  rwa [Layout.span, Layout.span_skip_add] at hs

theorem follows_refuse (msg : String) : Follows (Pass.refuse msg : Reader α) .stop :=
  fun _ => ⟨msg, rfl⟩

theorem follows_left (msg : String) : Follows (left msg) .more := by
  intro s
  rw [Layout.span]
  split
  · rename_i hs
    subst hs
    exact ⟨msg, rfl⟩
  · rename_i hs
    exact ⟨(), Pass.check_of (decide_eq_true hs)⟩

/-- A reader and its layout branch alike. -/
theorem follows_ite {p : Prop} [Decidable p] {r r' : Reader α} (h : Follows r l)
    (h' : Follows r' l') : Follows (if p then r else r') (if p then l else l') := by
  split
  · exact h
  · exact h'

/-- **A loop follows its layout** if its body does. -/
theorem follows_times (h : Follows r l) (n : Nat) : Follows (times r n) (.rep n l) := by
  induction n with
  | zero => exact fun s => ⟨_, rfl⟩
  | succ n ih => exact h.bind fun x => ih.map

/-- Arrays are read element by element. -/
theorem Arr.follows_read (h : Follows r l) (n : UInt32) :
    Follows (Arr.read r n) (.rep n.toNat l) := (follows_times h n.toNat).map

/-- Arrays are copied into a room of fixed size, if that is large enough. -/
theorem Arr.follows_copy (size : Nat) (n : UInt32) :
    Follows (Arr.copy size n) (if n.toNat ≤ size then .skip n.toNat else .never) :=
  follows_takeInto.map

end Follows

/-! ## Whole buffers -/

/-- The input is rejected, or a value made of all its octets. -/
def Safe {α : Type} (r : Reader α) (s : List Octet) (x : Access α) : Prop :=
  (∃ msg, x = .refused msg) ∨ ∃ a, x = .done a ∧ r s = .done (a, [])

/-- **A reader stays inside a buffer when and only when it holds what it announces.** -/
theorem follows_safe_iff {α : Type} {r : Reader α} {l : Layout} (h : Follows r l) (msg : String)
    (s : List Octet) : Safe r s (whole msg r s) ↔ l.Holds s := by
  have hs := h s
  rw [Layout.Holds, whole]
  cases hspan : l.span s with
  | past rest =>
    rw [hspan] at hs
    obtain ⟨a, ha⟩ := hs
    refine iff_of_true ?_ (by simp)
    rw [ha]
    by_cases hrest : rest = []
    · subst hrest
      exact .inr ⟨a, rfl, ha⟩
    · exact .inl ⟨msg, if_neg hrest⟩
  | stop =>
    rw [hspan] at hs
    obtain ⟨msg', hmsg⟩ := hs
    exact iff_of_true (.inl ⟨msg', by rw [hmsg]; rfl⟩) (by simp)
  | short =>
    rw [hspan] at hs
    refine iff_of_false ?_ fun hne => hne rfl
    rintro (⟨msg', hmsg⟩ | ⟨a, ha, -⟩)
    · obtain hs | hs := hs <;> rw [hs] at hmsg <;> cases hmsg
    · obtain hs | hs := hs <;> rw [hs] at ha <;> cases ha

end Plain

end FlexRic
