import FlexRic.Lib.Carries

/-!
# FlexRic.Lib.Compare

Functions on values that can fail an assertion: copies, comparisons, releases.

* `Outcome.Returns x`: no assertion fails on the way.
* `Outcome.both x y` is `if(x() != true) return false; return y();`, and
  `Outcome.allEq` a loop of such comparisons over two arrays.
* `Outcome.Agrees x`: if the comparison returns, it returns true.  Comparisons
  of a value with itself are such, and then all of them are made
  (`returns_both`, `returns_allEq_self`).
* `Handles cp eq free v c e r`: which of the copy, the comparison with itself and
  the release of a value come back.  `Handles.list` is that of arrays.
-/

namespace FlexRic

universe u

namespace Outcome

variable {α β : Type u}

/-- The call comes back. -/
def Returns (x : Outcome α) : Prop := ∃ a, x = next a

/-- A value is returned. -/
@[simp] theorem returns_next (a : α) : Returns (next a) := ⟨a, rfl⟩

/-- An abort returns nothing. -/
@[simp] theorem not_returns_abort (m : String) : ¬ Returns (abort m : Outcome α) := by
  rintro ⟨a, h⟩
  cases h

@[simp] theorem returns_assert (c : Bool) (m : String) :
    Returns (assert c m : Outcome PUnit.{u + 1}) ↔ c = true := by
  cases c <;> simp [assert]

/-- **A sequence returns** if its first part does, and its second on what that gives. -/
theorem returns_bind {x : Outcome α} {f : α → Outcome β} :
    Returns (x >>= f) ↔ ∃ a, x = next a ∧ Returns (f a) := by
  cases x <;> simp [Returns]

/-- Where the rest does not look at the value, both have to return. -/
theorem returns_seq {x : Outcome α} {y : Outcome β} :
    Returns (x >>= fun _ => y) ↔ Returns x ∧ Returns y := by
  rw [returns_bind, exists_and_right]
  rfl

/-- What is done with the value afterwards does not fail. -/
theorem returns_map {x : Outcome α} {g : α → β} :
    Returns (x >>= fun a => next (g a)) ↔ Returns x := by
  simp [Returns]

/-- Two parts that do not depend on each other. -/
theorem returns_map₂ {γ : Type u} {x : Outcome α} {y : Outcome β} {g : α → β → γ} :
    Returns (x >>= fun a => y >>= fun b => next (g a b)) ↔ Returns x ∧ Returns y := by
  constructor
  · rintro ⟨c, h⟩
    obtain ⟨a, ha, h⟩ := bind_eq_next.mp h
    obtain ⟨b, hb, -⟩ := bind_eq_next.mp h
    exact ⟨⟨a, ha⟩, b, hb⟩
  · rintro ⟨⟨a, rfl⟩, b, rfl⟩
    exact returns_next _

/-- A loop returns if it does on every element. -/
theorem returns_walk {f : α → Outcome β} {xs : List α} :
    Returns (walk f xs) ↔ ∀ x ∈ xs, Returns (f x) := by
  induction xs with
  | nil => simp
  | cons x xs ih =>
    rw [List.forall_mem_cons, ← ih]
    constructor
    · rintro ⟨zs, h⟩
      obtain ⟨y, ys, hy, hys, -⟩ := walk_cons_eq_next.mp h
      exact ⟨⟨y, hy⟩, ys, hys⟩
    · rintro ⟨⟨y, hy⟩, ys, hys⟩
      exact ⟨y :: ys, walk_cons_eq_next.mpr ⟨y, ys, hy, hys, rfl⟩⟩

theorem returns_opt {f : α → Outcome β} {o : Option α} :
    Returns (opt f o) ↔ ∀ a ∈ o, Returns (f a) := by
  cases o <;> simp [returns_map]

theorem returns_opt_of_rel {R : β → α → Prop} {f : α → Outcome α} {o : Option β} {o' : Option α}
    (h : Option.Rel R o o') (hR : ∀ b a, R b a → Returns (f a)) : Returns (opt f o') := by
  cases h with
  | none => exact returns_next _
  | some hba =>
    rw [opt_some, returns_map]
    exact hR _ _ hba

/-- A loop over an array that keeps nothing. -/
def each (f : α → Outcome PUnit.{u + 1}) (xs : List α) : Outcome PUnit.{u + 1} :=
  walk f xs >>= fun _ => next ⟨⟩

/-- A loop for its effect alone returns if it does on every element. -/
theorem returns_each {f : α → Outcome PUnit.{u + 1}} {xs : List α} :
    Returns (each f xs) ↔ ∀ x ∈ xs, Returns (f x) :=
  returns_map.trans returns_walk

/-! ## Comparisons -/

/-- One comparison, and the rest if it holds. -/
def both (x y : Outcome Bool) : Outcome Bool := x >>= fun b => if b then y else next false

/-- The second comparison decides if the first finds no difference. -/
@[simp] theorem both_true (y : Outcome Bool) : both (next true) y = y := rfl

@[simp] theorem both_false (y : Outcome Bool) : both (next false) y = next false := rfl

@[simp] theorem both_abort (m : String) (y : Outcome Bool) : both (abort m) y = abort m := rfl

/-- Two arrays, over the length of the first one. -/
def allEqUpTo (f : α → α → Outcome Bool) : List α → List α → Outcome Bool
  | [], _ => next true
  | x :: xs, y :: ys => both (f x y) (allEqUpTo f xs ys)
  | _ :: _, [] => abort "read behind the array"

/-- Two arrays: their lengths, and then element by element. -/
def allEq (f : α → α → Outcome Bool) (xs ys : List α) : Outcome Bool :=
  if xs.length = ys.length then allEqUpTo f xs ys else next false

/-- Arrays of different lengths are different at once. -/
theorem both_length (f : α → α → Outcome Bool) (xs ys : List α) :
    both (next (xs.length == ys.length)) (allEqUpTo f xs ys) = allEq f xs ys := by
  rw [allEq]
  by_cases hlen : xs.length = ys.length
  · rw [if_pos hlen, beq_iff_eq.mpr hlen, both_true]
  · rw [if_neg hlen, beq_eq_false_iff_ne.mpr hlen, both_false]

/-- Over one array both loops are one. -/
theorem allEqUpTo_self (f : α → α → Outcome Bool) (xs : List α) :
    allEqUpTo f xs xs = allEq f xs xs := (if_pos rfl).symm

@[simp] theorem allEq_nil (f : α → α → Outcome Bool) : allEq f [] [] = next true := rfl

/-- An array with itself. -/
theorem allEq_cons_self (f : α → α → Outcome Bool) (x : α) (xs : List α) :
    allEq f (x :: xs) (x :: xs) = both (f x x) (allEq f xs xs) := by
  rw [← allEqUpTo_self, ← allEqUpTo_self, allEqUpTo]

/-- Two pointers, passed on unless both are NULL to a comparison that asserts
that none is. -/
def eqPtr (f : α → α → Outcome Bool) : Option α → Option α → Outcome Bool
  | none, none => next true
  | some a, some b => f a b
  | none, some _ => abort "m0 != NULL"
  | some _, none => abort "m1 != NULL"

/-- Two pointers, which are both NULL, or both not and then compared. -/
def eqOptional (f : α → α → Outcome Bool) : Option α → Option α → Outcome Bool
  | none, none => next true
  | some a, some b => f a b
  | _, _ => next false

/-- `if(x() != true) assert(0!=0);` -/
def must (x : Outcome Bool) : Outcome PUnit.{1} := x >>= fun b => assert b "0!=0"

/-- Two arrays of one length, whose elements are asserted to be equal. -/
def allEqMust (f : α → α → Outcome Bool) (xs ys : List α) : Outcome Bool :=
  both (next (xs.length == ys.length)) (must (allEqUpTo f xs ys) >>= fun _ => next true)

/-- A comparison holds, if it is decided at all. -/
def Agrees (x : Outcome Bool) : Prop := ∀ b, x = next b → b = true

theorem agrees_next : Agrees (next true) := fun _ h => (next_inj.mp h).symm

theorem agrees_abort (m : String) : Agrees (abort m) := nofun

/-- A comparison that agrees and returns says `true`. -/
theorem Agrees.eq_next {x : Outcome Bool} (h : x.Agrees) (hx : x.Returns) : x = next true := by
  obtain ⟨b, hb⟩ := hx
  rw [hb, h b hb]

/-- Two comparisons that agree make one that does. -/
theorem Agrees.both {x y : Outcome Bool} (hx : x.Agrees) (hy : y.Agrees) : (both x y).Agrees := by
  intro b h
  obtain ⟨a, ha, h⟩ := bind_eq_next.mp h
  rw [hx a ha] at h
  exact hy b h

/-- **Both comparisons are made** where the first one holds. -/
theorem returns_both {x y : Outcome Bool} (hx : x.Agrees) :
    (both x y).Returns ↔ x.Returns ∧ y.Returns := by
  constructor
  · rintro ⟨b, h⟩
    obtain ⟨a, ha, h⟩ := bind_eq_next.mp h
    rw [hx a ha] at h
    exact ⟨⟨a, ha⟩, b, h⟩
  · rintro ⟨hx', hy⟩
    rwa [hx.eq_next hx', both_true]

theorem Returns.both {x y : Outcome Bool} (hx : x.Returns) (hy : y.Returns) :
    (both x y).Returns := by
  obtain ⟨b, rfl⟩ := hx
  cases b with
  | true => exact hy
  | false => exact returns_next _

/-- Where each comparison comes back, that of the arrays does. -/
theorem returns_allEq {f : α → α → Outcome Bool} {xs : List α} (h : ∀ x ∈ xs, (f x x).Returns) :
    (allEq f xs xs).Returns := by
  induction xs with
  | nil => exact returns_next _
  | cons x xs ih =>
    rw [List.forall_mem_cons] at h
    rw [allEq_cons_self]
    exact h.1.both (ih h.2)

/-- **An array agrees with itself** if its elements do. -/
theorem agrees_allEq_self {f : α → α → Outcome Bool} {xs : List α}
    (h : ∀ x ∈ xs, (f x x).Agrees) : (allEq f xs xs).Agrees := by
  induction xs with
  | nil => exact agrees_next
  | cons x xs ih =>
    rw [List.forall_mem_cons] at h
    rw [allEq_cons_self]
    exact h.1.both (ih h.2)

/-- **Comparing an array with itself** compares each of its elements. -/
theorem returns_allEq_self {f : α → α → Outcome Bool} {xs : List α}
    (h : ∀ x ∈ xs, (f x x).Agrees) :
    (allEq f xs xs).Returns ↔ ∀ x ∈ xs, (f x x).Returns := by
  induction xs with
  | nil => simp
  | cons x xs ih =>
    rw [List.forall_mem_cons] at h ⊢
    rw [allEq_cons_self, returns_both h.1, ih h.2]

/-- A comparison that is asserted returns if it returns `true`. -/
theorem returns_must {x : Outcome Bool} (h : x.Agrees) : (must x).Returns ↔ x.Returns := by
  constructor
  · rintro ⟨u, hu⟩
    obtain ⟨b, hb, -⟩ := bind_eq_next.mp hu
    exact ⟨b, hb⟩
  · intro hx
    rw [must, h.eq_next hx]
    exact returns_next _

theorem eqPtr_self_of_rel {R : β → α → Prop} {f : α → α → Outcome Bool} {e : β → Bool}
    {o : Option β} {o' : Option α} (h : Option.Rel R o o')
    (hR : ∀ b a, R b a → f a a = next (e b)) : eqPtr f o' o' = next (o.all e) := by
  cases h with
  | none => rfl
  | some hba => exact hR _ _ hba

/-! ## Copy, comparison, release -/

/-- A value is copied if `copied`, compared with itself if `compared`, and then
found equal, and released if `released`. -/
structure Handles {α : Type} (cp : α → Outcome α) (eq : α → α → Outcome Bool)
    (free : α → Outcome PUnit.{1}) (v : α) (copied compared released : Bool) : Prop where
  cp : (cp v).Returns ↔ copied = true
  agrees : (eq v v).Agrees
  eq : (eq v v).Returns ↔ compared = true
  free : (free v).Returns ↔ released = true

namespace Handles

variable {α β : Type} {cp : α → Outcome α} {eq : α → α → Outcome Bool} {free : α → Outcome PUnit.{1}}

/-- **An array is handled where its elements are**, if they are those of another
array that tell. -/
theorem list {R : β → α → Prop} {c e r : β → Bool} {bs : List β} {as : List α}
    (hR : List.Forall₂ R bs as) (h : ∀ b a, R b a → Handles cp eq free a (c b) (e b) (r b)) :
    Handles (walk cp) (allEq eq) (each free) as (bs.all c) (bs.all e) (bs.all r) := by
  have hagrees : ∀ a ∈ as, (eq a a).Agrees := by
    induction hR with
    | nil => simp
    | cons hba _ ih => exact List.forall_mem_cons.mpr ⟨(h _ _ hba).agrees, ih⟩
  constructor
  · rw [returns_walk, List.all_eq_true]
    exact forall_mem_iff_of_forall₂ hR fun b a hba => (h b a hba).cp
  · exact agrees_allEq_self hagrees
  · rw [returns_allEq_self hagrees, List.all_eq_true]
    exact forall_mem_iff_of_forall₂ hR fun b a hba => (h b a hba).eq
  · rw [returns_each, List.all_eq_true]
    exact forall_mem_iff_of_forall₂ hR fun b a hba => (h b a hba).free

end Handles

end Outcome

end FlexRic
