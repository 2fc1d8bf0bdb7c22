import FlexRic.Lib.Answers
import Mathlib.Data.Option.Basic

/-!
# FlexRic.Lib.Plans

Comparisons put together from comparisons of the parts.

* `Plan same`: the answer to each pair, where there is one, what it looks at, what it leaves out,
  and what makes equal values look different.
* `Plan.decides_iff`: a comparison is right about `same` just where it is `Told` so.
* The plans follow the code: one comparison and the rest of them (`both`), a field (`on`), optional
  fields (`option`), arrays (`list`, `upTo`), tagged unions (`sum`), what is asserted of a value
  (`given`) or of an answer (`insist`).
-/

namespace FlexRic

namespace Answers

variable {α β : Type} {R S : α → α → Prop} {a b : α}

/-- One comparison, and the next if it holds. -/
def andThen (x y : Option Bool) : Option Bool := x.bind fun b => if b then y else some false

@[simp] theorem andThen_some (b : Bool) (y : Option Bool) :
    andThen (some b) y = if b then y else some false := rfl

@[simp] theorem andThen_true (x : Option Bool) : andThen x (some true) = x := by
  cases x with
  | none => rfl
  | some b => cases b <;> rfl

theorem andThen_assoc (x y z : Option Bool) :
    andThen (andThen x y) z = andThen x (andThen y z) := by
  cases x with
  | none => rfl
  | some b => cases b <;> rfl

/-- A chain of `&&` is a chain of comparisons. -/
theorem some_and (b c : Bool) : some (b && c) = andThen (some b) (some c) := by cases b <;> rfl

@[simp] theorem answer_next (b : Bool) : (Outcome.next b).answer = some b := rfl

@[simp] theorem answer_pure (b : Bool) : (pure b : Outcome Bool).answer = some b := rfl

theorem answer_both (x y : Outcome Bool) :
    (Outcome.both x y).answer = andThen x.answer y.answer := by
  cases x with
  | next b => cases b <;> rfl
  | abort msg => rfl
  | blocked => rfl

/-- A condition that is asserted first. -/
theorem andThen_if (c : Prop) [Decidable c] (x : Option Bool) :
    andThen (if c then some true else none) x = if c then x else none := by
  split <;> rfl

/-- What a comparison does with two values that may be the `same`. -/
structure Plan (same : α → α → Prop) where
  /-- the answer, if there is one -/
  eq : α → α → Option Bool
  /-- there is an answer -/
  safe : α → α → Prop
  /-- what is looked at agrees -/
  agree : α → α → Prop
  /-- what is not looked at, or not in all detail, is the same -/
  rest : α → α → Prop
  /-- what is the same agrees -/
  clear : α → α → Prop
  judges : ∀ a b, Judges (eq a b) (safe a b) (agree a b)
  complete : ∀ a b, agree a b ∧ rest a b ↔ same a b ∧ clear a b
  rest_of_same : ∀ a b, same a b → rest a b

namespace Plan

/-- When a comparison is right. -/
structure Told (p : Plan R) (a b : α) : Prop where
  safe : p.safe a b
  rest : p.agree a b → p.rest a b
  clear : R a b → p.clear a b

/-- **When a comparison is right.** -/
theorem decides_iff (p : Plan R) (a b : α) : Decides (p.eq a b) (R a b) ↔ p.Told a b := by
  have hcomplete := p.complete a b
  rw [(p.judges a b).decides_iff]
  constructor
  · rintro ⟨hsafe, hiff⟩
    refine ⟨hsafe, fun h => p.rest_of_same a b (hiff.mp h), fun h => ?_⟩
    exact (hcomplete.mp ⟨hiff.mpr h, p.rest_of_same a b h⟩).2
  · rintro ⟨hsafe, hrest, hclear⟩
    exact ⟨hsafe, fun h => (hcomplete.mp ⟨h, hrest h⟩).1, fun h =>
      (hcomplete.mpr ⟨h, hclear h⟩).1⟩

/-! ## Single comparisons -/

/-- A comparison that is right wherever it has an answer. -/
def ofJudges (eq : α → α → Option Bool) (safe : α → α → Prop)
    (h : ∀ a b, Judges (eq a b) (safe a b) (R a b)) : Plan R where
  eq := eq
  safe := safe
  agree := R
  rest _ _ := True
  clear _ _ := True
  judges := h
  complete _ _ := Iff.rfl
  rest_of_same _ _ _ := trivial

/-- A comparison that is right. -/
def ofBool (eq : α → α → Bool) (h : ∀ a b, eq a b = true ↔ R a b) : Plan R :=
  ofJudges (fun a b => some (eq a b)) (fun _ _ => True) fun a b =>
    (judges_some (eq a b)).of_iff Iff.rfl (h a b)

/-- A comparison with `==` or `!=`. -/
def equal [DecidableEq α] : Plan fun a b : α => a = b :=
  ofBool (fun a b => decide (a = b)) fun _ _ => decide_eq_true_iff

/-- Whichever `==` it is. -/
theorem equal_eq [DecidableEq α] [BEq α] [LawfulBEq α] (a b : α) :
    equal.eq a b = some (a == b) :=
  congrArg some (Bool.eq_iff_iff.mpr (Iff.trans decide_eq_true_iff beq_iff_eq.symm))

/-- What both values are asserted to be makes them the same. -/
def sure (c : α → Bool) (h : ∀ a b, c a = true → c b = true → R a b) : Plan R :=
  ofJudges (fun a b => if (c a && c b) = true then some true else none)
    (fun a b => c a = true ∧ c b = true) fun a b => by
      rw [← Bool.and_eq_true]
      cases hc : c a && c b with
      | true =>
        rw [Bool.and_eq_true] at hc
        exact (judges_some true).of_iff (iff_of_true trivial rfl) (iff_of_true rfl (h a b hc.1 hc.2))
      | false => exact judges_none.of_iff (iff_of_false id Bool.false_ne_true) Iff.rfl

/-- Optional fields that neither value may have. -/
def absent : Plan fun a b : Option α => a = b :=
  sure Option.isNone fun _ _ ha hb =>
    (Option.isNone_iff_eq_none.mp ha).trans (Option.isNone_iff_eq_none.mp hb).symm

/-- Fields that are asserted to be what they are in a bare value. -/
def bare (c : α → Bool) (f : α → β) {y : β} (h : ∀ a, c a = true → f a = y) :
    Plan fun a b : α => f a = f b := sure c fun a b ha hb => (h a ha).trans (h b hb).symm

/-- A comparison that has no answer. -/
def never (R : α → α → Prop) : Plan R :=
  ofJudges (fun _ _ => none) (fun _ _ => False) fun _ _ => judges_none

/-- No comparison at all. -/
def unseen (R : α → α → Prop) : Plan R where
  eq _ _ := some true
  safe _ _ := True
  agree _ _ := True
  rest := R
  clear _ _ := True
  judges _ _ := (judges_some true).of_iff Iff.rfl (iff_of_true rfl trivial)
  complete _ _ := and_comm
  rest_of_same _ _ h := h

/-! ## Their composition -/

/-- Another way to say what is the same. -/
def congr (p : Plan R) (h : ∀ a b, R a b ↔ S a b) : Plan S where
  eq := p.eq
  safe := p.safe
  agree := p.agree
  rest := p.rest
  clear := p.clear
  judges := p.judges
  complete a b := by rw [← h]; exact p.complete a b
  rest_of_same a b hs := p.rest_of_same a b ((h a b).mpr hs)

/-- The comparison of a field. -/
def on {R : β → β → Prop} (p : Plan R) (f : α → β) : Plan fun a b => R (f a) (f b) where
  eq a b := p.eq (f a) (f b)
  safe a b := p.safe (f a) (f b)
  agree a b := p.agree (f a) (f b)
  rest a b := p.rest (f a) (f b)
  clear a b := p.clear (f a) (f b)
  judges a b := p.judges (f a) (f b)
  complete a b := p.complete (f a) (f b)
  rest_of_same a b := p.rest_of_same (f a) (f b)

/-- One comparison, and the next if it holds. -/
def both (p : Plan R) (q : Plan S) : Plan fun a b => R a b ∧ S a b where
  eq a b := andThen (p.eq a b) (q.eq a b)
  safe a b := p.safe a b ∧ (p.agree a b → q.safe a b)
  agree a b := p.agree a b ∧ q.agree a b
  rest a b := p.rest a b ∧ q.rest a b
  clear a b := p.clear a b ∧ q.clear a b
  judges a b := judges_and (p.judges a b) fun _ => q.judges a b
  complete a b := by rw [and_and_and_comm, p.complete, q.complete, and_and_and_comm]
  rest_of_same a b h := ⟨p.rest_of_same a b h.1, q.rest_of_same a b h.2⟩

/-- The comparison that the first value asks for. -/
def choose (n : α → Nat) (p : Nat → Plan R) : Plan R where
  eq a b := (p (n a)).eq a b
  safe a b := (p (n a)).safe a b
  agree a b := (p (n a)).agree a b
  rest a b := (p (n a)).rest a b
  clear a b := (p (n a)).clear a b
  judges a b := (p (n a)).judges a b
  complete a b := (p (n a)).complete a b
  rest_of_same a b := (p (n a)).rest_of_same a b

/-- **A tagged union** is compared by the plan of its tag. -/
theorem choose_eq (n : α → Nat) (p : Nat → Plan R) (a b : α) :
    (choose n p).eq a b = (p (n a)).eq a b := rfl

/-- What is asserted of both values first. -/
def given (c : α → Bool) (p : Plan R) : Plan R where
  eq a b := if (c a && c b) = true then p.eq a b else none
  safe a b := (c a = true ∧ c b = true) ∧ p.safe a b
  agree := p.agree
  rest := p.rest
  clear := p.clear
  judges a b := by
    rw [← Bool.and_eq_true]
    cases hc : c a && c b with
    | true => exact (p.judges a b).of_iff (and_iff_right rfl).symm Iff.rfl
    | false => exact judges_none.of_iff (iff_of_false id fun h => Bool.false_ne_true h.1) Iff.rfl
  complete := p.complete
  rest_of_same := p.rest_of_same

/-- An answer that is asserted to be `true`. -/
def insist (p : Plan R) : Plan R where
  eq a b := (p.eq a b).bind fun r => if r then some true else none
  safe a b := p.safe a b ∧ p.agree a b
  agree := p.agree
  rest := p.rest
  clear := p.clear
  judges a b :=
    have h := judges_insist (p.judges a b) fun _ => judges_some true
    (h.of_iff (and_iff_left trivial) Iff.rfl).of_safe fun hsafe => iff_of_true rfl hsafe.2
  complete := p.complete
  rest_of_same := p.rest_of_same

/-- An equality that is asserted, not answered. -/
theorem equal_insist_eq [DecidableEq α] [BEq α] [LawfulBEq α] (a b : α) :
    equal.insist.eq a b = if (a == b) = true then some true else none := by
  unfold insist
  dsimp only
  rw [equal_eq]
  rfl

/-- Values that are found equal where they are `here`, the same place in memory. -/
def unlessHere (p : Plan R) (here : α → α → Prop) [DecidableRel here]
    (h : ∀ a b, here a b → R a b) : Plan R where
  eq a b := if here a b then some true else p.eq a b
  safe a b := here a b ∨ p.safe a b
  agree a b := here a b ∨ p.agree a b
  rest a b := here a b ∨ p.rest a b
  clear a b := here a b ∨ p.clear a b
  judges a b := by
    by_cases hhere : here a b
    · rw [if_pos hhere]
      exact (judges_some true).of_iff (iff_of_true trivial (.inl hhere))
        (iff_of_true rfl (.inl hhere))
    · rw [if_neg hhere]
      exact (p.judges a b).of_iff (or_iff_right hhere).symm (or_iff_right hhere).symm
  complete a b := by
    by_cases hhere : here a b
    · exact iff_of_true ⟨.inl hhere, .inl hhere⟩ ⟨h a b hhere, .inl hhere⟩
    · rw [or_iff_right hhere, or_iff_right hhere, or_iff_right hhere]
      exact p.complete a b
  rest_of_same a b hs := .inr (p.rest_of_same a b hs)

/-! ## Optional fields -/

/-- A relation of values that are there, and what is said where neither is, or only the first or
the second one. -/
def onSome (P : α → α → Prop) (neither first second : Prop) : Option α → Option α → Prop
  | none, none => neither
  | some a, some b => P a b
  | some _, none => first
  | none, some _ => second

/-- Both are there and the same, or neither is there. -/
def SameOpt (R : α → α → Prop) : Option α → Option α → Prop := onSome R True False False

/-- Both values are absent, or both are there and equal. -/
theorem sameOpt_eq {a b : Option α} : SameOpt (· = ·) a b ↔ a = b := by
  cases a <;> cases b <;> simp [SameOpt, onSome]

/-- An answer that is there for all. -/
theorem judges_answer (x : Option Bool) : Judges x (x ≠ none) (x = some true) := by
  cases x with
  | none => exact judges_none.of_iff (iff_of_false id fun h => h rfl) Iff.rfl
  | some b => exact (judges_some b).of_iff (by simp) (by simp)

/-- Two pointers, with the answers where `neither` is there, or only one of them is. -/
def option (p : Plan R) (neither first second : Option Bool) : Plan (SameOpt R) where
  eq
    | none, none => neither
    | some a, some b => p.eq a b
    | some _, none => first
    | none, some _ => second
  safe := onSome p.safe (neither ≠ none) (first ≠ none) (second ≠ none)
  agree := onSome p.agree (neither = some true) (first = some true) (second = some true)
  rest := onSome p.rest True (first ≠ some true) (second ≠ some true)
  clear := onSome p.clear (neither = some true) True True
  judges a b := by
    cases a <;> cases b
    · exact judges_answer neither
    · exact judges_answer second
    · exact judges_answer first
    · exact p.judges _ _
  complete a b := by
    cases a <;> cases b
    · simp [onSome, SameOpt]
    · simp [onSome, SameOpt]
    · simp [onSome, SameOpt]
    · exact p.complete _ _
  rest_of_same a b hs := by
    cases a <;> cases b
    · trivial
    · exact hs.elim
    · exact hs.elim
    · exact p.rest_of_same _ _ hs

/-- Optional fields: both values have them, or neither. -/
def optional (p : Plan fun a b : α => a = b) : Plan fun a b : Option α => a = b :=
  (p.option (some true) (some false) (some false)).congr fun _ _ => sameOpt_eq

/-- Optional fields that are compared where both values have them. -/
def ifBoth (p : Plan fun a b : α => a = b) : Plan fun a b : Option α => a = b :=
  (p.option (some true) (some true) (some true)).congr fun _ _ => sameOpt_eq

/-- Optional fields that both values have to have, or neither. -/
def pointers (p : Plan fun a b : α => a = b) : Plan fun a b : Option α => a = b :=
  (p.option (some true) none none).congr fun _ _ => sameOpt_eq

/-- Optional fields that both values have to have. -/
def present (p : Plan fun a b : α => a = b) : Plan fun a b : Option α => a = b :=
  (p.option none none none).congr fun _ _ => sameOpt_eq

/-- Optional fields of which the second is read where the first is there. -/
def ifFirst (p : Plan fun a b : α => a = b) : Plan fun a b : Option α => a = b :=
  (p.option (some true) none (some true)).congr fun _ _ => sameOpt_eq

/-! ## Arrays -/

theorem forall₂_and {P Q : α → α → Prop} {xs ys : List α} :
    List.Forall₂ (fun x y => P x y ∧ Q x y) xs ys ↔
      List.Forall₂ P xs ys ∧ List.Forall₂ Q xs ys := by
  induction xs generalizing ys with
  | nil => cases ys <;> simp
  | cons x xs ih =>
    cases ys with
    | nil => simp
    | cons y ys => simp only [List.forall₂_cons, ih, and_and_and_comm]

/-- Two arrays: their lengths, and then element by element. -/
def list (p : Plan R) : Plan (List.Forall₂ R) where
  eq xs ys := if xs.length = ys.length then each p.eq xs ys else some false
  safe xs ys := xs.length = ys.length → SafeEach p.safe p.agree xs ys
  agree := List.Forall₂ p.agree
  rest := List.Forall₂ p.rest
  clear := List.Forall₂ p.clear
  judges xs ys := by
    by_cases hlen : xs.length = ys.length
    · rw [if_pos hlen]
      exact (judges_each p.judges hlen).of_iff (imp_iff_right hlen).symm Iff.rfl
    · rw [if_neg hlen]
      exact (judges_some false).of_iff (iff_of_true trivial fun h => absurd h hlen)
        (iff_of_false Bool.false_ne_true fun h => hlen h.length_eq)
  complete xs ys := by
    have h : (fun x y => p.agree x y ∧ p.rest x y) = fun x y => R x y ∧ p.clear x y :=
      funext₂ fun x y => propext (p.complete x y)
    rw [← forall₂_and, ← forall₂_and, h]
  rest_of_same xs ys h := h.imp p.rest_of_same

/-- Arrays whose elements are equal where they are the same. -/
def array (p : Plan fun a b : α => a = b) : Plan fun xs ys : List α => xs = ys :=
  p.list.congr fun _ _ => by rw [List.forall₂_eq_eq_eq]

/-- Arrays of one length whose elements are asserted to be equal. -/
def arrayMust (p : Plan fun a b : α => a = b) : Plan fun xs ys : List α => xs = ys :=
  ((equal.on List.length).both p.array.insist).congr fun _ _ =>
    and_iff_right_of_imp fun h => congrArg List.length h

/-- A relation of the elements, as far as the first array goes. -/
def UpTo (P : α → α → Prop) : List α → List α → Prop
  | [], _ => True
  | x :: xs, y :: ys => P x y ∧ UpTo P xs ys
  | _ :: _, [] => True

/-- The second array does not end before the first two elements that do not agree. -/
def SafeUpTo (safe agree : α → α → Prop) : List α → List α → Prop
  | [], _ => True
  | x :: xs, y :: ys => safe x y ∧ (agree x y → SafeUpTo safe agree xs ys)
  | _ :: _, [] => False

/-- Two arrays, over the length of the first one; the second is read behind its end. -/
def eachUpTo (f : α → α → Option Bool) : List α → List α → Option Bool
  | [], _ => some true
  | x :: xs, y :: ys => andThen (f x y) (eachUpTo f xs ys)
  | _ :: _, [] => none

/-- Arrays are judged up to the end of the shorter one. -/
theorem judges_eachUpTo (p : Plan R) (xs ys : List α) :
    Judges (eachUpTo p.eq xs ys) (SafeUpTo p.safe p.agree xs ys) (UpTo p.agree xs ys) := by
  induction xs generalizing ys with
  | nil => exact (judges_some true).of_iff Iff.rfl (iff_of_true rfl trivial)
  | cons x xs ih =>
    cases ys with
    | nil => exact judges_none
    | cons y ys => exact judges_and (p.judges x y) fun _ => ih ys

theorem upTo_of_forall₂ {P : α → α → Prop} {xs ys : List α} (h : List.Forall₂ P xs ys) :
    UpTo P xs ys := by
  induction h with
  | nil => trivial
  | cons hxy _ ih => exact ⟨hxy, ih⟩

/-- Arrays of one length are compared in all their elements. -/
theorem upTo_iff {P : α → α → Prop} {xs ys : List α} (hlen : xs.length = ys.length) :
    UpTo P xs ys ↔ List.Forall₂ P xs ys := by
  refine ⟨fun h => ?_, upTo_of_forall₂⟩
  induction xs generalizing ys with
  | nil =>
    obtain rfl := List.length_eq_zero_iff.mp hlen.symm
    exact .nil
  | cons x xs ih =>
    cases ys with
    | nil => cases hlen
    | cons y ys => exact .cons h.1 (ih (Nat.succ.inj hlen) h.2)

/-- Two arrays, over the length of the first one. -/
def upTo (p : Plan R) : Plan (List.Forall₂ R) where
  eq := eachUpTo p.eq
  safe := SafeUpTo p.safe p.agree
  agree := UpTo p.agree
  rest xs ys := xs.length = ys.length ∧ UpTo p.rest xs ys
  clear := UpTo p.clear
  judges := p.judges_eachUpTo
  complete xs ys := by
    have h := p.list.complete xs ys
    constructor
    · rintro ⟨hagree, hlen, hrest⟩
      rw [upTo_iff hlen] at *
      exact h.mp ⟨hagree, hrest⟩
    · rintro ⟨hsame, hclear⟩
      have hlen := hsame.length_eq
      rw [upTo_iff hlen] at *
      obtain ⟨hagree, hrest⟩ := h.mpr ⟨hsame, hclear⟩
      exact ⟨hagree, hlen, (upTo_iff hlen).mpr hrest⟩
  rest_of_same xs ys h := ⟨h.length_eq, upTo_of_forall₂ (h.imp p.rest_of_same)⟩

/-! ## Tagged unions -/

/-- Relations of values of one kind, and what is said of two kinds. -/
def onKinds (P : α → α → Prop) (Q : β → β → Prop) (two : Prop) : α ⊕ β → α ⊕ β → Prop
  | .inl a, .inl b => P a b
  | .inr a, .inr b => Q a b
  | _, _ => two

/-- Of one kind, and the same. -/
def SameSum (R : α → α → Prop) (S : β → β → Prop) : α ⊕ β → α ⊕ β → Prop := onKinds R S False

/-- Values of one tag are compared, and two tags differ. -/
theorem sameSum_eq {a b : α ⊕ β} : SameSum (· = ·) (· = ·) a b ↔ a = b := by
  cases a <;> cases b <;> simp [SameSum, onKinds]

/-- Two kinds of values; of two that are of different kinds, `two` is the answer. -/
def sum {S : β → β → Prop} (p : Plan R) (q : Plan S) (two : Option Bool) :
    Plan (SameSum R S) where
  eq
    | .inl a, .inl b => p.eq a b
    | .inr a, .inr b => q.eq a b
    | _, _ => two
  safe := onKinds p.safe q.safe (two ≠ none)
  agree := onKinds p.agree q.agree (two = some true)
  rest := onKinds p.rest q.rest (two ≠ some true)
  clear := onKinds p.clear q.clear True
  judges a b := by
    cases a <;> cases b
    · exact p.judges _ _
    · exact judges_answer two
    · exact judges_answer two
    · exact q.judges _ _
  complete a b := by
    cases a <;> cases b
    · exact p.complete _ _
    · simp [onKinds, SameSum]
    · simp [onKinds, SameSum]
    · exact q.complete _ _
  rest_of_same a b hs := by
    cases a <;> cases b
    · exact p.rest_of_same _ _ hs
    · exact hs.elim
    · exact hs.elim
    · exact q.rest_of_same _ _ hs

/-- Arrays that are compared over the length of the first one. -/
def arrayUpTo (p : Plan fun a b : α => a = b) : Plan fun xs ys : List α => xs = ys :=
  p.upTo.congr fun _ _ => by rw [List.forall₂_eq_eq_eq]

/-- Arrays that may be `NULL`: then they are like ones without elements. -/
def nullable (p : Plan fun xs ys : List α => xs = ys) :
    Plan fun xs ys : Option (List α) => xs = ys :=
  ((p.on fun xs : Option (List α) => xs.getD []).both <|
    (unseen (· = ·)).on Option.isSome).congr fun xs ys => by cases xs <;> cases ys <;> simp

/-- An array that is absent is compared as an empty one. -/
theorem nullable_eq (p : Plan fun xs ys : List α => xs = ys) (xs ys : Option (List α)) :
    p.nullable.eq xs ys = p.eq (xs.getD []) (ys.getD []) := andThen_true _

/-- A comparison with what is `read` of the second value, if that is anything. -/
theorem judges_read (p : Plan R) (a : α) (o : Option α) :
    Judges (o.bind (p.eq a)) (∃ b, o = some b ∧ p.safe a b) (∃ b, o = some b ∧ p.agree a b) := by
  cases o with
  | none =>
    refine judges_none.of_iff (iff_of_false id ?_) Iff.rfl
    rintro ⟨b, h, -⟩
    cases h
  | some b => exact (p.judges a b).of_iff (by simp) (by simp)

/-- A comparison of values of one format, and what else is done with two that are of different
formats. -/
def oneFormat {ι : Type} [DecidableEq ι] (p : Plan R) (format : α → ι) (eq : α → α → Option Bool)
    (safe agree : α → α → Prop) (h : ∀ a b, Judges (eq a b) (safe a b) (agree a b))
    (hsame : ∀ a b, R a b → format a = format b) : Plan R where
  eq a b := if format a = format b then p.eq a b else eq a b
  safe a b := if format a = format b then p.safe a b else safe a b
  agree a b := if format a = format b then p.agree a b else agree a b
  rest a b := if format a = format b then p.rest a b else ¬agree a b
  clear a b := if format a = format b then p.clear a b else True
  judges a b := by
    split
    · exact p.judges a b
    · exact h a b
  complete a b := by
    split
    case isTrue => exact p.complete a b
    case isFalse hno => exact iff_of_false (fun h => h.2 h.1) fun h => hno (hsame a b h.1)
  rest_of_same a b hR := by
    rw [if_pos (hsame a b hR)]
    exact p.rest_of_same a b hR

/-- Two kinds of values that are told apart. -/
def kinds (p : Plan fun a b : α => a = b) (q : Plan fun a b : β => a = b) :
    Plan fun a b : α ⊕ β => a = b :=
  (p.sum q (some false)).congr fun _ _ => sameSum_eq

/-- Two kinds of values that are asserted to be of one kind. -/
def oneKind (p : Plan fun a b : α => a = b) (q : Plan fun a b : β => a = b) :
    Plan fun a b : α ⊕ β => a = b :=
  (p.sum q none).congr fun _ _ => sameSum_eq

/-! ## The comparisons of a program -/

section

variable {f : α → α → Outcome Bool} {p : Plan R}

/-- A loop over the elements of the first array. -/
theorem answer_allEqUpTo_mem {xs ys : List α} (h : ∀ x ∈ xs, ∀ y, (f x y).answer = p.eq x y) :
    (Outcome.allEqUpTo f xs ys).answer = p.upTo.eq xs ys := by
  show _ = eachUpTo p.eq xs ys
  induction xs generalizing ys with
  | nil => rfl
  | cons x xs ih =>
    rw [List.forall_mem_cons] at h
    cases ys with
    | nil => rfl
    | cons y ys => rw [Outcome.allEqUpTo, answer_both, h.1, ih h.2, eachUpTo]

/-- The plan of a loop up to the end of the shorter array. -/
theorem answer_allEqUpTo (h : ∀ x y, (f x y).answer = p.eq x y) (xs ys : List α) :
    (Outcome.allEqUpTo f xs ys).answer = p.upTo.eq xs ys :=
  answer_allEqUpTo_mem fun x _ => h x

theorem each_of_length {g : α → α → Option Bool} {xs ys : List α} (hlen : xs.length = ys.length) :
    eachUpTo g xs ys = each g xs ys := by
  induction xs generalizing ys with
  | nil => cases ys <;> rfl
  | cons x xs ih =>
    cases ys with
    | nil => cases hlen
    | cons y ys =>
      rw [eachUpTo, ih (Nat.succ.inj hlen), each]
      rfl

theorem answer_allEq_mem {xs ys : List α} (h : ∀ x ∈ xs, ∀ y, (f x y).answer = p.eq x y) :
    (Outcome.allEq f xs ys).answer = p.list.eq xs ys := by
  show _ = if xs.length = ys.length then each p.eq xs ys else some false
  unfold Outcome.allEq
  by_cases hlen : xs.length = ys.length
  · rw [if_pos hlen, if_pos hlen, ← each_of_length hlen]
    exact answer_allEqUpTo_mem h
  · rw [if_neg hlen, if_neg hlen]
    rfl

/-- The plan of a loop over both arrays. -/
theorem answer_allEq (h : ∀ x y, (f x y).answer = p.eq x y) (xs ys : List α) :
    (Outcome.allEq f xs ys).answer = p.list.eq xs ys := answer_allEq_mem fun x _ => h x

/-- The plan of a loop after the comparison of the lengths. -/
theorem answer_array {p : Plan fun a b : α => a = b} (h : ∀ x y, (f x y).answer = p.eq x y)
    (xs ys : List α) : (Outcome.allEq f xs ys).answer = p.array.eq xs ys := answer_allEq h xs ys

/-- The plan of a loop over arrays that have a single length. -/
theorem answer_arrayUpTo {p : Plan fun a b : α => a = b} (h : ∀ x y, (f x y).answer = p.eq x y)
    (xs ys : List α) : (Outcome.allEqUpTo f xs ys).answer = p.arrayUpTo.eq xs ys :=
  answer_allEqUpTo h xs ys

/-- The plan of a comparison under a pointer. -/
theorem answer_eqOptional {p : Plan fun a b : α => a = b} (h : ∀ x y, (f x y).answer = p.eq x y)
    (a b : Option α) : (Outcome.eqOptional f a b).answer = p.optional.eq a b := by
  cases a <;> cases b
  case some.some a b => exact h a b
  all_goals rfl

/-- The plan of a comparison under two pointers. -/
theorem answer_eqPtr {p : Plan fun a b : α => a = b} (h : ∀ x y, (f x y).answer = p.eq x y)
    (a b : Option α) : (Outcome.eqPtr f a b).answer = p.pointers.eq a b := by
  cases a <;> cases b
  case some.some a b => exact h a b
  all_goals rfl

end

/-- An assertion before a comparison. -/
theorem answer_assert (c : Bool) (msg : String) (y : Outcome Bool) :
    (Outcome.assert c msg >>= fun _ : PUnit => y).answer =
      andThen (if c = true then some true else none) y.answer := by
  cases c <;> rfl

/-- A comparison whose answer is asserted, before another one. -/
theorem answer_must {p : Plan R} {a b : α} {x : Outcome Bool} (h : x.answer = p.eq a b)
    (y : Outcome Bool) :
    (Outcome.must x >>= fun _ => y).answer = andThen (p.insist.eq a b) y.answer := by
  show _ = andThen ((p.eq a b).bind _) y.answer
  rw [← h]
  cases x with
  | next r => cases r <;> rfl
  | abort msg => rfl
  | blocked => rfl

theorem answer_allEqMust_mem {f : α → α → Outcome Bool} {p : Plan fun a b : α => a = b}
    {xs ys : List α} (h : ∀ x ∈ xs, ∀ y, (f x y).answer = p.eq x y) :
    (Outcome.allEqMust f xs ys).answer = p.arrayMust.eq xs ys := by
  have harray : (Outcome.allEq f xs ys).answer = p.array.eq xs ys := answer_allEq_mem h
  show _ = andThen (some (decide (xs.length = ys.length))) (p.array.insist.eq xs ys)
  rw [Outcome.allEqMust, answer_both, answer_next]
  by_cases hlen : xs.length = ys.length
  · rw [Outcome.allEq, if_pos hlen] at harray
    rw [decide_eq_true hlen, beq_iff_eq.mpr hlen, answer_must harray, answer_next, andThen_true]
  · rw [decide_eq_false hlen, beq_eq_false_iff_ne.mpr hlen]
    rfl

/-- The plan of a loop whose comparisons are asserted. -/
theorem answer_allEqMust {f : α → α → Outcome Bool} {p : Plan fun a b : α => a = b}
    (h : ∀ x y, (f x y).answer = p.eq x y) (xs ys : List α) :
    (Outcome.allEqMust f xs ys).answer = p.arrayMust.eq xs ys := answer_allEqMust_mem fun x _ => h x

end Plan

end Answers

end FlexRic
