import Mathlib.Data.List.Perm.Basic
import Mathlib.Data.Set.Insert
import Mathlib.Order.BooleanAlgebra.Set

/-!
# FlexRic.Lib.Delay

What one side of an ordered channel knows of a set that the other side changes.

* `Leads A cs B`: the changes on their way turn `A` into `B`, and each of them is allowed where it
  arrives.
* `Leads.send` and `Leads.receive`: a change enters the channel at one end and leaves it at the
  other.
* `Leads.of_nil`: across an empty channel both sides know the same.
* `Settles A cs B`: so they do in whatever order they are taken, as long as no two of them are of
  one element (`Settles.send`).
-/

namespace FlexRic

universe u

/-- A change of a set, or a use of an element that leaves it as it is. -/
inductive Change (α : Type u) where
  | add (x : α)
  | remove (x : α)
  | use (x : α)

namespace Change

variable {α : Type u}

/-- What is added is new, and what is removed or used is there. -/
def Allowed (A : Set α) : Change α → Prop
  | add x => x ∉ A
  | remove x => x ∈ A
  | use x => x ∈ A

def after (A : Set α) : Change α → Set α
  | add x => insert x A
  | remove x => A \ {x}
  | use _ => A

/-- The element it is of. -/
def elem : Change α → α
  | add x | remove x | use x => x

variable {A : Set α} {c d : Change α}

/-- A change of another element does not matter. -/
theorem mem_after_of_ne {x : α} (h : x ≠ c.elem) : x ∈ c.after A ↔ x ∈ A := by
  cases c <;> simp_all [elem, after]

/-- Effects on two elements do not bear on each other. -/
theorem allowed_after (h : d.elem ≠ c.elem) : d.Allowed (c.after A) ↔ d.Allowed A := by
  have hmem := mem_after_of_ne (A := A) h
  cases d with
  | add x => exact not_congr hmem
  | remove x => exact hmem
  | use x => exact hmem

/-- Changes of different elements commute. -/
theorem after_comm (h : d.elem ≠ c.elem) : d.after (c.after A) = c.after (d.after A) := by
  ext x
  cases c <;> cases d <;> simp only [after, elem, ne_eq, Set.mem_insert_iff, Set.mem_sdiff,
    Set.mem_singleton_iff] at h ⊢ <;> grind

end Change

variable {α : Type u} {A B C : Set α} {c : Change α} {cs ds : List (Change α)}

/-- The changes turn `A` into `B`, each allowed in its turn. -/
def Leads : Set α → List (Change α) → Set α → Prop
  | A, [], B => A = B
  | A, c :: cs, B => c.Allowed A ∧ Leads (c.after A) cs B

namespace Leads

/-- Nothing delivered changes nothing. -/
theorem of_nil (h : Leads A [] B) : A = B := h

/-- Nothing delivered leads from a state to itself. -/
theorem nil (A : Set α) : Leads A [] A := rfl

/-- **Receiving.** -/
theorem receive (h : Leads A (c :: cs) B) : c.Allowed A ∧ Leads (c.after A) cs B := h

/-- The changes of two stretches follow each other. -/
theorem append (h : Leads A cs B) (h' : Leads B ds C) : Leads A (cs ++ ds) C := by
  induction cs generalizing A with
  | nil => exact h.of_nil ▸ h'
  | cons c cs ih =>
    obtain ⟨hc, hcs⟩ := h.receive
    exact ⟨hc, ih hcs⟩

/-- **Sending.** -/
theorem send (h : Leads A cs B) (hc : c.Allowed B) : Leads A (cs ++ [c]) (c.after B) :=
  h.append ⟨hc, rfl⟩

/-- Uses leave the set as it is. -/
theorem send_uses {xs : List α} (h : Leads A cs B) (hxs : ∀ x ∈ xs, x ∈ B) :
    Leads A (cs ++ xs.map .use) B := by
  refine h.append ?_
  induction xs with
  | nil => exact .nil B
  | cons x xs ih =>
    exact ⟨hxs x List.mem_cons_self, ih fun y hy => hxs y (List.mem_cons_of_mem _ hy)⟩

/-- Where the changes lead to. -/
theorem eq_foldl (h : Leads A cs B) : B = cs.foldl Change.after A := by
  induction cs generalizing A with
  | nil => exact h.of_nil.symm
  | cons c cs ih => exact ih h.receive.2

/-- A change that is allowed in the end, of an element that no other change is of, may come first. -/
theorem overtake (h : Leads A cs B) (hc : c.Allowed B) (hne : ∀ d ∈ cs, d.elem ≠ c.elem) :
    Leads A (c :: cs) (c.after B) := by
  induction cs generalizing A with
  | nil =>
    obtain rfl := h.of_nil
    exact ⟨hc, rfl⟩
  | cons d cs ih =>
    obtain ⟨hd, hcs⟩ := h.receive
    have hdc : d.elem ≠ c.elem := hne d List.mem_cons_self
    obtain ⟨hc', hrest⟩ := ih hcs fun d hd => hne d (List.mem_cons_of_mem _ hd)
    refine ⟨(Change.allowed_after hdc.symm).mp hc', (Change.allowed_after hdc).mpr hd, ?_⟩
    rwa [Change.after_comm hdc]

end Leads

/-! ## Several receivers -/

/-- The changes turn `A` into `B` in whatever order they are taken. -/
def Settles (A : Set α) (cs : List (Change α)) (B : Set α) : Prop := ∀ ds, ds.Perm cs → Leads A ds B

namespace Settles

/-- **What settles leads there**, in one order of delivery at least. -/
theorem leads (h : Settles A cs B) : Leads A cs B := h cs (.refl _)

theorem nil (A : Set α) : Settles A [] A := fun _ hds => hds.eq_nil ▸ Leads.nil A

/-- **One of the changes is taken.** -/
theorem receive (h : Settles A cs B) (hc : cs.Perm (c :: ds)) : Settles (c.after A) ds B :=
  fun _ hes => (h _ ((hes.cons c).trans hc.symm)).receive.2

/-- **A change more**, of an element that no other one is of. -/
theorem send (h : Settles A cs B) (hc : c.Allowed B) (hne : ∀ d ∈ cs, d.elem ≠ c.elem) :
    Settles A (cs ++ [c]) (c.after B) := by
  intro ds hds
  obtain ⟨before, rest, rfl⟩ :=
    List.append_of_mem (hds.mem_iff.mpr (List.mem_append_right _ List.mem_cons_self))
  have hperm : (before ++ rest).Perm cs :=
    ((List.perm_middle.symm.trans hds).trans (List.perm_append_singleton c cs)).cons_inv
  have hall := h _ hperm
  -- what comes before the new change leads to a set that the rest starts from
  clear hds h
  induction before generalizing A cs with
  | nil => exact hall.overtake hc fun d hd => hne d (hperm.mem_iff.mp hd)
  | cons b before ih =>
    obtain ⟨hb, hrest⟩ := hall.receive
    refine ⟨hb, ih (fun d (hd : d ∈ before ++ rest) => hne d ?_) (.refl _) hrest⟩
    exact hperm.mem_iff.mp (List.mem_cons_of_mem _ hd)

end Settles

end FlexRic
