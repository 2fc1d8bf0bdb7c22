import FlexRic.Rc.ActionCopies
import FlexRic.Rc.ActionPlans
import FlexRic.Rc.EventTriggerCopies
import FlexRic.Rc.EventTriggerPlans
import FlexRic.Rc.FuncDefCopies
import FlexRic.Rc.FuncDefPlans
import FlexRic.Rc.MessageCopies
import FlexRic.Rc.MessagePlans

/-!
# FlexRic.Rc.Comparisons

When the comparisons of RC values, and of their copies, are right.

* `Check`: two event triggers, action definitions, indication messages, control messages or
  function definitions that are compared, or one that is copied and compared with the copy.
* `rc_checked`: when the answer is right, whatever is asked.
-/

namespace FlexRic

namespace Rc

open Outcome Answers

/-- The copy is there, and it is found equal to the value. -/
def CopyEqual {α : Type} (cp : α → Outcome α) (eq : α → α → Outcome Bool) (m : α) : Prop :=
  ∃ dst, cp m = .next dst ∧ eq dst m = .next true

theorem copyEqual_iff {α : Type} {cp : α → Outcome α} {eq : α → α → Outcome Bool} {m copy : α}
    {P Q : Prop} (hcp : (cp m).Yields P copy) (heq : (eq copy m).Yields Q true) :
    CopyEqual cp eq m ↔ P ∧ Q := by
  constructor
  · rintro ⟨dst, hdst, htrue⟩
    obtain ⟨hP, rfl⟩ := (hcp dst).mp hdst
    exact ⟨hP, ((heq true).mp htrue).1⟩
  · rintro ⟨hP, hQ⟩
    exact ⟨copy, hcp.eq_next hP, heq.eq_next hQ⟩

/-- What is asked of the functions. -/
inductive Check where
  | eqEventTrigger (rr : Reread) (m0 m1 : EventTrigger)
  | eqActionDef (m0 m1 : ActionDef)
  | eqIndMsg (m0 m1 : IndMsg)
  | eqCtrlMsg (m0 m1 : CtrlMsg)
  | eqFuncDef (m0 m1 : FuncDef)
  | cpEventTrigger (rr : Reread) (m : EventTrigger)
  | cpActionDef (m : ActionDef)
  | cpIndMsg (m : IndMsg)
  | cpCtrlMsg (m : CtrlMsg)
  | cpFuncDef (m : FuncDef)

namespace Check

/-- The comparison has an answer, and it is whether the two are equal; a copy is there, and is found
equal. -/
def Right : Check → Prop
  | eqEventTrigger rr m0 m1 => Decides (Rc.eqEventTrigger rr m0 m1).answer (m0 = m1)
  | eqActionDef m0 m1 => Decides (Rc.eqActionDef m0 m1).answer (m0 = m1)
  | eqIndMsg m0 m1 => Decides (Rc.eqIndMsg m0 m1).answer (m0 = m1)
  | eqCtrlMsg m0 m1 => Decides (Rc.eqCtrlMsg m0 m1).answer (m0 = m1)
  | eqFuncDef m0 m1 => Decides (Rc.eqFuncDef m0 m1).answer (m0 = m1)
  | cpEventTrigger rr m => CopyEqual Rc.cpEventTrigger (Rc.eqEventTrigger rr) m
  | cpActionDef m => CopyEqual Rc.cpActionDef Rc.eqActionDef m
  | cpIndMsg m => CopyEqual Rc.cpIndMsg Rc.eqIndMsg m
  | cpCtrlMsg m => CopyEqual Rc.cpCtrlMsg Rc.eqCtrlMsg m
  | cpFuncDef m => CopyEqual Rc.cpFuncDef Rc.eqFuncDef m

/-- The condition of each. -/
def Told : Check → Prop
  | eqEventTrigger rr m0 m1 => (EventTrigger.plan rr).Told m0 m1
  | eqActionDef m0 m1 => ActionDef.plan.Told m0 m1
  | eqIndMsg m0 m1 => IndMsg.plan.Told m0 m1
  | eqCtrlMsg m0 m1 => CtrlMsg.plan.Told m0 m1
  | eqFuncDef m0 m1 => FuncDef.plan.Told m0 m1
  | cpEventTrigger _ m => m.Copyable ∧ m.Comparable
  | cpActionDef m => m.Copyable ∧ m.Comparable
  | cpIndMsg m => m.Copyable ∧ m.Comparable
  | cpCtrlMsg m => m.Copyable ∧ m.Comparable
  | cpFuncDef m => m.Copyable ∧ m.Comparable

end Check

/-- **When the copies and comparisons are right**, whatever is asked. -/
theorem rc_checked (c : Check) : c.Right ↔ c.Told := by
  cases c with
  | eqEventTrigger rr m0 m1 =>
    rw [Check.Right, answer_eqEventTrigger]
    exact (EventTrigger.plan rr).decides_iff m0 m1
  | eqActionDef m0 m1 =>
    rw [Check.Right, answer_eqActionDef]
    exact ActionDef.plan.decides_iff m0 m1
  | eqIndMsg m0 m1 =>
    rw [Check.Right, answer_eqIndMsg]
    exact IndMsg.plan.decides_iff m0 m1
  | eqCtrlMsg m0 m1 =>
    rw [Check.Right, answer_eqCtrlMsg]
    exact CtrlMsg.plan.decides_iff m0 m1
  | eqFuncDef m0 m1 =>
    rw [Check.Right, answer_eqFuncDef]
    exact FuncDef.plan.decides_iff m0 m1
  | cpEventTrigger rr m => exact copyEqual_iff (yields_cpEventTrigger m) (yields_eqEventTrigger rr m)
  | cpActionDef m => exact copyEqual_iff (yields_cpActionDef m) (yields_eqActionDef_copy m)
  | cpIndMsg m => exact copyEqual_iff (yields_cpIndMsg m) (yields_eqIndMsg_copy m)
  | cpCtrlMsg m => exact copyEqual_iff (yields_cpCtrlMsg m) (yields_eqCtrlMsg m)
  | cpFuncDef m => exact copyEqual_iff (yields_cpFuncDef m) (yields_eqFuncDef m)

/-- An event trigger on the change 1 of the node, under a condition id. -/
def nodeChange (id : UInt16) : EventTrigger := .frmt3 ⟨[⟨id, 1, none, none⟩]⟩

/-- Two triggers of format 3 under other condition ids are found equal. -/
theorem rc_nodeChanges : ¬∀ c : Check, c.Right := by
  intro h
  have hright := h (.eqEventTrigger ⟨fun _ => none, fun _ => none, fun _ => none, fun _ => none,
    fun _ => none⟩ (nodeChange 1) (nodeChange 2))
  obtain ⟨b, hb, hiff⟩ := hright
  obtain rfl : true = b := Option.some.inj hb
  have heq : nodeChange 1 = nodeChange 2 := hiff.mp rfl
  injection heq with hfrmt
  injection hfrmt with hchanges
  exact absurd hchanges (by decide)

end Rc

end FlexRic
