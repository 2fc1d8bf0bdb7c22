import FlexRic.Rc.ParamCopies
import FlexRic.Rc.RcValues

/-!
# FlexRic.Rc.EventTriggerCopies

Which event triggers are copied, compared with themselves and released.

* Each function has its predicate: `Copyable`, `Comparable`, `Releasable`.  All three want most
  optional fields to be absent; the copy wants ids above 0 that the release does not look at.
* A copy is the value.
-/

namespace FlexRic

namespace Rc

open Outcome

/-! ## Messages and call processes -/

/-- An interface's message id and protocol are not copied. -/
theorem NetworkInterfaceE2rc.eq_of_bare {m : NetworkInterfaceE2rc} (h : m.bare = true) :
    ⟨m.niType, none, none⟩ = m := by
  obtain ⟨niType, niId, niMsgId⟩ := m
  simp only [bare, Bool.and_eq_true, Option.isNone_iff_eq_none] at h
  obtain ⟨rfl, rfl⟩ := h
  rfl

/-- No identifiers of an interface. -/
def MsgTypeEvTrg.Bare : MsgTypeEvTrg → Prop
  | networkInterface n => n.bare = true
  | rrcMsg _ => True

/-- An RRC message is always copied, an interface's if nothing else is given. -/
theorem yields_cpMsgTypeEvTrg (m : MsgTypeEvTrg) : (cpMsgTypeEvTrg m).Yields m.Bare m := by
  cases m with
  | networkInterface n =>
    have hcopy : (cpNetworkInterfaceE2rc n).Yields (n.bare = true) n :=
      (yields_assert _ _).last NetworkInterfaceE2rc.eq_of_bare
    exact hcopy.last fun _ => rfl
  | rrcMsg r => exact yields_next _

theorem yields_eqMsgTypeEvTrg (m : MsgTypeEvTrg) : (eqMsgTypeEvTrg m m).Yields m.Bare true := by
  cases m with
  | networkInterface n =>
    rw [eqMsgTypeEvTrg, eqNetworkInterfaceE2rc, beq_self_eq_true, both_true, Bool.and_self]
    exact (yields_assert _ _).last fun _ => rfl
  | rrcMsg r =>
    rw [eqMsgTypeEvTrg, eqRrcMsgId, beq_self_eq_true, beq_self_eq_true]
    exact yields_next _

theorem yields_freeMsgTypeEvTrg (m : MsgTypeEvTrg) : (freeMsgTypeEvTrg m).Yields m.Bare ⟨⟩ := by
  cases m with
  | networkInterface n => exact yields_assert _ _
  | rrcMsg r => exact yields_next _

/-- Direction, UE info and logical or are not copied. -/
theorem MsgEvTrg.eq_of_bare {m : MsgEvTrg} (h : m.bare = true) :
    ⟨m.evTriggerCondId, m.msgType, none, none, none⟩ = m := by
  obtain ⟨id, msgType, msgDir, assocUeInfo, logOr⟩ := m
  simp only [bare, Bool.and_eq_true, Option.isNone_iff_eq_none] at h
  obtain ⟨⟨rfl, rfl⟩, rfl⟩ := h
  rfl

/-- No optional fields. -/
def MsgEvTrg.Comparable (m : MsgEvTrg) : Prop := m.msgType.Bare ∧ m.bare = true

def MsgEvTrg.Copyable (m : MsgEvTrg) : Prop := 0 < m.evTriggerCondId ∧ m.Comparable

/-- A message's condition has a positive id, which only the copy asks for. -/
theorem yields_cpMsgEvTrg (m : MsgEvTrg) : (cpMsgEvTrg m).Yields m.Copyable m := by
  refine ((yields_assert _ _).bind fun _ => (yields_cpMsgTypeEvTrg m.msgType).bind fun _ =>
    (yields_assert _ _).last MsgEvTrg.eq_of_bare).iff ?_
  rw [decide_eq_true_iff, MsgEvTrg.Copyable, MsgEvTrg.Comparable]

theorem yields_eqMsgEvTrg (m : MsgEvTrg) : (eqMsgEvTrg m m).Yields m.Comparable true := by
  rw [eqMsgEvTrg, beq_self_eq_true, both_true, Bool.and_self]
  exact (yields_eqMsgTypeEvTrg m.msgType).both ((yields_assert _ _).last fun _ => rfl)

theorem yields_freeMsgEvTrg (m : MsgEvTrg) : (freeMsgEvTrg m).Yields m.Comparable ⟨⟩ :=
  (yields_freeMsgTypeEvTrg m.msgType).bind fun _ => yields_assert _ _

/-- Messages that 16 bits can count, and nothing optional. -/
def EvTrgFrmt1.Comparable (m : EvTrgFrmt1) : Prop :=
  sized 65536 m.msgEvTrg = true ∧ (∀ e ∈ m.msgEvTrg, e.Comparable) ∧ m.globalAssocUeInfo = none

def EvTrgFrmt1.Copyable (m : EvTrgFrmt1) : Prop :=
  sized 65536 m.msgEvTrg = true ∧ (∀ e ∈ m.msgEvTrg, e.Copyable) ∧ m.globalAssocUeInfo = none

/-- **Format 1 is copied**: 1 to 65535 messages, and no UE info. -/
theorem yields_cpEvTrgFrmt1 (m : EvTrgFrmt1) : (cpEvTrgFrmt1 m).Yields m.Copyable m := by
  refine ((yields_assert _ _).bind fun _ =>
    (yields_walk_self fun e _ => yields_cpMsgEvTrg e).bind fun _ =>
    (yields_assert _ _).last fun h => ?_).iff ?_
  · rw [← Option.isNone_iff_eq_none.mp h]
  · rw [Option.isNone_iff_eq_none, EvTrgFrmt1.Copyable]

/-- Format 1 is compared message by message. -/
theorem yields_eqEvTrgFrmt1 (m : EvTrgFrmt1) : (eqEvTrgFrmt1 m m).Yields m.Comparable true := by
  rw [eqEvTrgFrmt1, Bool.and_self, Bool.and_self]
  refine ((yields_assert _ _).bind fun _ =>
    (yields_allEq_self fun e _ => yields_eqMsgEvTrg e).both <|
    (yields_assert _ _).last fun _ => rfl).iff ?_
  rw [Option.isNone_iff_eq_none, EvTrgFrmt1.Comparable]

/-- Format 1 is freed under the condition under which it is compared. -/
theorem yields_freeEvTrgFrmt1 (m : EvTrgFrmt1) : (freeEvTrgFrmt1 m).Yields m.Comparable ⟨⟩ := by
  refine ((yields_assert _ _).bind fun _ =>
    (yields_each fun e _ => yields_freeMsgEvTrg e).bind fun _ => yields_assert _ _).iff ?_
  rw [Option.isNone_iff_eq_none, EvTrgFrmt1.Comparable]

/-- The UE info and the RAN parameters of a call process are not copied. -/
theorem EvTrgFrmt2.eq_of_bare {m : EvTrgFrmt2} (h : m.bare = true) :
    ⟨m.callProcTypeId, m.callBreakId, none, none⟩ = m := by
  obtain ⟨type, id, node, ue⟩ := m
  simp only [bare, Bool.and_eq_true, Option.isNone_iff_eq_none] at h
  obtain ⟨rfl, rfl⟩ := h
  rfl

/-- Ids above 0, and nothing optional: all three functions want that. -/
def EvTrgFrmt2.Copyable (m : EvTrgFrmt2) : Prop :=
  0 < m.callProcTypeId ∧ 0 < m.callBreakId ∧ m.bare = true

/-- **Format 2 is copied**: two positive ids. -/
theorem yields_cpEvTrgFrmt2 (m : EvTrgFrmt2) : (cpEvTrgFrmt2 m).Yields m.Copyable m := by
  refine ((yields_assert _ _).bind fun _ => (yields_assert _ _).bind fun _ =>
    (yields_assert _ _).last EvTrgFrmt2.eq_of_bare).iff ?_
  rw [decide_eq_true_iff, decide_eq_true_iff, EvTrgFrmt2.Copyable]

theorem yields_eqEvTrgFrmt2 (m : EvTrgFrmt2) : (eqEvTrgFrmt2 m m).Yields m.Copyable true := by
  rw [eqEvTrgFrmt2, beq_self_eq_true, beq_self_eq_true, both_true, both_true, Bool.and_self,
    Bool.and_self, Bool.and_self]
  refine ((yields_assert _ _).bind fun _ => (yields_assert _ _).bind fun _ =>
    (yields_assert _ _).last fun _ => rfl).iff ?_
  rw [decide_eq_true_iff, decide_eq_true_iff, EvTrgFrmt2.Copyable]

theorem yields_freeEvTrgFrmt2 (m : EvTrgFrmt2) : (freeEvTrgFrmt2 m).Yields m.Copyable ⟨⟩ := by
  refine ((yields_assert _ _).bind fun _ => (yields_assert _ _).bind fun _ =>
    yields_assert _ _).iff ?_
  rw [decide_eq_true_iff, decide_eq_true_iff, EvTrgFrmt2.Copyable]

/-! ## Changes of the node -/

/-- The cell and the logical or of a change are not copied. -/
theorem E2NodeInfoChng.eq_of_bare {m : E2NodeInfoChng} (h : m.bare = true) :
    ⟨m.evTriggerCondId, m.e2NodeInfoChngId, none, none⟩ = m := by
  obtain ⟨cond, id, cell, logOr⟩ := m
  simp only [bare, Bool.and_eq_true, Option.isNone_iff_eq_none] at h
  obtain ⟨rfl, rfl⟩ := h
  rfl

/-- Ids in their ranges, and nothing optional: the copy and the comparison want that. -/
def E2NodeInfoChng.Copyable (m : E2NodeInfoChng) : Prop := m.inRange = true ∧ m.bare = true

/-- A change of the node has an id from 1 to 512. -/
theorem yields_cpE2NodeInfoChng (m : E2NodeInfoChng) :
    (cpE2NodeInfoChng m).Yields m.Copyable m :=
  (yields_assert _ _).bind fun _ => (yields_assert _ _).last E2NodeInfoChng.eq_of_bare

theorem yields_eqE2NodeInfoChng (m : E2NodeInfoChng) :
    (eqE2NodeInfoChng m m).Yields m.Copyable true := by
  rw [eqE2NodeInfoChng, Bool.and_self, Bool.and_self]
  exact (yields_assert _ _).bind fun _ => (yields_assert _ _).last fun _ => rfl

/-- Changes that 16 bits can count, each with its ids in their ranges and nothing optional. -/
def EvTrgFrmt3.Copyable (m : EvTrgFrmt3) : Prop :=
  sized 65536 m.e2NodeInfoChng = true ∧ ∀ c ∈ m.e2NodeInfoChng, c.Copyable

/-- A change at least, and nothing optional. -/
def EvTrgFrmt3.Releasable (m : EvTrgFrmt3) : Prop :=
  0 < m.e2NodeInfoChng.length ∧ ∀ c ∈ m.e2NodeInfoChng, c.bare = true

/-- **Format 3 is copied**: 1 to 65535 changes. -/
theorem yields_cpEvTrgFrmt3 (m : EvTrgFrmt3) : (cpEvTrgFrmt3 m).Yields m.Copyable m :=
  (yields_assert _ _).bind fun _ =>
    (yields_walk_self fun c _ => yields_cpE2NodeInfoChng c).last fun _ => rfl

theorem yields_eqEvTrgFrmt3 (m : EvTrgFrmt3) : (eqEvTrgFrmt3 m m).Yields m.Copyable true := by
  rw [eqEvTrgFrmt3, Bool.and_self]
  exact (yields_assert _ _).bind fun _ =>
    yields_allEq_self fun c _ => yields_eqE2NodeInfoChng c

/-- The release of format 3 asks for one change at least, whatever their ids. -/
theorem yields_freeEvTrgFrmt3 (m : EvTrgFrmt3) : (freeEvTrgFrmt3 m).Yields m.Releasable ⟨⟩ := by
  refine ((yields_assert _ _).bind fun _ => yields_each fun c _ => yields_assert _ _).iff ?_
  rw [decide_eq_true_iff, EvTrgFrmt3.Releasable]

/-! ## Changes of UEs -/

/-- The logical or of an RRC state is not implemented. -/
theorem yields_cpRrcState (m : RrcState) : (cpRrcState m).Yields (m.logOr = none) m := by
  refine ((yields_assert _ _).last fun h => ?_).iff Option.isNone_iff_eq_none
  rw [← Option.isNone_iff_eq_none.mp h]

theorem yields_eqRrcState (m : RrcState) : (eqRrcState m m).Yields (m.logOr = none) true := by
  rw [eqRrcState, beq_self_eq_true, both_true, Bool.and_self]
  exact ((yields_assert _ _).last fun _ => rfl).iff Option.isNone_iff_eq_none

theorem yields_freeRrcState (m : RrcState) : (freeRrcState m).Yields (m.logOr = none) ⟨⟩ :=
  (yields_assert _ _).iff Option.isNone_iff_eq_none

namespace UeInfoChngTrigger

/-- Up to 8 states without disjunctions, an id in its range, up to 255 tests. -/
def Copyable : UeInfoChngTrigger → Prop
  | rrcState s => sized 9 s = true ∧ ∀ r ∈ s, r.logOr = none
  | ueIdChng i => ueIdInRange i = true
  | l2State ts => sized 256 ts = true ∧ ∀ t ∈ ts, t.Copyable

/-- No disjunctions of states, and tests that are compared with themselves. -/
def Comparable : UeInfoChngTrigger → Prop
  | rrcState s => ∀ r ∈ s, r.logOr = none
  | ueIdChng _ => True
  | l2State ts => ∀ t ∈ ts, t.Comparable

def Releasable : UeInfoChngTrigger → Prop
  | rrcState s => sized 9 s = true ∧ ∀ r ∈ s, r.logOr = none
  | ueIdChng i => ueIdInRange i = true
  | l2State ts => sized 256 ts = true ∧ ∀ t ∈ ts, t.Releasable

end UeInfoChngTrigger

/-- **A trigger is copied**: 1 to 8 RRC states, an id in its range, or 1 to 255 tests. -/
theorem yields_cpUeInfoChngTrigger (m : UeInfoChngTrigger) :
    (cpUeInfoChngTrigger m).Yields m.Copyable m := by
  cases m with
  | rrcState s =>
    exact (yields_assert _ _).bind fun _ =>
      (yields_walk_self fun r _ => yields_cpRrcState r).last fun _ => rfl
  | ueIdChng i => exact (yields_assert _ _).last fun _ => rfl
  | l2State ts =>
    have htests : (cpRanParamCondCritDef ts).Yields
        (sized 256 ts = true ∧ ∀ t ∈ ts, t.Copyable) ts :=
      (yields_assert _ _).bind fun _ => yields_walk_self fun t _ => yields_cpRanParamTest t
    exact htests.last fun _ => rfl

/-- The comparison of a UE information change does not look at the range of a UE id change. -/
theorem yields_eqUeInfoChngTrigger (m : UeInfoChngTrigger) :
    (eqUeInfoChngTrigger m m).Yields m.Comparable true := by
  cases m with
  | rrcState s =>
    rw [eqUeInfoChngTrigger]
    exact yields_sameType (yields_allEq_self fun r _ => yields_eqRrcState r)
  | ueIdChng i =>
    rw [eqUeInfoChngTrigger, beq_self_eq_true]
    exact yields_sameType (yields_next _)
  | l2State ts =>
    rw [eqUeInfoChngTrigger, eqRanParamCondCritDef]
    exact yields_sameType (yields_allEq_self fun t _ => yields_eqRanParamTest t)

/-- The release of a UE information change asks for less than the copy does. -/
theorem yields_freeUeInfoChngTrigger (m : UeInfoChngTrigger) :
    (freeUeInfoChngTrigger m).Yields m.Releasable ⟨⟩ := by
  cases m with
  | rrcState s =>
    exact (yields_assert _ _).bind fun _ => yields_each fun r _ => yields_freeRrcState r
  | ueIdChng i => exact yields_assert _ _
  | l2State ts =>
    exact (yields_assert _ _).bind fun _ => yields_each fun t _ => yields_freeRanParamTest t

/-- The UE info and the logical or of a change are not copied. -/
theorem UeInfoChng.eq_of_bare {m : UeInfoChng} (h : m.bare = true) :
    ⟨m.evTrigCondId, m.trigger, none, none⟩ = m := by
  obtain ⟨cond, trigger, ue, logOr⟩ := m
  simp only [bare, Bool.and_eq_true, Option.isNone_iff_eq_none] at h
  obtain ⟨rfl, rfl⟩ := h
  rfl

def UeInfoChng.Copyable (m : UeInfoChng) : Prop :=
  0 < m.evTrigCondId ∧ m.trigger.Copyable ∧ m.bare = true

def UeInfoChng.Comparable (m : UeInfoChng) : Prop :=
  0 < m.evTrigCondId ∧ m.trigger.Comparable ∧ m.bare = true

def UeInfoChng.Releasable (m : UeInfoChng) : Prop := m.trigger.Releasable ∧ m.bare = true

/-- A change of a UE has a positive id. -/
theorem yields_cpUeInfoChng (m : UeInfoChng) : (cpUeInfoChng m).Yields m.Copyable m := by
  refine ((yields_assert _ _).bind fun _ => (yields_cpUeInfoChngTrigger m.trigger).bind fun _ =>
    (yields_assert _ _).last UeInfoChng.eq_of_bare).iff ?_
  rw [decide_eq_true_iff, UeInfoChng.Copyable]

theorem yields_eqUeInfoChng (m : UeInfoChng) : (eqUeInfoChng m m).Yields m.Comparable true := by
  rw [eqUeInfoChng, beq_self_eq_true, both_true, Bool.and_self, Bool.and_self]
  refine ((yields_assert _ _).bind fun _ => (yields_eqUeInfoChngTrigger m.trigger).both <|
    (yields_assert _ _).last fun _ => rfl).iff ?_
  rw [decide_eq_true_iff, UeInfoChng.Comparable]

theorem yields_freeUeInfoChng (m : UeInfoChng) : (freeUeInfoChng m).Yields m.Releasable ⟨⟩ :=
  (yields_freeUeInfoChngTrigger m.trigger).bind fun _ => yields_assert _ _

def EvTrgFrmt4.Copyable (m : EvTrgFrmt4) : Prop :=
  sized 65536 m.ueInfoChng = true ∧ ∀ c ∈ m.ueInfoChng, c.Copyable

def EvTrgFrmt4.Comparable (m : EvTrgFrmt4) : Prop :=
  sized 65536 m.ueInfoChng = true ∧ ∀ c ∈ m.ueInfoChng, c.Comparable

def EvTrgFrmt4.Releasable (m : EvTrgFrmt4) : Prop :=
  sized 65536 m.ueInfoChng = true ∧ ∀ c ∈ m.ueInfoChng, c.Releasable

/-- **Format 4 is copied**: 1 to 65535 changes of UEs. -/
theorem yields_cpEvTrgFrmt4 (m : EvTrgFrmt4) : (cpEvTrgFrmt4 m).Yields m.Copyable m :=
  (yields_assert _ _).bind fun _ =>
    (yields_walk_self fun c _ => yields_cpUeInfoChng c).last fun _ => rfl

/-- Format 4 is compared change by change. -/
theorem yields_eqEvTrgFrmt4 (m : EvTrgFrmt4) : (eqEvTrgFrmt4 m m).Yields m.Comparable true := by
  rw [eqEvTrgFrmt4, Bool.and_self]
  exact (yields_assert _ _).bind fun _ => yields_allEq_self fun c _ => yields_eqUeInfoChng c

/-- Format 4 is freed change by change. -/
theorem yields_freeEvTrgFrmt4 (m : EvTrgFrmt4) : (freeEvTrgFrmt4 m).Yields m.Releasable ⟨⟩ :=
  (yields_assert _ _).bind fun _ => yields_each fun c _ => yields_freeUeInfoChng c

/-- Format 5 has its on-demand flag alone. -/
theorem EvTrgFrmt5.eq_of_bare {m : EvTrgFrmt5} (h : m.bare = true) :
    ⟨m.onDemand, none, none⟩ = m := by
  obtain ⟨onDemand, ue, cell⟩ := m
  simp only [bare, Bool.and_eq_true, Option.isNone_iff_eq_none] at h
  obtain ⟨rfl, rfl⟩ := h
  rfl

/-! ## Event triggers -/

namespace EventTrigger

def Copyable : EventTrigger → Prop
  | frmt1 f => f.Copyable
  | frmt2 f => f.Copyable
  | frmt3 f => f.Copyable
  | frmt4 f => f.Copyable
  | frmt5 f => f.bare = true

def Comparable : EventTrigger → Prop
  | frmt1 f => f.Comparable
  | frmt2 f => f.Copyable
  | frmt3 f => f.Copyable
  | frmt4 f => f.Comparable
  | frmt5 f => f.bare = true

def Releasable : EventTrigger → Prop
  | frmt1 f => f.Comparable
  | frmt2 f => f.Copyable
  | frmt3 f => f.Releasable
  | frmt4 f => f.Releasable
  | frmt5 f => f.bare = true

end EventTrigger

/-- **An event trigger is copied** where it is copyable, and the copy is the trigger. -/
theorem yields_cpEventTrigger (m : EventTrigger) : (cpEventTrigger m).Yields m.Copyable m := by
  cases m with
  | frmt1 f => exact (yields_cpEvTrgFrmt1 f).last fun _ => rfl
  | frmt2 f => exact (yields_cpEvTrgFrmt2 f).last fun _ => rfl
  | frmt3 f => exact (yields_cpEvTrgFrmt3 f).last fun _ => rfl
  | frmt4 f => exact (yields_cpEvTrgFrmt4 f).last fun _ => rfl
  | frmt5 f =>
    have hcopy : (cpEvTrgFrmt5 f).Yields (f.bare = true) f :=
      (yields_assert _ _).last EvTrgFrmt5.eq_of_bare
    exact hcopy.last fun _ => rfl

/-- **An event trigger is compared with itself** where it is comparable. -/
theorem yields_eqEventTrigger (rr : Reread) (m : EventTrigger) :
    (eqEventTrigger rr m m).Yields m.Comparable true := by
  cases m with
  | frmt1 f => exact yields_eqEvTrgFrmt1 f
  | frmt2 f => exact yields_eqEvTrgFrmt2 f
  | frmt3 f => exact yields_eqEvTrgFrmt3 f
  | frmt4 f => exact yields_eqEvTrgFrmt4 f
  | frmt5 f =>
    rw [eqEventTrigger, eqEvTrgFrmt5, beq_self_eq_true, both_true, Bool.and_self]
    exact (yields_assert _ _).last fun _ => rfl

/-- **An event trigger is released** where it is releasable. -/
theorem yields_freeEventTrigger (m : EventTrigger) :
    (freeEventTrigger m).Yields m.Releasable ⟨⟩ := by
  cases m with
  | frmt1 f => exact yields_freeEvTrgFrmt1 f
  | frmt2 f => exact yields_freeEvTrgFrmt2 f
  | frmt3 f => exact yields_freeEvTrgFrmt3 f
  | frmt4 f => exact yields_freeEvTrgFrmt4 f
  | frmt5 f => exact yields_assert _ _

end Rc

end FlexRic
