import FlexRic.Rc.ParamCopies
import FlexRic.Rc.RcValues

/-!
# FlexRic.Rc.MessageCopies

Which indication and control messages are copied, and which copies are compared with their sources.

* Of a UE identity, the message has the copy; it is compared like the identity.
* `yields_cpIndMsg`, `yields_eqIndMsg_copy`, `yields_cpCtrlMsg`, `yields_eqCtrlMsg`: where the
  copies and the comparisons come back.
-/

namespace FlexRic

namespace Rc

open Outcome Ue

/-! ## Indication messages -/

/-- A parameter at least. -/
def IndMsgFrmt1.Copyable (m : IndMsgFrmt1) : Prop :=
  0 < m.seqRanParam.length ∧ ∀ p ∈ m.seqRanParam, p.Copyable

/-- **Format 1 is copied**: one parameter at least. -/
theorem yields_cpIndMsgFrmt1 (m : IndMsgFrmt1) : (cpIndMsgFrmt1 m).Yields m.Copyable m := by
  refine ((yields_assert _ _).bind fun _ =>
    (yields_walk_self fun p _ => yields_cpSeqRanParam p).last fun _ => rfl).iff ?_
  rw [decide_eq_true_iff, IndMsgFrmt1.Copyable]
  rfl

def SeqUeId.Copyable (m : SeqUeId) : Prop :=
  0 < m.seqRanParam.length ∧ ∀ p ∈ m.seqRanParam, p.Copyable

/-- A UE identity that is compared, and parameters that 16 bits can count. -/
def SeqUeId.Comparable (m : SeqUeId) : Prop :=
  m.ueId.comparable = true ∧ sized 65536 m.seqRanParam = true ∧ ∀ p ∈ m.seqRanParam, p.Comparable

/-- With the copy of the UE identity. -/
def SeqUeId.copy (m : SeqUeId) : SeqUeId := { m with ueId := cpUeIdE2sm m.ueId }

/-- The copy of a UE's report has the copy of its identity. -/
theorem yields_cpSeqUeId (m : SeqUeId) : (cpSeqUeId m).Yields m.Copyable m.copy := by
  refine ((yields_assert _ _).bind fun _ =>
    (yields_walk_self fun p _ => yields_cpSeqRanParam p).last fun _ => rfl).iff ?_
  rw [decide_eq_true_iff, SeqUeId.Copyable]
  rfl

/-- The copy of an identity equals the identity where that can be compared at all. -/
theorem yields_eqUeIdE2sm_copy (ue : UeId) :
    (eqUeIdE2sm (cpUeIdE2sm ue) ue).Yields (ue.comparable = true) true := by
  obtain ⟨hagrees, hreturns⟩ := eqUeIdE2sm_self ue
  rw [eqUeIdE2sm_copy]
  exact hagrees.yields hreturns

/-- A report equals its copy where its identity can be compared. -/
theorem yields_eqSeqUeId_copy (m : SeqUeId) :
    (eqSeqUeId m.copy m).Yields m.Comparable true := by
  refine ((yields_eqUeIdE2sm_copy m.ueId).both <| (yields_assert _ _).bind fun _ =>
    yields_allEqUpTo_self fun p _ => yields_eqSeqRanParam p).iff ?_
  show (_ ∧ (sized 65536 m.seqRanParam && sized 65536 m.seqRanParam) = true ∧ _) ↔ _
  rw [Bool.and_self, SeqUeId.Comparable]
  rfl

/-- UEs that 16 bits can count. -/
def IndMsgFrmt2.Copyable (m : IndMsgFrmt2) : Prop :=
  sized 65536 m.seqUeId = true ∧ ∀ u ∈ m.seqUeId, u.Copyable

/-- **Format 2 is copied**, UE by UE. -/
theorem yields_cpIndMsgFrmt2 (m : IndMsgFrmt2) :
    (cpIndMsgFrmt2 m).Yields m.Copyable ⟨m.seqUeId.map SeqUeId.copy⟩ :=
  (yields_assert _ _).bind fun _ => (yields_walk fun u _ => yields_cpSeqUeId u).last fun _ => rfl

/-- The context of a cell and its neighbours are not copied. -/
theorem SeqCellInfo.eq_of_bare {m : SeqCellInfo} (h : m.bare = true) :
    ⟨cpCellGlobalId m.cellGlobalId, none, none, none⟩ = m := by
  obtain ⟨id, ctx, del, neighbours⟩ := m
  simp only [bare, Bool.and_eq_true, Option.isNone_iff_eq_none] at h
  obtain ⟨⟨rfl, rfl⟩, rfl⟩ := h
  cases id <;> rfl

theorem yields_cpSeqCellInfo (m : SeqCellInfo) : (cpSeqCellInfo m).Yields (m.bare = true) m :=
  (yields_assert _ _).last SeqCellInfo.eq_of_bare

theorem yields_eqSeqCellInfo (m : SeqCellInfo) :
    (eqSeqCellInfo m m).Yields (m.bare = true) true := by
  rw [eqSeqCellInfo, eqCellGlobalId_self, both_true, Bool.and_self]
  exact (yields_assert _ _).last fun _ => rfl

/-- Cells that 16 bits can count, without anything optional. -/
def IndMsgFrmt3.Copyable (m : IndMsgFrmt3) : Prop :=
  sized 65536 m.seqCellInfo = true ∧ ∀ c ∈ m.seqCellInfo, c.bare = true

/-- **Format 3 is copied**: 1 to 65535 cells. -/
theorem yields_cpIndMsgFrmt3 (m : IndMsgFrmt3) : (cpIndMsgFrmt3 m).Yields m.Copyable m :=
  (yields_assert _ _).bind fun _ =>
    (yields_walk_self fun c _ => yields_cpSeqCellInfo c).last fun _ => rfl

/-- With the copy of the UE identity. -/
def SeqUeInfo.copy (m : SeqUeInfo) : SeqUeInfo := { m with ueId := cpUeIdE2sm m.ueId }

/-- A cell id is copied field by field. -/
theorem cpCellGlobalId_eq (id : CellGlobalId) : cpCellGlobalId id = id := by cases id <;> rfl

/-- A UE without a context. -/
theorem yields_cpSeqUeInfo (m : SeqUeInfo) :
    (cpSeqUeInfo m).Yields (m.ueCtxInfo = none) m.copy := by
  refine ((yields_assert _ _).last fun h => ?_).iff Option.isNone_iff_eq_none
  rw [cpCellGlobalId_eq, ← Option.isNone_iff_eq_none.mp h]
  rfl

def SeqUeInfo.Comparable (m : SeqUeInfo) : Prop := m.ueId.comparable = true ∧ m.ueCtxInfo = none

theorem yields_eqSeqUeInfo_copy (m : SeqUeInfo) :
    (eqSeqUeInfo m.copy m).Yields m.Comparable true := by
  refine ((yields_eqUeIdE2sm_copy m.ueId).both <|
    (yields_assert _ _).last fun _ => eqCellGlobalId_self m.cellGlobalId).iff ?_
  show (_ ∧ (m.ueCtxInfo.isNone && m.ueCtxInfo.isNone) = true) ↔ _
  rw [Bool.and_self, Option.isNone_iff_eq_none, SeqUeInfo.Comparable]

/-- The context of a cell is not copied either. -/
theorem SeqCellInfo2.eq_of_bare {m : SeqCellInfo2} (h : m.bare = true) :
    ⟨cpCellGlobalId m.cellGlobalId, none, none⟩ = m := by
  obtain ⟨id, ctx, neighbours⟩ := m
  simp only [bare, Bool.and_eq_true, Option.isNone_iff_eq_none] at h
  obtain ⟨rfl, rfl⟩ := h
  cases id <;> rfl

theorem yields_cpSeqCellInfo2 (m : SeqCellInfo2) : (cpSeqCellInfo2 m).Yields (m.bare = true) m :=
  (yields_assert _ _).last SeqCellInfo2.eq_of_bare

theorem yields_eqSeqCellInfo2 (m : SeqCellInfo2) :
    (eqSeqCellInfo2 m m).Yields (m.bare = true) true := by
  rw [eqSeqCellInfo2, eqCellGlobalId_self, both_true, Bool.and_self]
  exact (yields_assert _ _).last fun _ => rfl

/-- No contexts and no neighbours. -/
def IndMsgFrmt4.Copyable (m : IndMsgFrmt4) : Prop :=
  (∀ u ∈ m.seqUeInfo, u.ueCtxInfo = none) ∧ ∀ c ∈ m.seqCellInfo2, c.bare = true

/-- UEs and cells that 16 bits can count, too. -/
def IndMsgFrmt4.Comparable (m : IndMsgFrmt4) : Prop :=
  below 65536 m.seqUeInfo = true ∧ (∀ u ∈ m.seqUeInfo, u.Comparable) ∧
    below 65536 m.seqCellInfo2 = true ∧ ∀ c ∈ m.seqCellInfo2, c.bare = true

/-- With the copies of the UE identities. -/
def IndMsgFrmt4.copy (m : IndMsgFrmt4) : IndMsgFrmt4 :=
  { m with seqUeInfo := m.seqUeInfo.map SeqUeInfo.copy }

/-- **Format 4 is copied** whatever the number of UEs and cells. -/
theorem yields_cpIndMsgFrmt4 (m : IndMsgFrmt4) : (cpIndMsgFrmt4 m).Yields m.Copyable m.copy :=
  (yields_walk fun u _ => yields_cpSeqUeInfo u).bind fun _ =>
    (yields_walk_self fun c _ => yields_cpSeqCellInfo2 c).last fun _ => rfl

/-- Format 4 is compared below 65536 UEs and cells each. -/
theorem yields_eqIndMsgFrmt4_copy (m : IndMsgFrmt4) :
    (eqIndMsgFrmt4 m.copy m).Yields m.Comparable true := by
  rw [eqIndMsgFrmt4]
  refine ((yields_assert _ _).bind fun _ =>
    (yields_allEqMust_map fun u _ => yields_eqSeqUeInfo_copy u).both <|
    (yields_assert _ _).bind fun _ =>
    (yields_allEqUpTo_self fun c _ => yields_eqSeqCellInfo2 c).must.last fun _ => rfl).iff ?_
  have hues : below 65536 m.copy.seqUeInfo = below 65536 m.seqUeInfo := by
    rw [below, below, IndMsgFrmt4.copy, List.length_map]
  have hcells : (below 65536 m.copy.seqCellInfo2 && below 65536 m.seqCellInfo2) =
      below 65536 m.seqCellInfo2 := Bool.and_self _
  rw [hues, hcells, Bool.and_self, IndMsgFrmt4.Comparable]
  rfl

def IndMsgFrmt5.Copyable (m : IndMsgFrmt5) : Prop := ∀ p ∈ m.seqRanParam, p.Copyable

/-- **Format 5 is copied**, with any number of parameters. -/
theorem yields_cpIndMsgFrmt5 (m : IndMsgFrmt5) : (cpIndMsgFrmt5 m).Yields m.Copyable m :=
  (yields_walk_self fun p _ => yields_cpSeqRanParam p).last fun _ => rfl

def RanParamReq.Copyable (m : RanParamReq) : Prop :=
  0 < m.ranParamId ∧ m.ranParam.Numbered ∧ m.ranParam.Comparable

def RanParamReq.Comparable (m : RanParamReq) : Prop := 0 < m.ranParamId ∧ m.ranParam.Comparable

/-- A requested parameter has a positive id and a value that copies. -/
theorem yields_cpRanParamReq (m : RanParamReq) : (cpRanParamReq m).Yields m.Copyable m := by
  refine ((yields_assert _ _).bind fun _ =>
    (yields_cpRanParamValType m.ranParam).last fun _ => rfl).iff ?_
  rw [decide_eq_true_iff, RanParamReq.Copyable]

theorem yields_eqRanParamReq (m : RanParamReq) :
    (eqRanParamReq m m).Yields m.Comparable true := by
  rw [eqRanParamReq, beq_self_eq_true, both_true, Bool.and_self]
  refine ((yields_assert _ _).bind fun _ => yields_eqRanParamValType m.ranParam).iff ?_
  rw [decide_eq_true_iff, RanParamReq.Comparable]

def SeqInsIndAct2.Copyable (m : SeqInsIndAct2) : Prop :=
  0 < m.insIndId ∧ ∀ r ∈ m.ranParamReq, r.Copyable

/-- Parameters that 16 bits can count. -/
def SeqInsIndAct2.Comparable (m : SeqInsIndAct2) : Prop :=
  below 65536 m.ranParamReq = true ∧ ∀ r ∈ m.ranParamReq, r.Comparable

/-- The copy of an insert indication asks for its id. -/
theorem yields_cpSeqInsIndAct2 (m : SeqInsIndAct2) :
    (cpSeqInsIndAct2 m).Yields m.Copyable m := by
  refine ((yields_assert _ _).bind fun _ =>
    (yields_walk_self fun r _ => yields_cpRanParamReq r).last fun _ => rfl).iff ?_
  rw [decide_eq_true_iff, SeqInsIndAct2.Copyable]

/-- The comparison of an insert indication asks for the number of its parameters. -/
theorem yields_eqSeqInsIndAct2 (m : SeqInsIndAct2) :
    (eqSeqInsIndAct2 m m).Yields m.Comparable true := by
  rw [eqSeqInsIndAct2, beq_self_eq_true, both_true, Bool.and_self]
  exact (yields_assert _ _).bind fun _ => yields_allEq_self fun r _ => yields_eqRanParamReq r

/-- Up to 63 indications. -/
def SeqInsStyle2.Copyable (m : SeqInsStyle2) : Prop :=
  sized 64 m.seqInsIndAct = true ∧ ∀ a ∈ m.seqInsIndAct, a.Copyable

def SeqInsStyle2.Comparable (m : SeqInsStyle2) : Prop :=
  sized 64 m.seqInsIndAct = true ∧ ∀ a ∈ m.seqInsIndAct, a.Comparable

/-- A style has 1 to 63 indications. -/
theorem yields_cpSeqInsStyle2 (m : SeqInsStyle2) : (cpSeqInsStyle2 m).Yields m.Copyable m :=
  (yields_assert _ _).bind fun _ =>
    (yields_walk_self fun a _ => yields_cpSeqInsIndAct2 a).last fun _ => rfl

theorem yields_eqSeqInsStyle2 (m : SeqInsStyle2) :
    (eqSeqInsStyle2 m m).Yields m.Comparable true := by
  rw [eqSeqInsStyle2, beq_self_eq_true, both_true, Bool.and_self]
  exact (yields_assert _ _).bind fun _ => yields_allEqUpTo_self fun a _ => yields_eqSeqInsIndAct2 a

/-- Up to 63 insert styles. -/
def IndMsgFrmt6.Copyable (m : IndMsgFrmt6) : Prop :=
  sized 64 m.seqInsStyle = true ∧ ∀ s ∈ m.seqInsStyle, s.Copyable

def IndMsgFrmt6.Comparable (m : IndMsgFrmt6) : Prop :=
  sized 64 m.seqInsStyle = true ∧ ∀ s ∈ m.seqInsStyle, s.Comparable

/-- **Format 6 is copied** with 1 to 63 styles. -/
theorem yields_cpIndMsgFrmt6 (m : IndMsgFrmt6) : (cpIndMsgFrmt6 m).Yields m.Copyable m :=
  (yields_assert _ _).bind fun _ =>
    (yields_walk_self fun s _ => yields_cpSeqInsStyle2 s).last fun _ => rfl

/-- Format 6 is compared with itself style by style. -/
theorem yields_eqIndMsgFrmt6 (m : IndMsgFrmt6) :
    (eqIndMsgFrmt6 m m).Yields m.Comparable true := by
  rw [eqIndMsgFrmt6, Bool.and_self]
  exact (yields_assert _ _).bind fun _ => yields_allEqMust_self fun s _ => yields_eqSeqInsStyle2 s

namespace IndMsg

def Copyable : IndMsg → Prop
  | frmt1 f => f.Copyable
  | frmt2 f => f.Copyable
  | frmt3 f => f.Copyable
  | frmt4 f => f.Copyable
  | frmt5 f => f.Copyable
  | frmt6 f => f.Copyable

def Comparable : IndMsg → Prop
  | frmt1 f => ∀ p ∈ f.seqRanParam, p.Comparable
  | frmt2 f => ∀ u ∈ f.seqUeId, u.Comparable
  | frmt3 f => ∀ c ∈ f.seqCellInfo, c.bare = true
  | frmt4 f => f.Comparable
  | frmt5 f => ∀ p ∈ f.seqRanParam, p.Comparable
  | frmt6 f => f.Comparable

/-- The copy. -/
def copy : IndMsg → IndMsg
  | frmt2 f => frmt2 ⟨f.seqUeId.map SeqUeId.copy⟩
  | frmt4 f => frmt4 f.copy
  | m => m

end IndMsg

/-- **An indication message is copied** where it is copyable. -/
theorem yields_cpIndMsg (m : IndMsg) : (cpIndMsg m).Yields m.Copyable m.copy := by
  cases m with
  | frmt1 f => exact (yields_cpIndMsgFrmt1 f).last fun _ => rfl
  | frmt2 f => exact (yields_cpIndMsgFrmt2 f).last fun _ => rfl
  | frmt3 f => exact (yields_cpIndMsgFrmt3 f).last fun _ => rfl
  | frmt4 f => exact (yields_cpIndMsgFrmt4 f).last fun _ => rfl
  | frmt5 f => exact (yields_cpIndMsgFrmt5 f).last fun _ => rfl
  | frmt6 f => exact (yields_cpIndMsgFrmt6 f).last fun _ => rfl

/-- **The copy is compared with the message** where that is comparable. -/
theorem yields_eqIndMsg_copy (m : IndMsg) : (eqIndMsg m.copy m).Yields m.Comparable true := by
  cases m with
  | frmt1 f => exact yields_allEqMust_self fun p _ => yields_eqSeqRanParam p
  | frmt2 f => exact yields_allEqMust_map fun u _ => yields_eqSeqUeId_copy u
  | frmt3 f => exact yields_allEqMust_self fun c _ => yields_eqSeqCellInfo c
  | frmt4 f => exact yields_eqIndMsgFrmt4_copy f
  | frmt5 f => exact yields_allEqMust_self fun p _ => yields_eqSeqRanParam p
  | frmt6 f => exact yields_eqIndMsgFrmt6 f

/-! ## Control messages -/

/-- Parameters that 16 bits can count. -/
def CtrlMsgFrmt1.Copyable (m : CtrlMsgFrmt1) : Prop :=
  below 65536 m.ranParam = true ∧ ∀ p ∈ m.ranParam, p.Copyable

def CtrlMsgFrmt1.Comparable (m : CtrlMsgFrmt1) : Prop := ∀ p ∈ m.ranParam, p.Comparable

/-- **Format 1 is copied**: fewer than 65536 parameters, which its comparison does not ask. -/
theorem yields_cpCtrlMsgFrmt1 (m : CtrlMsgFrmt1) : (cpCtrlMsgFrmt1 m).Yields m.Copyable m :=
  (yields_assert _ _).bind fun _ =>
    (yields_walk_self fun p _ => yields_cpSeqRanParam p).last fun _ => rfl

theorem yields_eqCtrlMsgFrmt1 (m : CtrlMsgFrmt1) :
    (eqCtrlMsgFrmt1 m m).Yields m.Comparable true :=
  yields_allEq_self fun p _ => yields_eqSeqRanParam p

def SeqCtrlAct.Copyable (m : SeqCtrlAct) : Prop :=
  0 < m.ctrlActId ∧ ∀ f ∈ m.ctrlMsgFrmt1, f.Copyable

def SeqCtrlAct.Comparable (m : SeqCtrlAct) : Prop :=
  0 < m.ctrlActId ∧ ∀ f ∈ m.ctrlMsgFrmt1, f.Comparable

/-- An action has a positive id, and a message of format 1 or none. -/
theorem yields_cpSeqCtrlAct (m : SeqCtrlAct) : (cpSeqCtrlAct m).Yields m.Copyable m := by
  refine ((yields_assert _ _).bind fun _ =>
    (yields_opt yields_cpCtrlMsgFrmt1 m.ctrlMsgFrmt1).last fun _ => rfl).iff ?_
  rw [decide_eq_true_iff, SeqCtrlAct.Copyable]

theorem yields_eqSeqCtrlAct (m : SeqCtrlAct) :
    (eqSeqCtrlAct m m).Yields m.Comparable true := by
  rw [eqSeqCtrlAct, beq_self_eq_true, both_true, Bool.and_self]
  refine ((yields_assert _ _).bind fun _ =>
    yields_eqOptional_self yields_eqCtrlMsgFrmt1 m.ctrlMsgFrmt1).iff ?_
  rw [decide_eq_true_iff, SeqCtrlAct.Comparable]

/-- Up to 63 actions. -/
def SeqCtrlSma.Copyable (m : SeqCtrlSma) : Prop :=
  sized 64 m.seqCtrlAct = true ∧ ∀ a ∈ m.seqCtrlAct, a.Copyable

def SeqCtrlSma.Comparable (m : SeqCtrlSma) : Prop :=
  sized 64 m.seqCtrlAct = true ∧ ∀ a ∈ m.seqCtrlAct, a.Comparable

/-- A style has 1 to 63 actions. -/
theorem yields_cpSeqCtrlSma (m : SeqCtrlSma) : (cpSeqCtrlSma m).Yields m.Copyable m :=
  (yields_assert _ _).bind fun _ =>
    (yields_walk_self fun a _ => yields_cpSeqCtrlAct a).last fun _ => rfl

theorem yields_eqSeqCtrlSma (m : SeqCtrlSma) : (eqSeqCtrlSma m m).Yields m.Comparable true := by
  rw [eqSeqCtrlSma, beq_self_eq_true, both_true, Bool.and_self]
  exact (yields_assert _ _).bind fun _ => yields_allEq_self fun a _ => yields_eqSeqCtrlAct a

/-- Up to 63 control styles. -/
def CtrlMsgFrmt2.Copyable (m : CtrlMsgFrmt2) : Prop :=
  sized 64 m.action = true ∧ ∀ s ∈ m.action, s.Copyable

def CtrlMsgFrmt2.Comparable (m : CtrlMsgFrmt2) : Prop :=
  sized 64 m.action = true ∧ ∀ s ∈ m.action, s.Comparable

/-- **Format 2 is copied** with 1 to 63 styles. -/
theorem yields_cpCtrlMsgFrmt2 (m : CtrlMsgFrmt2) : (cpCtrlMsgFrmt2 m).Yields m.Copyable m :=
  (yields_assert _ _).bind fun _ =>
    (yields_walk_self fun s _ => yields_cpSeqCtrlSma s).last fun _ => rfl

/-- Format 2 is compared with itself style by style. -/
theorem yields_eqCtrlMsgFrmt2 (m : CtrlMsgFrmt2) :
    (eqCtrlMsgFrmt2 m m).Yields m.Comparable true := by
  rw [eqCtrlMsgFrmt2, Bool.and_self]
  exact (yields_assert _ _).bind fun _ => yields_allEq_self fun s _ => yields_eqSeqCtrlSma s

namespace CtrlMsg

def Copyable : CtrlMsg → Prop
  | frmt1 f => f.Copyable
  | frmt2 f => f.Copyable

def Comparable : CtrlMsg → Prop
  | frmt1 f => f.Comparable
  | frmt2 f => f.Comparable

end CtrlMsg

/-- **A control message is copied** where it is copyable. -/
theorem yields_cpCtrlMsg (m : CtrlMsg) : (cpCtrlMsg m).Yields m.Copyable m := by
  cases m with
  | frmt1 f => exact (yields_cpCtrlMsgFrmt1 f).last fun _ => rfl
  | frmt2 f => exact (yields_cpCtrlMsgFrmt2 f).last fun _ => rfl

/-- **A control message is compared with itself** where it is comparable. -/
theorem yields_eqCtrlMsg (m : CtrlMsg) : (eqCtrlMsg m m).Yields m.Comparable true := by
  cases m with
  | frmt1 f => exact yields_eqCtrlMsgFrmt1 f
  | frmt2 f => exact yields_eqCtrlMsgFrmt2 f

end Rc

end FlexRic
