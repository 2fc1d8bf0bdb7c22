import FlexRic.Rc.ParamCopies
import FlexRic.Rc.RcValues

/-!
# FlexRic.Rc.ActionCopies

Which action definitions are copied, and which copies are compared with their sources.

* Of a UE identity, the copy is its copy, which may differ from it; the comparison asserts that
  there is none.
* `yields_cpActionDef`, `yields_eqActionDef_copy`: where the copy and the comparison come back.
-/

namespace FlexRic

namespace Rc

open Outcome Ue

/-! ## Reports -/

def ParamReportDef.Copyable (m : ParamReportDef) : Prop :=
  0 < m.ranParamId ∧ ∀ d ∈ m.ranParamDef, d.Copyable

def ParamReportDef.Comparable (m : ParamReportDef) : Prop :=
  0 < m.ranParamId ∧ ∀ d ∈ m.ranParamDef, d.Flat

/-- A parameter to report needs an id, and a definition of its own that copies. -/
theorem yields_cpParamReportDef (m : ParamReportDef) :
    (cpParamReportDef m).Yields m.Copyable m := by
  refine ((yields_assert _ _).bind fun _ =>
    (yields_opt yields_cpRanParamDef m.ranParamDef).last fun _ => rfl).iff ?_
  rw [decide_eq_true_iff, ParamReportDef.Copyable]

/-- The comparison of a report's definition knows only definitions of one level. -/
theorem yields_eqParamReportDef (m : ParamReportDef) :
    (eqParamReportDef m m).Yields m.Comparable true := by
  rw [eqParamReportDef, beq_self_eq_true, both_true, Bool.and_self]
  refine ((yields_assert _ _).bind fun _ =>
    yields_eqOptional_self yields_eqRanParamDef m.ranParamDef).iff ?_
  rw [decide_eq_true_iff, ParamReportDef.Comparable]

/-- Reports that 16 bits can count. -/
def ActDefFrmt1.Copyable (m : ActDefFrmt1) : Prop :=
  sized 65536 m.paramReportDef = true ∧ ∀ p ∈ m.paramReportDef, p.Copyable

def ActDefFrmt1.Comparable (m : ActDefFrmt1) : Prop :=
  0 < m.paramReportDef.length ∧ ∀ p ∈ m.paramReportDef, p.Comparable

/-- **Format 1 is copied** where its parameters are. -/
theorem yields_cpActDefFrmt1 (m : ActDefFrmt1) : (cpActDefFrmt1 m).Yields m.Copyable m :=
  (yields_assert _ _).bind fun _ =>
    (yields_walk_self fun p _ => yields_cpParamReportDef p).last fun _ => rfl

/-- Format 1 equals itself where its parameters do. -/
theorem yields_eqActDefFrmt1 (m : ActDefFrmt1) :
    (eqActDefFrmt1 m m).Yields m.Comparable true := by
  rw [eqActDefFrmt1, Bool.and_self]
  refine ((yields_assert _ _).bind fun _ =>
    yields_allEqMust_self fun p _ => yields_eqParamReportDef p).iff ?_
  rw [decide_eq_true_iff, ActDefFrmt1.Comparable]

/-! ## Policies -/

def PolicyAction.Copyable (m : PolicyAction) : Prop :=
  0 < m.policyActId ∧ below 65536 m.seqRanParam = true ∧ (∀ p ∈ m.seqRanParam, p.Copyable) ∧
    m.polDec = none

/-- A policy action is compared with one parameter less than the copy takes. -/
def PolicyAction.Comparable (m : PolicyAction) : Prop :=
  0 < m.policyActId ∧ below 65535 m.seqRanParam = true ∧ (∀ p ∈ m.seqRanParam, p.Comparable) ∧
    m.polDec = none

/-- A policy action is copied without a decision and with fewer than 65536 parameters. -/
theorem yields_cpPolicyAction (m : PolicyAction) : (cpPolicyAction m).Yields m.Copyable m := by
  refine ((yields_assert _ _).bind fun _ => (yields_assert _ _).bind fun _ =>
    (yields_walk_self fun p _ => yields_cpSeqRanParam p).bind fun _ =>
    (yields_assert _ _).last fun h => ?_).iff ?_
  · rw [← Option.isNone_iff_eq_none.mp h]
  · rw [decide_eq_true_iff, Option.isNone_iff_eq_none, PolicyAction.Copyable]
    rfl

/-- A policy action is compared without a decision and with fewer than 65535 parameters. -/
theorem yields_eqPolicyAction (m : PolicyAction) :
    (eqPolicyAction m m).Yields m.Comparable true := by
  rw [eqPolicyAction, beq_self_eq_true, both_true, Bool.and_self, Bool.and_self, Bool.and_self]
  refine ((yields_assert _ _).bind fun _ => (yields_assert _ _).bind fun _ =>
    (yields_allEq_self fun p _ => yields_eqSeqRanParam p).both <|
    (yields_assert _ _).last fun _ => rfl).iff ?_
  rw [decide_eq_true_iff, Option.isNone_iff_eq_none, PolicyAction.Comparable]

def PolicyCond.Copyable (m : PolicyCond) : Prop := m.polAct.Copyable ∧ m.pol = none

def PolicyCond.Comparable (m : PolicyCond) : Prop := m.polAct.Comparable ∧ m.pol = none

/-- A policy's condition is not implemented, so that there must be none. -/
theorem yields_cpPolicyCond (m : PolicyCond) : (cpPolicyCond m).Yields m.Copyable m := by
  refine ((yields_cpPolicyAction m.polAct).bind fun _ =>
    (yields_assert _ _).last fun h => ?_).iff ?_
  · rw [← Option.isNone_iff_eq_none.mp h]
  · rw [Option.isNone_iff_eq_none, PolicyCond.Copyable]

/-- A policy condition is compared where its action is and nothing that is not implemented is in
it. -/
theorem yields_eqPolicyCond (m : PolicyCond) : (eqPolicyCond m m).Yields m.Comparable true := by
  rw [eqPolicyCond, Bool.and_self]
  refine ((yields_eqPolicyAction m.polAct).both <| (yields_assert _ _).last fun _ => rfl).iff ?_
  rw [Option.isNone_iff_eq_none, PolicyCond.Comparable]

/-- Policies that 16 bits can count. -/
def ActDefFrmt2.Copyable (m : ActDefFrmt2) : Prop :=
  sized 65536 m.policyCond = true ∧ ∀ p ∈ m.policyCond, p.Copyable

def ActDefFrmt2.Comparable (m : ActDefFrmt2) : Prop :=
  sized 65536 m.policyCond = true ∧ ∀ p ∈ m.policyCond, p.Comparable

/-- **Format 2 is copied** with all its policies. -/
theorem yields_cpActDefFrmt2 (m : ActDefFrmt2) : (cpActDefFrmt2 m).Yields m.Copyable m :=
  (yields_assert _ _).bind fun _ =>
    (yields_walk_self fun p _ => yields_cpPolicyCond p).last fun _ => rfl

/-- Format 2 is compared with itself policy by policy. -/
theorem yields_eqActDefFrmt2 (m : ActDefFrmt2) :
    (eqActDefFrmt2 m m).Yields m.Comparable true := by
  rw [eqActDefFrmt2, Bool.and_self]
  exact (yields_assert _ _).bind fun _ => yields_allEqMust_self fun p _ => yields_eqPolicyCond p

/-! ## Inserts -/

def RanParamIns.Copyable (m : RanParamIns) : Prop := 0 < m.ranId ∧ m.defn = none

/-- A parameter to insert, without a definition. -/
theorem yields_cpRanParamIns (m : RanParamIns) : (cpRanParamIns m).Yields m.Copyable m := by
  refine ((yields_assert _ _).bind fun _ => (yields_assert _ _).last fun h => ?_).iff ?_
  · rw [← Option.isNone_iff_eq_none.mp h]
  · rw [decide_eq_true_iff, Option.isNone_iff_eq_none, RanParamIns.Copyable]

theorem yields_eqRanParamIns (m : RanParamIns) :
    (eqRanParamIns m m).Yields (m.defn = none) true := by
  rw [eqRanParamIns, beq_self_eq_true, both_true, Bool.and_self]
  exact ((yields_assert _ _).last fun _ => rfl).iff Option.isNone_iff_eq_none

/-- Parameters that 16 bits can count, with ids above 0. -/
def ActDefFrmt3.Copyable (m : ActDefFrmt3) : Prop :=
  0 < m.id ∧ sized 65536 m.ranParam = true ∧ ∀ p ∈ m.ranParam, p.Copyable

/-- No UE identity. -/
def ActDefFrmt3.Comparable (m : ActDefFrmt3) : Prop :=
  0 < m.ranParam.length ∧ (∀ p ∈ m.ranParam, p.defn = none) ∧ m.ueId = none

/-- With the copy of the UE identity. -/
def ActDefFrmt3.copy (m : ActDefFrmt3) : ActDefFrmt3 := { m with ueId := m.ueId.map cpUeIdE2sm }

/-- **Format 3 is copied** but for its UE identity, which becomes the copy of one. -/
theorem yields_cpActDefFrmt3 (m : ActDefFrmt3) : (cpActDefFrmt3 m).Yields m.Copyable m.copy := by
  refine ((yields_assert _ _).bind fun _ => (yields_assert _ _).bind fun _ =>
    (yields_walk_self fun p _ => yields_cpRanParamIns p).last fun _ => rfl).iff ?_
  rw [decide_eq_true_iff, ActDefFrmt3.Copyable]

/-- The copy of format 3 equals it only where that identity can be compared. -/
theorem yields_eqActDefFrmt3_copy (m : ActDefFrmt3) :
    (eqActDefFrmt3 m.copy m).Yields m.Comparable true := by
  rw [eqActDefFrmt3]
  refine (((yields_assert _ _).bind fun _ =>
    (yields_allEqMust_self fun p _ => yields_eqRanParamIns p).both <|
    (yields_assert _ _).last fun _ => rfl).after (beq_self_eq_true _)).iff ?_
  have hue : ((m.ueId.map cpUeIdE2sm).isNone && m.ueId.isNone) = m.ueId.isNone := by
    rw [Option.isNone_map, Bool.and_self]
  show ((decide (0 < m.ranParam.length) && decide (0 < m.ranParam.length)) = true ∧
    (∀ p ∈ m.ranParam, p.defn = none) ∧ ((m.ueId.map cpUeIdE2sm).isNone && m.ueId.isNone) = true) ↔ _
  rw [hue, Bool.and_self, decide_eq_true_iff, Option.isNone_iff_eq_none, ActDefFrmt3.Comparable]

/-- An id above 0, and no definition. -/
def RanParamInsInd.Copyable (m : RanParamInsInd) : Prop := 0 < m.ranParamId ∧ m.ranParamDef = none

theorem yields_cpRanParamInsInd (m : RanParamInsInd) :
    (cpRanParamInsInd m).Yields m.Copyable m := by
  refine ((yields_assert _ _).bind fun _ => (yields_assert _ _).last fun h => ?_).iff ?_
  · rw [← Option.isNone_iff_eq_none.mp h]
  · rw [decide_eq_true_iff, Option.isNone_iff_eq_none, RanParamInsInd.Copyable]

theorem yields_eqRanParamInsInd (m : RanParamInsInd) :
    (eqRanParamInsInd m m).Yields m.Copyable true := by
  rw [eqRanParamInsInd, beq_self_eq_true, both_true, Bool.and_self, Bool.and_self]
  refine ((yields_assert _ _).bind fun _ => (yields_assert _ _).last fun _ => rfl).iff ?_
  rw [decide_eq_true_iff, Option.isNone_iff_eq_none, RanParamInsInd.Copyable]

def SeqInsIndActDef.Comparable (m : SeqInsIndActDef) : Prop :=
  0 < m.indId ∧ ∀ p ∈ m.ranParamInsInd, p.Copyable

/-- Parameters that 16 bits can count, too. -/
def SeqInsIndActDef.Copyable (m : SeqInsIndActDef) : Prop :=
  0 < m.indId ∧ below 65536 m.ranParamInsInd = true ∧ ∀ p ∈ m.ranParamInsInd, p.Copyable

/-- The copy counts the parameters in 16 bits; the comparison does not. -/
theorem yields_cpSeqInsIndActDef (m : SeqInsIndActDef) :
    (cpSeqInsIndActDef m).Yields m.Copyable m := by
  refine ((yields_assert _ _).bind fun _ => (yields_assert _ _).bind fun _ =>
    (yields_walk_self fun p _ => yields_cpRanParamInsInd p).last fun _ => rfl).iff ?_
  rw [decide_eq_true_iff, SeqInsIndActDef.Copyable]

theorem yields_eqSeqInsIndActDef (m : SeqInsIndActDef) :
    (eqSeqInsIndActDef m m).Yields m.Comparable true := by
  rw [eqSeqInsIndActDef, Bool.and_self]
  refine ((yields_assert _ _).bind fun _ =>
    yields_allEq_self fun p _ => yields_eqRanParamInsInd p).iff ?_
  rw [decide_eq_true_iff, SeqInsIndActDef.Comparable]

/-- Up to 63 insert indications. -/
def SeqInsStyle.Copyable (m : SeqInsStyle) : Prop :=
  sized 64 m.seqInsIndActDef = true ∧ ∀ a ∈ m.seqInsIndActDef, a.Copyable

def SeqInsStyle.Comparable (m : SeqInsStyle) : Prop :=
  sized 64 m.seqInsIndActDef = true ∧ ∀ a ∈ m.seqInsIndActDef, a.Comparable

/-- A style has 1 to 63 indications. -/
theorem yields_cpSeqInsStyle (m : SeqInsStyle) : (cpSeqInsStyle m).Yields m.Copyable m :=
  (yields_assert _ _).bind fun _ =>
    (yields_walk_self fun a _ => yields_cpSeqInsIndActDef a).last fun _ => rfl

theorem yields_eqSeqInsStyle (m : SeqInsStyle) :
    (eqSeqInsStyle m m).Yields m.Comparable true := by
  rw [eqSeqInsStyle, beq_self_eq_true, both_true, Bool.and_self]
  exact (yields_assert _ _).bind fun _ => yields_allEq_self fun a _ => yields_eqSeqInsIndActDef a

/-- Up to 4 insert styles. -/
def ActDefFrmt4.Copyable (m : ActDefFrmt4) : Prop :=
  sized 5 m.seqInsStyle = true ∧ ∀ s ∈ m.seqInsStyle, s.Copyable

/-- No UE identity. -/
def ActDefFrmt4.Comparable (m : ActDefFrmt4) : Prop :=
  sized 5 m.seqInsStyle = true ∧ (∀ s ∈ m.seqInsStyle, s.Comparable) ∧ m.ueId = none

/-- With the copy of the UE identity. -/
def ActDefFrmt4.copy (m : ActDefFrmt4) : ActDefFrmt4 := { m with ueId := m.ueId.map cpUeIdE2sm }

/-- **Format 4 is copied** like format 3. -/
theorem yields_cpActDefFrmt4 (m : ActDefFrmt4) : (cpActDefFrmt4 m).Yields m.Copyable m.copy :=
  (yields_assert _ _).bind fun _ =>
    (yields_walk_self fun s _ => yields_cpSeqInsStyle s).last fun _ => rfl

/-- Format 4 is compared under the same condition. -/
theorem yields_eqActDefFrmt4_copy (m : ActDefFrmt4) :
    (eqActDefFrmt4 m.copy m).Yields m.Comparable true := by
  rw [eqActDefFrmt4]
  refine ((yields_assert _ _).bind fun _ =>
    (yields_allEqMust_self fun s _ => yields_eqSeqInsStyle s).both <|
    (yields_assert _ _).last fun _ => rfl).iff ?_
  show ((sized 5 m.seqInsStyle && sized 5 m.seqInsStyle) = true ∧
    (∀ s ∈ m.seqInsStyle, s.Comparable) ∧
    ((m.ueId.map cpUeIdE2sm).isNone && m.ueId.isNone) = true) ↔ _
  rw [Option.isNone_map, Bool.and_self, Bool.and_self, Option.isNone_iff_eq_none,
    ActDefFrmt4.Comparable]

/-! ## Action definitions -/

namespace ActDefFormat

def Copyable : ActDefFormat → Prop
  | frmt1 f => f.Copyable
  | frmt2 f => f.Copyable
  | frmt3 f => f.Copyable
  | frmt4 f => f.Copyable

def Comparable : ActDefFormat → Prop
  | frmt1 f => f.Comparable
  | frmt2 f => f.Comparable
  | frmt3 f => f.Comparable
  | frmt4 f => f.Comparable

/-- The copy. -/
def copy : ActDefFormat → ActDefFormat
  | frmt1 f => frmt1 f
  | frmt2 f => frmt2 f
  | frmt3 f => frmt3 f.copy
  | frmt4 f => frmt4 f.copy

end ActDefFormat

/-- The copy keeps the format. -/
theorem yields_cpActDefFormat (m : ActDefFormat) :
    (cpActDefFormat m).Yields m.Copyable m.copy := by
  cases m with
  | frmt1 f => exact (yields_cpActDefFrmt1 f).last fun _ => rfl
  | frmt2 f => exact (yields_cpActDefFrmt2 f).last fun _ => rfl
  | frmt3 f => exact (yields_cpActDefFrmt3 f).last fun _ => rfl
  | frmt4 f => exact (yields_cpActDefFrmt4 f).last fun _ => rfl

/-- The comparison of an action definition with its copy succeeds by its format. -/
theorem yields_eqActDefFormat_copy (m : ActDefFormat) :
    (eqActDefFormat m.copy m).Yields m.Comparable true := by
  cases m with
  | frmt1 f => exact yields_eqActDefFrmt1 f
  | frmt2 f => exact yields_eqActDefFrmt2 f
  | frmt3 f => exact yields_eqActDefFrmt3_copy f
  | frmt4 f => exact yields_eqActDefFrmt4_copy f

def ActionDef.Copyable (m : ActionDef) : Prop := m.format.Copyable

def ActionDef.Comparable (m : ActionDef) : Prop := m.format.Comparable

/-- The copy. -/
def ActionDef.copy (m : ActionDef) : ActionDef := { m with format := m.format.copy }

/-- **An action definition is copied** where it is copyable. -/
theorem yields_cpActionDef (m : ActionDef) : (cpActionDef m).Yields m.Copyable m.copy :=
  (yields_cpActDefFormat m.format).last fun _ => rfl

/-- **The copy is compared with the definition** where that is comparable. -/
theorem yields_eqActionDef_copy (m : ActionDef) :
    (eqActionDef m.copy m).Yields m.Comparable true :=
  (yields_eqActDefFormat_copy m.format).after (beq_self_eq_true m.ricStyleType)

end Rc

end FlexRic
