import FlexRic.Rc.ParamCopies
import FlexRic.Rc.RcValues

/-!
# FlexRic.Rc.FuncDefCopies

Which RAN function definitions are copied, compared with themselves and released.

* `Copyable`, `Comparable`, `Releasable` are what the three functions want.  Where the comparison
  wants what the copy wants, `Copyable` serves both.
* Neither is done with a parameter that has a definition; it is released if there is none in that.
-/

namespace FlexRic

namespace Rc

open Outcome

/-- Parameters that are copied, and compared with themselves. -/
def ParamsCopyable (ps : List SeqRanParam3) : Prop := ∀ p ∈ ps, p.Copyable

def ParamsReleasable (ps : List SeqRanParam3) : Prop := ∀ p ∈ ps, p.Releasable

/-- RAN parameters are copied one by one. -/
theorem yields_cpParams (ps : List SeqRanParam3) :
    (walk cpSeqRanParam3 ps).Yields (ParamsCopyable ps) ps :=
  yields_walk_self fun p _ => yields_cpSeqRanParam3 p

/-- RAN parameters are compared one by one. -/
theorem yields_eqParams (ps : List SeqRanParam3) :
    (allEq eqSeqRanParam3 ps ps).Yields (ParamsCopyable ps) true :=
  yields_allEq_self fun p _ => yields_eqSeqRanParam3 p

/-- RAN parameters are freed one by one. -/
theorem yields_freeParams (ps : List SeqRanParam3) :
    (each freeSeqRanParam3 ps).Yields (ParamsReleasable ps) ⟨⟩ :=
  yields_each fun p _ => yields_freeSeqRanParam3 p

/-! ## Event triggers -/

/-- A trigger style has a name of 1 to 150 characters. -/
theorem yields_cpSeqEvTrgStyle (m : SeqEvTrgStyle) :
    (cpSeqEvTrgStyle m).Yields (sized 151 m.name = true) m := (yields_assert _ _).last fun _ => rfl

theorem yields_eqSeqEvTrgStyle (m : SeqEvTrgStyle) :
    (eqSeqEvTrgStyle m m).Yields (sized 151 m.name = true) true := by
  rw [eqSeqEvTrgStyle, beq_self_eq_true, both_true, Bool.and_self, beq_self_eq_true,
    beq_self_eq_true]
  exact (yields_assert _ _).last fun _ => rfl

/-- An id, a name of a length, and parameters that are copied. -/
def CallProcBreak.Copyable (m : CallProcBreak) : Prop :=
  0 < m.id ∧ sized 151 m.name = true ∧ ParamsCopyable m.param

def CallProcBreak.Releasable (m : CallProcBreak) : Prop :=
  0 < m.id ∧ sized 151 m.name = true ∧ ParamsReleasable m.param

/-- A breakpoint: a positive id, a name and its parameters. -/
theorem yields_cpCallProcBreak (m : CallProcBreak) : (cpCallProcBreak m).Yields m.Copyable m := by
  refine ((yields_assert _ _).bind fun _ => (yields_assert _ _).bind fun _ =>
    (yields_cpParams m.param).last fun _ => rfl).iff ?_
  rw [decide_eq_true_iff, CallProcBreak.Copyable]

theorem yields_eqCallProcBreak (m : CallProcBreak) :
    (eqCallProcBreak m m).Yields m.Copyable true := by
  rw [eqCallProcBreak, beq_self_eq_true, beq_self_eq_true, both_true, both_true, Bool.and_self,
    Bool.and_self]
  refine ((yields_assert _ _).bind fun _ => (yields_assert _ _).bind fun _ =>
    yields_eqParams m.param).iff ?_
  rw [decide_eq_true_iff, CallProcBreak.Copyable]

/-- The release of a breakpoint checks the id and the name too. -/
theorem yields_freeCallProcBreak (m : CallProcBreak) :
    (freeCallProcBreak m).Yields m.Releasable ⟨⟩ := by
  refine ((yields_assert _ _).bind fun _ => (yields_assert _ _).bind fun _ =>
    yields_freeParams m.param).iff ?_
  rw [decide_eq_true_iff, CallProcBreak.Releasable]

/-- Breakpoints that 16 bits can count. -/
def SeqCallProcType.Copyable (m : SeqCallProcType) : Prop :=
  0 < m.id ∧ sized 151 m.name = true ∧ sized 65536 m.callProcBreak = true ∧
    ∀ b ∈ m.callProcBreak, b.Copyable

def SeqCallProcType.Releasable (m : SeqCallProcType) : Prop :=
  0 < m.id ∧ sized 151 m.name = true ∧ sized 65536 m.callProcBreak = true ∧
    ∀ b ∈ m.callProcBreak, b.Releasable

/-- A call process: 1 to 65535 breakpoints under a positive id. -/
theorem yields_cpSeqCallProcType (m : SeqCallProcType) :
    (cpSeqCallProcType m).Yields m.Copyable m := by
  refine ((yields_assert _ _).bind fun _ => (yields_assert _ _).bind fun _ =>
    (yields_assert _ _).bind fun _ =>
    (yields_walk_self fun b _ => yields_cpCallProcBreak b).last fun _ => rfl).iff ?_
  rw [decide_eq_true_iff, SeqCallProcType.Copyable]

theorem yields_eqSeqCallProcType (m : SeqCallProcType) :
    (eqSeqCallProcType m m).Yields m.Copyable true := by
  rw [eqSeqCallProcType, beq_self_eq_true, beq_self_eq_true, both_true, both_true, Bool.and_self,
    Bool.and_self, Bool.and_self]
  refine ((yields_assert _ _).bind fun _ => (yields_assert _ _).bind fun _ =>
    (yields_assert _ _).bind fun _ =>
    yields_allEq_self fun b _ => yields_eqCallProcBreak b).iff ?_
  rw [decide_eq_true_iff, SeqCallProcType.Copyable]

/-- The breakpoints of a call process type are freed in order. -/
theorem yields_freeSeqCallProcType (m : SeqCallProcType) :
    (freeSeqCallProcType m).Yields m.Releasable ⟨⟩ := by
  refine ((yields_assert _ _).bind fun _ => (yields_assert _ _).bind fun _ =>
    (yields_assert _ _).bind fun _ => yields_each fun b _ => yields_freeCallProcBreak b).iff ?_
  rw [decide_eq_true_iff, SeqCallProcType.Releasable]

namespace RanFuncDefEvTrig

/-- Styles up to 63 with names of a length, and all else as the parts want it. -/
structure Comparable (m : RanFuncDefEvTrig) : Prop where
  styles : sized 64 m.seqEvTrgStyle = true
  names : ∀ s ∈ m.seqEvTrgStyle, sized 151 s.name = true
  l2Var : ParamsCopyable m.seqRanParamL2Var
  callProcs : ∀ t ∈ m.seqCallProcType, t.Copyable
  idUe : ParamsCopyable m.seqRanParamIdUe
  idCell : ParamsCopyable m.seqRanParamIdCell

/-- Arrays that 16 bits can count, too. -/
structure Copyable (m : RanFuncDefEvTrig) : Prop extends Comparable m where
  l2VarBelow : below 65536 m.seqRanParamL2Var = true
  callProcsBelow : below 65536 m.seqCallProcType = true
  idUeBelow : below 65536 m.seqRanParamIdUe = true
  idCellBelow : below 65536 m.seqRanParamIdCell = true

structure Releasable (m : RanFuncDefEvTrig) : Prop where
  styles : sized 64 m.seqEvTrgStyle = true
  names : ∀ s ∈ m.seqEvTrgStyle, sized 151 s.name = true
  l2Var : ParamsReleasable m.seqRanParamL2Var
  callProcs : ∀ t ∈ m.seqCallProcType, t.Releasable
  idUe : ParamsReleasable m.seqRanParamIdUe
  idCell : ParamsReleasable m.seqRanParamIdCell

end RanFuncDefEvTrig

/-- **The event triggers are copied**: styles, call processes and three arrays of parameters. -/
theorem yields_cpRanFuncDefEvTrig (m : RanFuncDefEvTrig) :
    (cpRanFuncDefEvTrig m).Yields m.Copyable m := by
  refine ((yields_assert _ _).bind fun _ =>
    (yields_walk_self fun s _ => yields_cpSeqEvTrgStyle s).bind fun _ =>
    (yields_assert _ _).bind fun _ => (yields_cpParams m.seqRanParamL2Var).bind fun _ =>
    (yields_assert _ _).bind fun _ =>
    (yields_walk_self fun t _ => yields_cpSeqCallProcType t).bind fun _ =>
    (yields_assert _ _).bind fun _ => (yields_cpParams m.seqRanParamIdUe).bind fun _ =>
    (yields_assert _ _).bind fun _ =>
    (yields_cpParams m.seqRanParamIdCell).last fun _ => rfl).iff ⟨?_, ?_⟩
  · rintro ⟨h1, h2, h3, h4, h5, h6, h7, h8, h9, h10⟩
    exact ⟨⟨h1, h2, h4, h6, h8, h10⟩, h3, h5, h7, h9⟩
  · rintro ⟨⟨h1, h2, h4, h6, h8, h10⟩, h3, h5, h7, h9⟩
    exact ⟨h1, h2, h3, h4, h5, h6, h7, h8, h9, h10⟩

theorem yields_eqRanFuncDefEvTrig (m : RanFuncDefEvTrig) :
    (eqRanFuncDefEvTrig m m).Yields m.Comparable true := by
  rw [eqRanFuncDefEvTrig, Bool.and_self]
  refine ((yields_assert _ _).bind fun _ =>
    (yields_allEq_self fun s _ => yields_eqSeqEvTrgStyle s).must.bind fun _ =>
    (yields_eqParams m.seqRanParamL2Var).must.bind fun _ =>
    (yields_allEq_self fun t _ => yields_eqSeqCallProcType t).must.bind fun _ =>
    (yields_eqParams m.seqRanParamIdUe).must.bind fun _ =>
    (yields_eqParams m.seqRanParamIdCell).must.last fun _ => rfl).iff ⟨?_, ?_⟩
  · rintro ⟨h1, h2, h3, h4, h5, h6⟩
    exact ⟨h1, h2, h3, h4, h5, h6⟩
  · rintro ⟨h1, h2, h3, h4, h5, h6⟩
    exact ⟨h1, h2, h3, h4, h5, h6⟩

theorem yields_freeRanFuncDefEvTrig (m : RanFuncDefEvTrig) :
    (freeRanFuncDefEvTrig m).Yields m.Releasable ⟨⟩ := by
  refine ((yields_assert _ _).bind fun _ =>
    (yields_each fun s _ => yields_assert _ _).bind fun _ =>
    (yields_freeParams m.seqRanParamL2Var).bind fun _ =>
    (yields_each fun t _ => yields_freeSeqCallProcType t).bind fun _ =>
    (yields_freeParams m.seqRanParamIdUe).bind fun _ =>
    yields_freeParams m.seqRanParamIdCell).iff ⟨?_, ?_⟩
  · rintro ⟨h1, h2, h3, h4, h5, h6⟩
    exact ⟨h1, h2, h3, h4, h5, h6⟩
  · rintro ⟨h1, h2, h3, h4, h5, h6⟩
    exact ⟨h1, h2, h3, h4, h5, h6⟩

/-! ## Reports -/

def SeqReportSty.Copyable (m : SeqReportSty) : Prop :=
  sized 151 m.name = true ∧ below 65536 m.ranParam = true ∧ ParamsCopyable m.ranParam

def SeqReportSty.Releasable (m : SeqReportSty) : Prop :=
  sized 151 m.name = true ∧ below 65536 m.ranParam = true ∧ ParamsReleasable m.ranParam

/-- A report style: its name and its parameters. -/
theorem yields_cpSeqReportSty (m : SeqReportSty) : (cpSeqReportSty m).Yields m.Copyable m :=
  (yields_assert _ _).bind fun _ => (yields_assert _ _).bind fun _ =>
    (yields_cpParams m.ranParam).last fun _ => rfl

theorem yields_eqSeqReportSty (m : SeqReportSty) :
    (eqSeqReportSty m m).Yields m.Copyable true := by
  simp only [eqSeqReportSty, beq_self_eq_true, both_true, Bool.and_self]
  exact (yields_assert _ _).bind fun _ => (yields_assert _ _).bind fun _ =>
    yields_eqParams m.ranParam

theorem yields_freeSeqReportSty (m : SeqReportSty) :
    (freeSeqReportSty m).Yields m.Releasable ⟨⟩ :=
  (yields_assert _ _).bind fun _ => (yields_assert _ _).bind fun _ => yields_freeParams m.ranParam

/-- Up to 63 report styles. -/
def RanFuncDefReport.Copyable (m : RanFuncDefReport) : Prop :=
  sized 64 m.seqReportSty = true ∧ ∀ s ∈ m.seqReportSty, s.Copyable

def RanFuncDefReport.Comparable (m : RanFuncDefReport) : Prop := ∀ s ∈ m.seqReportSty, s.Copyable

def RanFuncDefReport.Releasable (m : RanFuncDefReport) : Prop :=
  sized 64 m.seqReportSty = true ∧ ∀ s ∈ m.seqReportSty, s.Releasable

/-- **The reports are copied**: 1 to 63 styles; the comparison takes any number. -/
theorem yields_cpRanFuncDefReport (m : RanFuncDefReport) :
    (cpRanFuncDefReport m).Yields m.Copyable m :=
  (yields_assert _ _).bind fun _ =>
    (yields_walk_self fun s _ => yields_cpSeqReportSty s).last fun _ => rfl

theorem yields_eqRanFuncDefReport (m : RanFuncDefReport) :
    (eqRanFuncDefReport m m).Yields m.Comparable true :=
  yields_allEq_self fun s _ => yields_eqSeqReportSty s

theorem yields_freeRanFuncDefReport (m : RanFuncDefReport) :
    (freeRanFuncDefReport m).Yields m.Releasable ⟨⟩ :=
  (yields_assert _ _).bind fun _ => yields_each fun s _ => yields_freeSeqReportSty s

/-! ## Inserts -/

def SeqInsInd.Copyable (m : SeqInsInd) : Prop :=
  0 < m.id ∧ sized 151 m.name = true ∧ below 65536 m.seqInsInd = true ∧ ParamsCopyable m.seqInsInd

def SeqInsInd.Releasable (m : SeqInsInd) : Prop :=
  0 < m.id ∧ sized 151 m.name = true ∧ below 65536 m.seqInsInd = true ∧
    ParamsReleasable m.seqInsInd

/-- An insert indication: an id, a name and its parameters. -/
theorem yields_cpSeqInsInd (m : SeqInsInd) : (cpSeqInsInd m).Yields m.Copyable m := by
  refine ((yields_assert _ _).bind fun _ => (yields_assert _ _).bind fun _ =>
    (yields_assert _ _).bind fun _ => (yields_cpParams m.seqInsInd).last fun _ => rfl).iff ?_
  rw [decide_eq_true_iff, SeqInsInd.Copyable]

theorem yields_eqSeqInsInd (m : SeqInsInd) : (eqSeqInsInd m m).Yields m.Copyable true := by
  simp only [eqSeqInsInd, beq_self_eq_true, both_true, Bool.and_self]
  refine ((yields_assert _ _).bind fun _ => (yields_assert _ _).bind fun _ =>
    (yields_assert _ _).bind fun _ => yields_eqParams m.seqInsInd).iff ?_
  rw [decide_eq_true_iff, SeqInsInd.Copyable]

theorem yields_freeSeqInsInd (m : SeqInsInd) : (freeSeqInsInd m).Yields m.Releasable ⟨⟩ := by
  refine ((yields_assert _ _).bind fun _ => (yields_assert _ _).bind fun _ =>
    (yields_assert _ _).bind fun _ => yields_freeParams m.seqInsInd).iff ?_
  rw [decide_eq_true_iff, SeqInsInd.Releasable]

def SeqInsSty.Copyable (m : SeqInsSty) : Prop :=
  sized 151 m.name = true ∧ below 65536 m.seqInsInd = true ∧ ∀ i ∈ m.seqInsInd, i.Copyable

def SeqInsSty.Releasable (m : SeqInsSty) : Prop :=
  sized 151 m.name = true ∧ ∀ i ∈ m.seqInsInd, i.Releasable

/-- An insert style; its release does not count the indications. -/
theorem yields_cpSeqInsSty (m : SeqInsSty) : (cpSeqInsSty m).Yields m.Copyable m :=
  (yields_assert _ _).bind fun _ => (yields_assert _ _).bind fun _ =>
    (yields_walk_self fun i _ => yields_cpSeqInsInd i).last fun _ => rfl

theorem yields_eqSeqInsSty (m : SeqInsSty) : (eqSeqInsSty m m).Yields m.Copyable true := by
  simp only [eqSeqInsSty, beq_self_eq_true, both_true, Bool.and_self]
  refine ((yields_assert _ _).bind fun _ => (yields_assert _ _).bind fun _ =>
    (yields_allEq_self fun i _ => yields_eqSeqInsInd i).both (yields_next true)).iff ?_
  rw [and_true, SeqInsSty.Copyable]

theorem yields_freeSeqInsSty (m : SeqInsSty) : (freeSeqInsSty m).Yields m.Releasable ⟨⟩ :=
  (yields_assert _ _).bind fun _ => yields_each fun i _ => yields_freeSeqInsInd i

/-- Up to 63 insert styles. -/
def RanFuncDefInsert.Copyable (m : RanFuncDefInsert) : Prop :=
  sized 64 m.seqInsSty = true ∧ ∀ s ∈ m.seqInsSty, s.Copyable

def RanFuncDefInsert.Releasable (m : RanFuncDefInsert) : Prop :=
  sized 64 m.seqInsSty = true ∧ ∀ s ∈ m.seqInsSty, s.Releasable

/-- **The inserts are copied**: 1 to 63 styles. -/
theorem yields_cpRanFuncDefInsert (m : RanFuncDefInsert) :
    (cpRanFuncDefInsert m).Yields m.Copyable m :=
  (yields_assert _ _).bind fun _ =>
    (yields_walk_self fun s _ => yields_cpSeqInsSty s).last fun _ => rfl

theorem yields_eqRanFuncDefInsert (m : RanFuncDefInsert) :
    (eqRanFuncDefInsert m m).Yields m.Copyable true := by
  rw [eqRanFuncDefInsert, Bool.and_self]
  exact (yields_assert _ _).bind fun _ => yields_allEq_self fun s _ => yields_eqSeqInsSty s

theorem yields_freeRanFuncDefInsert (m : RanFuncDefInsert) :
    (freeRanFuncDefInsert m).Yields m.Releasable ⟨⟩ :=
  (yields_assert _ _).bind fun _ => yields_each fun s _ => yields_freeSeqInsSty s

/-! ## Controls -/

def SeqCtrlAct2.Copyable (m : SeqCtrlAct2) : Prop :=
  0 < m.id ∧ sized 151 m.name = true ∧ below 65536 m.assocRanParam = true ∧
    ParamsCopyable m.assocRanParam

def SeqCtrlAct2.Releasable (m : SeqCtrlAct2) : Prop :=
  0 < m.id ∧ sized 151 m.name = true ∧ below 65536 m.assocRanParam = true ∧
    ParamsReleasable m.assocRanParam

/-- A control action: an id, a name and its parameters. -/
theorem yields_cpSeqCtrlAct2 (m : SeqCtrlAct2) : (cpSeqCtrlAct2 m).Yields m.Copyable m := by
  refine ((yields_assert _ _).bind fun _ => (yields_assert _ _).bind fun _ =>
    (yields_assert _ _).bind fun _ => (yields_cpParams m.assocRanParam).last fun _ => rfl).iff ?_
  rw [decide_eq_true_iff, SeqCtrlAct2.Copyable]

theorem yields_eqSeqCtrlAct2 (m : SeqCtrlAct2) : (eqSeqCtrlAct2 m m).Yields m.Copyable true := by
  simp only [eqSeqCtrlAct2, beq_self_eq_true, both_true, Bool.and_self]
  refine ((yields_assert _ _).bind fun _ => (yields_assert _ _).bind fun _ =>
    (yields_assert _ _).bind fun _ => yields_eqParams m.assocRanParam).iff ?_
  rw [decide_eq_true_iff, SeqCtrlAct2.Copyable]

theorem yields_freeSeqCtrlAct2 (m : SeqCtrlAct2) :
    (freeSeqCtrlAct2 m).Yields m.Releasable ⟨⟩ := by
  refine ((yields_assert _ _).bind fun _ => (yields_assert _ _).bind fun _ =>
    (yields_assert _ _).bind fun _ => yields_freeParams m.assocRanParam).iff ?_
  rw [decide_eq_true_iff, SeqCtrlAct2.Releasable]

namespace SeqCtrlStyle

/-- A name of a length, actions and outcomes, and no call process. -/
structure Comparable (m : SeqCtrlStyle) : Prop where
  name : sized 151 m.name = true
  actsBelow : below 65536 m.seqCtrlAct = true
  acts : ∀ a ∈ m.seqCtrlAct, a.Copyable
  callProc : m.callProcIdType = none
  outsBelow : below 256 m.ranParamCtrlOut = true
  outs : ParamsCopyable m.ranParamCtrlOut

/-- A control style is copied with one action less than it is compared with. -/
structure Copyable (m : SeqCtrlStyle) : Prop extends Comparable m where
  actsFewer : below 65535 m.seqCtrlAct = true

structure Releasable (m : SeqCtrlStyle) : Prop where
  name : sized 151 m.name = true
  actsBelow : below 65536 m.seqCtrlAct = true
  acts : ∀ a ∈ m.seqCtrlAct, a.Releasable
  callProc : m.callProcIdType = none
  outsBelow : below 256 m.ranParamCtrlOut = true
  outs : ParamsReleasable m.ranParamCtrlOut

end SeqCtrlStyle

/-- A bound may be raised. -/
theorem below_of_below {α : Type} {xs : List α} {m n : Nat} (hmn : m ≤ n)
    (h : below m xs = true) : below n xs = true :=
  decide_eq_true ((of_decide_eq_true h).trans_le hmn)

/-- **A control style is copied** with fewer than 65535 actions. -/
theorem yields_cpSeqCtrlStyle (m : SeqCtrlStyle) : (cpSeqCtrlStyle m).Yields m.Copyable m := by
  refine ((yields_assert _ _).bind fun _ => (yields_assert _ _).bind fun _ =>
    (yields_walk_self fun a _ => yields_cpSeqCtrlAct2 a).bind fun _ =>
    (yields_assert _ _).bind fun hcall => (yields_assert _ _).bind fun _ =>
    (yields_cpParams m.ranParamCtrlOut).last fun _ => ?_).iff ⟨?_, ?_⟩
  · rw [← Option.isNone_iff_eq_none.mp hcall]
  · rintro ⟨h1, h2, h3, h4, h5, h6⟩
    exact ⟨⟨h1, below_of_below (by decide) h2, h3, Option.isNone_iff_eq_none.mp h4, h5, h6⟩, h2⟩
  · rintro ⟨⟨h1, -, h3, h4, h5, h6⟩, h2⟩
    exact ⟨h1, h2, h3, Option.isNone_iff_eq_none.mpr h4, h5, h6⟩

/-- A control style is compared with one action more than it is copied with. -/
theorem yields_eqSeqCtrlStyle (m : SeqCtrlStyle) :
    (eqSeqCtrlStyle m m).Yields m.Comparable true := by
  simp only [eqSeqCtrlStyle, beq_self_eq_true, both_true, Bool.and_self]
  refine ((yields_assert _ _).bind fun _ => (yields_assert _ _).bind fun _ =>
    (yields_allEq_self fun a _ => yields_eqSeqCtrlAct2 a).both <|
    (yields_assert _ _).bind fun _ => (yields_assert _ _).bind fun _ =>
    yields_eqParams m.ranParamCtrlOut).iff ⟨?_, ?_⟩
  · rintro ⟨h1, h2, h3, h4, h5, h6⟩
    exact ⟨h1, h2, h3, Option.isNone_iff_eq_none.mp h4, h5, h6⟩
  · rintro ⟨h1, h2, h3, h4, h5, h6⟩
    exact ⟨h1, h2, h3, Option.isNone_iff_eq_none.mpr h4, h5, h6⟩

theorem yields_freeSeqCtrlStyle (m : SeqCtrlStyle) :
    (freeSeqCtrlStyle m).Yields m.Releasable ⟨⟩ := by
  refine ((yields_assert _ _).bind fun _ => (yields_assert _ _).bind fun _ =>
    (yields_each fun a _ => yields_freeSeqCtrlAct2 a).bind fun _ =>
    (yields_assert _ _).bind fun _ => (yields_assert _ _).bind fun _ =>
    yields_freeParams m.ranParamCtrlOut).iff ⟨?_, ?_⟩
  · rintro ⟨h1, h2, h3, h4, h5, h6⟩
    exact ⟨h1, h2, h3, Option.isNone_iff_eq_none.mp h4, h5, h6⟩
  · rintro ⟨h1, h2, h3, h4, h5, h6⟩
    exact ⟨h1, h2, h3, Option.isNone_iff_eq_none.mpr h4, h5, h6⟩

/-- Up to 63 control styles. -/
def RanFuncDefCtrl.Copyable (m : RanFuncDefCtrl) : Prop :=
  sized 64 m.seqCtrlStyle = true ∧ ∀ s ∈ m.seqCtrlStyle, s.Copyable

def RanFuncDefCtrl.Comparable (m : RanFuncDefCtrl) : Prop :=
  sized 64 m.seqCtrlStyle = true ∧ ∀ s ∈ m.seqCtrlStyle, s.Comparable

def RanFuncDefCtrl.Releasable (m : RanFuncDefCtrl) : Prop :=
  sized 64 m.seqCtrlStyle = true ∧ ∀ s ∈ m.seqCtrlStyle, s.Releasable

/-- **The controls are copied** with 1 to 63 styles. -/
theorem yields_cpRanFuncDefCtrl (m : RanFuncDefCtrl) :
    (cpRanFuncDefCtrl m).Yields m.Copyable m :=
  (yields_assert _ _).bind fun _ =>
    (yields_walk_self fun s _ => yields_cpSeqCtrlStyle s).last fun _ => rfl

/-- The controls are compared with themselves style by style. -/
theorem yields_eqRanFuncDefCtrl (m : RanFuncDefCtrl) :
    (eqRanFuncDefCtrl m m).Yields m.Comparable true := by
  rw [eqRanFuncDefCtrl, Bool.and_self]
  exact (yields_assert _ _).bind fun _ => yields_allEq_self fun s _ => yields_eqSeqCtrlStyle s

theorem yields_freeRanFuncDefCtrl (m : RanFuncDefCtrl) :
    (freeRanFuncDefCtrl m).Yields m.Releasable ⟨⟩ :=
  (yields_assert _ _).bind fun _ => yields_each fun s _ => yields_freeSeqCtrlStyle s

/-! ## Policies -/

def SeqPolAction.Copyable (m : SeqPolAction) : Prop :=
  sized 151 m.name = true ∧ below 65536 m.seqAssocRpAction = true ∧
    ParamsCopyable m.seqAssocRpAction ∧ below 65536 m.seqAssocRpPolicy = true ∧
    ParamsCopyable m.seqAssocRpPolicy

def SeqPolAction.Releasable (m : SeqPolAction) : Prop :=
  sized 151 m.name = true ∧ below 65536 m.seqAssocRpAction = true ∧
    ParamsReleasable m.seqAssocRpAction ∧ below 65536 m.seqAssocRpPolicy = true ∧
    ParamsReleasable m.seqAssocRpPolicy

/-- A policy action has two arrays of parameters. -/
theorem yields_cpSeqPolAction (m : SeqPolAction) : (cpSeqPolAction m).Yields m.Copyable m :=
  (yields_assert _ _).bind fun _ => (yields_assert _ _).bind fun _ =>
    (yields_cpParams m.seqAssocRpAction).bind fun _ => (yields_assert _ _).bind fun _ =>
    (yields_cpParams m.seqAssocRpPolicy).last fun _ => rfl

theorem yields_eqSeqPolAction (m : SeqPolAction) :
    (eqSeqPolAction m m).Yields m.Copyable true := by
  simp only [eqSeqPolAction, beq_self_eq_true, both_true, Bool.and_self]
  exact (yields_assert _ _).bind fun _ => (yields_assert _ _).bind fun _ =>
    (yields_eqParams m.seqAssocRpAction).both <| (yields_assert _ _).bind fun _ =>
    yields_eqParams m.seqAssocRpPolicy

theorem yields_freeSeqPolAction (m : SeqPolAction) :
    (freeSeqPolAction m).Yields m.Releasable ⟨⟩ :=
  (yields_assert _ _).bind fun _ => (yields_assert _ _).bind fun _ =>
    (yields_freeParams m.seqAssocRpAction).bind fun _ => (yields_assert _ _).bind fun _ =>
    yields_freeParams m.seqAssocRpPolicy

def SeqPolicySty.Copyable (m : SeqPolicySty) : Prop :=
  sized 151 m.name = true ∧ below 65536 m.seqPolAction = true ∧ ∀ a ∈ m.seqPolAction, a.Copyable

def SeqPolicySty.Releasable (m : SeqPolicySty) : Prop :=
  sized 151 m.name = true ∧ below 65536 m.seqPolAction = true ∧ ∀ a ∈ m.seqPolAction, a.Releasable

/-- A policy style: its name and its actions. -/
theorem yields_cpSeqPolicySty (m : SeqPolicySty) : (cpSeqPolicySty m).Yields m.Copyable m :=
  (yields_assert _ _).bind fun _ => (yields_assert _ _).bind fun _ =>
    (yields_walk_self fun a _ => yields_cpSeqPolAction a).last fun _ => rfl

theorem yields_eqSeqPolicySty (m : SeqPolicySty) :
    (eqSeqPolicySty m m).Yields m.Copyable true := by
  simp only [eqSeqPolicySty, beq_self_eq_true, both_true, Bool.and_self]
  exact (yields_assert _ _).bind fun _ => (yields_assert _ _).bind fun _ =>
    yields_allEq_self fun a _ => yields_eqSeqPolAction a

theorem yields_freeSeqPolicySty (m : SeqPolicySty) :
    (freeSeqPolicySty m).Yields m.Releasable ⟨⟩ :=
  (yields_assert _ _).bind fun _ => (yields_assert _ _).bind fun _ =>
    yields_each fun a _ => yields_freeSeqPolAction a

/-- Up to 63 policy styles. -/
def RanFuncDefPolicy.Copyable (m : RanFuncDefPolicy) : Prop :=
  sized 64 m.seqPolicySty = true ∧ ∀ s ∈ m.seqPolicySty, s.Copyable

def RanFuncDefPolicy.Releasable (m : RanFuncDefPolicy) : Prop :=
  sized 64 m.seqPolicySty = true ∧ ∀ s ∈ m.seqPolicySty, s.Releasable

/-- **The policies are copied**: 1 to 63 styles. -/
theorem yields_cpRanFuncDefPolicy (m : RanFuncDefPolicy) :
    (cpRanFuncDefPolicy m).Yields m.Copyable m :=
  (yields_assert _ _).bind fun _ =>
    (yields_walk_self fun s _ => yields_cpSeqPolicySty s).last fun _ => rfl

theorem yields_eqRanFuncDefPolicy (m : RanFuncDefPolicy) :
    (eqRanFuncDefPolicy m m).Yields m.Copyable true := by
  rw [eqRanFuncDefPolicy, Bool.and_self]
  exact (yields_assert _ _).bind fun _ => yields_allEq_self fun s _ => yields_eqSeqPolicySty s

theorem yields_freeRanFuncDefPolicy (m : RanFuncDefPolicy) :
    (freeRanFuncDefPolicy m).Yields m.Releasable ⟨⟩ :=
  (yields_assert _ _).bind fun _ => yields_each fun s _ => yields_freeSeqPolicySty s

/-! ## The definitions -/

/-- Texts of their lengths, and no instance. -/
structure NameCopyable (m : Kpm.RanFunctionName) : Prop where
  name : sized 151 m.name = true
  oid : sized 1001 m.oid = true
  description : sized 151 m.description = true
  instanceNo : m.instanceNo = none

/-- The name, the OID and the description are copied where none is too long. -/
theorem yields_cpRanFunctionName (m : Kpm.RanFunctionName) :
    (cpRanFunctionName m).Yields (NameCopyable m) m := by
  refine ((yields_assert _ _).bind fun _ => (yields_assert _ _).bind fun _ =>
    (yields_assert _ _).bind fun _ => (yields_assert _ _).last fun h => ?_).iff ⟨?_, ?_⟩
  · rw [← Option.isNone_iff_eq_none.mp h]
  · rintro ⟨h1, h2, h3, h4⟩
    exact ⟨h1, h2, h3, Option.isNone_iff_eq_none.mp h4⟩
  · rintro ⟨h1, h2, h3, h4⟩
    exact ⟨h1, h2, h3, Option.isNone_iff_eq_none.mpr h4⟩

/-- A function's name equals itself: both are compared as octets. -/
theorem eqRanFunctionName_self (m : Kpm.RanFunctionName) :
    Kpm.eqRanFunctionName m m = .next true := by
  obtain ⟨name, oid, description, instanceNo⟩ := m
  rw [Kpm.eqRanFunctionName, beq_self_eq_true, beq_self_eq_true, beq_self_eq_true]
  cases instanceNo with
  | none => rfl
  | some i => exact congrArg Outcome.next (beq_self_eq_true i)

namespace FuncDef

/-- A name and parts that are copied. -/
structure Copyable (m : FuncDef) : Prop where
  name : NameCopyable m.name
  evTrig : ∀ p ∈ m.evTrig, p.Copyable
  report : ∀ p ∈ m.report, p.Copyable
  insert : ∀ p ∈ m.insert, p.Copyable
  ctrl : ∀ p ∈ m.ctrl, p.Copyable
  policy : ∀ p ∈ m.policy, p.Copyable

/-- Parts that are compared with themselves. -/
structure Comparable (m : FuncDef) : Prop where
  evTrig : ∀ p ∈ m.evTrig, p.Comparable
  report : ∀ p ∈ m.report, p.Comparable
  insert : ∀ p ∈ m.insert, p.Copyable
  ctrl : ∀ p ∈ m.ctrl, p.Comparable
  policy : ∀ p ∈ m.policy, p.Copyable

/-- Parts that are released. -/
structure Releasable (m : FuncDef) : Prop where
  evTrig : ∀ p ∈ m.evTrig, p.Releasable
  report : ∀ p ∈ m.report, p.Releasable
  insert : ∀ p ∈ m.insert, p.Releasable
  ctrl : ∀ p ∈ m.ctrl, p.Releasable
  policy : ∀ p ∈ m.policy, p.Releasable

end FuncDef

/-- **A function definition is copied** where it is copyable, and the copy is the definition. -/
theorem yields_cpFuncDef (m : FuncDef) : (cpFuncDef m).Yields m.Copyable m := by
  refine ((yields_cpRanFunctionName m.name).bind fun _ =>
    (yields_opt yields_cpRanFuncDefEvTrig m.evTrig).bind fun _ =>
    (yields_opt yields_cpRanFuncDefReport m.report).bind fun _ =>
    (yields_opt yields_cpRanFuncDefInsert m.insert).bind fun _ =>
    (yields_opt yields_cpRanFuncDefCtrl m.ctrl).bind fun _ =>
    (yields_opt yields_cpRanFuncDefPolicy m.policy).last fun _ => rfl).iff ⟨?_, ?_⟩
  · rintro ⟨h1, h2, h3, h4, h5, h6⟩
    exact ⟨h1, h2, h3, h4, h5, h6⟩
  · rintro ⟨h1, h2, h3, h4, h5, h6⟩
    exact ⟨h1, h2, h3, h4, h5, h6⟩

/-- **A function definition is compared with itself** where it is comparable. -/
theorem yields_eqFuncDef (m : FuncDef) : (eqFuncDef m m).Yields m.Comparable true := by
  rw [eqFuncDef, eqRanFunctionName_self, both_true]
  refine ((yields_eqOptional_self yields_eqRanFuncDefEvTrig m.evTrig).both <|
    (yields_eqOptional_self yields_eqRanFuncDefReport m.report).both <|
    (yields_eqOptional_self yields_eqRanFuncDefInsert m.insert).both <|
    (yields_eqOptional_self yields_eqRanFuncDefCtrl m.ctrl).both <|
    yields_eqOptional_self yields_eqRanFuncDefPolicy m.policy).iff ⟨?_, ?_⟩
  · rintro ⟨h1, h2, h3, h4, h5⟩
    exact ⟨h1, h2, h3, h4, h5⟩
  · rintro ⟨h1, h2, h3, h4, h5⟩
    exact ⟨h1, h2, h3, h4, h5⟩

/-- What is absent is freed without a check. -/
theorem yields_freeOptional {α : Type} {free : α → Outcome PUnit.{1}} {P : α → Prop}
    (h : ∀ a, (free a).Yields (P a) ⟨⟩) (o : Option α) :
    (freeOptional free o).Yields (∀ a ∈ o, P a) ⟨⟩ := by
  cases o with
  | none => exact (yields_next _).iff (iff_of_true trivial fun _ h => nomatch h)
  | some a => exact (h a).iff (by simp)

/-- **A function definition is released** where it is releasable. -/
theorem yields_freeFuncDef (m : FuncDef) : (freeFuncDef m).Yields m.Releasable ⟨⟩ := by
  refine ((yields_freeOptional yields_freeRanFuncDefEvTrig m.evTrig).bind fun _ =>
    (yields_freeOptional yields_freeRanFuncDefReport m.report).bind fun _ =>
    (yields_freeOptional yields_freeRanFuncDefInsert m.insert).bind fun _ =>
    (yields_freeOptional yields_freeRanFuncDefCtrl m.ctrl).bind fun _ =>
    yields_freeOptional yields_freeRanFuncDefPolicy m.policy).iff ⟨?_, ?_⟩
  · rintro ⟨h1, h2, h3, h4, h5⟩
    exact ⟨h1, h2, h3, h4, h5⟩
  · rintro ⟨h1, h2, h3, h4, h5⟩
    exact ⟨h1, h2, h3, h4, h5⟩

end Rc

end FlexRic
