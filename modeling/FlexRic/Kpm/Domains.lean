import FlexRic.Kpm.Arrival
import FlexRic.Kpm.KpmValues

/-!
# FlexRic.Kpm.Domains

On which of the values that the decoder returns the copy, the comparison and the
release come back, in terms of the value that the other side encoded.

`copied`, `compared` and `released` say so for a label and for everything above
it.  They differ from each other and from what the encoder takes:

* a label with a slice or a 5QI is not copied, and one with an average is not
  released;
* measured data with 65535 records or more is not copied;
* a test with a value that is not a number is not compared, and of the UE ids
  neither is a gNB-DU without a RAN UE id nor an eNB without a global id.

`indMsg_handles` and `actDef_handles` are the sets of values in full.
-/

namespace FlexRic

namespace Kpm

open Outcome Ue

/-! ## Labels -/

/-- The label is copied when it arrives. -/
def Label.copied (l : Label) : Bool := l.noLabel.isSome || l.sliceId.isNone && l.fiveQi.isNone

/-- The label is released when it arrives. -/
def Label.released (l : Label) : Bool := l.noLabel.isSome || l.avg.isNone

/-- An optional field equals itself where its value does. -/
theorem eqOpt_self {α : Type} {eq : α → α → Bool} (h : ∀ a, eq a a = true) (o : Option α) :
    eqOpt eq o o = true := by
  cases o with
  | none => rfl
  | some a => exact h a

theorem eqSNssai_self (s : SNssai) : eqSNssai s s = true := by simp [eqSNssai]

/-- A label compared with itself. -/
theorem eqLabelInfo_self (l : Label) : (eqLabelInfo l l).Agrees ∧
    ((eqLabelInfo l l).Returns ↔ l.unhandled = false ∧ l.indexed = false) := by
  have hplmn := eqOpt_self eqE2smPlmn_self l.plmnId
  have hslice := eqOpt_self eqSNssai_self l.sliceId
  simp only [eqLabelInfo, hplmn, hslice, beq_self_eq_true, Bool.and_self, both_true]
  cases l.unhandled <;> cases l.indexed <;> simp [assert, agrees_next, agrees_abort]

/-- **A label that arrived** is always compared, and copied and released by its
fields. -/
theorem label_handles {l l' : Label} (h : Arrives kpmEncLabelInfoAsn kpmDecLabelInfoAsn l l') :
    Handles cpLabelInfo eqLabelInfo freeLabelInfo l' l.copied true l.released := by
  have hself := eqLabelInfo_self l'
  rcases arrives_labelInfo.mp h with ⟨hno, rfl⟩ | ⟨hno, hun, -, rfl⟩
  · constructor
    · simp [cpLabelInfo, Label.copied, hno, Label.unhandled, Label.indexed, assert]
    · exact hself.1
    · rw [hself.2]
      simp [Label.unhandled, Label.indexed]
    · simp [freeLabelInfo, Label.released, hno, Label.unhandled, assert]
  · constructor
    · simp [cpLabelInfo, Label.copied, hno, Label.unhandled, Label.indexed, Label.sent,
        returns_seq]
    · exact hself.1
    · rw [hself.2]
      simp [Label.unhandled, Label.indexed, Label.sent]
    · simp [freeLabelInfo, Label.released, hno, Label.unhandled, Label.sent, returns_seq]

/-! ## Measurements -/

/-- A release that asserts nothing. -/
def freeNothing {α : Type} (_ : α) : Outcome PUnit.{1} := return ⟨⟩

theorem eqMeasType_self (t : MeasType) : eqMeasType t t = true := by
  cases t <;> simp [eqMeasType]

def MeasInfoFrm1.copied (i : MeasInfoFrm1) : Bool := i.labelInfoLst.all Label.copied

def MeasInfoFrm1.released (i : MeasInfoFrm1) : Bool := i.labelInfoLst.all Label.released

/-- A measurement is handled where its labels are. -/
theorem measInfo_handles {i i' : MeasInfoFrm1} (h : Arrives kpmEncMeasInfoAsn kpmDecMeasInfoAsn i i') :
    Handles cpMeasInfoFormat1Lst eqMeasInfoFrm1 freeMeasInfoFrm1 i' i.copied true i.released := by
  obtain ⟨-, hlen, hlabels⟩ := arrives_measInfo.mp h
  have hlst := Handles.list hlabels fun _ _ => label_handles
  have hpos : 0 < i'.labelInfoLst.length := by
    rw [← hlabels.length_eq]
    omega
  constructor
  · simp only [cpMeasInfoFormat1Lst, assert_of (decide_eq_true hpos), next_bind, pure_eq,
      returns_map]
    exact hlst.cp
  · rw [eqMeasInfoFrm1, eqMeasType_self, both_true]
    exact hlst.agrees
  · rw [eqMeasInfoFrm1, eqMeasType_self, both_true, hlst.eq]
    simp
  · exact hlst.free

/-- Fewer than 65535 records. -/
def MeasData.copied (d : MeasData) : Bool := d.measRecordLst.length < 65535

theorem eqMeasRecord_self (r : MeasRecord) : eqMeasRecord r r = true := by
  cases r <;> simp [eqMeasRecord, Doubles.apart_self]

/-- A comparison that cannot fail, over an array. -/
theorem allEq_pure {α : Type} {eq : α → α → Bool} (h : ∀ a, eq a a = true) (xs : List α) :
    allEq (fun a b => next (eq a b)) xs xs = next true := by
  induction xs with
  | nil => rfl
  | cons x xs ih => rw [allEq_cons_self, h, both_true, ih]

theorem eqMeasDataLst_self (d : MeasData) : eqMeasDataLst d d = next true := by
  rw [eqMeasDataLst, allEq_pure eqMeasRecord_self, both_true, beq_self_eq_true]

/-- **Measured data is copied below 65535 records.** -/
theorem measData_handles {d d' : MeasData} (h : Arrives kpmEncMeasDataAsn kpmDecMeasDataAsn d d') :
    Handles cpMeasDataLst eqMeasDataLst freeNothing d' d.copied true true := by
  obtain ⟨⟨hlen, hrecords⟩, -⟩ := arrives_measData.mp h
  have hwalk : (walk cpMeasRecordLst d'.measRecordLst).Returns := by
    refine returns_walk.mpr fun r' hr' => ?_
    obtain ⟨r, -, hr⟩ := exists_of_mem_forall₂ hrecords hr'
    obtain rfl := arrives_measRecord.mp hr
    cases r <;> simp [cpMeasRecordLst, MeasRecord.sent, assert]
  constructor
  · simp only [cpMeasDataLst, returns_seq, returns_assert, pure_eq, returns_map, and_iff_left hwalk,
      MeasData.copied, ← hrecords.length_eq, decide_eq_true_eq]
    omega
  · rw [eqMeasDataLst_self]
    exact agrees_next
  · simp [eqMeasDataLst_self]
  · simp [freeNothing]

/-! ## Bins -/

/-- A number is equal to itself. -/
def BinRangeValue.exact : BinRangeValue → Bool
  | integer _ => true
  | real v => !v.isNaN

def BinDistr.exact (bin : BinDistr) : Bool := bin.startValue.exact && bin.endValue.exact

/-- Comparing the bins with themselves finds them equal. -/
def BinRangeDef.exact (d : BinRangeDef) : Bool := d.binXLst.all BinDistr.exact

/-- A bound of a bin equals itself unless it is a NaN. -/
theorem eqBinRangeValue_self (v : BinRangeValue) : eqBinRangeValue v.sent v.sent = v.exact := by
  cases v <;> simp [eqBinRangeValue, BinRangeValue.sent, BinRangeValue.exact, Doubles.beq_self]

/-- Bins are compared up to the first one that has one. -/
theorem allEq_binDistr (bins : List BinDistr) :
    allEq (fun a b => next (eqBinDistr a b)) (bins.map BinDistr.sent) (bins.map BinDistr.sent) =
      next (bins.all BinDistr.exact) := by
  induction bins with
  | nil => rfl
  | cons bin bins ih =>
    have hbin : eqBinDistr bin.sent bin.sent = bin.exact := by
      simp [eqBinDistr, BinDistr.sent, BinDistr.exact, eqBinRangeValue_self]
    rw [List.map_cons, allEq_cons_self, hbin, List.all_cons, ih]
    cases bin.exact <;> simp

/-- Bins that arrived are copied. -/
theorem returns_cpKpmBinRangeDef {d d' : BinRangeDef}
    (h : Arrives kpmEncBinRangeDef kpmDecBinRangeDef d d') : (cpKpmBinRangeDef d').Returns := by
  obtain ⟨hlen, -, -, rfl⟩ := arrives_binRangeDef.mp h
  have hpos : 0 < d.binXLst.length := by omega
  simp [cpKpmBinRangeDef, assert, hpos]

/-- The comparison of bins that arrived with themselves comes back. -/
theorem eqKpmBinRangeDef_self {d d' : BinRangeDef}
    (h : Arrives kpmEncBinRangeDef kpmDecBinRangeDef d d') :
    eqKpmBinRangeDef d' d' = next d.exact := by
  obtain ⟨-, -, -, rfl⟩ := arrives_binRangeDef.mp h
  rw [eqKpmBinRangeDef, allEq_binDistr, BinRangeDef.exact]
  cases d.binXLst.all BinDistr.exact <;> rfl

/-! ## Conditions -/

/-- The value of a test is a number. -/
def TestCondValue.compared : TestCondValue → Bool
  | realValue v => !v.isNaN
  | _ => true

def TestInfo.compared (t : TestInfo) : Bool := t.testCondValue.all TestCondValue.compared

/-- A part of a test that is not equal is an assertion that fails. -/
theorem eqTestPart_self {α : Type} {eq : α → α → Outcome Bool} (o : Option α) :
    (eqTestPart eq o o).Agrees ∧ ((eqTestPart eq o o).Returns ↔ ∀ a ∈ o, eq a a = next true) := by
  cases o with
  | none => simp [eqTestPart, agrees_next]
  | some a =>
    constructor
    · intro b hb
      simp only [eqTestPart, bind_eq_next, pure_eq, next_inj] at hb
      obtain ⟨_, -, _, -, rfl⟩ := hb
      rfl
    · simp [eqTestPart, returns_bind, Option.mem_def]

/-- A test that arrived is compared where its value is a number, and copied and
released in any case. -/
theorem testInfo_handles {t t' : TestInfo} (h : Arrives kpmEncTestInfoAsn kpmDecTestInfoAsn t t') :
    Handles cpKpmTestInfo eqTestInfo freeTestInfo t' true t.compared true := by
  obtain ⟨hbits, rfl⟩ := arrives_testInfo.mp h
  obtain ⟨type, cond, testCond, value⟩ := t'
  have hcond : eqTestPart (fun a b => next (a == b)) testCond testCond = next true :=
    (eqTestPart_self testCond).1.eq_next ((eqTestPart_self testCond).2.mpr (by simp))
  have heq : eqTestInfo ⟨type, cond, testCond, value⟩ ⟨type, cond, testCond, value⟩ =
      eqTestPart eqTestCondValue value value := by
    simp [eqTestInfo, hcond]
  have hvalue : ∀ v ∈ value, (∀ b, v ≠ .bitStringValue b) := by
    rintro v hv b rfl
    exact hbits b hv
  constructor
  · simp only [cpKpmTestInfo, pure_eq, returns_map, iff_true, returns_opt]
    intro v hv
    cases v with
    | bitStringValue b => exact absurd rfl (hvalue _ hv b)
    | _ => exact returns_next _
  · rw [heq]
    exact (eqTestPart_self value).1
  · rw [heq, (eqTestPart_self value).2]
    cases value with
    | none => simp [TestInfo.compared]
    | some v =>
      cases v with
      | bitStringValue b => exact absurd rfl (hvalue _ rfl b)
      | _ => simp [TestInfo.compared, TestCondValue.compared, eqTestCondValue, Doubles.beq_self]
  · simp only [freeTestInfo, pure_eq, returns_map, iff_true, returns_opt]
    intro v hv
    cases v with
    | bitStringValue b => exact absurd rfl (hvalue _ hv b)
    | _ => exact returns_next _

def CondInfo.copied : CondInfo → Bool
  | labelInfo l => l.copied
  | testInfo _ => true

def CondInfo.compared : CondInfo → Bool
  | labelInfo _ => true
  | testInfo t => t.compared

def CondInfo.released : CondInfo → Bool
  | labelInfo l => l.released
  | testInfo _ => true

/-- **A condition is handled** as the label or the test that it is. -/
theorem matchingCond_handles {c c' : MatchingCondFrm3}
    (h : Arrives kpmEncMatchingCondAsn kpmDecMatchingCondAsn c c') :
    Handles cpKpmMatchingCondFrm3 eqMatchingCondFrm3 freeMatchingCondFrm3 c' c.cond.copied
      c.cond.compared c.cond.released := by
  obtain ⟨hcond, hor, hor'⟩ := arrives_matchingCond.mp h
  have hall : c'.logicalOr.all (· = .trueValue) = true := by
    rw [hor']
    rcases hor'' : c.logicalOr with _ | _ | _
    · rfl
    · rfl
    · exact absurd hor'' hor
  have hcp : (cpKpmMatchingCondFrm3 c').Returns ↔ (cpCondInfo c'.cond).Returns := by
    simp only [cpKpmMatchingCondFrm3, assert_of hall, next_bind, pure_eq, returns_map]
  have hagrees : (eqMatchingCondFrm3 c' c').Agrees := by
    intro b hb
    simp only [eqMatchingCondFrm3, bind_eq_next, pure_eq, next_inj, beq_self_eq_true] at hb
    obtain ⟨_, -, rfl⟩ := hb
    rfl
  have heq : (eqMatchingCondFrm3 c' c').Returns ↔ (eqCondInfo c'.cond c'.cond).Returns := by
    simp only [eqMatchingCondFrm3, pure_eq, returns_map]
  cases hc : c.cond with
  | labelInfo l =>
    rw [hc] at hcond
    obtain ⟨l', hl', hl⟩ := arrives_condInfo_label.mp hcond
    have hlabel := label_handles hl
    constructor
    · rw [hcp, ← hl']
      simp only [cpCondInfo, pure_eq, returns_map]
      exact hlabel.cp
    · exact hagrees
    · rw [heq, ← hl', eqCondInfo, returns_must hlabel.agrees]
      exact hlabel.eq
    · rw [freeMatchingCondFrm3, ← hl']
      exact hlabel.free
  | testInfo t =>
    rw [hc] at hcond
    obtain ⟨t', ht', ht⟩ := arrives_condInfo_test.mp hcond
    have htest := testInfo_handles ht
    constructor
    · rw [hcp, ← ht']
      simp only [cpCondInfo, pure_eq, returns_map]
      exact htest.cp
    · exact hagrees
    · rw [heq, ← ht', eqCondInfo, returns_must htest.agrees]
      exact htest.eq
    · rw [freeMatchingCondFrm3, ← ht']
      exact htest.free

/-- A condition of format 4 is a test. -/
theorem matchingCondFrm4_handles {c c' : MatchingCondFrm4}
    (h : Arrives kpmEncMatchingCondFrm4Asn kpmDecMatchingCondFrm4Asn c c') :
    Handles cpMatchingCondFrm4 eqMatchingCondFrm4 freeMatchingCondFrm4 c' true
      c.testInfoLst.compared true := by
  have htest := testInfo_handles (arrives_matchingCondFrm4.mp h).1
  constructor
  · rw [← htest.cp]
    simp only [cpMatchingCondFrm4, pure_eq, returns_map]
  · rw [eqMatchingCondFrm4, beq_self_eq_true]
    exact htest.agrees.both agrees_next
  · rw [eqMatchingCondFrm4, returns_both htest.agrees, and_iff_left (returns_next _)]
    exact htest.eq
  · exact htest.free

/-! ### Measurements under conditions -/

def MeasInfoFrm3.copied (i : MeasInfoFrm3) : Bool := i.matchingCondLst.all (·.cond.copied)

def MeasInfoFrm3.compared (i : MeasInfoFrm3) : Bool := i.matchingCondLst.all (·.cond.compared)

def MeasInfoFrm3.released (i : MeasInfoFrm3) : Bool := i.matchingCondLst.all (·.cond.released)

/-- The bins of a measurement, if it has any, are found equal to themselves. -/
def MeasInfoFrm3.exact (i : MeasInfoFrm3) : Bool := i.binRangeDef.all BinRangeDef.exact

/-- The conditions of the measurements up to the first whose bins are not equal to
themselves: the comparison ends there. -/
def comparedUpTo : List MeasInfoFrm3 → Bool
  | [] => true
  | i :: is => i.compared && (!i.exact || comparedUpTo is)

/-- When a measurement under conditions is copied and released. -/
theorem measInfoCond_cp_free {i i' : MeasInfoFrm3}
    (h : Arrives kpmEncMeasInfoCondAsn kpmDecMeasInfoCondAsn i i') :
    ((cpMeasInfoFrm3 i').Returns ↔ i.copied = true) ∧
      ((freeMeasInfoFrm3 i').Returns ↔ i.released = true) := by
  obtain ⟨-, ⟨-, hconds⟩, hbins⟩ := arrives_measInfoCond.mp h
  have hlst := Handles.list hconds fun _ _ => matchingCond_handles
  have hcpbins : (opt cpKpmBinRangeDef i'.binRangeDef).Returns :=
    returns_opt_of_rel hbins fun _ _ => returns_cpKpmBinRangeDef
  constructor
  · simp only [cpMeasInfoFrm3, pure_eq, returns_map₂, and_iff_left hcpbins]
    exact hlst.cp
  · exact hlst.free

/-- When a measurement under conditions is compared: its conditions come first, and then its bins.
-/
theorem eqMeasInfoFrm3_self {i i' : MeasInfoFrm3}
    (h : Arrives kpmEncMeasInfoCondAsn kpmDecMeasInfoCondAsn i i') :
    ((eqMeasInfoFrm3 i' i').Returns ↔ i.compared = true) ∧
      (i.compared = true → eqMeasInfoFrm3 i' i' = next i.exact) := by
  obtain ⟨-, ⟨-, hconds⟩, hbins⟩ := arrives_measInfoCond.mp h
  have hlst := Handles.list hconds fun _ _ => matchingCond_handles
  have heqbins : eqPtr eqKpmBinRangeDef i'.binRangeDef i'.binRangeDef = next i.exact :=
    eqPtr_self_of_rel hbins fun _ _ => eqKpmBinRangeDef_self
  have hself : eqMeasInfoFrm3 i' i' =
      both (allEq eqMatchingCondFrm3 i'.matchingCondLst i'.matchingCondLst) (next i.exact) := by
    rw [eqMeasInfoFrm3, eqMeasType_self, both_true, heqbins]
  rw [hself]
  refine ⟨?_, fun hcompared => ?_⟩
  · rw [returns_both hlst.agrees, and_iff_left (returns_next _)]
    exact hlst.eq
  · rw [hlst.agrees.eq_next (hlst.eq.mpr hcompared), both_true]

/-- **The comparison of the measurements** ends at the first whose bins differ
from themselves. -/
theorem returns_allEq_measInfoFrm3 {is is' : List MeasInfoFrm3}
    (h : List.Forall₂ (Arrives kpmEncMeasInfoCondAsn kpmDecMeasInfoCondAsn) is is') :
    (allEq eqMeasInfoFrm3 is' is').Returns ↔ comparedUpTo is = true := by
  induction h with
  | nil => simp [comparedUpTo]
  | @cons i i' is is' hi _ ih =>
    obtain ⟨hreturns, hnext⟩ := eqMeasInfoFrm3_self hi
    rw [allEq_cons_self, comparedUpTo, Bool.and_eq_true, ← hreturns]
    constructor
    · rintro ⟨b, hb⟩
      obtain ⟨a, ha, hb⟩ := bind_eq_next.mp hb
      refine ⟨⟨a, ha⟩, ?_⟩
      rw [hnext (hreturns.mp ⟨a, ha⟩), next_inj] at ha
      subst ha
      cases hexact : i.exact with
      | false => rfl
      | true =>
        rw [hexact, if_pos rfl] at hb
        simpa using ih.mp ⟨b, hb⟩
    · rintro ⟨hi', hrest⟩
      rw [hnext (hreturns.mp hi')]
      cases hexact : i.exact with
      | false => exact returns_next _
      | true =>
        rw [hexact] at hrest
        exact ih.mpr hrest

/-! ## UEs -/

/-- A UE identity is copied and released in any case. -/
theorem ueId_handles {ue ue' : UeId} (h : Arrives encUeIdAsn decUeIdAsn ue ue') :
    Handles (fun ue => next (cpUeIdE2sm ue)) eqUeIdE2sm freeNothing ue' true ue.comparable true := by
  have hself := eqUeIdE2sm_self ue'
  rw [comparable_of_arrives h] at hself
  exact ⟨by simp, hself.1, hself.2, by simp [freeNothing]⟩

/-- The UEs matched in a period have what their comparison needs. -/
def UeIdGranPeriod.compared : UeIdGranPeriod → Bool
  | noneMatched _ => true
  | oneOrMoreMatched ues => ues.all UeId.comparable

/-- UEs that matched in a period are copied and compared one by one. -/
theorem ueIdGranPeriod_handles {p p' : UeIdGranPeriod}
    (h : Arrives kpmEncUeIdGranPeriodAsn decUeIdGranPeriod p p') :
    Handles (fun p => next (cpKpmUeIdGranPeriodLst p)) eqKpmUeIdGranPeriodLst freeNothing p' true
      p.compared true := by
  cases p with
  | noneMatched v =>
    obtain rfl := arrives_noneMatched.mp h
    exact ⟨by simp, agrees_next, by simp [eqKpmUeIdGranPeriodLst, UeIdGranPeriod.compared],
      by simp [freeNothing]⟩
  | oneOrMoreMatched ues =>
    obtain ⟨ues', rfl, -, hues⟩ := arrives_oneOrMoreMatched.mp h
    have hlst := Handles.list hues fun _ _ => ueId_handles
    exact ⟨by simp, hlst.agrees, hlst.eq, by simp [freeNothing]⟩

def MeasInfoCondUe.copied (i : MeasInfoCondUe) : Bool := i.matchingCondLst.all (·.cond.copied)

def MeasInfoCondUe.compared (i : MeasInfoCondUe) : Bool :=
  i.matchingCondLst.all (·.cond.compared) && i.ueIdMatchedLst.all UeId.comparable &&
    (i.ueIdGranPeriodLst.getD []).all UeIdGranPeriod.compared

def MeasInfoCondUe.released (i : MeasInfoCondUe) : Bool := i.matchingCondLst.all (·.cond.released)

/-- **Measurements of UEs under conditions** are handled where the conditions are,
and compared if the UEs are too. -/
theorem measInfoCondUe_handles {i i' : MeasInfoCondUe}
    (h : Arrives kpmEncMeasInfoCondUeAsn kpmDecMeasInfoCondUeAsn i i') :
    Handles cpKpmMeasInfoCondUe eqKpmMeasInfoCondUe freeKpmMeasInfoCondUe i' i.copied i.compared
      i.released := by
  obtain ⟨-, ⟨-, hconds⟩, ⟨-, hues⟩, hperiods⟩ := arrives_measInfoCondUe.mp h
  have hperiods' : List.Forall₂ (Arrives kpmEncUeIdGranPeriodAsn decUeIdGranPeriod)
      (i.ueIdGranPeriodLst.getD []) (i'.ueIdGranPeriodLst.getD []) := by
    obtain ⟨_, _, _, periods⟩ := i
    obtain ⟨_, _, _, periods'⟩ := i'
    cases hperiods with
    | none => exact .nil
    | some hlst => exact (arrives_sized.mp hlst).2
  have hcond := Handles.list hconds fun _ _ => matchingCond_handles
  have hue := Handles.list hues fun _ _ => ueId_handles
  have hperiod := Handles.list hperiods' fun _ _ => ueIdGranPeriod_handles
  constructor
  · simp only [cpKpmMeasInfoCondUe, pure_eq, returns_map]
    exact hcond.cp
  · rw [eqKpmMeasInfoCondUe, eqMeasType_self, both_true, allEqUpTo_self]
    exact hcond.agrees.both (hue.agrees.both hperiod.agrees)
  · rw [eqKpmMeasInfoCondUe, eqMeasType_self, both_true, allEqUpTo_self,
      returns_both hcond.agrees, returns_both hue.agrees, hcond.eq, hue.eq, hperiod.eq,
      MeasInfoCondUe.compared, Bool.and_eq_true, Bool.and_eq_true, and_assoc]
  · exact hcond.free

/-! ## Indication messages -/

def IndMsgFrm1.copied (m : IndMsgFrm1) : Bool :=
  m.measDataLst.all MeasData.copied && m.measInfoLst.all MeasInfoFrm1.copied

def IndMsgFrm1.released (m : IndMsgFrm1) : Bool := m.measInfoLst.all MeasInfoFrm1.released

/-- **Format 1 is copied and released** by its labels and its records. -/
theorem indMsgFrm1_handles {m m' : IndMsgFrm1}
    (h : Arrives kpmEncIndMsgFrm1Asn kpmDecIndMsgFrm1Asn m m') :
    Handles cpKpmIndMsgFrm1 eqKpmIndMsgFrm1 freeKpmIndMsgFrm1 m' m.copied true m.released := by
  obtain ⟨⟨hlen, hdata⟩, ⟨hlen', hinfos⟩, -⟩ := arrives_indMsgFrm1.mp h
  have hd := Handles.list hdata fun _ _ => measData_handles
  have hi := Handles.list hinfos fun _ _ => measInfo_handles
  have hsize : 0 < m'.measDataLst.length ∧ m'.measDataLst.length < 65536 := by
    rw [← hdata.length_eq]
    simp only [maxMeasurementRecord] at hlen
    omega
  have hsize' : m'.measInfoLst.length < 65536 := by
    rw [← hinfos.length_eq]
    simp only [maxMeasurementInfo] at hlen'
    omega
  have hself : eqKpmIndMsgFrm1 m' m' = next true := by
    have hdata' : each (fun d => must (eqMeasDataLst d d)) m'.measDataLst = next ⟨⟩ := by
      obtain ⟨u, hu⟩ := returns_each.mpr fun d _ =>
        show (must (eqMeasDataLst d d)).Returns by
          rw [eqMeasDataLst_self]
          exact returns_next _
      exact hu
    have hinfos' : must (allEq eqMeasInfoFrm1 m'.measInfoLst m'.measInfoLst) = next ⟨⟩ := by
      rw [hi.agrees.eq_next (hi.eq.mpr (by simp))]
      rfl
    simp only [eqKpmIndMsgFrm1, beq_self_eq_true, both_true, hdata', hinfos', assert_of, next_bind,
      pure_eq]
  constructor
  · simp only [cpKpmIndMsgFrm1, assert_of (decide_eq_true hsize), assert_of (decide_eq_true hsize'),
      next_bind, pure_eq, returns_map₂, IndMsgFrm1.copied, Bool.and_eq_true]
    exact and_congr hd.cp hi.cp
  · rw [hself]
    exact agrees_next
  · simp [hself]
  · exact hi.free

def IndMsgFrm2.copied (m : IndMsgFrm2) : Bool :=
  m.measDataLst.all MeasData.copied && m.measInfoCondUeLst.all MeasInfoCondUe.copied

def IndMsgFrm2.compared (m : IndMsgFrm2) : Bool := m.measInfoCondUeLst.all MeasInfoCondUe.compared

def IndMsgFrm2.released (m : IndMsgFrm2) : Bool := m.measInfoCondUeLst.all MeasInfoCondUe.released

/-- Format 2 is copied, compared and released by its conditions and UEs, too. -/
theorem indMsgFrm2_handles {m m' : IndMsgFrm2}
    (h : Arrives kpmEncIndMsgFrm2Asn kpmDecIndMsgFrm2Asn m m') :
    Handles cpKpmIndMsgFrm2 eqKpmIndMsgFrm2 freeKpmIndMsgFrm2 m' m.copied m.compared
      m.released := by
  obtain ⟨⟨-, hdata⟩, ⟨-, hinfos⟩, -⟩ := arrives_indMsgFrm2.mp h
  have hd := Handles.list hdata fun _ _ => measData_handles
  have hi := Handles.list hinfos fun _ _ => measInfoCondUe_handles
  have hself : eqKpmIndMsgFrm2 m' m' =
      both (allEq eqKpmMeasInfoCondUe m'.measInfoCondUeLst m'.measInfoCondUeLst) (next true) := by
    have hdata' : must (allEq eqMeasDataLst m'.measDataLst m'.measDataLst) = next ⟨⟩ := by
      rw [hd.agrees.eq_next (hd.eq.mpr (by simp))]
      rfl
    simp only [eqKpmIndMsgFrm2, beq_self_eq_true, both_true, hdata', next_bind]
  constructor
  · simp only [cpKpmIndMsgFrm2, pure_eq, returns_map₂, IndMsgFrm2.copied, Bool.and_eq_true]
    exact and_congr hd.cp hi.cp
  · rw [hself]
    exact hi.agrees.both agrees_next
  · rw [hself, returns_both hi.agrees, and_iff_left (returns_next _)]
    exact hi.eq
  · exact hi.free

def IndMsgFrm3.copied (m : IndMsgFrm3) : Bool := m.measReportPerUe.all (·.indMsgFormat1.copied)

def IndMsgFrm3.compared (m : IndMsgFrm3) : Bool :=
  m.measReportPerUe.all (·.ueMeasReportLst.comparable)

def IndMsgFrm3.released (m : IndMsgFrm3) : Bool := m.measReportPerUe.all (·.indMsgFormat1.released)

/-- The report of a UE is compared by its identity. -/
theorem measReportPerUe_handles {r r' : MeasReportPerUe}
    (h : Arrives encMeasReportPerUe decMeasReportPerUe r r') :
    Handles cpMeasReportPerUe eqMeasReportPerUe (fun r => freeKpmIndMsgFrm1 r.indMsgFormat1) r'
      r.indMsgFormat1.copied r.ueMeasReportLst.comparable r.indMsgFormat1.released := by
  obtain ⟨hue, hmsg⟩ := arrives_measReportPerUe.mp h
  have hu := ueId_handles hue
  have hm := indMsgFrm1_handles hmsg
  constructor
  · simp only [cpMeasReportPerUe, pure_eq, returns_map]
    exact hm.cp
  · exact hu.agrees.both hm.agrees
  · rw [eqMeasReportPerUe, returns_both hu.agrees, and_iff_left (hm.eq.mpr rfl)]
    exact hu.eq
  · exact hm.free

/-- **and format 3** by its reports. -/
theorem indMsgFrm3_handles {m m' : IndMsgFrm3}
    (h : Arrives kpmEncIndMsgFrm3Asn kpmDecIndMsgFrm3Asn m m') :
    Handles cpKpmIndMsgFrm3 eqKpmIndMsgFrm3 freeKpmIndMsgFrm3 m' m.copied m.compared
      m.released := by
  have hr := Handles.list (arrives_indMsgFrm3.mp h).2 fun _ _ => measReportPerUe_handles
  constructor
  · simp only [cpKpmIndMsgFrm3, pure_eq, returns_map]
    exact hr.cp
  · exact hr.agrees
  · exact hr.eq
  · exact hr.free

/-- The message is copied when it arrives. -/
def IndMsg.copied : IndMsg → Bool
  | frm1 m => m.copied
  | frm2 m => m.copied
  | frm3 m => m.copied

/-- The message is compared with itself when it arrives. -/
def IndMsg.compared : IndMsg → Bool
  | frm1 _ => true
  | frm2 m => m.compared
  | frm3 m => m.compared

/-- The message is released when it arrives. -/
def IndMsg.released : IndMsg → Bool
  | frm1 m => m.released
  | frm2 m => m.released
  | frm3 m => m.released

/-- **The indication messages that are handled when they arrive.** -/
theorem indMsg_handles {msg msg' : IndMsg} (h : Arrives indMsgPdu indMsgOfPdu msg msg') :
    Handles cpKpmIndMsg eqKpmIndMsg freeKpmIndMsg msg' msg.copied msg.compared msg.released := by
  cases msg with
  | frm1 m =>
    obtain ⟨m', rfl, hm⟩ := arrives_indMsg_frm1.mp h
    have hhandles := indMsgFrm1_handles hm
    refine ⟨?_, hhandles.agrees, hhandles.eq, hhandles.free⟩
    simp only [cpKpmIndMsg, pure_eq, returns_map]
    exact hhandles.cp
  | frm2 m =>
    obtain ⟨m', rfl, hm⟩ := arrives_indMsg_frm2.mp h
    have hhandles := indMsgFrm2_handles hm
    refine ⟨?_, hhandles.agrees, hhandles.eq, hhandles.free⟩
    simp only [cpKpmIndMsg, pure_eq, returns_map]
    exact hhandles.cp
  | frm3 m =>
    obtain ⟨m', rfl, hm⟩ := arrives_indMsg_frm3.mp h
    have hhandles := indMsgFrm3_handles hm
    refine ⟨?_, hhandles.agrees, hhandles.eq, hhandles.free⟩
    simp only [cpKpmIndMsg, pure_eq, returns_map]
    exact hhandles.cp

/-! ## Action definitions -/

def ActDefFrm1.copied (d : ActDefFrm1) : Bool := d.measInfoLst.all MeasInfoFrm1.copied

def ActDefFrm1.released (d : ActDefFrm1) : Bool := d.measInfoLst.all MeasInfoFrm1.released

/-- The bins of a measurement are copied, and comparing them comes back. -/
theorem measBinRangeItem_returns {i i' : MeasBinRangeInfo}
    (h : Arrives kpmEncMeasBinRangeItem kpmDecMeasBinRangeItem i i') :
    (cpKpmMeasBinRangeInfo i').Returns ∧ (eqKpmMeasBinRangeInfo i' i').Returns := by
  obtain ⟨-, hd⟩ := arrives_measBinRangeItem.mp h
  constructor
  · simp only [cpKpmMeasBinRangeInfo, pure_eq, returns_map]
    exact returns_cpKpmBinRangeDef hd
  · rw [eqKpmMeasBinRangeInfo, eqMeasType_self, both_true, eqKpmBinRangeDef_self hd]
    exact returns_next _

/-- A cell equals itself, or is missing twice. -/
theorem cellGlobalId_self (o : Option CellGlobalId) :
    eqPtr (fun a b => next (eqCellGlobalId a b)) o o = next true := by
  cases o <;> simp [eqPtr]

/-- **An action definition of format 1** is handled where its labels are; its bins
come last. -/
theorem actDefFrm1_handles {d d' : ActDefFrm1}
    (h : Arrives kpmEncActionDefFrm1Asn kpmDecActionDefFrm1Asn d d') :
    ((cpKpmActionDefFrm1 d').Returns ↔ d.copied = true) ∧ (eqKpmActionDefFrm1 d' d').Returns ∧
      ((freeKpmActionDefFrm1 d').Returns ↔ d.released = true) := by
  obtain ⟨⟨-, hinfos⟩, -, -, hbins⟩ := arrives_actDefFrm1.mp h
  have hi := Handles.list hinfos fun _ _ => measInfo_handles
  have hitems : ∀ i' ∈ d'.measBinInfoLst.getD [],
      (cpKpmMeasBinRangeInfo i').Returns ∧ (eqKpmMeasBinRangeInfo i' i').Returns := by
    obtain ⟨_, _, _, bins⟩ := d
    obtain ⟨_, _, _, bins'⟩ := d'
    cases hbins with
    | none => simp
    | some hlst =>
      intro i' hi'
      obtain ⟨i, -, harrives⟩ := exists_of_mem_forall₂ (arrives_sized.mp hlst).2 hi'
      exact measBinRangeItem_returns harrives
  have hcpbins : (opt (walk cpKpmMeasBinRangeInfo) d'.measBinInfoLst).Returns := by
    refine returns_opt.mpr fun bins' hbins' => returns_walk.mpr fun i' hi' => (hitems i' ?_).1
    rw [hbins']
    exact hi'
  refine ⟨?_, ?_, hi.free⟩
  · simp only [cpKpmActionDefFrm1, pure_eq, returns_map₂, and_iff_left hcpbins]
    exact hi.cp
  · rw [eqKpmActionDefFrm1, hi.agrees.eq_next (hi.eq.mpr (by simp)), both_true, beq_self_eq_true,
      both_true, cellGlobalId_self, both_true]
    exact returns_allEq fun i' hi' => (hitems i' hi').2

def ActDefFrm3.copied (d : ActDefFrm3) : Bool := d.measInfoLst.all MeasInfoFrm3.copied

def ActDefFrm3.compared (d : ActDefFrm3) : Bool := comparedUpTo d.measInfoLst

def ActDefFrm3.released (d : ActDefFrm3) : Bool := d.measInfoLst.all MeasInfoFrm3.released

/-- **Format 3**: its bins are compared before the conditions of the next measurement. -/
theorem actDefFrm3_handles {d d' : ActDefFrm3}
    (h : Arrives kpmEncActionDefFrm3Asn kpmDecActionDefFrm3Asn d d') :
    ((cpKpmActionDefFrm3 d').Returns ↔ d.copied = true) ∧
      ((eqKpmActionDefFrm3 d' d').Returns ↔ d.compared = true) ∧
      ((freeKpmActionDefFrm3 d').Returns ↔ d.released = true) := by
  obtain ⟨⟨-, hinfos⟩, -, -⟩ := arrives_actDefFrm3.mp h
  refine ⟨?_, ?_, ?_⟩
  · simp only [cpKpmActionDefFrm3, pure_eq, returns_map, returns_walk, ActDefFrm3.copied,
      List.all_eq_true]
    exact forall_mem_iff_of_forall₂ hinfos fun _ _ hi => (measInfoCond_cp_free hi).1
  · have hrest : both (next (d'.granPeriodMs == d'.granPeriodMs))
        (eqPtr (fun a b => next (eqCellGlobalId a b)) d'.cellGlobalId d'.cellGlobalId) =
          next true := by
      rw [beq_self_eq_true, both_true, cellGlobalId_self]
    rw [eqKpmActionDefFrm3, hrest, ActDefFrm3.compared, ← returns_allEq_measInfoFrm3 hinfos]
    constructor
    · rintro ⟨b, hb⟩
      obtain ⟨a, ha, -⟩ := bind_eq_next.mp hb
      exact ⟨a, ha⟩
    · intro hall
      exact hall.both (returns_next _)
  · simp only [freeKpmActionDefFrm3, returns_each, ActDefFrm3.released, List.all_eq_true]
    exact forall_mem_iff_of_forall₂ hinfos fun _ _ hi => (measInfoCond_cp_free hi).2

/-- The definition is copied when it arrives. -/
def ActDef.copied : ActDef → Bool
  | frm1 d => d.copied
  | frm2 d => d.actionDefFormat1.copied
  | frm3 d => d.copied
  | frm4 d => d.actionDefFormat1.copied
  | frm5 d => d.actionDefFormat1.copied

/-- The definition is compared with itself when it arrives. -/
def ActDef.compared : ActDef → Bool
  | frm1 _ => true
  | frm2 d => d.ueId.comparable
  | frm3 d => d.compared
  | frm4 d => d.matchingCondLst.all (·.testInfoLst.compared)
  | frm5 d => d.ueIdLst.all UeId.comparable

/-- The definition is released when it arrives. -/
def ActDef.released : ActDef → Bool
  | frm1 d => d.released
  | frm2 d => d.actionDefFormat1.released
  | frm3 d => d.released
  | frm4 d => d.actionDefFormat1.released
  | frm5 d => d.actionDefFormat1.released

/-- **The action definitions that are handled when they arrive.** -/
theorem actDef_handles {d d' : ActDef} (h : Arrives actionDefPdu actionDefOfPdu d d') :
    ((cpKpmActionDef d').Returns ↔ d.copied = true) ∧
      ((eqKpmActionDef d' d').Returns ↔ d.compared = true) ∧
      ((freeKpmActionDef d').Returns ↔ d.released = true) := by
  cases d with
  | frm1 d =>
    obtain ⟨d', rfl, hd⟩ := arrives_actDef_frm1.mp h
    obtain ⟨hcp, heq, hfree⟩ := actDefFrm1_handles hd
    simp only [cpKpmActionDef, pure_eq, returns_map]
    exact ⟨hcp, iff_of_true heq rfl, hfree⟩
  | frm2 d =>
    obtain ⟨d', rfl, hd⟩ := arrives_actDef_frm2.mp h
    obtain ⟨hue, hd⟩ := arrives_actDefFrm2.mp hd
    obtain ⟨hcp, heq, hfree⟩ := actDefFrm1_handles hd
    have hu := ueId_handles hue
    simp only [cpKpmActionDef, cpKpmActionDefFrm2, pure_eq, returns_map]
    refine ⟨hcp, ?_, hfree⟩
    rw [eqKpmActionDef, eqKpmActionDefFrm2, returns_both hu.agrees, and_iff_left heq]
    exact hu.eq
  | frm3 d =>
    obtain ⟨d', rfl, hd⟩ := arrives_actDef_frm3.mp h
    simp only [cpKpmActionDef, pure_eq, returns_map]
    exact actDefFrm3_handles hd
  | frm4 d =>
    obtain ⟨d', rfl, hd⟩ := arrives_actDef_frm4.mp h
    obtain ⟨⟨-, hconds⟩, hd⟩ := arrives_actDefFrm4.mp hd
    obtain ⟨hcp, heq, hfree⟩ := actDefFrm1_handles hd
    have hc := Handles.list hconds fun _ _ => matchingCondFrm4_handles
    simp only [cpKpmActionDef, cpKpmActionDefFrm4, pure_eq, returns_map, returns_map₂]
    refine ⟨?_, ?_, ?_⟩
    · rw [and_iff_right (hc.cp.mpr (by simp))]
      exact hcp
    · rw [eqKpmActionDef, eqKpmActionDefFrm4, returns_both hc.agrees, and_iff_left heq]
      exact hc.eq
    · rw [freeKpmActionDef, freeKpmActionDefFrm4, returns_seq,
        and_iff_right (hc.free.mpr (by simp))]
      exact hfree
  | frm5 d =>
    obtain ⟨d', rfl, hd⟩ := arrives_actDef_frm5.mp h
    obtain ⟨⟨-, hues⟩, hd⟩ := arrives_actDefFrm5.mp hd
    obtain ⟨hcp, heq, hfree⟩ := actDefFrm1_handles hd
    have hu := Handles.list hues fun _ _ => ueId_handles
    simp only [cpKpmActionDef, cpKpmActionDefFrm5, pure_eq, returns_map]
    refine ⟨hcp, ?_, hfree⟩
    rw [eqKpmActionDef, eqKpmActionDefFrm5, returns_both hu.agrees, and_iff_left heq]
    exact hu.eq

/-! ## Values that were sent -/

/-- What one side sends and the other copies, compares and releases. -/
inductive KpmValue where
  | indMsg (msg : IndMsg)
  | actionDef (d : ActDef)
  | labelInfo (l : Label)
  deriving DecidableEq

namespace KpmValue

/-- The encoder of one side takes `v`, and the decoder of the other returns `v'`. -/
def Delivered {Buf Buf' : Type} (rtMsg : Asn1c IndMsgAsn Buf) (rtDef : Asn1c ActDefAsn Buf') :
    KpmValue → KpmValue → Prop
  | indMsg msg, indMsg msg' =>
    ∃ b, kpmEncIndMsgAsn rtMsg msg = next b ∧ kpmDecIndMsgAsn rtMsg b = next msg'
  | actionDef d, actionDef d' =>
    ∃ b, kpmEncActionDefAsn rtDef d = next b ∧ kpmDecActionDefAsn rtDef b = next d'
  | labelInfo l, labelInfo l' => Arrives kpmEncLabelInfoAsn kpmDecLabelInfoAsn l l'
  | _, _ => False

/-- The copy, the comparison with itself and the release come back: none of their
assertions fails. -/
def Served : KpmValue → Prop
  | indMsg msg =>
    (cpKpmIndMsg msg).Returns ∧ (eqKpmIndMsg msg msg).Returns ∧ (freeKpmIndMsg msg).Returns
  | actionDef d =>
    (cpKpmActionDef d).Returns ∧ (eqKpmActionDef d d).Returns ∧ (freeKpmActionDef d).Returns
  | labelInfo l => (cpLabelInfo l).Returns ∧ (eqLabelInfo l l).Returns ∧ (freeLabelInfo l).Returns

/-- The value is in all three sets. -/
def shared : KpmValue → Bool
  | indMsg msg => msg.copied && msg.compared && msg.released
  | actionDef d => d.copied && d.compared && d.released
  | labelInfo l => l.copied && l.released

end KpmValue

/-- What is encoded through the runtime and decoded again arrives, where the
runtime decodes back what it encodes. -/
theorem arrives_of_runtime {α Pdu Buf : Type} {rt : Asn1c Pdu Buf} {enc : α → Outcome Pdu}
    {dec : Pdu → Outcome α} (hrt : ∀ pdu b, rt.encode pdu = some b → rt.decode b = some pdu)
    {x x' : α} {b : Buf} (henc : (enc x >>= encode rt) = next b)
    (hdec : (decode rt b >>= dec) = next x') : Arrives enc dec x x' := by
  obtain ⟨pdu, hpdu, hb⟩ := bind_eq_next.mp henc
  obtain ⟨pdu', hpdu', hx'⟩ := bind_eq_next.mp hdec
  simp only [encode, bind_eq_next, expect_eq_next, pure_eq, next_inj] at hb
  obtain ⟨b', hb', _, -, rfl⟩ := hb
  simp only [decode, bind_eq_next, expect_eq_next] at hpdu'
  obtain ⟨_, -, hback⟩ := hpdu'
  rw [hrt pdu b' hb', Option.some_inj] at hback
  rw [← hback] at hx'
  exact ⟨pdu, hpdu, hx'⟩

/-- **The values with one domain**: what the other side made of `v` is copied,
compared and released exactly when `v` is in all three sets. -/
theorem kpm_domains {Buf Buf' : Type} (rtMsg : Asn1c IndMsgAsn Buf)
    (rtDef : Asn1c ActDefAsn Buf')
    (hmsg : ∀ pdu b, rtMsg.encode pdu = some b → rtMsg.decode b = some pdu)
    (hdef : ∀ pdu b, rtDef.encode pdu = some b → rtDef.decode b = some pdu)
    (v v' : KpmValue) (h : KpmValue.Delivered rtMsg rtDef v v') :
    v'.Served ↔ v.shared = true := by
  cases v with
  | indMsg msg =>
    cases v' with
    | indMsg msg' =>
      obtain ⟨b, henc, hdec⟩ := h
      have hh := indMsg_handles (arrives_of_runtime hmsg henc hdec)
      rw [KpmValue.Served, KpmValue.shared, hh.cp, hh.eq, hh.free, Bool.and_eq_true,
        Bool.and_eq_true, and_assoc]
    | actionDef d' => exact h.elim
    | labelInfo l' => exact h.elim
  | actionDef d =>
    cases v' with
    | actionDef d' =>
      obtain ⟨b, henc, hdec⟩ := h
      obtain ⟨hcp, heq, hfree⟩ := actDef_handles (arrives_of_runtime hdef henc hdec)
      rw [KpmValue.Served, KpmValue.shared, hcp, heq, hfree, Bool.and_eq_true, Bool.and_eq_true,
        and_assoc]
    | indMsg msg' => exact h.elim
    | labelInfo l' => exact h.elim
  | labelInfo l =>
    cases v' with
    | labelInfo l' =>
      have hl := label_handles h
      rw [KpmValue.Served, KpmValue.shared, hl.cp, hl.eq, hl.free, Bool.and_eq_true]
      simp
    | indMsg msg' => exact h.elim
    | actionDef d' => exact h.elim

/-! ### Worked values -/

/-- A runtime whose encodings are the structures themselves. -/
def echo (Pdu : Type) : Asn1c Pdu Pdu where
  encode := some
  length := fun _ => 64
  decode := some

/-- A runtime whose encoding is the structure decodes it. -/
theorem echo_decodes {Pdu : Type} (pdu b : Pdu) (h : (echo Pdu).encode pdu = some b) :
    (echo Pdu).decode b = some pdu := h.symm

/-- A measurement by id, with one record and one label. -/
def oneMeasurement (l : Label) : IndMsg :=
  .frm1 ⟨[⟨[.integer 7], none⟩], [⟨.id 1, [l]⟩], some 1000⟩

theorem kpm_domains_noLabel :
    (KpmValue.indMsg (oneMeasurement { noLabel := some .trueValue })).Served :=
  (kpm_domains (echo IndMsgAsn) (echo ActDefAsn) echo_decodes echo_decodes
    (.indMsg (oneMeasurement { noLabel := some .trueValue }))
    (.indMsg (oneMeasurement { noLabel := some .trueValue })) ⟨_, rfl, rfl⟩).mpr rfl

/-- A label with a 5QI is encoded and decoded, and then not copied. -/
theorem kpm_domains_differ :
    ¬ ∀ (Buf Buf' : Type) (rtMsg : Asn1c IndMsgAsn Buf) (rtDef : Asn1c ActDefAsn Buf'),
      (∀ pdu b, rtMsg.encode pdu = some b → rtMsg.decode b = some pdu) →
      (∀ pdu b, rtDef.encode pdu = some b → rtDef.decode b = some pdu) →
      ∀ v v' : KpmValue, KpmValue.Delivered rtMsg rtDef v v' → v'.Served := by
  intro h
  obtain ⟨⟨m, hcp⟩, -⟩ := h _ _ (echo IndMsgAsn) (echo ActDefAsn) echo_decodes echo_decodes
    (.indMsg (oneMeasurement { fiveQi := some 9 }))
    (.indMsg (oneMeasurement { fiveQi := some 9 })) ⟨_, rfl, rfl⟩
  exact absurd hcp nofun

end Kpm

end FlexRic
