import FlexRic.Kpm.Arrival
import FlexRic.Kpm.Constraints

/-!
# FlexRic.Kpm.RoundTrip

Which action definitions, indication headers, indication messages and RAN
function definitions of the KPM service model come back from the decoder.

* `Survives`: the conversions to the generated structures and back lose nothing
  of the value.  Lists are within their bounds; what both sides refuse, drop or
  cut off is not there.
* `expressible`: the structure is within its constraints.
* `Fits`: its encoding is at most 4 KiB.

`kpm_roundTrip`: a message comes back exactly when it has all three.
-/

namespace FlexRic

namespace Kpm

open Outcome Ue

/-! ## Labels and measurements -/

/-- `noLabel` alone, or a label without the fields that are refused or dropped,
whose PLMN and slice fit their octets. -/
def Label.Survives (l : Label) : Prop :=
  l = { noLabel := some .trueValue } ∨
    l.noLabel = none ∧ l.unhandled = false ∧ l.avg ≠ some .endValue ∧
      (l.ssbIndex = none ∧ l.nonGobBeamformModeIndex = none ∧ l.mimoModeIndex = none) ∧
      (∀ p ∈ l.plmnId, PlmnFits p) ∧ ∀ s ∈ l.sliceId, ∀ d ∈ s.sD, d.toNat < 2 ^ 24

/-- A slice differentiator comes back below `2 ^ 24`. -/
theorem int24_back (x : UInt32) :
    bufferToInt24 (int24ToBuffer x) = x ↔ x.toNat < 2 ^ 24 := by
  have hoctets : bufferToInt24 (int24ToBuffer x) = (x.toNat % 2 ^ 24).toUInt32 := by
    simp only [bufferToInt24, int24ToBuffer, octet_cons_zero, octet_cons_succ, toNat_toUInt8]
    rw [low_octets (Nat.mod_lt _ (by decide)) (Nat.mod_lt _ (by decide)),
      Nat.shiftRight_eq_div_pow, Nat.shiftRight_eq_div_pow]
    congr 1
    omega
  have hlt : x.toNat < 2 ^ 32 := x.toNat_lt
  rw [hoctets, ← UInt32.toNat_inj, Nat.toUInt32, UInt32.toNat_ofNat']
  omega

/-- A slice comes back if its differentiator fits three octets. -/
theorem sNssai_back (s : SNssai) :
    decSNssai (encSNssai s) = s ↔ ∀ d ∈ s.sD, d.toNat < 2 ^ 24 := by
  obtain ⟨sST, sD⟩ := s
  have hsST : sST.toNat.toUInt8 = sST := by rw [toUInt8_eq_iff sST.toNat_lt]
  cases sD <;> simp [decSNssai, encSNssai, hsST, int24_back]

theorem map_eq_self {α : Type} {f : α → α} {x : Option α} : x.map f = x ↔ ∀ a ∈ x, f a = a := by
  cases x <;> simp

/-- **A label comes back** where it has no more than what is encoded. -/
theorem label_back (l : Label) :
    Arrives kpmEncLabelInfoAsn kpmDecLabelInfoAsn l l ↔ l.Survives := by
  rw [arrives_labelInfo, Label.Survives]
  have hno : l.noLabel = some .trueValue ∧ l = { noLabel := some .trueValue } ↔
      l = { noLabel := some .trueValue } :=
    and_iff_right_of_imp fun h => by rw [h]
  have hsent (h : l.noLabel = none) (hun : l.unhandled = false) : l = l.sent ↔
      (l.ssbIndex = none ∧ l.nonGobBeamformModeIndex = none ∧ l.mimoModeIndex = none) ∧
        (∀ p ∈ l.plmnId, PlmnFits p) ∧ ∀ s ∈ l.sliceId, ∀ d ∈ s.sD, d.toNat < 2 ^ 24 := by
    simp only [Label.unhandled, Bool.or_eq_false_iff, Option.isSome_eq_false_iff,
      Option.isNone_iff_eq_none] at hun
    simp only [← plmn_roundTrip, ← sNssai_back]
    rw [← map_eq_self, ← map_eq_self]
    obtain ⟨⟩ := l
    simp_all [Label.sent, eq_comm, and_assoc]
    tauto
  rw [hno]
  refine or_congr_right (and_congr_right fun h => and_congr_right fun hun => ?_)
  rw [hsent h hun]

def MeasInfoFrm1.Survives (i : MeasInfoFrm1) : Prop :=
  (1 ≤ i.labelInfoLst.length ∧ i.labelInfoLst.length ≤ maxLabelInfo) ∧
    ∀ l ∈ i.labelInfoLst, l.Survives

/-- **A measurement comes back** where its labels do. -/
theorem measInfo_back (i : MeasInfoFrm1) :
    Arrives kpmEncMeasInfoAsn kpmDecMeasInfoAsn i i ↔ i.Survives := by
  simp only [arrives_measInfo, List.forall₂_same, label_back, MeasInfoFrm1.Survives, true_and]

/-- A missing value has no address. -/
def MeasRecord.Survives : MeasRecord → Prop
  | integer _ | real _ => True
  | noValue p => p = 0

/-- A record comes back unless it is a missing value with an address. -/
theorem measRecord_back (r : MeasRecord) :
    Arrives encMeasRecord decMeasRecord r r ↔ r.Survives := by
  rw [arrives_measRecord]
  cases r <;> simp [MeasRecord.sent, MeasRecord.Survives]

def MeasData.Survives (d : MeasData) : Prop :=
  (1 ≤ d.measRecordLst.length ∧ d.measRecordLst.length ≤ maxMeasurementValue) ∧
    (∀ r ∈ d.measRecordLst, r.Survives) ∧ d.incompleteFlag ≠ some .endValue

/-- Records come back one by one. -/
theorem measData_back (d : MeasData) :
    Arrives kpmEncMeasDataAsn kpmDecMeasDataAsn d d ↔ d.Survives := by
  simp only [arrives_measData, List.forall₂_same, measRecord_back, MeasData.Survives, and_true,
    and_assoc]

/-- The start or the end of a bin has 32 bits. -/
def BinRangeValue.Survives : BinRangeValue → Prop
  | integer v => v.toNat < 2 ^ 32
  | real _ => True

/-- A bound of a bin comes back in 32 bits. -/
theorem binRangeValue_back (v : BinRangeValue) : v = v.sent ↔ v.Survives := by
  cases v with
  | integer v =>
    have hlt : v.toNat < 2 ^ 64 := v.toNat_lt
    rw [BinRangeValue.sent, BinRangeValue.Survives, BinRangeValue.integer.injEq,
      ← UInt64.toNat_inj, Nat.toUInt64, UInt64.toNat_ofNat']
    omega
  | real v => simp [BinRangeValue.sent, BinRangeValue.Survives]

/-- There is one axis, with bins of 32 bits. -/
def BinRangeDef.Survives (d : BinRangeDef) : Prop :=
  (1 ≤ d.binXLst.length ∧ d.binXLst.length ≤ maxBin) ∧
    (∀ bin ∈ d.binXLst, bin.startValue.Survives ∧ bin.endValue.Survives) ∧
    d.binYLst = none ∧ d.binZLst = none

/-- Bins come back on one axis. -/
theorem binRangeDef_back (d : BinRangeDef) :
    Arrives kpmEncBinRangeDef kpmDecBinRangeDef d d ↔ d.Survives := by
  obtain ⟨xs, ys, zs⟩ := d
  have hbin (bin : BinDistr) :
      bin = bin.sent ↔ bin.startValue.Survives ∧ bin.endValue.Survives := by
    obtain ⟨i, start, stop⟩ := bin
    rw [BinDistr.sent, BinDistr.mk.injEq, ← binRangeValue_back, ← binRangeValue_back]
    simp
  have hbins : xs = xs.map BinDistr.sent ↔
      ∀ bin ∈ xs, bin.startValue.Survives ∧ bin.endValue.Survives := by
    rw [← forall₂_eq_map, List.forall₂_same]
    simp only [hbin]
  rw [arrives_binRangeDef, BinRangeDef.Survives, ← hbins]
  simp only [BinRangeDef.mk.injEq]
  tauto

def MeasBinRangeInfo.Survives (i : MeasBinRangeInfo) : Prop := i.binRangeDef.Survives

/-- Bins of a measurement do where these do. -/
theorem measBinRangeItem_back (i : MeasBinRangeInfo) :
    Arrives kpmEncMeasBinRangeItem kpmDecMeasBinRangeItem i i ↔ i.Survives := by
  simp only [arrives_measBinRangeItem, binRangeDef_back, MeasBinRangeInfo.Survives, true_and]

/-- A granularity period of 0 is not sent. -/
theorem granPeriod_back (ms : UInt32) :
    Arrives encGranPeriod decGranPeriod ms ms ↔ 1 ≤ ms.toNat := by
  rw [arrives_granPeriod, and_iff_left rfl]

/-! ## Conditions -/

/-- The value is not a bit string. -/
def TestInfo.Survives (t : TestInfo) : Prop := ∀ b, t.testCondValue ≠ some (.bitStringValue b)

/-- A test comes back unless its value is a bit string. -/
theorem testInfo_back (t : TestInfo) :
    Arrives kpmEncTestInfoAsn kpmDecTestInfoAsn t t ↔ t.Survives := by
  rw [arrives_testInfo, and_iff_left rfl, TestInfo.Survives]

def CondInfo.Survives : CondInfo → Prop
  | labelInfo l => l.Survives
  | testInfo t => t.Survives

/-- A condition comes back where its label or its test does. -/
theorem condInfo_back (c : CondInfo) : Arrives encCondInfo decCondInfo c c ↔ c.Survives := by
  cases c with
  | labelInfo l => simp [arrives_condInfo_label, label_back, CondInfo.Survives]
  | testInfo t => simp [arrives_condInfo_test, testInfo_back, CondInfo.Survives]

def MatchingCondFrm3.Survives (c : MatchingCondFrm3) : Prop :=
  c.cond.Survives ∧ c.logicalOr ≠ some .endValue

/-- A condition of format 3 comes back with its logical or. -/
theorem matchingCond_back (c : MatchingCondFrm3) :
    Arrives kpmEncMatchingCondAsn kpmDecMatchingCondAsn c c ↔ c.Survives := by
  simp only [arrives_matchingCond, condInfo_back, MatchingCondFrm3.Survives, and_true]

/-- A condition of format 4 is not part of a disjunction. -/
def MatchingCondFrm4.Survives (c : MatchingCondFrm4) : Prop :=
  c.testInfoLst.Survives ∧ c.logicalOr = none

/-- A condition of format 4 comes back without a logical or, which is not sent. -/
theorem matchingCondFrm4_back (c : MatchingCondFrm4) :
    Arrives kpmEncMatchingCondFrm4Asn kpmDecMatchingCondFrm4Asn c c ↔ c.Survives := by
  simp only [arrives_matchingCondFrm4, testInfo_back, MatchingCondFrm4.Survives, and_self]

def MeasInfoFrm3.Survives (i : MeasInfoFrm3) : Prop :=
  ((1 ≤ i.matchingCondLst.length ∧ i.matchingCondLst.length ≤ maxConditionInfo) ∧
    ∀ c ∈ i.matchingCondLst, c.Survives) ∧ ∀ d ∈ i.binRangeDef, d.Survives

/-- A measurement under conditions comes back where all of them do. -/
theorem measInfoCond_back (i : MeasInfoFrm3) :
    Arrives kpmEncMeasInfoCondAsn kpmDecMeasInfoCondAsn i i ↔ i.Survives := by
  simp only [arrives_measInfoCond, List.forall₂_same, rel_self, matchingCond_back,
    binRangeDef_back, MeasInfoFrm3.Survives, true_and]

/-- The UEs matched in a granularity period. -/
def UeIdGranPeriod.Survives : UeIdGranPeriod → Prop
  | noneMatched v => v = .trueValue
  | oneOrMoreMatched ues => (1 ≤ ues.length ∧ ues.length ≤ maxUeId) ∧ ∀ ue ∈ ues, ue.ComesBack

/-- **A UE comes back** where its identity does, in all but the bits of an AMF id. -/
theorem ueId_arrives (ue : UeId) : Arrives encUeIdAsn decUeIdAsn ue ue ↔ ue.ComesBack :=
  ueId_back ue

/-- UEs that matched in a period come back where each does. -/
theorem ueIdGranPeriod_back (p : UeIdGranPeriod) :
    Arrives kpmEncUeIdGranPeriodAsn decUeIdGranPeriod p p ↔ p.Survives := by
  cases p with
  | noneMatched v => simp [arrives_noneMatched, UeIdGranPeriod.Survives]
  | oneOrMoreMatched ues =>
    simp only [arrives_oneOrMoreMatched, List.forall₂_same, ueId_arrives,
      UeIdGranPeriod.oneOrMoreMatched.injEq, exists_eq_left, UeIdGranPeriod.Survives]

def MeasInfoCondUe.Survives (i : MeasInfoCondUe) : Prop :=
  ((1 ≤ i.matchingCondLst.length ∧ i.matchingCondLst.length ≤ maxConditionInfo) ∧
    ∀ c ∈ i.matchingCondLst, c.Survives) ∧
  (i.ueIdMatchedLst.length ≤ maxUeId ∧ ∀ ue ∈ i.ueIdMatchedLst, ue.ComesBack) ∧
  ∀ ps ∈ i.ueIdGranPeriodLst, (1 ≤ ps.length ∧ ps.length ≤ maxUeId) ∧ ∀ p ∈ ps, p.Survives

/-- **A measurement with UEs comes back** where its conditions and the UEs do. -/
theorem measInfoCondUe_back (i : MeasInfoCondUe) :
    Arrives kpmEncMeasInfoCondUeAsn kpmDecMeasInfoCondUeAsn i i ↔ i.Survives := by
  simp only [arrives_measInfoCondUe, List.forall₂_same, rel_self, matchingCond_back,
    ueId_arrives, arrives_sized, ueIdGranPeriod_back, MeasInfoCondUe.Survives, true_and]

/-! ## Indication messages -/

def IndMsgFrm1.Survives (m : IndMsgFrm1) : Prop :=
  ((1 ≤ m.measDataLst.length ∧ m.measDataLst.length ≤ maxMeasurementRecord) ∧
    ∀ d ∈ m.measDataLst, d.Survives) ∧
  (m.measInfoLst.length ≤ maxMeasurementInfo ∧ ∀ i ∈ m.measInfoLst, i.Survives) ∧
  ∀ ms ∈ m.granPeriodMs, 1 ≤ ms.toNat

/-- **Format 1 comes back** with its records and measurements. -/
theorem indMsgFrm1_back (m : IndMsgFrm1) :
    Arrives kpmEncIndMsgFrm1Asn kpmDecIndMsgFrm1Asn m m ↔ m.Survives := by
  simp only [arrives_indMsgFrm1, List.forall₂_same, rel_self, measData_back, measInfo_back,
    granPeriod_back, IndMsgFrm1.Survives]

def IndMsgFrm2.Survives (m : IndMsgFrm2) : Prop :=
  ((1 ≤ m.measDataLst.length ∧ m.measDataLst.length ≤ maxMeasurementRecord) ∧
    ∀ d ∈ m.measDataLst, d.Survives) ∧
  ((1 ≤ m.measInfoCondUeLst.length ∧ m.measInfoCondUeLst.length ≤ maxMeasurementInfo) ∧
    ∀ i ∈ m.measInfoCondUeLst, i.Survives) ∧
  ∀ ms ∈ m.granPeriodMs, 1 ≤ ms.toNat

/-- Format 2 comes back with its UEs. -/
theorem indMsgFrm2_back (m : IndMsgFrm2) :
    Arrives kpmEncIndMsgFrm2Asn kpmDecIndMsgFrm2Asn m m ↔ m.Survives := by
  simp only [arrives_indMsgFrm2, List.forall₂_same, rel_self, measData_back, measInfoCondUe_back,
    granPeriod_back, IndMsgFrm2.Survives]

def MeasReportPerUe.Survives (r : MeasReportPerUe) : Prop :=
  r.ueMeasReportLst.ComesBack ∧ r.indMsgFormat1.Survives

/-- A report comes back with its UE. -/
theorem measReportPerUe_back (r : MeasReportPerUe) :
    Arrives encMeasReportPerUe decMeasReportPerUe r r ↔ r.Survives := by
  rw [arrives_measReportPerUe, indMsgFrm1_back, ueId_arrives, MeasReportPerUe.Survives]

def IndMsg.Survives : IndMsg → Prop
  | frm1 m => m.Survives
  | frm2 m => m.Survives
  | frm3 m => (1 ≤ m.measReportPerUe.length ∧ m.measReportPerUe.length ≤ maxUeMeasReport) ∧
      ∀ r ∈ m.measReportPerUe, r.Survives

/-- **An indication message comes back where it survives the conversions.** -/
theorem indMsg_back (msg : IndMsg) : Arrives indMsgPdu indMsgOfPdu msg msg ↔ msg.Survives := by
  cases msg with
  | frm1 m => simp [arrives_indMsg_frm1, indMsgFrm1_back, IndMsg.Survives]
  | frm2 m => simp [arrives_indMsg_frm2, indMsgFrm2_back, IndMsg.Survives]
  | frm3 m =>
    simp [arrives_indMsg_frm3, arrives_indMsgFrm3, List.forall₂_same, measReportPerUe_back,
      IndMsg.Survives]

/-! ## Action definitions -/

def ActDefFrm1.Survives (d : ActDefFrm1) : Prop :=
  ((1 ≤ d.measInfoLst.length ∧ d.measInfoLst.length ≤ maxMeasurementInfo) ∧
    ∀ i ∈ d.measInfoLst, i.Survives) ∧
  1 ≤ d.granPeriodMs.toNat ∧ (∀ id ∈ d.cellGlobalId, id.Survives) ∧
  ∀ is ∈ d.measBinInfoLst, (1 ≤ is.length ∧ is.length ≤ maxBin) ∧ ∀ i ∈ is, i.Survives

/-- A cell comes back unless bit 31 of an NR id disturbs the four above it. -/
theorem cell_back (id : CellGlobalId) :
    Arrives encCellGlobalIdAsn decCellGlobalIdAsn id id ↔ id.Survives := cellGlobalId_back id

/-- **An action of format 1 comes back** with its measurements, its cell and its bins. -/
theorem actDefFrm1_back (d : ActDefFrm1) :
    Arrives kpmEncActionDefFrm1Asn kpmDecActionDefFrm1Asn d d ↔ d.Survives := by
  simp only [arrives_actDefFrm1, List.forall₂_same, rel_self, measInfo_back, granPeriod_back,
    cell_back, arrives_sized, measBinRangeItem_back, ActDefFrm1.Survives]

def ActDefFrm3.Survives (d : ActDefFrm3) : Prop :=
  ((1 ≤ d.measInfoLst.length ∧ d.measInfoLst.length ≤ maxMeasurementInfo) ∧
    ∀ i ∈ d.measInfoLst, i.Survives) ∧
  1 ≤ d.granPeriodMs.toNat ∧ ∀ id ∈ d.cellGlobalId, id.Survives

/-- **and one of format 3** with its conditions. -/
theorem actDefFrm3_back (d : ActDefFrm3) :
    Arrives kpmEncActionDefFrm3Asn kpmDecActionDefFrm3Asn d d ↔ d.Survives := by
  simp only [arrives_actDefFrm3, List.forall₂_same, rel_self, measInfoCond_back, granPeriod_back,
    cell_back, ActDefFrm3.Survives]

def ActDef.Survives : ActDef → Prop
  | frm1 d => d.Survives
  | frm2 d => d.ueId.ComesBack ∧ d.actionDefFormat1.Survives
  | frm3 d => d.Survives
  | frm4 d =>
    ((1 ≤ d.matchingCondLst.length ∧ d.matchingCondLst.length ≤ maxConditionInfoPerSub) ∧
      ∀ c ∈ d.matchingCondLst, c.Survives) ∧ d.actionDefFormat1.Survives
  | frm5 d =>
    ((2 ≤ d.ueIdLst.length ∧ d.ueIdLst.length ≤ maxUeIdPerSub) ∧
      ∀ ue ∈ d.ueIdLst, ue.ComesBack) ∧ d.actionDefFormat1.Survives

/-- **An action definition comes back where it survives the conversions.** -/
theorem actDef_back (d : ActDef) : Arrives actionDefPdu actionDefOfPdu d d ↔ d.Survives := by
  cases d with
  | frm1 d => simp [arrives_actDef_frm1, actDefFrm1_back, ActDef.Survives]
  | frm2 d =>
    simp [arrives_actDef_frm2, arrives_actDefFrm2, ueId_arrives, actDefFrm1_back, ActDef.Survives]
  | frm3 d => simp [arrives_actDef_frm3, actDefFrm3_back, ActDef.Survives]
  | frm4 d =>
    simp [arrives_actDef_frm4, arrives_actDefFrm4, List.forall₂_same, matchingCondFrm4_back,
      actDefFrm1_back, ActDef.Survives]
  | frm5 d =>
    simp [arrives_actDef_frm5, arrives_actDefFrm5, List.forall₂_same, ueId_arrives,
      actDefFrm1_back, ActDef.Survives]

/-! ## Headers -/

/-- Two swaps of octets cancel. -/
theorem swapBytes_swapBytes (x : UInt32) : swapBytes (swapBytes x) = x := by
  have hlen : (Octets.split 4 x.toNat).reverse.length = 4 := by
    rw [List.length_reverse, Octets.length_split]
  have hlt : Octets.combine (Octets.split 4 x.toNat).reverse < 2 ^ 32 := by
    have h := Octets.combine_lt (Octets.split 4 x.toNat).reverse
    rwa [hlen] at h
  have hswap : (swapBytes x).toNat = Octets.combine (Octets.split 4 x.toNat).reverse := by
    rw [swapBytes, Nat.toUInt32, UInt32.toNat_ofNat', Nat.mod_eq_of_lt hlt]
  have hsplit := Octets.split_combine (Octets.split 4 x.toNat).reverse
  rw [hlen] at hsplit
  rw [swapBytes, hswap, hsplit, List.reverse_reverse, Octets.combine_split_of_lt x.toNat_lt]
  exact UInt32.ofNat_toNat

/-- A time stamp is swapped on both sides. -/
theorem int32_back (x : UInt32) : bufferToInt32 (int32ToBuffer x) = x := by
  have hlt : x.toNat < 2 ^ 32 := x.toNat_lt
  simp only [bufferToInt32, int32ToBuffer, octet_cons_zero, octet_cons_succ, toNat_toUInt8]
  rw [Nat.or_assoc, Nat.or_assoc, ← Nat.or_assoc (_ <<< 16),
    low_octets (Nat.mod_lt _ (by decide)) (Nat.mod_lt _ (by decide)),
    Bits.or_shiftLeft (by omega), Nat.shiftRight_eq_div_pow, Nat.shiftRight_eq_div_pow,
    Nat.shiftRight_eq_div_pow, ← UInt32.toNat_inj, Nat.toUInt32, UInt32.toNat_ofNat']
  omega

/-- **Every indication header keeps its value.** -/
theorem indHdr_back (h : IndHdr) : Arrives indHdrPdu indHdrOfPdu h h := by
  cases h with
  | frm1 h =>
    refine ⟨.format1 (kpmEncIndHdrFrm1Asn h), rfl, ?_⟩
    simp only [indHdrOfPdu, kpmDecIndHdrFrm1Asn, kpmEncIndHdrFrm1Asn, int32_back,
      swapBytes_swapBytes, pure_eq]

/-! ## RAN function definitions -/

/-- An event trigger style always comes back. -/
theorem eventTriggerStyle_back (item : RicEventTriggerStyleItem) :
    Arrives encEventTriggerStyle decEventTriggerStyle item item := by
  obtain ⟨_ | _, name, _ | _⟩ := item
  exact ⟨⟨1, name, 1⟩, rfl, rfl⟩

/-- A list of event trigger styles comes back unless it is there and empty. -/
theorem eventTriggerStyles_back (items : List RicEventTriggerStyleItem) :
    Arrives (sized 0 maxRicStyles encEventTriggerStyle) (sized 1 maxRicStyles decEventTriggerStyle)
      items items ↔ 1 ≤ items.length ∧ items.length ≤ maxRicStyles := by
  have hwalk := arrives_walk.mpr (List.forall₂_same.mpr fun item (_ : item ∈ items) =>
    eventTriggerStyle_back item)
  simp only [Arrives, sized, bind_eq_next, assert_eq_next, decide_eq_true_eq]
  constructor
  · rintro ⟨ys, ⟨_, -, hys⟩, _, hlen, -⟩
    rwa [walk_length hys] at hlen
  · rintro hlen
    obtain ⟨ys, hys, hback⟩ := hwalk
    refine ⟨ys, ⟨⟨⟩, ⟨Nat.zero_le _, hlen.2⟩, hys⟩, ⟨⟩, ?_, hback⟩
    rwa [walk_length hys]

/-- A measurement of a report style comes back without bin ranges. -/
theorem measInfoForAction_back (item : MeasInfoForAction) :
    Arrives encMeasInfoForAction decMeasInfoForAction item item ↔ item.binRangeDef = none := by
  obtain ⟨name, id, bins⟩ := item
  cases bins with
  | none =>
    have hid : (id.map fun id => (id.toNat : Int)).map longToU16 = id := by
      cases id with
      | none => rfl
      | some id =>
        have hlt : id.toNat < 65536 := id.toNat_lt
        have hback : longToU16 id.toNat = id := by
          rw [longToU16, ← UInt16.toNat_inj, toNat_toUInt16]
          omega
        rw [Option.map_some, Option.map_some, hback]
    have henc : encMeasInfoForAction ⟨name, id, none⟩ =
        next ⟨name, id.map fun id => (id.toNat : Int), none⟩ := rfl
    have hdec : decMeasInfoForAction ⟨name, id.map fun id => (id.toNat : Int), none⟩ =
        next ⟨name, (id.map fun id => (id.toNat : Int)).map longToU16, none⟩ := rfl
    rw [arrives_known henc hdec, hid]
    simp
  | some d =>
    simp [not_arrives (rfl : encMeasInfoForAction ⟨name, id, some d⟩ = abort _)]

/-- The formats of a style are those that belong to it. -/
def RicReportStyleItem.Survives (item : RicReportStyleItem) : Prop :=
  item.actDefFormatType = item.reportStyleType.actDefFormat ∧
    item.indMsgFormatType = item.reportStyleType.indMsgFormat ∧
    (1 ≤ item.measInfoForActionLst.length ∧
      item.measInfoForActionLst.length ≤ maxMeasurementInfo) ∧
    ∀ meas ∈ item.measInfoForActionLst, meas.binRangeDef = none

/-- The kind of a report comes back. -/
theorem decServiceReport_code (style : RicServiceReport) :
    decServiceReport style.code = next style := by
  cases style <;> rfl

/-- **A report style comes back** where its formats are those of its style. -/
theorem reportStyle_back (item : RicReportStyleItem) :
    Arrives encReportStyle decReportStyle item item ↔ item.Survives := by
  obtain ⟨style, name, actDef, meas, ⟨_⟩, indMsg⟩ := item
  have hmeas : Arrives (sized 1 maxMeasurementInfo encMeasInfoForAction)
      (sized 1 maxMeasurementInfo decMeasInfoForAction) meas meas ↔
        (1 ≤ meas.length ∧ meas.length ≤ maxMeasurementInfo) ∧
          ∀ m ∈ meas, m.binRangeDef = none := by
    simp only [arrives_sized, List.forall₂_same, measInfoForAction_back]
  simp only [RicReportStyleItem.Survives, ← hmeas]
  constructor
  · rintro ⟨y, henc, hdec⟩
    simp only [encReportStyle, bind_eq_next, pure_eq, next_inj] at henc
    obtain ⟨ys, hys, rfl⟩ := henc
    simp only [decReportStyle, decServiceReport_code, next_bind, bind_eq_next, pure_eq, next_inj,
      RicReportStyleItem.mk.injEq] at hdec
    obtain ⟨xs, hxs, -, -, rfl, rfl, -, rfl⟩ := hdec
    exact ⟨rfl, rfl, ys, hys, hxs⟩
  · rintro ⟨rfl, rfl, ys, hys, hxs⟩
    refine ⟨_, by rw [encReportStyle, hys, next_bind]; rfl, ?_⟩
    simp only [decReportStyle, decServiceReport_code, hxs, next_bind, pure_eq]

/-- A list of report styles that is there has one to sixty-three of them. -/
theorem reportStyles_back (items : Option (List RicReportStyleItem)) :
    Arrives encReportStyles (opt (sized 1 maxRicStyles decReportStyle)) items items ↔
      ∀ xs ∈ items, (1 ≤ xs.length ∧ xs.length ≤ maxRicStyles) ∧ ∀ x ∈ xs, x.Survives := by
  have hwalk (xs : List RicReportStyleItem) : Arrives (walk encReportStyle) (walk decReportStyle)
      xs xs ↔ ∀ x ∈ xs, x.Survives := by
    simp only [arrives_walk, List.forall₂_same, reportStyle_back]
  rcases items with _ | _ | ⟨x, xs⟩
  · exact iff_of_true ⟨none, rfl, rfl⟩ (by simp)
  · refine iff_of_false ?_ (by simp)
    rintro ⟨y, henc, hdec⟩
    obtain rfl := next_inj.mp henc
    cases hdec
  · have henc : encReportStyles (some (x :: xs)) =
        sized 0 maxRicStyles encReportStyle (x :: xs) >>= fun ys => next (some ys) := rfl
    simp only [Option.mem_some_iff, forall_eq', ← hwalk, Arrives, henc, sized, bind_eq_next,
      assert_eq_next, decide_eq_true_eq, next_inj]
    constructor
    · rintro ⟨_, ⟨ys, ⟨_, hlen, hys⟩, rfl⟩, hdec⟩
      simp only [opt_some, sized, bind_eq_next, assert_eq_next, next_inj,
        Option.some.injEq] at hdec
      obtain ⟨zs, ⟨_, -, hzs⟩, rfl⟩ := hdec
      exact ⟨⟨Nat.succ_pos _, hlen.2⟩, ys, hys, hzs⟩
    · rintro ⟨hlen, ys, hys, hzs⟩
      refine ⟨some ys, ⟨ys, ⟨⟨⟩, ⟨Nat.zero_le _, hlen.2⟩, hys⟩, rfl⟩, ?_⟩
      rw [← walk_length hys] at hlen
      rw [opt_some, sized, assert_of (decide_eq_true hlen), next_bind, hzs, next_bind]

def RanFunctionDef.Survives (d : RanFunctionDef) : Prop :=
  (∀ xs ∈ d.ricEventTriggerStyleList, 1 ≤ xs.length ∧ xs.length ≤ maxRicStyles) ∧
    ∀ xs ∈ d.ricReportStyleList,
      (1 ≤ xs.length ∧ xs.length ≤ maxRicStyles) ∧ ∀ x ∈ xs, x.Survives

/-- **A RAN function definition comes back where it survives the conversions.** -/
theorem funcDef_back (d : RanFunctionDef) :
    Arrives funcDefPdu funcDefOfPdu d d ↔ d.Survives := by
  obtain ⟨⟨name, oid, description, instanceNo⟩, events, reports⟩ := d
  have hinstance : (instanceNo.map (·.toInt)).map Int64.ofInt = instanceNo := by
    cases instanceNo <;> simp
  have hevents : Arrives encEventTriggerStyles (opt (sized 1 maxRicStyles decEventTriggerStyle))
      events events ↔ ∀ xs ∈ events, 1 ≤ xs.length ∧ xs.length ≤ maxRicStyles := by
    simp only [encEventTriggerStyles, arrives_opt, rel_self, eventTriggerStyles_back]
  rw [RanFunctionDef.Survives, ← hevents, ← reportStyles_back]
  constructor
  · rintro ⟨y, henc, hdec⟩
    simp only [funcDefPdu, bind_eq_next, pure_eq, next_inj] at henc
    obtain ⟨ys, hys, zs, hzs, rfl⟩ := henc
    simp only [funcDefOfPdu, bind_eq_next, pure_eq, next_inj, RanFunctionDef.mk.injEq] at hdec
    obtain ⟨xs, hxs, ws, hws, -, rfl, rfl⟩ := hdec
    exact ⟨⟨ys, hys, hxs⟩, zs, hzs, hws⟩
  · rintro ⟨⟨ys, hys, hxs⟩, zs, hzs, hws⟩
    refine ⟨_, by rw [funcDefPdu, hys, next_bind, hzs, next_bind]; rfl, ?_⟩
    simp only [funcDefOfPdu, hxs, hws, hinstance, next_bind, pure_eq]

/-! ## Through the runtime -/

/-- The encoding of a value's structure fits the buffer of `kpm_enc_asn.c`. -/
def FitsBuffer {α Pdu Buf : Type} (rt : Asn1c Pdu Buf) (enc : α → Outcome Pdu) (x : α) : Prop :=
  ∀ pdu, enc x = next pdu → ∀ b, rt.encode pdu = some b → rt.length b ≤ 4 * 1024

/-- **Through the runtime**: encoded into the buffer, and decoded back. -/
theorem roundTrip_iff {α Pdu Buf : Type} {rt : Asn1c Pdu Buf} {sat : Pdu → Bool}
    (hrt : rt.Exact sat id) {enc : α → Outcome Pdu} {dec : Pdu → Outcome α} {P : α → Bool}
    (hmeets : Meets enc P sat) {x : α} :
    (∃ b, (enc x >>= encode rt) = next b ∧ (decode rt b >>= dec) = next x) ↔
      Arrives enc dec x x ∧ P x = true ∧ FitsBuffer rt enc x := by
  constructor
  · rintro ⟨b, henc, hdec⟩
    obtain ⟨pdu, hpdu, hb⟩ := bind_eq_next.mp henc
    obtain ⟨pdu', hpdu', hx⟩ := bind_eq_next.mp hdec
    simp only [encode, bind_eq_next, expect_eq_next, assert_eq_next, decide_eq_true_eq, pure_eq,
      next_inj] at hb
    obtain ⟨b', hb', _, hlen, rfl⟩ := hb
    have hsat := (hrt.encodes pdu).mp ⟨b', hb'⟩
    simp only [decode, bind_eq_next, expect_eq_next, hrt.decodesBack pdu b' hsat hb',
      Option.some.injEq] at hpdu'
    obtain ⟨_, -, rfl⟩ := hpdu'
    refine ⟨⟨pdu, hpdu, hx⟩, (hmeets hpdu).symm.trans hsat, fun q hq c hc => ?_⟩
    obtain rfl := next_inj.mp (hpdu.symm.trans hq)
    obtain rfl := Option.some.inj (hb'.symm.trans hc)
    exact hlen
  · rintro ⟨⟨pdu, hpdu, hx⟩, hP, hfits⟩
    have hsat := (hmeets hpdu).trans hP
    obtain ⟨b, hb⟩ := (hrt.encodes pdu).mpr hsat
    refine ⟨b, ?_, ?_⟩
    · simp only [hpdu, next_bind, encode, hb, expect, assert,
        decide_eq_true (hfits pdu hpdu b hb), reduceIte, pure_eq]
    · simp only [decode, assert, decide_eq_true (hrt.length_pos pdu b hb), reduceIte, next_bind,
        hrt.decodesBack pdu b hsat hb, expect, id_eq, hx]

/-- The runtime, for each of the structures. -/
structure KpmRuntime (Buf : Type) where
  actDef : Asn1c ActDefAsn Buf
  indHdr : Asn1c IndHdrAsn Buf
  indMsg : Asn1c IndMsgAsn Buf
  funcDef : Asn1c RanFunctionDescriptionAsn Buf

/-- The runtime takes the structures within their constraints, and decodes them back. -/
structure KpmRuntime.Exact {Buf : Type} (rt : KpmRuntime Buf) : Prop where
  actDef : rt.actDef.Exact ActDefAsn.satisfies id
  indHdr : rt.indHdr.Exact IndHdrAsn.satisfies id
  indMsg : rt.indMsg.Exact IndMsgAsn.satisfies id
  funcDef : rt.funcDef.Exact RanFunctionDescriptionAsn.satisfies id

/-- The messages of the service model. -/
inductive KpmMsg where
  | actionDef (d : ActDef)
  | indHdr (h : IndHdr)
  | indMsg (m : IndMsg)
  | funcDef (d : RanFunctionDef)

namespace KpmMsg

/-- A message is encoded, and decoded back. -/
def RoundTrips {Buf : Type} (rt : KpmRuntime Buf) : KpmMsg → Prop
  | actionDef d => ∃ b, kpmEncActionDefAsn rt.actDef d = next b ∧
      kpmDecActionDefAsn rt.actDef b = next d
  | indHdr h => ∃ b, kpmEncIndHdrAsn rt.indHdr h = next b ∧ kpmDecIndHdrAsn rt.indHdr b = next h
  | indMsg m => ∃ b, kpmEncIndMsgAsn rt.indMsg m = next b ∧ kpmDecIndMsgAsn rt.indMsg b = next m
  | funcDef d => ∃ b, kpmEncFuncDefAsn rt.funcDef d = next b ∧
      kpmDecFuncDefAsn rt.funcDef b = next d

def Survives : KpmMsg → Prop
  | actionDef d => d.Survives
  | indHdr _ => True
  | indMsg m => m.Survives
  | funcDef d => d.Survives

def expressible : KpmMsg → Bool
  | actionDef d => d.expressible
  | indHdr _ => true
  | indMsg m => m.expressible
  | funcDef d => d.expressible

def Fits {Buf : Type} (rt : KpmRuntime Buf) : KpmMsg → Prop
  | actionDef d => FitsBuffer rt.actDef actionDefPdu d
  | indHdr h => FitsBuffer rt.indHdr indHdrPdu h
  | indMsg m => FitsBuffer rt.indMsg indMsgPdu m
  | funcDef d => FitsBuffer rt.funcDef funcDefPdu d

end KpmMsg

/-- **A message comes back** exactly when it survives the conversions, its
structure is within its constraints and the encoding fits 4 KiB. -/
theorem kpm_roundTrip {Buf : Type} (rt : KpmRuntime Buf) (hrt : rt.Exact) (msg : KpmMsg) :
    msg.RoundTrips rt ↔ msg.Survives ∧ msg.expressible = true ∧ msg.Fits rt := by
  cases msg with
  | actionDef d =>
    rw [KpmMsg.Survives, ← actDef_back]
    exact roundTrip_iff hrt.actDef actDef_meets
  | indHdr h =>
    rw [KpmMsg.Survives, true_and]
    exact (roundTrip_iff hrt.indHdr indHdr_meets).trans (and_iff_right (indHdr_back h))
  | indMsg m =>
    rw [KpmMsg.Survives, ← indMsg_back]
    exact roundTrip_iff hrt.indMsg indMsg_meets
  | funcDef d =>
    rw [KpmMsg.Survives, ← funcDef_back]
    exact roundTrip_iff hrt.funcDef funcDef_meets

/-! ### Worked messages -/

/-- The structures, as encodings of themselves. -/
inductive KpmPdu where
  | actDef (pdu : ActDefAsn)
  | indHdr (pdu : IndHdrAsn)
  | indMsg (pdu : IndMsgAsn)
  | funcDef (pdu : RanFunctionDescriptionAsn)

/-- A runtime that takes the structures within their constraints. -/
def checkedFor {Pdu : Type} (sat : Pdu → Bool) (wrap : Pdu → KpmPdu)
    (unwrap : KpmPdu → Option Pdu) : Asn1c Pdu KpmPdu where
  encode := fun pdu => if sat pdu then some (wrap pdu) else none
  length := fun _ => 64
  decode := unwrap

theorem checkedFor_exact {Pdu : Type} {sat : Pdu → Bool} {wrap : Pdu → KpmPdu}
    {unwrap : KpmPdu → Option Pdu} (h : ∀ pdu, unwrap (wrap pdu) = some pdu) :
    (checkedFor sat wrap unwrap).Exact sat id where
  length_pos := fun _ _ _ => Nat.zero_lt_succ 63
  decodesBack := fun pdu b hsat henc => by
    simp only [checkedFor, hsat, reduceIte, Option.some.injEq] at henc
    rw [← henc]
    exact h pdu
  encodes := fun pdu => by simp [checkedFor]

def checkedRuntime : KpmRuntime KpmPdu where
  actDef := checkedFor ActDefAsn.satisfies .actDef fun | .actDef pdu => some pdu | _ => none
  indHdr := checkedFor IndHdrAsn.satisfies .indHdr fun | .indHdr pdu => some pdu | _ => none
  indMsg := checkedFor IndMsgAsn.satisfies .indMsg fun | .indMsg pdu => some pdu | _ => none
  funcDef := checkedFor RanFunctionDescriptionAsn.satisfies .funcDef
    fun | .funcDef pdu => some pdu | _ => none

theorem checkedRuntime_exact : checkedRuntime.Exact where
  actDef := checkedFor_exact fun _ => rfl
  indHdr := checkedFor_exact fun _ => rfl
  indMsg := checkedFor_exact fun _ => rfl
  funcDef := checkedFor_exact fun _ => rfl

/-- One measurement of a cell, `RRU.PrbTotDl` every second. -/
def cellMeasurement (cell : BitVec 36) : ActDef :=
  .frm1 ⟨[⟨.name [82, 82, 85, 46, 80, 114, 98, 84, 111, 116, 68, 108],
    [{ noLabel := some .trueValue }]⟩], 1000, some (.nrCgi ⟨⟨208, 92, 2⟩, cell⟩), none⟩

/-- The measurement of the cell 5 comes back. -/
theorem kpm_roundTrip_cell :
    (KpmMsg.actionDef (cellMeasurement 5)).RoundTrips checkedRuntime := by
  refine (kpm_roundTrip checkedRuntime checkedRuntime_exact
    (.actionDef (cellMeasurement 5))).mpr ⟨?_, by decide,
      fun _ _ _ _ => (by decide : 64 ≤ 4 * 1024)⟩
  refine ⟨⟨⟨by decide, by decide⟩, ?_⟩, by decide, ?_, ?_⟩
  · intro i hi
    obtain rfl := List.mem_singleton.mp hi
    refine ⟨⟨by decide, by decide⟩, fun l hl => ?_⟩
    exact .inl (List.mem_singleton.mp hl)
  · intro id hid
    obtain rfl := Option.mem_some_iff.mp hid
    exact ⟨by decide, .inl (by decide)⟩
  · intro is his
    cases his

/-- A cell whose id has bit 31 set is encoded, and decoded as another one. -/
theorem kpm_not_roundTrip :
    ¬ ∀ (Buf : Type) (rt : KpmRuntime Buf), rt.Exact → ∀ d : ActDef,
      (∃ b, kpmEncActionDefAsn rt.actDef d = next b) → (KpmMsg.actionDef d).RoundTrips rt := by
  intro h
  have hback := h KpmPdu checkedRuntime checkedRuntime_exact (cellMeasurement (2 ^ 31))
    ⟨_, rfl⟩
  obtain ⟨harrives, -⟩ := (roundTrip_iff checkedRuntime_exact.actDef actDef_meets).mp hback
  obtain ⟨-, -, hcell, -⟩ := (actDef_back _).mp harrives
  obtain ⟨-, hbit⟩ := hcell _ rfl
  exact absurd hbit (by decide)

end Kpm

end FlexRic
