import FlexRic.Kpm.FunctionDef
import FlexRic.Ue.UeIdConstraints

/-!
# FlexRic.Kpm.Constraints

The constraints of the generated structures of the KPM service model
(`e2sm_kpm_v02.03_standard.asn1`), as far as the runtime looks at them: a size or a
range with an extension marker is open, and the octets of a `PrintableString` are
put out as they are, whatever the characters.

* `satisfies`: a structure is within its constraints.
* `expressible`: what the encoder makes of a value is.  The encoders check the
  lengths of lists and most ranges, but no condition type, not every number of a UE
  id and, in a RAN function definition, no empty list of event trigger styles.
-/

namespace FlexRic

namespace Kpm

open Outcome Ue

/-! ## Structures -/

/-- `ENUMERATED {true, ...}`. -/
def isTrue (v : Int) : Bool := v = 0

/-- `SEQUENCE (SIZE(lo..hi)) OF`. -/
def isSized {α : Type} (lo hi : Nat) (p : α → Bool) (xs : List α) : Bool :=
  (lo ≤ xs.length && xs.length ≤ hi) && xs.all p

/-- `QCI`. -/
def isQci (v : Int) : Bool := 0 ≤ v && v ≤ 255

/-- `GranularityPeriod`. -/
def isGranularityPeriod (v : UInt64) : Bool := 1 ≤ v && v ≤ 4294967295

def SNssaiAsn.satisfies (v : SNssaiAsn) : Bool := v.sST.length = 1 && v.sD.all (·.length = 3)

def LabelAsn.satisfies (v : LabelAsn) : Bool :=
  v.noLabel.all isTrue && v.plmnId.all isPlmnIdentity && v.sliceId.all SNssaiAsn.satisfies &&
    v.qCi.all isQci && v.qCiMax.all isQci && v.qCiMin.all isQci && v.sUm.all isTrue &&
    v.preLabelOverride.all isTrue && v.startEndInd.all (fun v => 0 ≤ v && v ≤ 1) &&
    v.min.all isTrue && v.max.all isTrue && v.avg.all isTrue

def MeasTypeAsn.satisfies : MeasTypeAsn → Bool
  | nothing => false
  | measName _ | measId _ => true

def MeasInfoAsn.satisfies (v : MeasInfoAsn) : Bool :=
  v.measType.satisfies && isSized 1 maxLabelInfo LabelAsn.satisfies v.labelInfoList

def MeasRecordAsn.satisfies : MeasRecordAsn → Bool
  | nothing => false
  | integer v => v ≤ 4294967295
  | real _ | noValue _ => true

def MeasDataAsn.satisfies (v : MeasDataAsn) : Bool :=
  isSized 1 maxMeasurementValue MeasRecordAsn.satisfies v.measRecord && v.incompleteFlag.all isTrue

def BinRangeValueAsn.satisfies : BinRangeValueAsn → Bool
  | nothing => false
  | valueInt _ | valueReal _ => true

def BinRangeItemAsn.satisfies (v : BinRangeItemAsn) : Bool :=
  v.startValue.satisfies && v.endValue.satisfies

def BinRangeDefAsn.satisfies (v : BinRangeDefAsn) : Bool :=
  isSized 1 maxBin BinRangeItemAsn.satisfies v.binRangeListX &&
    v.binRangeListY.all (isSized 1 maxBin BinRangeItemAsn.satisfies) &&
    v.binRangeListZ.all (isSized 1 maxBin BinRangeItemAsn.satisfies)

def MeasBinRangeInfoAsn.satisfies (v : MeasBinRangeInfoAsn) : Bool :=
  v.measType.satisfies && v.binRangeDef.satisfies

def TestCondTypeAsn.satisfies : TestCondTypeAsn → Bool
  | nothing => false
  | present _ v => isTrue v

def TestCondValueAsn.satisfies : TestCondValueAsn → Bool
  | nothing => false
  | valueInt _ | valueEnum _ | valueBool _ | valueBitS _ | valueOctS _ | valuePrtS _
  | valueReal _ => true

def TestInfoAsn.satisfies (v : TestInfoAsn) : Bool :=
  v.testType.satisfies && v.testExpr.all (fun v => 0 ≤ v && v ≤ 4) &&
    v.testValue.all TestCondValueAsn.satisfies

def CondInfoAsn.satisfies : CondInfoAsn → Bool
  | nothing => false
  | measLabel l => l.satisfies
  | testCondInfo t => t.satisfies

def MatchingCondAsn.satisfies (v : MatchingCondAsn) : Bool :=
  v.matchingCondChoice.satisfies && v.logicalOr.all isTrue

def MatchingUeCondAsn.satisfies (v : MatchingUeCondAsn) : Bool :=
  v.testCondInfo.satisfies && v.logicalOr.all isTrue

def MeasInfoFrm3Asn.satisfies (v : MeasInfoFrm3Asn) : Bool :=
  v.measType.satisfies && isSized 1 maxConditionInfo MatchingCondAsn.satisfies v.matchingCond &&
    v.binRangeDef.all BinRangeDefAsn.satisfies

def UeIdGranPeriodAsn.satisfies : UeIdGranPeriodAsn → Bool
  | nothing => false
  | noUeMatched v => isTrue v
  | oneOrMoreUeMatched ids => isSized 1 maxUeId UeIdAsn.satisfies ids

def MeasInfoCondUeAsn.satisfies (v : MeasInfoCondUeAsn) : Bool :=
  v.measType.satisfies && isSized 1 maxConditionInfo MatchingCondAsn.satisfies v.matchingCond &&
    v.matchingUeIdList.all (isSized 1 maxUeId UeIdAsn.satisfies) &&
    v.matchingUeIdPerGp.all (isSized 1 maxMeasurementRecord UeIdGranPeriodAsn.satisfies)

def IndMsgFrm1Asn.satisfies (v : IndMsgFrm1Asn) : Bool :=
  isSized 1 maxMeasurementRecord MeasDataAsn.satisfies v.measData &&
    v.measInfoList.all (isSized 1 maxMeasurementInfo MeasInfoAsn.satisfies) &&
    v.granulPeriod.all isGranularityPeriod

def IndMsgFrm2Asn.satisfies (v : IndMsgFrm2Asn) : Bool :=
  isSized 1 maxMeasurementRecord MeasDataAsn.satisfies v.measData &&
    isSized 1 maxMeasurementInfo MeasInfoCondUeAsn.satisfies v.measCondUeIdList &&
    v.granulPeriod.all isGranularityPeriod

def MeasReportPerUeAsn.satisfies (v : MeasReportPerUeAsn) : Bool :=
  v.ueId.satisfies && v.measReport.satisfies

def IndMsgAsn.satisfies : IndMsgAsn → Bool
  | nothing => false
  | format1 m => m.satisfies
  | format2 m => m.satisfies
  | format3 m => isSized 1 maxUeMeasReport MeasReportPerUeAsn.satisfies m.ueMeasReportList

def ActDefFrm1Asn.satisfies (v : ActDefFrm1Asn) : Bool :=
  isSized 1 maxMeasurementInfo MeasInfoAsn.satisfies v.measInfoList &&
    isGranularityPeriod v.granulPeriod && v.cellGlobalId.all CgiAsn.satisfies &&
    v.distMeasBinRangeInfo.all (isSized 1 maxMeasurementInfo MeasBinRangeInfoAsn.satisfies)

def ActDefFrm3Asn.satisfies (v : ActDefFrm3Asn) : Bool :=
  isSized 1 maxMeasurementInfo MeasInfoFrm3Asn.satisfies v.measCondList &&
    isGranularityPeriod v.granulPeriod && v.cellGlobalId.all CgiAsn.satisfies

def ActDefFormatsAsn.satisfies : ActDefFormatsAsn → Bool
  | nothing => false
  | format1 d => d.satisfies
  | format2 d => d.ueId.satisfies && d.subscriptInfo.satisfies
  | format3 d => d.satisfies
  | format4 d =>
    isSized 1 maxConditionInfoPerSub MatchingUeCondAsn.satisfies d.matchingUeCondList &&
      d.subscriptionInfo.satisfies
  | format5 d =>
    isSized 2 maxUeIdPerSub UeIdAsn.satisfies d.matchingUeIdList && d.subscriptionInfo.satisfies

def ActDefAsn.satisfies (v : ActDefAsn) : Bool := v.actionDefinitionFormats.satisfies

def IndHdrAsn.satisfies : IndHdrAsn → Bool
  | nothing => false
  | format1 h => h.colletStartTime.length = 4

def MeasInfoActionItemAsn.satisfies (v : MeasInfoActionItemAsn) : Bool :=
  v.binRangeDef.all BinRangeDefAsn.satisfies

def RicReportStyleItemAsn.satisfies (v : RicReportStyleItemAsn) : Bool :=
  isSized 1 maxMeasurementInfo MeasInfoActionItemAsn.satisfies v.measInfoActionList

def RanFunctionDescriptionAsn.satisfies (v : RanFunctionDescriptionAsn) : Bool :=
  v.ricEventTriggerStyleList.all (isSized 1 maxRicStyles fun _ => true) &&
    v.ricReportStyleList.all (isSized 1 maxRicStyles RicReportStyleItemAsn.satisfies)

/-! ## Values -/

def TestInfo.expressible (v : TestInfo) : Bool := v.cond == .trueCond

def CondInfo.expressible : CondInfo → Bool
  | labelInfo _ => true
  | testInfo t => t.expressible

def MatchingCondFrm3.expressible (v : MatchingCondFrm3) : Bool := v.cond.expressible

def MeasInfoFrm3.expressible (v : MeasInfoFrm3) : Bool :=
  v.matchingCondLst.all MatchingCondFrm3.expressible

def UeIdGranPeriod.expressible : UeIdGranPeriod → Bool
  | noneMatched _ => true
  | oneOrMoreMatched ues => ues.all UeId.expressible

def MeasInfoCondUe.expressible (v : MeasInfoCondUe) : Bool :=
  v.matchingCondLst.all MatchingCondFrm3.expressible && v.ueIdMatchedLst.all UeId.expressible &&
    v.ueIdGranPeriodLst.all (List.all · UeIdGranPeriod.expressible)

def MeasReportPerUe.expressible (v : MeasReportPerUe) : Bool := v.ueMeasReportLst.expressible

def IndMsg.expressible : IndMsg → Bool
  | frm1 _ => true
  | frm2 m => m.measInfoCondUeLst.all MeasInfoCondUe.expressible
  | frm3 m => m.measReportPerUe.all MeasReportPerUe.expressible

def ActDef.expressible : ActDef → Bool
  | frm1 _ => true
  | frm2 d => d.ueId.expressible
  | frm3 d => d.measInfoLst.all MeasInfoFrm3.expressible
  | frm4 d => d.matchingCondLst.all (·.testInfoLst.expressible)
  | frm5 d => d.ueIdLst.all UeId.expressible

def RanFunctionDef.expressible (v : RanFunctionDef) : Bool :=
  v.ricEventTriggerStyleList.all fun items => 1 ≤ items.length

/-! ## What the encoders make -/

section Lists

variable {α β : Type} {enc : α → Outcome β} {P : α → Bool} {sat : β → Bool} {lo hi : Nat}

/-- The encoders check the lengths of lists. -/
theorem sized_meets (h : Meets enc P sat) {xs : List α} {ys : List β}
    (hys : sized lo hi enc xs = next ys) : isSized lo hi sat ys = xs.all P := by
  simp only [sized, bind_eq_next, assert_eq_next, decide_eq_true_eq] at hys
  obtain ⟨_, hlen, hys⟩ := hys
  rw [isSized, walk_length hys, h.walk hys]
  simp [hlen]

/-- A list whose elements always are within their constraints has only to have its size. -/
theorem sized_meets_true (h : Meets enc (fun _ => true) sat) {xs : List α} {ys : List β}
    (hys : sized lo hi enc xs = next ys) : isSized lo hi sat ys = true := by
  rw [sized_meets h hys, List.all_eq_true]
  exact fun _ _ => rfl

/-- The encoders check the lengths of lists also where an empty one is left out. -/
theorem nonempty_meets (h : Meets enc P sat) {xs : List α} {ys : Option (List β)}
    (hys : encNonempty (sized lo hi enc) xs = next ys) :
    ys.all (isSized 1 hi sat) = xs.all P := by
  rw [encNonempty] at hys
  split at hys
  · next hne =>
    simp only [bind_eq_next, pure_eq, next_inj] at hys
    obtain ⟨zs, hzs, rfl⟩ := hys
    simp only [sized, bind_eq_next, assert_eq_next, decide_eq_true_eq] at hzs
    obtain ⟨_, hlen, hzs⟩ := hzs
    have hpos : 1 ≤ xs.length := by omega
    rw [Option.all_some, isSized, walk_length hzs, h.walk hzs]
    simp [hlen.2, hpos]
  · next hempty =>
    obtain rfl := next_inj.mp hys
    have hnil : xs = [] := List.eq_nil_of_length_eq_zero (by omega)
    rw [hnil, Option.all_none, List.all_nil]

end Lists

/-- `ENUMERATED { true }` has one value. -/
theorem true_meets : Meets encTrue (fun _ => true) isTrue := by
  intro v y hy
  simp only [encTrue, bind_eq_next, assert_eq_next, pure_eq, next_inj] at hy
  obtain ⟨_, -, rfl⟩ := hy
  rfl

/-- The fields of a label are open, or as wide as their types. -/
theorem label_meets : Meets kpmEncLabelInfoAsn (fun _ => true) LabelAsn.satisfies := by
  intro l y hy
  rw [kpmEncLabelInfoAsn] at hy
  split at hy
  · simp only [bind_eq_next, pure_eq, next_inj] at hy
    obtain ⟨v, hv, rfl⟩ := hy
    simp only [LabelAsn.satisfies, Option.all_some, true_meets hv, Option.all_none, Bool.and_self]
  · simp only [bind_eq_next, assert_eq_next, pure_eq, next_inj] at hy
    obtain ⟨_, -, avg, havg, rfl⟩ := hy
    have hslice : (l.sliceId.map encSNssai).all SNssaiAsn.satisfies = true := by
      rcases l.sliceId with _ | ⟨sST, _ | sD⟩ <;> rfl
    have hplmn : (l.plmnId.map mccMncToPlmnid).all isPlmnIdentity = true := by
      rcases l.plmnId with _ | plmn <;> rfl
    simp only [LabelAsn.satisfies, true_meets.opt havg, hslice, hplmn, Option.all_true,
      Option.all_none, Bool.and_self]

/-- A measurement is a name or an id. -/
theorem measType_satisfies (t : MeasType) : (encMeasType t).satisfies = true := by
  cases t <;> rfl

/-- A granularity period is positive, as the encoder asserts. -/
theorem granPeriod_meets : Meets encGranPeriod (fun _ => true) isGranularityPeriod := by
  intro ms y hy
  simp only [encGranPeriod, bind_eq_next, assert_eq_next, decide_eq_true_eq, pure_eq,
    next_inj] at hy
  obtain ⟨_, hlt, rfl⟩ := hy
  simp [isGranularityPeriod, hlt]

/-- A measurement has as many labels as the encoder asserts. -/
theorem measInfo_meets : Meets kpmEncMeasInfoAsn (fun _ => true) MeasInfoAsn.satisfies := by
  intro info y hy
  simp only [kpmEncMeasInfoAsn, bind_eq_next, pure_eq, next_inj] at hy
  obtain ⟨labels, hlabels, rfl⟩ := hy
  simp only [MeasInfoAsn.satisfies, measType_satisfies, sized_meets_true label_meets hlabels,
    Bool.and_self]

theorem measRecord_meets : Meets encMeasRecord (fun _ => true) MeasRecordAsn.satisfies := by
  intro r y hy
  cases r with
  | integer v =>
    obtain rfl := next_inj.mp hy
    have hlt : v.toNat < 2 ^ 32 := v.toNat_lt
    simp only [MeasRecordAsn.satisfies, decide_eq_true_eq, UInt64.le_iff_toNat_le,
      UInt32.toNat_toUInt64, UInt64.reduceToNat]
    omega
  | real v =>
    obtain rfl := next_inj.mp hy
    rfl
  | noValue p =>
    obtain rfl := next_inj.mp hy
    rfl

/-- The records of a period are within their constraints. -/
theorem measData_meets : Meets kpmEncMeasDataAsn (fun _ => true) MeasDataAsn.satisfies := by
  intro d y hy
  simp only [kpmEncMeasDataAsn, bind_eq_next, pure_eq, next_inj] at hy
  obtain ⟨records, hrecords, flag, hflag, rfl⟩ := hy
  simp only [MeasDataAsn.satisfies, sized_meets_true measRecord_meets hrecords,
    true_meets.opt hflag, Option.all_true, Bool.and_self]

theorem binDistr_meets : Meets encBinDistr (fun _ => true) BinRangeItemAsn.satisfies := by
  intro bin y hy
  obtain rfl := next_inj.mp hy
  obtain ⟨i, s | s, e | e⟩ := bin <;> rfl

/-- The bins of each axis are within their constraints. -/
theorem binRangeDef_meets : Meets kpmEncBinRangeDef (fun _ => true) BinRangeDefAsn.satisfies := by
  intro d y hy
  simp only [kpmEncBinRangeDef, bind_eq_next, assert_eq_next, pure_eq, next_inj] at hy
  obtain ⟨xs, hxs, _, -, _, -, rfl⟩ := hy
  simp only [BinRangeDefAsn.satisfies, sized_meets_true binDistr_meets hxs, Option.all_none,
    Bool.and_self]

/-- The bins of a measurement are within their constraints. -/
theorem measBinRangeItem_meets :
    Meets kpmEncMeasBinRangeItem (fun _ => true) MeasBinRangeInfoAsn.satisfies := by
  intro item y hy
  simp only [kpmEncMeasBinRangeItem, bind_eq_next, pure_eq, next_inj] at hy
  obtain ⟨d, hd, rfl⟩ := hy
  simp only [MeasBinRangeInfoAsn.satisfies, measType_satisfies, binRangeDef_meets hd,
    Bool.and_self]

/-- The value of a test is of any of its kinds. -/
theorem testCondValue_meets :
    Meets encTestCondValue (fun _ => true) TestCondValueAsn.satisfies := by
  intro v y hy
  cases v with
  | bitStringValue b => cases hy
  | intValue v | enumValue v | boolValue v | octetStringValue v | printableStringValue v
  | realValue v =>
    obtain rfl := next_inj.mp hy
    rfl

/-- **A test has to be `true`**: the encoder writes any value of it. -/
theorem testInfo_meets : Meets kpmEncTestInfoAsn TestInfo.expressible TestInfoAsn.satisfies := by
  intro t y hy
  simp only [kpmEncTestInfoAsn, bind_eq_next, pure_eq, next_inj] at hy
  obtain ⟨value, hvalue, rfl⟩ := hy
  have hcond : isTrue t.cond.code = (t.cond == .trueCond) := by cases t.cond <;> rfl
  have hexpr : (t.testCond.map TestCond.code).all (fun v => 0 ≤ v && v ≤ 4) = true := by
    rcases t.testCond with _ | c
    · rfl
    · cases c <;> rfl
  simp only [TestInfoAsn.satisfies, TestCondTypeAsn.satisfies, hcond, hexpr,
    testCondValue_meets.opt hvalue, Option.all_true, Bool.and_true, TestInfo.expressible]

/-- A condition is within its constraints where its label or its test is. -/
theorem condInfo_meets : Meets encCondInfo CondInfo.expressible CondInfoAsn.satisfies := by
  intro c y hy
  cases c with
  | labelInfo l =>
    simp only [encCondInfo, bind_eq_next, pure_eq, next_inj] at hy
    obtain ⟨y, hy, rfl⟩ := hy
    exact label_meets hy
  | testInfo t =>
    simp only [encCondInfo, bind_eq_next, pure_eq, next_inj] at hy
    obtain ⟨y, hy, rfl⟩ := hy
    exact testInfo_meets hy

/-- A condition of format 3 is within its constraints where its label or its test is. -/
theorem matchingCond_meets :
    Meets kpmEncMatchingCondAsn MatchingCondFrm3.expressible MatchingCondAsn.satisfies := by
  intro c y hy
  simp only [kpmEncMatchingCondAsn, bind_eq_next, pure_eq, next_inj] at hy
  obtain ⟨choice, hchoice, logicalOr, hor, rfl⟩ := hy
  simp only [MatchingCondAsn.satisfies, condInfo_meets hchoice, true_meets.opt hor,
    Option.all_true, Bool.and_true, MatchingCondFrm3.expressible]

/-- A condition of format 4 is within its constraints where its test is. -/
theorem matchingCondFrm4_meets : Meets kpmEncMatchingCondFrm4Asn (·.testInfoLst.expressible)
    MatchingUeCondAsn.satisfies := by
  intro c y hy
  simp only [kpmEncMatchingCondFrm4Asn, bind_eq_next, assert_eq_next, pure_eq, next_inj] at hy
  obtain ⟨info, hinfo, _, -, rfl⟩ := hy
  simp only [MatchingUeCondAsn.satisfies, testInfo_meets hinfo, Option.all_none, Bool.and_true]

/-- A measurement under conditions is within its constraints where these are. -/
theorem measInfoCond_meets :
    Meets kpmEncMeasInfoCondAsn MeasInfoFrm3.expressible MeasInfoFrm3Asn.satisfies := by
  intro info y hy
  simp only [kpmEncMeasInfoCondAsn, bind_eq_next, pure_eq, next_inj] at hy
  obtain ⟨conds, hconds, bins, hbins, rfl⟩ := hy
  simp only [MeasInfoFrm3Asn.satisfies, measType_satisfies, sized_meets matchingCond_meets hconds,
    binRangeDef_meets.opt hbins, Option.all_true, Bool.true_and, Bool.and_true,
    MeasInfoFrm3.expressible]

/-- The UEs that matched in a period have to be. -/
theorem ueIdGranPeriod_meets :
    Meets kpmEncUeIdGranPeriodAsn UeIdGranPeriod.expressible UeIdGranPeriodAsn.satisfies := by
  intro p y hy
  cases p with
  | noneMatched v =>
    obtain rfl := next_inj.mp hy
    rfl
  | oneOrMoreMatched ues =>
    simp only [kpmEncUeIdGranPeriodAsn, bind_eq_next, pure_eq, next_inj] at hy
    obtain ⟨y, hy, rfl⟩ := hy
    exact sized_meets ueId_meets hy

/-- **A measurement with UEs** is where all conditions and all UEs are. -/
theorem measInfoCondUe_meets :
    Meets kpmEncMeasInfoCondUeAsn MeasInfoCondUe.expressible MeasInfoCondUeAsn.satisfies := by
  intro info y hy
  simp only [kpmEncMeasInfoCondUeAsn, bind_eq_next, pure_eq, next_inj] at hy
  obtain ⟨conds, hconds, ues, hues, periods, hperiods, rfl⟩ := hy
  have hper : Meets (sized 1 maxUeId kpmEncUeIdGranPeriodAsn)
      (List.all · UeIdGranPeriod.expressible)
      (isSized 1 maxMeasurementRecord UeIdGranPeriodAsn.satisfies) :=
    fun _ _ => sized_meets ueIdGranPeriod_meets
  simp only [MeasInfoCondUeAsn.satisfies, measType_satisfies,
    sized_meets matchingCond_meets hconds, nonempty_meets ueId_meets hues,
    hper.opt hperiods, Bool.true_and, MeasInfoCondUe.expressible]

/-! ### Indication messages -/

/-- A message of format 1 is always within its constraints. -/
theorem indMsgFrm1_meets : Meets kpmEncIndMsgFrm1Asn (fun _ => true) IndMsgFrm1Asn.satisfies := by
  intro m y hy
  simp only [kpmEncIndMsgFrm1Asn, bind_eq_next, pure_eq, next_inj] at hy
  obtain ⟨data, hdata, infos, hinfos, period, hperiod, rfl⟩ := hy
  have hinfos : infos.all (isSized 1 maxMeasurementInfo MeasInfoAsn.satisfies) = true := by
    rw [nonempty_meets measInfo_meets hinfos, List.all_eq_true]
    exact fun _ _ => rfl
  simp only [IndMsgFrm1Asn.satisfies, sized_meets_true measData_meets hdata, hinfos,
    granPeriod_meets.opt hperiod, Option.all_true, Bool.and_self]

/-- A message of format 2 is within its constraints where its measurements are. -/
theorem indMsgFrm2_meets : Meets kpmEncIndMsgFrm2Asn
    (fun m => m.measInfoCondUeLst.all MeasInfoCondUe.expressible) IndMsgFrm2Asn.satisfies := by
  intro m y hy
  simp only [kpmEncIndMsgFrm2Asn, bind_eq_next, pure_eq, next_inj] at hy
  obtain ⟨data, hdata, infos, hinfos, period, hperiod, rfl⟩ := hy
  simp only [IndMsgFrm2Asn.satisfies, sized_meets_true measData_meets hdata,
    sized_meets measInfoCondUe_meets hinfos, granPeriod_meets.opt hperiod, Option.all_true,
    Bool.true_and, Bool.and_true]

/-- The report of a UE is within its constraints where the identity is. -/
theorem measReportPerUe_meets :
    Meets encMeasReportPerUe MeasReportPerUe.expressible MeasReportPerUeAsn.satisfies := by
  intro r y hy
  simp only [encMeasReportPerUe, bind_eq_next, pure_eq, next_inj] at hy
  obtain ⟨ue, hue, m, hm, rfl⟩ := hy
  rw [MeasReportPerUeAsn.satisfies, ueId_meets hue, indMsgFrm1_meets hm, Bool.and_true,
    MeasReportPerUe.expressible]

/-- **An indication message satisfies its constraints where it is expressible.** -/
theorem indMsg_meets : Meets indMsgPdu IndMsg.expressible IndMsgAsn.satisfies := by
  intro msg y hy
  cases msg with
  | frm1 m =>
    simp only [indMsgPdu, bind_eq_next, pure_eq, next_inj] at hy
    obtain ⟨y, hy, rfl⟩ := hy
    exact indMsgFrm1_meets hy
  | frm2 m =>
    simp only [indMsgPdu, bind_eq_next, pure_eq, next_inj] at hy
    obtain ⟨y, hy, rfl⟩ := hy
    exact indMsgFrm2_meets hy
  | frm3 m =>
    simp only [indMsgPdu, kpmEncIndMsgFrm3Asn, bind_eq_next, pure_eq, next_inj] at hy
    obtain ⟨_, ⟨reports, hreports, rfl⟩, rfl⟩ := hy
    exact sized_meets measReportPerUe_meets hreports

/-! ### Action definitions -/

/-- An action of format 1 is always within its constraints. -/
theorem actDefFrm1_meets :
    Meets kpmEncActionDefFrm1Asn (fun _ => true) ActDefFrm1Asn.satisfies := by
  intro d y hy
  simp only [kpmEncActionDefFrm1Asn, bind_eq_next, pure_eq, next_inj] at hy
  obtain ⟨infos, hinfos, period, hperiod, cell, hcell, bins, hbins, rfl⟩ := hy
  have hbin : Meets (sized 1 maxBin kpmEncMeasBinRangeItem) (fun _ => true)
      (isSized 1 maxMeasurementInfo MeasBinRangeInfoAsn.satisfies) :=
    fun _ _ => sized_meets_true measBinRangeItem_meets
  simp only [ActDefFrm1Asn.satisfies, sized_meets_true measInfo_meets hinfos,
    granPeriod_meets hperiod, cellGlobalId_meets.opt hcell, hbin.opt hbins, Option.all_true,
    Bool.and_self]

/-- An action of format 3 is within its constraints where its measurements are. -/
theorem actDefFrm3_meets : Meets kpmEncActionDefFrm3Asn
    (fun d => d.measInfoLst.all MeasInfoFrm3.expressible) ActDefFrm3Asn.satisfies := by
  intro d y hy
  simp only [kpmEncActionDefFrm3Asn, bind_eq_next, pure_eq, next_inj] at hy
  obtain ⟨infos, hinfos, period, hperiod, cell, hcell, rfl⟩ := hy
  simp only [ActDefFrm3Asn.satisfies, sized_meets measInfoCond_meets hinfos,
    granPeriod_meets hperiod, cellGlobalId_meets.opt hcell, Option.all_true, Bool.and_true]

/-- **An action definition satisfies its constraints where it is expressible.** -/
theorem actDef_meets : Meets actionDefPdu ActDef.expressible ActDefAsn.satisfies := by
  intro d y hy
  cases d with
  | frm1 d =>
    simp only [actionDefPdu, bind_eq_next, pure_eq, next_inj] at hy
    obtain ⟨y, hy, rfl⟩ := hy
    exact actDefFrm1_meets hy
  | frm2 d =>
    simp only [actionDefPdu, kpmEncActionDefFrm2Asn, bind_eq_next, pure_eq, next_inj] at hy
    obtain ⟨_, ⟨ue, hue, info, hinfo, rfl⟩, rfl⟩ := hy
    exact (congrArg₂ and (ueId_meets hue) (actDefFrm1_meets hinfo)).trans (Bool.and_true _)
  | frm3 d =>
    simp only [actionDefPdu, bind_eq_next, pure_eq, next_inj] at hy
    obtain ⟨y, hy, rfl⟩ := hy
    exact actDefFrm3_meets hy
  | frm4 d =>
    simp only [actionDefPdu, kpmEncActionDefFrm4Asn, bind_eq_next, pure_eq, next_inj] at hy
    obtain ⟨_, ⟨conds, hconds, info, hinfo, rfl⟩, rfl⟩ := hy
    exact (congrArg₂ and (sized_meets matchingCondFrm4_meets hconds)
      (actDefFrm1_meets hinfo)).trans (Bool.and_true _)
  | frm5 d =>
    simp only [actionDefPdu, kpmEncActionDefFrm5Asn, bind_eq_next, pure_eq, next_inj] at hy
    obtain ⟨_, ⟨ues, hues, info, hinfo, rfl⟩, rfl⟩ := hy
    exact (congrArg₂ and (sized_meets ueId_meets hues) (actDefFrm1_meets hinfo)).trans
      (Bool.and_true _)

/-! ### Headers and RAN function definitions -/

/-- A header always is within its constraints. -/
theorem indHdr_meets : Meets indHdrPdu (fun _ => true) IndHdrAsn.satisfies := by
  intro h y hy
  cases h with
  | frm1 h =>
    obtain rfl := next_inj.mp hy
    rfl

/-- The encoder takes a list without an event trigger style, the constraints do not. -/
theorem eventTriggerStyles_meets : Meets (sized 0 maxRicStyles encEventTriggerStyle)
    (fun items => 1 ≤ items.length) (isSized 1 maxRicStyles fun _ => true) := by
  intro items ys hys
  simp only [sized, bind_eq_next, assert_eq_next, decide_eq_true_eq] at hys
  obtain ⟨_, hlen, hys⟩ := hys
  rw [isSized, walk_length hys]
  simp [hlen.2]

/-- A measurement of a report style is a name, and an id perhaps. -/
theorem measInfoForAction_meets :
    Meets encMeasInfoForAction (fun _ => true) MeasInfoActionItemAsn.satisfies := by
  intro item y hy
  simp only [encMeasInfoForAction, bind_eq_next, assert_eq_next, pure_eq, next_inj] at hy
  obtain ⟨_, -, rfl⟩ := hy
  rfl

/-- A report style has the measurements that the encoder asserts. -/
theorem reportStyle_meets : Meets encReportStyle (fun _ => true) RicReportStyleItemAsn.satisfies := by
  intro item y hy
  simp only [encReportStyle, bind_eq_next, pure_eq, next_inj] at hy
  obtain ⟨meas, hmeas, rfl⟩ := hy
  exact sized_meets_true measInfoForAction_meets hmeas

/-- **A RAN function definition satisfies its constraints where it is expressible.** -/
theorem funcDef_meets :
    Meets funcDefPdu RanFunctionDef.expressible RanFunctionDescriptionAsn.satisfies := by
  intro d y hy
  simp only [funcDefPdu, bind_eq_next, pure_eq, next_inj] at hy
  obtain ⟨events, hevents, reports, hreports, rfl⟩ := hy
  have hrep : reports.all (isSized 1 maxRicStyles RicReportStyleItemAsn.satisfies) = true := by
    cases hlist : d.ricReportStyleList with
    | none =>
      rw [hlist] at hreports
      obtain rfl := next_inj.mp hreports
      rfl
    | some items =>
      rw [hlist] at hreports
      rw [nonempty_meets reportStyle_meets hreports, List.all_eq_true]
      exact fun _ _ => rfl
  rw [RanFunctionDescriptionAsn.satisfies, eventTriggerStyles_meets.opt hevents, hrep, Bool.and_true,
    RanFunctionDef.expressible]

end Kpm

end FlexRic
