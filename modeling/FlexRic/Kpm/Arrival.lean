import FlexRic.Kpm.KpmDec

/-!
# FlexRic.Kpm.Arrival

What the decoder of one side makes of the structure that the encoder of the other
side built of a value, part by part.

Each part has the exact condition under which something arrives, and says what it
is: `arrives_labelInfo` for a label, one lemma for each structure above it.  Lists
arrive element by element, with the bounds that both sides check.
-/

namespace FlexRic

namespace Kpm

open Outcome Ue

/-! ## Lists -/

section Lists

variable {α β γ : Type} {enc : α → Outcome β} {dec : β → Outcome γ} {lo hi : Nat} {xs : List α}
  {xs' : List γ}

/-- **A list within its bounds arrives** element by element. -/
theorem arrives_sized : Arrives (sized lo hi enc) (sized lo hi dec) xs xs' ↔
    (lo ≤ xs.length ∧ xs.length ≤ hi) ∧ List.Forall₂ (Arrives enc dec) xs xs' := by
  rw [← arrives_walk]
  simp only [Arrives, sized, bind_eq_next, assert_eq_next, decide_eq_true_eq]
  constructor
  · rintro ⟨ys, ⟨_, hlen, hys⟩, _, -, hxs'⟩
    exact ⟨hlen, ys, hys, hxs'⟩
  · rintro ⟨hlen, ys, hys, hxs'⟩
    refine ⟨ys, ⟨⟨⟩, hlen, hys⟩, ⟨⟩, ?_, hxs'⟩
    rwa [walk_length hys]

/-- A list that is left out where it is empty: its upper bound is the encoder's,
and the decoder's too or not. -/
theorem arrives_nonempty {decs : List β → Outcome (List γ)}
    (hdecs : decs = sized 1 hi dec ∨ decs = walk dec) :
    Arrives (encNonempty (sized 1 hi enc)) (decNonempty decs) xs xs' ↔
      xs.length ≤ hi ∧ List.Forall₂ (Arrives enc dec) xs xs' := by
  cases xs with
  | nil =>
    have henc : encNonempty (sized 1 hi enc) [] = next none := rfl
    rw [arrives_next henc, List.forall₂_nil_left_iff]
    simp [decNonempty, eq_comm]
  | cons x xs =>
    have henc : encNonempty (sized 1 hi enc) (x :: xs) =
        sized 1 hi enc (x :: xs) >>= fun ys => next (some ys) := rfl
    have hlen : 1 ≤ (x :: xs).length := Nat.succ_pos _
    have hchoice : Arrives (encNonempty (sized 1 hi enc)) (decNonempty decs) (x :: xs) xs' ↔
        Arrives (sized 1 hi enc) decs (x :: xs) xs' := by
      simp [Arrives, henc, decNonempty]
    rw [hchoice]
    rcases hdecs with rfl | rfl
    · rw [arrives_sized, and_iff_right hlen]
    · rw [← arrives_walk]
      simp only [Arrives, sized, bind_eq_next, assert_eq_next, decide_eq_true_eq, hlen, true_and]
      constructor
      · rintro ⟨ys, ⟨_, hle, hys⟩, hxs'⟩
        exact ⟨hle, ys, hys, hxs'⟩
      · rintro ⟨hle, ys, hys, hxs'⟩
        exact ⟨ys, ⟨⟨⟩, hle, hys⟩, hxs'⟩

end Lists

/-! ## Fields -/

/-- An enumeration of one value is asserted to be that value, and decoded as it. -/
theorem arrives_true {v v' : EnumValue} :
    Arrives encTrue decTrue v v' ↔ v = .trueValue ∧ v' = .trueValue := by
  cases v with
  | trueValue =>
    have h : Arrives encTrue decTrue .trueValue v' ↔ v' = .trueValue := arrives_known rfl rfl
    simp [h]
  | endValue => simp [not_arrives (rfl : encTrue .endValue = abort _)]

/-- An enumeration of one value arrives, if it has that value. -/
theorem arrives_flag {flag flag' : Option EnumValue} :
    Arrives (opt encTrue) (opt decTrue) flag flag' ↔
      flag ≠ some .endValue ∧ flag' = flag := by
  rw [arrives_opt]
  cases flag with
  | none => cases flag' <;> simp
  | some v => cases v <;> cases flag' <;> simp [arrives_true]

/-- A measurement arrives as it is, by name or by id. -/
theorem arrives_measType {t t' : MeasType} :
    Arrives (fun t => next (encMeasType t)) decMeasType t t' ↔ t' = t := by
  cases t with
  | name name => exact arrives_known rfl rfl
  | id id =>
    have hback : longToU16 id.toNat = id := by
      have hlt : id.toNat < 65536 := id.toNat_lt
      rw [longToU16, ← UInt16.toNat_inj, toNat_toUInt16]
      omega
    refine arrives_known rfl ?_
    rw [encMeasType, decMeasType, hback, pure_eq]

/-- A granularity period arrives unless it is 0. -/
theorem arrives_granPeriod {ms ms' : UInt32} :
    Arrives encGranPeriod decGranPeriod ms ms' ↔ 1 ≤ ms.toNat ∧ ms' = ms := by
  have hlt : ms.toNat < 2 ^ 32 := ms.toNat_lt
  have henc : (1 ≤ ms.toUInt64 ∧ ms.toUInt64 ≤ 4294967295) ↔ 1 ≤ ms.toNat := by
    simp only [UInt64.le_iff_toNat_le, UInt32.toNat_toUInt64, UInt64.reduceToNat]
    omega
  have hdec : (1 ≤ ms.toUInt64.toUInt32 ∧ ms.toUInt64.toUInt32.toUInt64 ≤ 4294967295) ↔
      1 ≤ ms.toNat := by
    simp only [UInt32.toUInt32_toUInt64, UInt64.le_iff_toNat_le, UInt32.le_iff_toNat_le,
      UInt32.toNat_toUInt64, UInt64.reduceToNat, UInt32.reduceToNat]
    omega
  by_cases h : 1 ≤ ms.toNat
  · rw [and_iff_right h]
    refine arrives_known (y := ms.toUInt64) ?_ ?_
    · rw [encGranPeriod, assert_of (decide_eq_true (henc.mpr h))]
      rfl
    · rw [decGranPeriod, assert_of (decide_eq_true (hdec.mpr h)), UInt32.toUInt32_toUInt64]
      rfl
  · simp only [h, false_and, iff_false]
    rintro ⟨y, hy, -⟩
    simp only [encGranPeriod, bind_eq_next, assert_eq_next, decide_eq_true_eq, henc] at hy
    obtain ⟨_, hone, -⟩ := hy
    exact h hone

/-! ## Labels -/

/-- What arrives of a label without `noLabel`. -/
def Label.sent (l : Label) : Label where
  plmnId := l.plmnId.map fun p => plmnidToMccMnc (mccMncToPlmnid p)
  sliceId := l.sliceId.map fun s => decSNssai (encSNssai s)
  fiveQi := l.fiveQi
  avg := l.avg

theorem longToU8_back (v : UInt8) : longToU8 v.toNat = v := by
  have hlt : v.toNat < 256 := v.toNat_lt
  rw [longToU8, ← UInt8.toNat_inj, toNat_toUInt8]
  omega

/-- What the decoder makes of a label without `noLabel`. -/
theorem kpmDecLabelInfoAsn_sent {l : Label} {avg : Option Int}
    (havg : avg.map (fun _ => EnumValue.trueValue) = l.avg) :
    kpmDecLabelInfoAsn {
      plmnId := l.plmnId.map mccMncToPlmnid
      sliceId := l.sliceId.map encSNssai
      fiveQi := l.fiveQi.map fun v => (v.toNat : Int)
      avg := avg } = next l.sent := by
  simp [kpmDecLabelInfoAsn, LabelAsn.unhandled, assert, Label.sent, havg, Option.map_map,
    Function.comp_def, longToU8_back]

/-- **A label arrives**: `noLabel` alone, or what is left of a label that the
encoder handles. -/
theorem arrives_labelInfo {l l' : Label} :
    Arrives kpmEncLabelInfoAsn kpmDecLabelInfoAsn l l' ↔
      l.noLabel = some .trueValue ∧ l' = { noLabel := some .trueValue } ∨
      l.noLabel = none ∧ l.unhandled = false ∧ l.avg ≠ some .endValue ∧ l' = l.sent := by
  have hsent (avg : Option Int) (henc : kpmEncLabelInfoAsn l = next {
      plmnId := l.plmnId.map mccMncToPlmnid
      sliceId := l.sliceId.map encSNssai
      fiveQi := l.fiveQi.map fun v => (v.toNat : Int)
      avg := avg }) (havg : avg.map (fun _ => EnumValue.trueValue) = l.avg) :
      Arrives kpmEncLabelInfoAsn kpmDecLabelInfoAsn l l' ↔ l' = l.sent :=
    arrives_known henc (kpmDecLabelInfoAsn_sent havg)
  have hlost (m : String) (henc : kpmEncLabelInfoAsn l = abort m) :
      ¬ Arrives kpmEncLabelInfoAsn kpmDecLabelInfoAsn l l' := not_arrives henc
  rcases hno : l.noLabel with _ | _ | _
  · cases hun : l.unhandled with
    | true =>
      have h := hlost "not implemented" (by rw [kpmEncLabelInfoAsn, hno, hun]; rfl)
      simp [h]
    | false =>
      rcases havg : l.avg with _ | _ | _
      · simp [hsent none (by rw [kpmEncLabelInfoAsn, hno, hun, havg]; rfl) havg.symm]
      · simp [hsent (some 0) (by rw [kpmEncLabelInfoAsn, hno, hun, havg]; rfl) havg.symm]
      · have h := hlost "has only one value (true)"
          (by rw [kpmEncLabelInfoAsn, hno, hun, havg]; rfl)
        simp [h]
  · have h : Arrives kpmEncLabelInfoAsn kpmDecLabelInfoAsn l l' ↔
        l' = { noLabel := some .trueValue } :=
      arrives_known (y := { noLabel := some 0 }) (by rw [kpmEncLabelInfoAsn, hno]; rfl) rfl
    simp [h]
  · have h := hlost "has only one value (true)" (by rw [kpmEncLabelInfoAsn, hno]; rfl)
    simp [h]

/-! ## Measurements -/

/-- **A measurement with its labels**, of which there is at least one. -/
theorem arrives_measInfo {i i' : MeasInfoFrm1} :
    Arrives kpmEncMeasInfoAsn kpmDecMeasInfoAsn i i' ↔ i'.measType = i.measType ∧
      (1 ≤ i.labelInfoLst.length ∧ i.labelInfoLst.length ≤ maxLabelInfo) ∧
      List.Forall₂ (Arrives kpmEncLabelInfoAsn kpmDecLabelInfoAsn) i.labelInfoLst
        i'.labelInfoLst := by
  obtain ⟨t', labels'⟩ := i'
  rw [← arrives_measType, ← arrives_sized]
  exact arrives_two rfl (fun _ _ => rfl) (by simp)

/-- A record arrives, a missing value without its address. -/
def MeasRecord.sent : MeasRecord → MeasRecord
  | integer v => integer v
  | real v => real v
  | noValue _ => noValue 0

/-- A missing value arrives without its address. -/
theorem arrives_measRecord {r r' : MeasRecord} :
    Arrives encMeasRecord decMeasRecord r r' ↔ r' = r.sent := by
  cases r with
  | integer v =>
    refine arrives_known rfl ?_
    rw [decMeasRecord, UInt32.toUInt32_toUInt64]
    rfl
  | real v => exact arrives_known rfl rfl
  | noValue p => exact arrives_known rfl rfl

/-- **The records of one period**; an incomplete flag is `true`. -/
theorem arrives_measData {d d' : MeasData} :
    Arrives kpmEncMeasDataAsn kpmDecMeasDataAsn d d' ↔
      ((1 ≤ d.measRecordLst.length ∧ d.measRecordLst.length ≤ maxMeasurementValue) ∧
        List.Forall₂ (Arrives encMeasRecord decMeasRecord) d.measRecordLst d'.measRecordLst) ∧
      d.incompleteFlag ≠ some .endValue ∧ d'.incompleteFlag = d.incompleteFlag := by
  obtain ⟨records', flag'⟩ := d'
  rw [← arrives_flag, ← arrives_sized]
  exact arrives_two rfl (fun _ _ => rfl) (by simp)

/-! ## Bins -/

/-- The start or the end of a bin, without what is above 32 bits. -/
def BinRangeValue.sent : BinRangeValue → BinRangeValue
  | integer v => integer (v.toNat % 2 ^ 32).toUInt64
  | real v => real v

/-- An integer of a bin goes through a `long`, and a real number as it is. -/
theorem arrives_binRangeValue (v : BinRangeValue) :
    decBinRangeValue (encBinRangeValue v) = v.sent := by
  cases v with
  | integer v =>
    rw [encBinRangeValue, decBinRangeValue, BinRangeValue.sent]
    congr 2
    omega
  | real v => rfl

/-- A bin arrives. -/
def BinDistr.sent (bin : BinDistr) : BinDistr :=
  ⟨bin.binIndex, bin.startValue.sent, bin.endValue.sent⟩

/-- A bin arrives where both of its bounds do. -/
theorem arrives_binDistr {bin bin' : BinDistr} :
    Arrives encBinDistr decBinDistr bin bin' ↔ bin' = bin.sent := by
  have hback : longToU16 bin.binIndex.toNat = bin.binIndex := by
    have hlt : bin.binIndex.toNat < 65536 := bin.binIndex.toNat_lt
    rw [longToU16, ← UInt16.toNat_inj, toNat_toUInt16]
    omega
  refine arrives_known rfl ?_
  simp only [decBinDistr, arrives_binRangeValue, hback, BinDistr.sent, pure_eq]

/-- The bins of a definition arrive, if there is one axis. -/
theorem arrives_binRangeDef {d d' : BinRangeDef} :
    Arrives kpmEncBinRangeDef kpmDecBinRangeDef d d' ↔
      (1 ≤ d.binXLst.length ∧ d.binXLst.length ≤ maxBin) ∧ d.binYLst = none ∧ d.binZLst = none ∧
        d' = { binXLst := d.binXLst.map BinDistr.sent } := by
  have hbins : ∀ {xs'}, Arrives (sized 1 maxBin encBinDistr) (sized 1 maxBin decBinDistr) d.binXLst
      xs' ↔ (1 ≤ d.binXLst.length ∧ d.binXLst.length ≤ maxBin) ∧
        xs' = d.binXLst.map BinDistr.sent := by
    intro xs'
    have hone : Arrives encBinDistr decBinDistr = fun bin bin' => bin' = bin.sent := by
      funext bin bin'
      exact propext arrives_binDistr
    rw [arrives_sized, hone, forall₂_eq_map]
  constructor
  · rintro ⟨y, henc, hdec⟩
    simp only [kpmEncBinRangeDef, bind_eq_next, assert_eq_next, pure_eq, next_inj,
      Option.isNone_iff_eq_none] at henc
    obtain ⟨xs, hxs, _, hy, _, hz, rfl⟩ := henc
    simp only [kpmDecBinRangeDef, bind_eq_next, assert_eq_next, pure_eq, next_inj] at hdec
    obtain ⟨xs', hxs', _, -, _, -, rfl⟩ := hdec
    obtain ⟨hlen, rfl⟩ := hbins.mp ⟨xs, hxs, hxs'⟩
    exact ⟨hlen, hy, hz, rfl⟩
  · rintro ⟨hlen, hy, hz, rfl⟩
    obtain ⟨xs, hxs, hxs'⟩ := hbins.mpr ⟨hlen, rfl⟩
    refine ⟨{ binRangeListX := xs }, ?_, ?_⟩
    · rw [kpmEncBinRangeDef, hxs, hy, hz]
      rfl
    · rw [kpmDecBinRangeDef, hxs']
      rfl

/-- A measurement and its bins. -/
theorem arrives_measBinRangeItem {i i' : MeasBinRangeInfo} :
    Arrives kpmEncMeasBinRangeItem kpmDecMeasBinRangeItem i i' ↔ i'.measType = i.measType ∧
      Arrives kpmEncBinRangeDef kpmDecBinRangeDef i.binRangeDef i'.binRangeDef := by
  obtain ⟨t', d'⟩ := i'
  rw [← arrives_measType]
  exact arrives_two rfl (fun _ _ => rfl) (by simp)

/-! ## Conditions -/

/-- A condition that is encoded is decoded as the same enumerator. -/
theorem decTestCond_code (c : TestCond) : decTestCond c.code = next c := by
  cases c <;> rfl

/-- An optional condition arrives as itself. -/
theorem arrives_testCond {c c' : Option TestCond} :
    Arrives (fun c => next (Option.map TestCond.code c)) (opt decTestCond) c c' ↔ c' = c := by
  refine arrives_known rfl ?_
  cases c with
  | none => rfl
  | some c => rw [Option.map_some, opt_some, decTestCond_code, next_bind]

/-- A value of a test arrives, unless it is a bit string. -/
theorem arrives_testCondValue {v v' : TestCondValue} :
    Arrives encTestCondValue decTestCondValue v v' ↔
      (∀ b, v ≠ .bitStringValue b) ∧ v' = v := by
  cases v with
  | bitStringValue b =>
    simp [not_arrives (rfl : encTestCondValue (.bitStringValue b) = abort _)]
  | intValue v =>
    have h : Arrives encTestCondValue decTestCondValue (.intValue v) v' ↔ v' = .intValue v :=
      arrives_known rfl (by simp [decTestCondValue])
    simp [h]
  | enumValue v =>
    have h : Arrives encTestCondValue decTestCondValue (.enumValue v) v' ↔ v' = .enumValue v :=
      arrives_known rfl (by simp [decTestCondValue])
    simp [h]
  | boolValue v =>
    have h : Arrives encTestCondValue decTestCondValue (.boolValue v) v' ↔ v' = .boolValue v :=
      arrives_known rfl (by cases v <;> rfl)
    simp [h]
  | octetStringValue v =>
    have h : Arrives encTestCondValue decTestCondValue (.octetStringValue v) v' ↔
      v' = .octetStringValue v := arrives_known rfl rfl
    simp [h]
  | printableStringValue v =>
    have h : Arrives encTestCondValue decTestCondValue (.printableStringValue v) v' ↔
      v' = .printableStringValue v := arrives_known rfl rfl
    simp [h]
  | realValue v =>
    have h : Arrives encTestCondValue decTestCondValue (.realValue v) v' ↔ v' = .realValue v :=
      arrives_known rfl rfl
    simp [h]

/-- **A test arrives as it is**, unless its value is a bit string. -/
theorem arrives_testInfo {t t' : TestInfo} :
    Arrives kpmEncTestInfoAsn kpmDecTestInfoAsn t t' ↔
      (∀ b, t.testCondValue ≠ some (.bitStringValue b)) ∧ t' = t := by
  obtain ⟨type, cond, testCond, value⟩ := t
  obtain ⟨type', cond', testCond', value'⟩ := t'
  have htype {p p' : TestCondType × CondType} :
      Arrives (fun p => next (.present p.1 p.2.code)) decTestCondType p p' ↔ p' = p :=
    arrives_known rfl (by obtain ⟨_, _ | _⟩ := p <;> rfl)
  have hvalue : Arrives (opt encTestCondValue) (opt decTestCondValue) value value' ↔
      (∀ b, value ≠ some (.bitStringValue b)) ∧ value' = value := by
    rw [arrives_opt]
    cases value <;> cases value' <;> simp [arrives_testCondValue]
  have hparts : Arrives kpmEncTestInfoAsn kpmDecTestInfoAsn ⟨type, cond, testCond, value⟩
      ⟨type', cond', testCond', value'⟩ ↔
        Arrives (fun p => next (.present p.1 p.2.code)) decTestCondType (type, cond)
            (type', cond') ∧
          Arrives (fun c => next (Option.map TestCond.code c)) (opt decTestCond) testCond
            testCond' ∧
          Arrives (opt encTestCondValue) (opt decTestCondValue) value value' :=
    arrives_three rfl (fun _ _ _ => rfl) (by simp [Prod.ext_iff, and_assoc])
  rw [hparts, htype, arrives_testCond, hvalue]
  simp only [Prod.mk.injEq, TestInfo.mk.injEq]
  tauto

/-- A label as a condition arrives as a label. -/
theorem arrives_condInfo_label {l : Label} {c' : CondInfo} :
    Arrives encCondInfo decCondInfo (.labelInfo l) c' ↔
      ∃ l', .labelInfo l' = c' ∧ Arrives kpmEncLabelInfoAsn kpmDecLabelInfoAsn l l' :=
  arrives_choice rfl (fun _ => rfl)

/-- A test as a condition arrives as a test. -/
theorem arrives_condInfo_test {t : TestInfo} {c' : CondInfo} :
    Arrives encCondInfo decCondInfo (.testInfo t) c' ↔
      ∃ t', .testInfo t' = c' ∧ Arrives kpmEncTestInfoAsn kpmDecTestInfoAsn t t' :=
  arrives_choice rfl (fun _ => rfl)

/-- **A condition of format 3**: the logical or is not asserted, but for its last value. -/
theorem arrives_matchingCond {c c' : MatchingCondFrm3} :
    Arrives kpmEncMatchingCondAsn kpmDecMatchingCondAsn c c' ↔
      Arrives encCondInfo decCondInfo c.cond c'.cond ∧
        c.logicalOr ≠ some .endValue ∧ c'.logicalOr = c.logicalOr := by
  obtain ⟨cond', or'⟩ := c'
  rw [← arrives_flag]
  exact arrives_two rfl (fun _ _ => rfl) (by simp)

/-- A condition of format 4 arrives, if it is not part of a disjunction. -/
theorem arrives_matchingCondFrm4 {c c' : MatchingCondFrm4} :
    Arrives kpmEncMatchingCondFrm4Asn kpmDecMatchingCondFrm4Asn c c' ↔
      Arrives kpmEncTestInfoAsn kpmDecTestInfoAsn c.testInfoLst c'.testInfoLst ∧
        c.logicalOr = none ∧ c'.logicalOr = none := by
  obtain ⟨info', or'⟩ := c'
  simp only [Arrives, kpmEncMatchingCondFrm4Asn, kpmDecMatchingCondFrm4Asn, bind_eq_next,
    assert_eq_next, pure_eq, next_inj, Option.isNone_iff_eq_none, MatchingCondFrm4.mk.injEq]
  constructor
  · rintro ⟨_, ⟨y, hy, _, hor, rfl⟩, z, hz, rfl, rfl⟩
    exact ⟨⟨y, hy, hz⟩, hor, rfl⟩
  · rintro ⟨⟨y, hy, hz⟩, hor, rfl⟩
    exact ⟨⟨y, none⟩, ⟨y, hy, ⟨⟩, hor, rfl⟩, info', hz, rfl, rfl⟩

/-- A measurement under conditions. -/
theorem arrives_measInfoCond {i i' : MeasInfoFrm3} :
    Arrives kpmEncMeasInfoCondAsn kpmDecMeasInfoCondAsn i i' ↔ i'.measType = i.measType ∧
      ((1 ≤ i.matchingCondLst.length ∧ i.matchingCondLst.length ≤ maxConditionInfo) ∧
        List.Forall₂ (Arrives kpmEncMatchingCondAsn kpmDecMatchingCondAsn) i.matchingCondLst
          i'.matchingCondLst) ∧
      Option.Rel (Arrives kpmEncBinRangeDef kpmDecBinRangeDef) i.binRangeDef i'.binRangeDef := by
  obtain ⟨t', conds', bins'⟩ := i'
  rw [← arrives_measType, ← arrives_sized, ← arrives_opt]
  exact arrives_three rfl (fun _ _ _ => rfl) (by simp)

/-! ## UEs -/

/-- **A UE identity arrives as one of its kind**, with its RAN UE id and its global
eNB id where it had them. -/
theorem comparable_of_arrives {ue ue' : UeId} (h : Arrives encUeIdAsn decUeIdAsn ue ue') :
    ue'.comparable = ue.comparable := by
  have hsome {α β γ : Type} {enc : α → Outcome β} {dec : β → Outcome γ} {o : Option α}
      {y : Option β} {o' : Option γ} (henc : opt enc o = next y) (hdec : opt dec y = next o') :
      o'.isSome = o.isSome := by
    have hrel := arrives_opt.mp ⟨y, henc, hdec⟩
    cases hrel <;> rfl
  obtain ⟨y, henc, hdec⟩ := h
  cases ue with
  | gnbDu ue =>
    simp only [encUeIdAsn, encGnbDuUeAsn, bind_eq_next, pure_eq, next_inj] at henc
    obtain ⟨_, ⟨_, -, ran, hran, rfl⟩, rfl⟩ := henc
    simp only [decUeIdAsn, decGnbDuUeAsn, bind_eq_next, pure_eq, next_inj] at hdec
    obtain ⟨_, ⟨_, -, ran', hran', rfl⟩, rfl⟩ := hdec
    exact hsome hran hran'
  | enb ue =>
    simp only [encUeIdAsn, encEnbUeAsn, bind_eq_next, pure_eq, next_inj] at henc
    obtain ⟨_, ⟨_, -, _, -, _, -, _, -, global, hglobal, rfl⟩, rfl⟩ := henc
    simp only [decUeIdAsn, decEnbUeAsn, bind_eq_next, pure_eq, next_inj] at hdec
    obtain ⟨_, ⟨_, -, _, -, _, -, _, -, global', hglobal', rfl⟩, rfl⟩ := hdec
    exact hsome hglobal hglobal'
  | gnb ue | gnbCuUp ue | ngEnb ue | ngEnbDu ue | enGnb ue =>
    simp only [encUeIdAsn, bind_eq_next, pure_eq, next_inj] at henc
    obtain ⟨_, -, rfl⟩ := henc
    simp only [decUeIdAsn, bind_eq_next, pure_eq, next_inj] at hdec
    obtain ⟨_, -, rfl⟩ := hdec
    rfl

/-- The UEs matched in a granularity period. -/
theorem arrives_noneMatched {v : EnumValue} {p' : UeIdGranPeriod} :
    Arrives kpmEncUeIdGranPeriodAsn decUeIdGranPeriod (.noneMatched v) p' ↔
      p' = .noneMatched .trueValue :=
  arrives_known rfl rfl

/-- UEs that matched arrive one by one. -/
theorem arrives_oneOrMoreMatched {ues : List UeId} {p' : UeIdGranPeriod} :
    Arrives kpmEncUeIdGranPeriodAsn decUeIdGranPeriod (.oneOrMoreMatched ues) p' ↔
      ∃ ues', .oneOrMoreMatched ues' = p' ∧ (1 ≤ ues.length ∧ ues.length ≤ maxUeId) ∧
        List.Forall₂ (Arrives encUeIdAsn decUeIdAsn) ues ues' := by
  simp only [← arrives_sized]
  exact arrives_choice rfl (fun _ => rfl)

/-- **A measurement with the UEs that matched**, in all and by period. -/
theorem arrives_measInfoCondUe {i i' : MeasInfoCondUe} :
    Arrives kpmEncMeasInfoCondUeAsn kpmDecMeasInfoCondUeAsn i i' ↔ i'.measType = i.measType ∧
      ((1 ≤ i.matchingCondLst.length ∧ i.matchingCondLst.length ≤ maxConditionInfo) ∧
        List.Forall₂ (Arrives kpmEncMatchingCondAsn kpmDecMatchingCondAsn) i.matchingCondLst
          i'.matchingCondLst) ∧
      (i.ueIdMatchedLst.length ≤ maxUeId ∧
        List.Forall₂ (Arrives encUeIdAsn decUeIdAsn) i.ueIdMatchedLst i'.ueIdMatchedLst) ∧
      Option.Rel (Arrives (sized 1 maxUeId kpmEncUeIdGranPeriodAsn)
        (sized 1 maxUeId decUeIdGranPeriod)) i.ueIdGranPeriodLst i'.ueIdGranPeriodLst := by
  obtain ⟨t', conds', ues', periods'⟩ := i'
  rw [← arrives_measType, ← arrives_sized, ← arrives_opt, ← arrives_nonempty (.inl rfl)]
  exact arrives_four rfl (fun _ _ _ _ => rfl) (by simp)

/-! ## Indication messages -/

/-- **An indication of format 1.** -/
theorem arrives_indMsgFrm1 {m m' : IndMsgFrm1} :
    Arrives kpmEncIndMsgFrm1Asn kpmDecIndMsgFrm1Asn m m' ↔
      ((1 ≤ m.measDataLst.length ∧ m.measDataLst.length ≤ maxMeasurementRecord) ∧
        List.Forall₂ (Arrives kpmEncMeasDataAsn kpmDecMeasDataAsn) m.measDataLst
          m'.measDataLst) ∧
      (m.measInfoLst.length ≤ maxMeasurementInfo ∧
        List.Forall₂ (Arrives kpmEncMeasInfoAsn kpmDecMeasInfoAsn) m.measInfoLst
          m'.measInfoLst) ∧
      Option.Rel (Arrives encGranPeriod decGranPeriod) m.granPeriodMs m'.granPeriodMs := by
  obtain ⟨data', infos', period'⟩ := m'
  rw [← arrives_sized, ← arrives_opt, ← arrives_nonempty (.inr rfl)]
  exact arrives_three rfl (fun _ _ _ => rfl) (by simp)

/-- **An indication of format 2.** -/
theorem arrives_indMsgFrm2 {m m' : IndMsgFrm2} :
    Arrives kpmEncIndMsgFrm2Asn kpmDecIndMsgFrm2Asn m m' ↔
      ((1 ≤ m.measDataLst.length ∧ m.measDataLst.length ≤ maxMeasurementRecord) ∧
        List.Forall₂ (Arrives kpmEncMeasDataAsn kpmDecMeasDataAsn) m.measDataLst
          m'.measDataLst) ∧
      ((1 ≤ m.measInfoCondUeLst.length ∧ m.measInfoCondUeLst.length ≤ maxMeasurementInfo) ∧
        List.Forall₂ (Arrives kpmEncMeasInfoCondUeAsn kpmDecMeasInfoCondUeAsn)
          m.measInfoCondUeLst m'.measInfoCondUeLst) ∧
      Option.Rel (Arrives encGranPeriod decGranPeriod) m.granPeriodMs m'.granPeriodMs := by
  obtain ⟨data', infos', period'⟩ := m'
  rw [← arrives_sized, ← arrives_sized, ← arrives_opt]
  exact arrives_three rfl (fun _ _ _ => rfl) (by simp)

/-- The report of a UE: its identity, and a message of format 1. -/
theorem arrives_measReportPerUe {r r' : MeasReportPerUe} :
    Arrives encMeasReportPerUe decMeasReportPerUe r r' ↔
      Arrives encUeIdAsn decUeIdAsn r.ueMeasReportLst r'.ueMeasReportLst ∧
        Arrives kpmEncIndMsgFrm1Asn kpmDecIndMsgFrm1Asn r.indMsgFormat1 r'.indMsgFormat1 := by
  obtain ⟨ue', m'⟩ := r'
  exact arrives_two rfl (fun _ _ => rfl) (by simp)

/-- **An indication of format 3.** -/
theorem arrives_indMsgFrm3 {m m' : IndMsgFrm3} :
    Arrives kpmEncIndMsgFrm3Asn kpmDecIndMsgFrm3Asn m m' ↔
      (1 ≤ m.measReportPerUe.length ∧ m.measReportPerUe.length ≤ maxUeMeasReport) ∧
        List.Forall₂ (Arrives encMeasReportPerUe decMeasReportPerUe) m.measReportPerUe
          m'.measReportPerUe := by
  obtain ⟨reports⟩ := m
  obtain ⟨reports'⟩ := m'
  have hchoice : Arrives kpmEncIndMsgFrm3Asn kpmDecIndMsgFrm3Asn ⟨reports⟩ ⟨reports'⟩ ↔
      ∃ a', IndMsgFrm3.mk a' = ⟨reports'⟩ ∧ Arrives (sized 1 maxUeMeasReport encMeasReportPerUe)
        (sized 1 maxUeMeasReport decMeasReportPerUe) reports a' :=
    arrives_choice rfl (fun _ => rfl)
  rw [hchoice]
  simp [arrives_sized]

/-- **An indication message arrives** in its format. -/
theorem arrives_indMsg_frm1 {m : IndMsgFrm1} {msg' : IndMsg} :
    Arrives indMsgPdu indMsgOfPdu (.frm1 m) msg' ↔
      ∃ m', .frm1 m' = msg' ∧ Arrives kpmEncIndMsgFrm1Asn kpmDecIndMsgFrm1Asn m m' :=
  arrives_choice rfl (fun _ => rfl)

/-- A message keeps its format. -/
theorem arrives_indMsg_frm2 {m : IndMsgFrm2} {msg' : IndMsg} :
    Arrives indMsgPdu indMsgOfPdu (.frm2 m) msg' ↔
      ∃ m', .frm2 m' = msg' ∧ Arrives kpmEncIndMsgFrm2Asn kpmDecIndMsgFrm2Asn m m' :=
  arrives_choice rfl (fun _ => rfl)

theorem arrives_indMsg_frm3 {m : IndMsgFrm3} {msg' : IndMsg} :
    Arrives indMsgPdu indMsgOfPdu (.frm3 m) msg' ↔
      ∃ m', .frm3 m' = msg' ∧ Arrives kpmEncIndMsgFrm3Asn kpmDecIndMsgFrm3Asn m m' :=
  arrives_choice rfl (fun _ => rfl)

/-! ## Action definitions -/

/-- **An action definition of format 1**; its cell and its bins are optional. -/
theorem arrives_actDefFrm1 {d d' : ActDefFrm1} :
    Arrives kpmEncActionDefFrm1Asn kpmDecActionDefFrm1Asn d d' ↔
      ((1 ≤ d.measInfoLst.length ∧ d.measInfoLst.length ≤ maxMeasurementInfo) ∧
        List.Forall₂ (Arrives kpmEncMeasInfoAsn kpmDecMeasInfoAsn) d.measInfoLst
          d'.measInfoLst) ∧
      Arrives encGranPeriod decGranPeriod d.granPeriodMs d'.granPeriodMs ∧
      Option.Rel (Arrives encCellGlobalIdAsn decCellGlobalIdAsn) d.cellGlobalId
        d'.cellGlobalId ∧
      Option.Rel (Arrives (sized 1 maxBin kpmEncMeasBinRangeItem)
        (sized 1 maxBin kpmDecMeasBinRangeItem)) d.measBinInfoLst d'.measBinInfoLst := by
  obtain ⟨infos', period', cell', bins'⟩ := d'
  rw [← arrives_sized, ← arrives_opt, ← arrives_opt]
  exact arrives_four rfl (fun _ _ _ _ => rfl) (by simp)

/-- Format 2 arrives as format 1 for one UE. -/
theorem arrives_actDefFrm2 {d d' : ActDefFrm2} :
    Arrives kpmEncActionDefFrm2Asn kpmDecActionDefFrm2Asn d d' ↔
      Arrives encUeIdAsn decUeIdAsn d.ueId d'.ueId ∧
        Arrives kpmEncActionDefFrm1Asn kpmDecActionDefFrm1Asn d.actionDefFormat1
          d'.actionDefFormat1 := by
  obtain ⟨ue', d'⟩ := d'
  exact arrives_two rfl (fun _ _ => rfl) (by simp)

/-- **Format 3 arrives** with its measurements under conditions. -/
theorem arrives_actDefFrm3 {d d' : ActDefFrm3} :
    Arrives kpmEncActionDefFrm3Asn kpmDecActionDefFrm3Asn d d' ↔
      ((1 ≤ d.measInfoLst.length ∧ d.measInfoLst.length ≤ maxMeasurementInfo) ∧
        List.Forall₂ (Arrives kpmEncMeasInfoCondAsn kpmDecMeasInfoCondAsn) d.measInfoLst
          d'.measInfoLst) ∧
      Arrives encGranPeriod decGranPeriod d.granPeriodMs d'.granPeriodMs ∧
      Option.Rel (Arrives encCellGlobalIdAsn decCellGlobalIdAsn) d.cellGlobalId
        d'.cellGlobalId := by
  obtain ⟨infos', period', cell'⟩ := d'
  rw [← arrives_sized, ← arrives_opt]
  exact arrives_three rfl (fun _ _ _ => rfl) (by simp)

/-- Format 4 arrives as format 1 for the UEs that match. -/
theorem arrives_actDefFrm4 {d d' : ActDefFrm4} :
    Arrives kpmEncActionDefFrm4Asn kpmDecActionDefFrm4Asn d d' ↔
      ((1 ≤ d.matchingCondLst.length ∧ d.matchingCondLst.length ≤ maxConditionInfoPerSub) ∧
        List.Forall₂ (Arrives kpmEncMatchingCondFrm4Asn kpmDecMatchingCondFrm4Asn)
          d.matchingCondLst d'.matchingCondLst) ∧
      Arrives kpmEncActionDefFrm1Asn kpmDecActionDefFrm1Asn d.actionDefFormat1
        d'.actionDefFormat1 := by
  obtain ⟨conds', d'⟩ := d'
  rw [← arrives_sized]
  exact arrives_two rfl (fun _ _ => rfl) (by simp)

/-- Format 5 arrives as format 1 for two UEs or more. -/
theorem arrives_actDefFrm5 {d d' : ActDefFrm5} :
    Arrives kpmEncActionDefFrm5Asn kpmDecActionDefFrm5Asn d d' ↔
      ((2 ≤ d.ueIdLst.length ∧ d.ueIdLst.length ≤ maxUeIdPerSub) ∧
        List.Forall₂ (Arrives encUeIdAsn decUeIdAsn) d.ueIdLst d'.ueIdLst) ∧
      Arrives kpmEncActionDefFrm1Asn kpmDecActionDefFrm1Asn d.actionDefFormat1
        d'.actionDefFormat1 := by
  obtain ⟨ues', d'⟩ := d'
  rw [← arrives_sized]
  exact arrives_two rfl (fun _ _ => rfl) (by simp)

/-- **An action definition arrives** in its format. -/
theorem arrives_actDef_frm1 {d : ActDefFrm1} {def' : ActDef} :
    Arrives actionDefPdu actionDefOfPdu (.frm1 d) def' ↔
      ∃ d', .frm1 d' = def' ∧ Arrives kpmEncActionDefFrm1Asn kpmDecActionDefFrm1Asn d d' :=
  arrives_choice rfl (fun _ => rfl)

/-- An action definition keeps its format. -/
theorem arrives_actDef_frm2 {d : ActDefFrm2} {def' : ActDef} :
    Arrives actionDefPdu actionDefOfPdu (.frm2 d) def' ↔
      ∃ d', .frm2 d' = def' ∧ Arrives kpmEncActionDefFrm2Asn kpmDecActionDefFrm2Asn d d' :=
  arrives_choice rfl (fun _ => rfl)

theorem arrives_actDef_frm3 {d : ActDefFrm3} {def' : ActDef} :
    Arrives actionDefPdu actionDefOfPdu (.frm3 d) def' ↔
      ∃ d', .frm3 d' = def' ∧ Arrives kpmEncActionDefFrm3Asn kpmDecActionDefFrm3Asn d d' :=
  arrives_choice rfl (fun _ => rfl)

theorem arrives_actDef_frm4 {d : ActDefFrm4} {def' : ActDef} :
    Arrives actionDefPdu actionDefOfPdu (.frm4 d) def' ↔
      ∃ d', .frm4 d' = def' ∧ Arrives kpmEncActionDefFrm4Asn kpmDecActionDefFrm4Asn d d' :=
  arrives_choice rfl (fun _ => rfl)

theorem arrives_actDef_frm5 {d : ActDefFrm5} {def' : ActDef} :
    Arrives actionDefPdu actionDefOfPdu (.frm5 d) def' ↔
      ∃ d', .frm5 d' = def' ∧ Arrives kpmEncActionDefFrm5Asn kpmDecActionDefFrm5Asn d d' :=
  arrives_choice rfl (fun _ => rfl)

end Kpm

end FlexRic
