import FlexRic.Sm.SliceCopies
import FlexRic.Sm.StatsComparisons

/-!
# FlexRic.Sm.SliceComparisons

Comparisons of the messages of the SLICE service model (`sm/slice_sm/ie/slice_data_ie.c`), and
when they are right.

* Two slices at one place that do not agree fail an assertion; so do floats that are no numbers.
* The names of the schedulers are compared in their lengths.
* `eq_slice_ctrl_msg` looks at the type of the first message only.
-/

namespace FlexRic

namespace Slice

open Plain Answers

/-! ## Control messages -/

/-- `eq_del_slice`. -/
def eqDelSlice (m0 m1 : DelSliceConf) : Bool := m0.dl.items = m1.dl.items && m0.ul.items = m1.ul.items

/-- `eq_slice_ctrl_msg`; a message of another type does not have the member that is read. -/
def eqSliceCtrlMsg : SliceCtrlMsg → SliceCtrlMsg → Access Bool
  | .addModSlice m0, .addModSlice m1 => eqSliceConf m0 m1
  | .delSlice m0, .delSlice m1 => .done (eqDelSlice m0 m1)
  | .ueSlice m0, .ueSlice m1 => eqUeSliceConf m0 m1
  | _, _ => .overread

/-! ## Equal in every field -/

def NvsRate.Same (m0 m1 : NvsRate) : Prop :=
  m0.mbpsRequired.Same m1.mbpsRequired ∧ m0.mbpsReference.Same m1.mbpsReference

def NvsSlice.Same : NvsSlice → NvsSlice → Prop
  | rate m0, rate m1 => m0.Same m1
  | capacity m0, capacity m1 => FloatBits.Same m0 m1
  | _, _ => False

def Scn19Slice.Same : Scn19Slice → Scn19Slice → Prop
  | dynamic m0, dynamic m1 => m0.Same m1
  | fixed m0, fixed m1 => m0 = m1
  | onDemand m0, onDemand m1 =>
    m0.pctReserved.Same m1.pctReserved ∧ m0.logDelta.Same m1.logDelta ∧ m0.tau = m1.tau
  | _, _ => False

def SliceParams.Same : SliceParams → SliceParams → Prop
  | none, none => True
  | sta m0, sta m1 => m0 = m1
  | nvs m0, nvs m1 => m0.Same m1
  | scn19 m0, scn19 m1 => m0.Same m1
  | edf m0, edf m1 => m0 = m1
  | _, _ => False

def FrSlice.Same (m0 m1 : FrSlice) : Prop :=
  m0.id = m1.id ∧ m0.label = m1.label ∧ m0.sched = m1.sched ∧ m0.params.Same m1.params

def UlDlSliceConf.Same (m0 m1 : UlDlSliceConf) : Prop :=
  m0.schedName = m1.schedName ∧ List.Forall₂ FrSlice.Same m0.slices.items m1.slices.items

def SliceConf.Same (m0 m1 : SliceConf) : Prop := m0.ul.Same m1.ul ∧ m0.dl.Same m1.dl

/-- Equal in every field, the floats in their values. -/
def SliceIndMsg.Same (m0 m1 : SliceIndMsg) : Prop :=
  m0.sliceConf.Same m1.sliceConf ∧ m0.ueSliceConf = m1.ueSliceConf ∧ m0.tstamp = m1.tstamp

/-- Equal in every field, the floats in their values. -/
def SliceCtrlMsg.Same : SliceCtrlMsg → SliceCtrlMsg → Prop
  | addModSlice m0, addModSlice m1 => m0.Same m1
  | delSlice m0, delSlice m1 => m0 = m1
  | ueSlice m0, ueSlice m1 => m0 = m1
  | _, _ => False

/-! ## When the comparisons are right -/

/-- The parameters have an algorithm, numbers, and the same values. -/
def SliceParams.Agree (m0 m1 : SliceParams) : Prop := m0.Same m1 ∧ m0.Numbers

/-- The slices have as much in common as is looked at. -/
def FrSlice.Agree (m0 m1 : FrSlice) : Prop :=
  m0.id = m1.id ∧ m0.label = m1.label ∧ m0.sched.len = m1.sched.len ∧ m0.params.Agree m1.params

def UlDlSliceConf.Agree (m0 m1 : UlDlSliceConf) : Prop :=
  m0.schedName = m1.schedName ∧ List.Forall₂ FrSlice.Agree m0.slices.items m1.slices.items

def SliceConf.Agree (m0 m1 : SliceConf) : Prop := m0.ul.Agree m1.ul ∧ m0.dl.Agree m1.dl

/-- Configurations of one name and with as many slices have slices that agree: there is no
answer otherwise. -/
def UlDlSliceConf.Comparable (m0 m1 : UlDlSliceConf) : Prop :=
  m0.schedName = m1.schedName → m0.slices.items.length = m1.slices.items.length →
    List.Forall₂ FrSlice.Agree m0.slices.items m1.slices.items

/-- The downlink is looked at where the uplink agrees. -/
def SliceConf.Comparable (m0 m1 : SliceConf) : Prop :=
  m0.ul.Comparable m1.ul ∧ (m0.ul.Agree m1.ul → m0.dl.Comparable m1.dl)

/-- The slices have schedulers of one name. -/
def SliceConf.SchedsSame (m0 m1 : SliceConf) : Prop :=
  List.Forall₂ (fun s0 s1 => s0.sched = s1.sched) m0.ul.slices.items m1.ul.slices.items ∧
    List.Forall₂ (fun s0 s1 => s0.sched = s1.sched) m0.dl.slices.items m1.dl.slices.items

/-- **When `eq_slice_ind_msg` is right.** -/
def SliceIndMsg.Told (m0 m1 : SliceIndMsg) : Prop :=
  m0.sliceConf.Comparable m1.sliceConf ∧
    (m0.sliceConf.Agree m1.sliceConf → m0.ueSliceConf = m1.ueSliceConf → m0.tstamp = m1.tstamp →
      m0.sliceConf.SchedsSame m1.sliceConf)

/-- **When `eq_slice_ctrl_msg` is right.** -/
def SliceCtrlMsg.Told : SliceCtrlMsg → SliceCtrlMsg → Prop
  | addModSlice m0, addModSlice m1 => m0.Comparable m1 ∧ (m0.Agree m1 → m0.SchedsSame m1)
  | delSlice _, delSlice _ => True
  | ueSlice _, ueSlice _ => True
  | _, _ => False

/-! ## Proofs: parameters -/

theorem eqStaticSlice_iff {m0 m1 : StaticSlice} : eqStaticSlice m0 m1 = true ↔ m0 = m1 := by
  cases m0
  cases m1
  simp [eqStaticSlice, and_comm]

/-- NVS rates are equal in their values, and neither is a NaN. -/
theorem eqNvsRate_iff {m0 m1 : NvsRate} :
    eqNvsRate m0 m1 = true ↔ m0.Same m1 ∧ m0.Numbers := by
  unfold eqNvsRate NvsRate.Same NvsRate.Numbers
  rw [Bool.and_eq_true, FloatBits.eq_iff, FloatBits.eq_iff]
  constructor
  · rintro ⟨⟨href, href', -⟩, hreq, hreq', -⟩
    exact ⟨⟨hreq, href⟩, href', hreq'⟩
  · rintro ⟨⟨hreq, href⟩, href', hreq'⟩
    exact ⟨⟨href, href', href.isNaN_eq ▸ href'⟩, hreq, hreq', hreq.isNaN_eq ▸ hreq'⟩

/-- NVS slices are, by the rate or by the capacity. -/
theorem eqNvsSlice_iff {m0 m1 : NvsSlice} :
    eqNvsSlice m0 m1 = true ↔ m0.Same m1 ∧ m0.Numbers := by
  cases m0 <;> cases m1
  case rate.rate => exact eqNvsRate_iff
  case capacity.capacity x y =>
    show x.eq y = true ↔ FloatBits.Same x y ∧ x.isNaN = false
    rw [FloatBits.eq_iff]
    exact ⟨fun h => ⟨h.1, h.2.1⟩, fun h => ⟨h.1, h.2, h.1.isNaN_eq ▸ h.2⟩⟩
  all_goals exact iff_of_false Bool.false_ne_true fun h => h.1

/-- SCN19 slices are; the one with fixed PRBs has no float. -/
theorem eqScn19Slice_iff {m0 m1 : Scn19Slice} :
    eqScn19Slice m0 m1 = true ↔ m0.Same m1 ∧ m0.Numbers := by
  cases m0 <;> cases m1
  case dynamic.dynamic => exact eqNvsRate_iff
  case fixed.fixed => exact eqStaticSlice_iff.trans (and_iff_left trivial).symm
  case onDemand.onDemand x y =>
    show eqScn19OnDemand x y = true ↔ (_ ∧ _ ∧ _) ∧ _ ∧ _
    unfold eqScn19OnDemand
    rw [Bool.and_eq_true, Bool.and_eq_true, FloatBits.eq_iff, FloatBits.eq_iff, decide_eq_true_eq]
    constructor
    · rintro ⟨⟨⟨hlog, hlog', -⟩, hpct, hpct', -⟩, htau⟩
      exact ⟨⟨hpct, hlog, htau⟩, hlog', hpct'⟩
    · rintro ⟨⟨hpct, hlog, htau⟩, hlog', hpct'⟩
      exact ⟨⟨⟨hlog, hlog', hlog.isNaN_eq ▸ hlog'⟩, hpct, hpct', hpct.isNaN_eq ▸ hpct'⟩, htau⟩
  all_goals exact iff_of_false Bool.false_ne_true fun h => h.1

/-- EDF slices are equal, or asserted to have the same `over`. -/
theorem eqEdfSlice_judges (m0 m1 : EdfSlice) :
    Judges (eqEdfSlice m0 m1).answer (m0.overs = m1.overs) (m0 = m1) := by
  unfold eqEdfSlice
  by_cases hovers : m0.overs.items = m1.overs.items
  · rw [if_neg (not_not_intro hovers)]
    have hovers' : m0.overs = m1.overs := Arr.ext hovers
    refine (judges_some _).of_iff (iff_of_true trivial hovers') ?_
    cases m0
    cases m1
    simp only [Bool.and_eq_true, decide_eq_true_eq, EdfSlice.mk.injEq] at *
    tauto
  · rw [if_pos hovers]
    exact judges_none.of_iff (iff_of_false id fun h => hovers (congrArg Arr.items h)) Iff.rfl

/-- The same parameters are of one algorithm. -/
theorem SliceParams.Same.type_eq {m0 m1 : SliceParams} (h : m0.Same m1) : m0.type = m1.type := by
  cases m0 <;> cases m1 <;> first | rfl | exact h.elim

/-- A comparison that is asserted to hold. -/
theorem judges_asserted {x : Access Bool} {safe agree : Prop} (msg : String)
    (h : Judges x.answer safe agree) (hsafe : agree → safe) :
    Judges (Access.answer (do
      let ret ← x
      Access.assert ret msg
      return ret)) agree agree := by
  rw [Access.answer_ret]
  refine ((judges_insist h fun _ => judges_some true).of_iff ?_ Iff.rfl).of_safe fun hagree =>
    iff_of_true rfl hagree
  exact ⟨fun h => h.1.2, fun hagree => ⟨⟨hsafe hagree, hagree⟩, trivial⟩⟩

/-- Parameters of one algorithm are asserted to agree. -/
theorem judges_eqSliceParams (m0 m1 : SliceParams) :
    Judges (eqSliceParams m0 m1).answer (m0.type = m1.type → m0.Agree m1) (m0.Agree m1) := by
  unfold eqSliceParams
  by_cases htype : m0.type = m1.type
  · rw [if_neg (not_not_intro htype), imp_iff_right htype]
    have hbool {b : Bool} (h : b = true ↔ m0.Agree m1) :
        Judges (Access.done b).answer True (m0.Agree m1) := (judges_some b).of_iff Iff.rfl h
    cases m0 <;> cases m1
    case none.none =>
      exact judges_asserted _ (hbool (iff_of_false Bool.false_ne_true fun h => h.2)) fun _ => trivial
    case sta.sta =>
      exact judges_asserted _ (hbool (eqStaticSlice_iff.trans (and_iff_left trivial).symm))
        fun _ => trivial
    case nvs.nvs => exact judges_asserted _ (hbool eqNvsSlice_iff) fun _ => trivial
    case scn19.scn19 => exact judges_asserted _ (hbool eqScn19Slice_iff) fun _ => trivial
    case edf.edf x y =>
      have hedf := (eqEdfSlice_judges x y).of_iff Iff.rfl (and_iff_left trivial).symm
      exact judges_asserted _ hedf fun h => congrArg EdfSlice.overs h.1
    all_goals cases htype
  · rw [if_pos htype]
    exact (judges_some false).of_iff (iff_of_true trivial fun h => absurd h htype)
      (iff_of_false Bool.false_ne_true fun h => htype h.1.type_eq)

/-! ## Proofs: slices and configurations -/

/-- **Two slices** are told apart by id, label and the length of the scheduler's name. -/
theorem judges_eqSlice (m0 m1 : FrSlice) :
    Judges (eqSlice m0 m1).answer (m0.id = m1.id → m0.label = m1.label →
      m0.sched.len = m1.sched.len → m0.params.type = m1.params.type → m0.params.Agree m1.params)
      (m0.Agree m1) := by
  unfold eqSlice
  rw [apply_ite Access.answer, apply_ite Access.answer, apply_ite Access.answer]
  refine (judges_unless fun _ => judges_unless fun _ => judges_unless fun _ =>
    judges_eqSliceParams _ _).of_iff ?_ ?_
  all_goals simp only [ne_eq, not_not, ← Arr.ext_iff]
  rfl

/-- Slices that agree pass each assertion of their comparison. -/
theorem FrSlice.Agree.safe {m0 m1 : FrSlice} (h : m0.Agree m1) : m0.id = m1.id →
    m0.label = m1.label → m0.sched.len = m1.sched.len → m0.params.type = m1.params.type →
    m0.params.Agree m1.params := fun _ _ _ _ => h.2.2.2

/-- **One direction** is told apart by its name and the number of slices. -/
theorem judges_eqUlDlSliceConf (m0 m1 : UlDlSliceConf) :
    Judges (eqUlDlSliceConf m0 m1).answer (m0.Comparable m1) (m0.Agree m1) := by
  have hslice (s0 s1 : FrSlice) := judges_asserted "0 != 0" (judges_eqSlice s0 s1)
    fun h => h.safe
  unfold eqUlDlSliceConf
  rw [apply_ite Access.answer, apply_ite Access.answer, apply_ite Access.answer, answer_eqEach]
  refine (judges_unless fun _ => judges_unless fun _ => judges_unless fun hlen =>
    judges_each hslice ?_).of_iff ?_ ?_
  all_goals simp only [ne_eq, not_not, Bool.not_eq_false, eqSchedName_block, Arr.len_inj] at *
  · exact hlen
  · constructor
    · exact fun h hname hlen => (safeEach_self hlen).mp (h (congrArg (·.items.length) hname) hname hlen)
    · exact fun h _ hname hlen => (safeEach_self hlen).mpr (h hname hlen)
  · exact ⟨fun h => ⟨h.2.1, h.2.2.2⟩, fun h =>
      ⟨congrArg (·.items.length) h.1, h.1, h.2.length_eq, h.2⟩⟩

/-- The downlink is looked at where the uplink agrees. -/
theorem judges_eqSliceConf (m0 m1 : SliceConf) :
    Judges (eqSliceConf m0 m1).answer (m0.Comparable m1) (m0.Agree m1) := by
  unfold eqSliceConf
  rw [Access.answer_and]
  exact judges_and (judges_eqUlDlSliceConf _ _) fun _ => judges_eqUlDlSliceConf _ _

theorem eqUeSliceAssoc_iff {m0 m1 : UeSliceAssoc} : eqUeSliceAssoc m0 m1 = true ↔ m0 = m1 := by
  cases m0
  cases m1
  simp only [eqUeSliceAssoc, Bool.and_eq_true, decide_eq_true_eq, UeSliceAssoc.mk.injEq]
  tauto

/-- **UE configurations are compared** in every field. -/
theorem judges_eqUeSliceConf (m0 m1 : UeSliceConf) :
    Judges (eqUeSliceConf m0 m1).answer True (m0 = m1) := by
  obtain ⟨ues0⟩ := m0
  obtain ⟨ues1⟩ := m1
  unfold eqUeSliceConf
  rw [apply_ite Access.answer, Access.answer_done]
  refine (judges_unless fun hno => judges_eqEach ?_).of_iff (iff_of_true (fun _ => trivial) trivial)
    ?_
  · exact Arr.len_inj.mp (not_not.mp hno)
  · simp only [eqUeSliceAssoc_iff, List.forall₂_eq_eq_eq, ne_eq, not_not, Arr.len_inj,
      UeSliceConf.mk.injEq, Arr.ext_iff]
    exact and_iff_right_of_imp fun h => congrArg List.length h

/-- **Two indications**; UEs and time stamps have comparisons without assertions. -/
theorem judges_eqSliceIndMsg (m0 m1 : SliceIndMsg) :
    Judges (eqSliceIndMsg m0 m1).answer (m0.sliceConf.Comparable m1.sliceConf)
      (m0.sliceConf.Agree m1.sliceConf ∧ m0.ueSliceConf = m1.ueSliceConf ∧
        m0.tstamp = m1.tstamp) := by
  unfold eqSliceIndMsg
  rw [Access.answer_and, Access.answer_and]
  refine (judges_and (judges_eqSliceConf _ _) fun _ => judges_and (judges_eqUeSliceConf _ _)
    fun _ => (judges_some _)).of_iff ?_ ?_
  all_goals simp only [decide_eq_true_eq, imp_true_iff, and_true]

/-! ## When they are right -/

/-- Of slices that agree, only the names of the schedulers may differ. -/
theorem FrSlice.Agree.same_iff {m0 m1 : FrSlice} (h : m0.Agree m1) :
    m0.Same m1 ↔ m0.sched = m1.sched :=
  ⟨fun hsame => hsame.2.2.1, fun hsched => ⟨h.1, h.2.1, hsched, h.2.2.2.1⟩⟩

/-- One direction whose compared fields agree is the same exactly when the scheds are. -/
theorem UlDlSliceConf.Agree.same_iff {m0 m1 : UlDlSliceConf} (h : m0.Agree m1) :
    m0.Same m1 ↔ List.Forall₂ (fun s0 s1 => s0.sched = s1.sched) m0.slices.items m1.slices.items :=
  ⟨fun hsame => hsame.2.imp fun _ _ hs => hs.2.2.1, fun hscheds =>
    ⟨h.1, h.2.mp (fun _ _ hs hsched => hs.same_iff.mpr hsched) hscheds⟩⟩

/-- Configurations whose compared fields agree are the same exactly when the scheds are. -/
theorem SliceConf.Agree.same_iff {m0 m1 : SliceConf} (h : m0.Agree m1) :
    m0.Same m1 ↔ m0.SchedsSame m1 := and_congr h.1.same_iff h.2.same_iff

/-- Where there is an answer, equal configurations agree. -/
theorem UlDlSliceConf.Comparable.agree {m0 m1 : UlDlSliceConf} (h : m0.Comparable m1)
    (hsame : m0.Same m1) : m0.Agree m1 := ⟨hsame.1, h hsame.1 hsame.2.length_eq⟩

/-- Configurations that are the same agree, where there is an answer. -/
theorem SliceConf.Comparable.agree {m0 m1 : SliceConf} (h : m0.Comparable m1)
    (hsame : m0.Same m1) : m0.Agree m1 :=
  have hul := h.1.agree hsame.1
  ⟨hul, (h.2 hul).agree hsame.2⟩

/-- **The comparison of configurations is right** where it has an answer, and the schedulers that it
does not look at are the same. -/
theorem decides_eqSliceConf (m0 m1 : SliceConf) :
    Decides (eqSliceConf m0 m1).answer (m0.Same m1) ↔
      m0.Comparable m1 ∧ (m0.Agree m1 → m0.SchedsSame m1) := by
  rw [(judges_eqSliceConf m0 m1).decides_iff]
  refine and_congr_right fun hsafe => ⟨fun hiff hagree => ?_, fun hscheds => ⟨fun hagree => ?_, ?_⟩⟩
  · exact hagree.same_iff.mp (hiff.mp hagree)
  · exact hagree.same_iff.mpr (hscheds hagree)
  · exact hsafe.agree

/-- **When `eq_slice_ind_msg` is right.** -/
theorem decides_eqSliceIndMsg (m0 m1 : SliceIndMsg) :
    Decides (eqSliceIndMsg m0 m1).answer (m0.Same m1) ↔ m0.Told m1 := by
  rw [(judges_eqSliceIndMsg m0 m1).decides_iff]
  refine and_congr_right fun hsafe => ⟨fun hiff hagree hues htstamp => ?_, fun hscheds => ?_⟩
  · exact hagree.same_iff.mp (hiff.mp ⟨hagree, hues, htstamp⟩).1
  · constructor
    · rintro ⟨hagree, hues, htstamp⟩
      exact ⟨hagree.same_iff.mpr (hscheds hagree hues htstamp), hues, htstamp⟩
    · rintro ⟨hsame, hues, htstamp⟩
      exact ⟨hsafe.agree hsame, hues, htstamp⟩

/-- **When `eq_slice_ctrl_msg` is right.** -/
theorem decides_eqSliceCtrlMsg (m0 m1 : SliceCtrlMsg) :
    Decides (eqSliceCtrlMsg m0 m1).answer (m0.Same m1) ↔ m0.Told m1 := by
  cases m0 <;> cases m1
  case addModSlice.addModSlice m0 m1 => exact decides_eqSliceConf m0 m1
  case delSlice.delSlice m0 m1 =>
    refine iff_of_true ⟨_, rfl, ?_⟩ trivial
    cases m0
    cases m1
    simp [eqDelSlice, SliceCtrlMsg.Same, Arr.ext_iff]
  case ueSlice.ueSlice m0 m1 =>
    exact (judges_eqUeSliceConf m0 m1).decides_iff.trans
      (iff_of_true ⟨trivial, Iff.rfl⟩ trivial)
  all_goals
    refine iff_of_false ?_ id
    rintro ⟨b, hb, -⟩
    cases hb

end Slice

end FlexRic
