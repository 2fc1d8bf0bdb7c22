import FlexRic.Lib.Copies
import FlexRic.Sm.SliceTypes

/-!
# FlexRic.Sm.SliceCopies

Copies of the indication messages of the SLICE service model, and the comparison
that each of them asserts (`sm/slice_sm/ie/slice_data_ie.c`).

An array without elements is `NULL`.
-/

namespace FlexRic

namespace Slice

open Plain

/-! ## Comparisons -/

/-- `eq_static_slice`. -/
def eqStaticSlice (m0 m1 : StaticSlice) : Bool :=
  m0.posHigh = m1.posHigh && m0.posLow = m1.posLow

/-- `eq_nvs_rate`. -/
def eqNvsRate (m0 m1 : NvsRate) : Bool :=
  m0.mbpsReference.eq m1.mbpsReference && m0.mbpsRequired.eq m1.mbpsRequired

/-- `eq_nvs_slice`, with `eq_nvs_cap`. -/
def eqNvsSlice : NvsSlice → NvsSlice → Bool
  | .rate m0, .rate m1 => eqNvsRate m0 m1
  | .capacity m0, .capacity m1 => m0.eq m1
  | _, _ => false

/-- `eq_scn19_on_demand`. -/
def eqScn19OnDemand (m0 m1 : Scn19OnDemand) : Bool :=
  m0.logDelta.eq m1.logDelta && m0.pctReserved.eq m1.pctReserved && m0.tau = m1.tau

/-- `eq_scn19_slice`. -/
def eqScn19Slice : Scn19Slice → Scn19Slice → Bool
  | .dynamic m0, .dynamic m1 => eqNvsRate m0 m1
  | .fixed m0, .fixed m1 => eqStaticSlice m0 m1
  | .onDemand m0, .onDemand m1 => eqScn19OnDemand m0 m1
  | _, _ => false

/-- `eq_edf_slice`. -/
def eqEdfSlice (m0 m1 : EdfSlice) : Access Bool :=
  if m0.overs.items ≠ m1.overs.items then
    .refused "0 != 0"
  else
    .done (m0.deadline = m1.deadline && m0.guaranteedPrbs = m1.guaranteedPrbs &&
      m0.maxReplenish = m1.maxReplenish)

/-- `eq_slice_params`. -/
def eqSliceParams (m0 m1 : SliceParams) : Access Bool :=
  if m0.type ≠ m1.type then
    .done false
  else do
    let ret ← match m0, m1 with
      | .sta m0, .sta m1 => .done (eqStaticSlice m0 m1)
      | .nvs m0, .nvs m1 => .done (eqNvsSlice m0 m1)
      | .scn19 m0, .scn19 m1 => .done (eqScn19Slice m0 m1)
      | .edf m0, .edf m1 => eqEdfSlice m0 m1
      | _, _ => .done false
    Access.assert ret "ret != false"
    return ret

/-- `eq_slice`; the schedulers are compared in their lengths. -/
def eqSlice (m0 m1 : FrSlice) : Access Bool :=
  if m0.id ≠ m1.id then
    .done false
  else if m0.label.items ≠ m1.label.items then
    .done false
  else if m0.sched.len ≠ m1.sched.len then
    .done false
  else
    eqSliceParams m0.params m1.params

/-- `eq_sched_name`, which compares the pointers before the characters: of two blocks only `NULL` is
one and the same. -/
def eqSchedName : Option (List Octet) → Option (List Octet) → Bool
  | none, none => true
  | some m0, some m1 => m0 = m1
  | _, _ => false

/-- `eq_ul_dl_slice_conf`. -/
def eqUlDlSliceConf (m0 m1 : UlDlSliceConf) : Access Bool :=
  if m0.schedName.len ≠ m1.schedName.len then
    .done false
  else if eqSchedName (block m0.schedName) (block m1.schedName) = false then
    .done false
  else if m0.slices.len ≠ m1.slices.len then
    .done false
  else
    eqEach (fun m0 m1 => do
      let ret ← eqSlice m0 m1
      Access.assert ret "0 != 0"
      return ret) m0.slices.items m1.slices.items

/-- `eq_slice_conf`. -/
def eqSliceConf (m0 m1 : SliceConf) : Access Bool := do
  if ← eqUlDlSliceConf m0.ul m1.ul then
    eqUlDlSliceConf m0.dl m1.dl
  else
    return false

/-- `eq_ue_slice_assoc`. -/
def eqUeSliceAssoc (m0 m1 : UeSliceAssoc) : Bool :=
  m0.dlId = m1.dlId && m0.rnti = m1.rnti && m0.ulId = m1.ulId

/-- `eq_ue_slice_conf`. -/
def eqUeSliceConf (m0 m1 : UeSliceConf) : Access Bool :=
  if m0.ues.len ≠ m1.ues.len then
    .done false
  else
    eqEach (fun m0 m1 => .done (eqUeSliceAssoc m0 m1)) m0.ues.items m1.ues.items

/-- `eq_slice_ind_msg`. -/
def eqSliceIndMsg (m0 m1 : SliceIndMsg) : Access Bool := do
  if ← eqSliceConf m0.sliceConf m1.sliceConf then
    if ← eqUeSliceConf m0.ueSliceConf m1.ueSliceConf then
      return m0.tstamp = m1.tstamp
    else
      return false
  else
    return false

/-! ## Copies -/

/-- `cp_scn19_slice`. -/
def cpScn19Slice : Scn19Slice → Scn19Slice
  | .dynamic nvs =>
    .dynamic { mbpsReference := nvs.mbpsReference, mbpsRequired := nvs.mbpsRequired }
  | .fixed sta => .fixed { posHigh := sta.posHigh, posLow := sta.posLow }
  | .onDemand scn =>
    .onDemand { logDelta := scn.logDelta, pctReserved := scn.pctReserved, tau := scn.tau }

/-- `cp_slice_params`. -/
def cpSliceParams (src : SliceParams) : Access SliceParams := do
  let dst ← match src with
    | .sta sta => .done (.sta { posHigh := sta.posHigh, posLow := sta.posLow })
    | .nvs (.rate nvs) =>
      .done (.nvs (.rate
        { mbpsReference := nvs.mbpsReference, mbpsRequired := nvs.mbpsRequired }))
    | .nvs (.capacity pctReserved) => .done (.nvs (.capacity pctReserved))
    | .scn19 scn => .done (.scn19 (cpScn19Slice scn))
    | .edf edf =>
      .done (.edf
        { deadline := edf.deadline, guaranteedPrbs := edf.guaranteedPrbs,
          maxReplenish := edf.maxReplenish, overs := edf.overs })
    | .none => .refused "Not implemented or unknown"
  Access.assert (← eqSliceParams dst src) "eq_slice_params(&dst, src) == true"
  return dst

/-- `cpy_slice`. -/
def cpySlice (src : FrSlice) : Access FrSlice := do
  let params ← cpSliceParams src.params
  let dst : FrSlice := { id := src.id, label := src.label, sched := src.sched, params }
  Access.assert (← eqSlice src dst) "eq_slice(src, &dst) == true"
  return dst

/-- `cpy_ul_dl_slice_conf`. -/
def cpyUlDlSliceConf (src : UlDlSliceConf) : Access UlDlSliceConf := do
  let slices ← src.slices.copyFrom cpySlice
  let dst : UlDlSliceConf := { schedName := src.schedName, slices }
  Access.assert (← eqUlDlSliceConf src dst) "eq_ul_dl_slice_conf(src, &dst) == true"
  return dst

/-- `cp_slice_conf`. -/
def cpSliceConf (src : SliceConf) : Access SliceConf := do
  let dl ← cpyUlDlSliceConf src.dl
  let ul ← cpyUlDlSliceConf src.ul
  let dst : SliceConf := { dl, ul }
  Access.assert (← eqSliceConf src dst) "eq_slice_conf(src, &dst)"
  return dst

/-- `cp_ue_slice_conf`, with `cp_ue_slice_assoc`. -/
def cpUeSliceConf (src : UeSliceConf) : Access UeSliceConf := do
  let ues ← src.ues.copyFrom fun src =>
    .done { ulId := src.ulId, dlId := src.dlId, rnti := src.rnti }
  return { ues }

/-- `cp_slice_ind_msg`. -/
def cpSliceIndMsg (src : SliceIndMsg) : Access SliceIndMsg := do
  let sliceConf ← cpSliceConf src.sliceConf
  let ueSliceConf ← cpUeSliceConf src.ueSliceConf
  let out : SliceIndMsg := { sliceConf, ueSliceConf, tstamp := src.tstamp }
  Access.assert (← eqSliceIndMsg src out) "eq_slice_ind_msg(src, &out)"
  return out

/-! ## What is copied -/

def NvsRate.Numbers (nvs : NvsRate) : Prop :=
  nvs.mbpsReference.isNaN = false ∧ nvs.mbpsRequired.isNaN = false

def NvsSlice.Numbers : NvsSlice → Prop
  | rate nvs => nvs.Numbers
  | capacity pctReserved => pctReserved.isNaN = false

def Scn19Slice.Numbers : Scn19Slice → Prop
  | dynamic nvs => nvs.Numbers
  | fixed _ => True
  | onDemand scn => scn.logDelta.isNaN = false ∧ scn.pctReserved.isNaN = false

/-- The slice has an algorithm, and its floats are numbers. -/
def SliceParams.Numbers : SliceParams → Prop
  | none => False
  | sta _ => True
  | nvs slice => slice.Numbers
  | scn19 slice => slice.Numbers
  | edf _ => True

def UlDlSliceConf.Numbers (conf : UlDlSliceConf) : Prop :=
  ∀ slice ∈ conf.slices.items, slice.params.Numbers

def SliceConf.Numbers (conf : SliceConf) : Prop := conf.dl.Numbers ∧ conf.ul.Numbers

/-- Each slice has an algorithm, and its floats are numbers. -/
def SliceIndMsg.Numbers (msg : SliceIndMsg) : Prop := msg.sliceConf.Numbers

/-! ## Proofs: comparisons with the same value -/

/-- NVS rates equal themselves where they are numbers. -/
theorem eqNvsRate_self (nvs : NvsRate) : eqNvsRate nvs nvs = true ↔ nvs.Numbers := by
  unfold eqNvsRate NvsRate.Numbers
  rw [FloatBits.eq_self, FloatBits.eq_self, Bool.and_eq_true, Bool.not_eq_true',
    Bool.not_eq_true']

/-- NVS slices equal themselves where they are numbers. -/
theorem eqNvsSlice_self (nvs : NvsSlice) : eqNvsSlice nvs nvs = true ↔ nvs.Numbers := by
  cases nvs with
  | rate nvs => exact eqNvsRate_self nvs
  | capacity pctReserved =>
    show pctReserved.eq pctReserved = true ↔ pctReserved.isNaN = false
    rw [FloatBits.eq_self, Bool.not_eq_true']

/-- Static slices always equal themselves. -/
theorem eqStaticSlice_self (sta : StaticSlice) : eqStaticSlice sta sta = true := by
  simp [eqStaticSlice]

/-- SCN19 slices equal themselves where they are numbers. -/
theorem eqScn19Slice_self (scn : Scn19Slice) : eqScn19Slice scn scn = true ↔ scn.Numbers := by
  cases scn with
  | dynamic nvs => exact eqNvsRate_self nvs
  | fixed sta => exact iff_of_true (eqStaticSlice_self sta) trivial
  | onDemand scn =>
    show eqScn19OnDemand scn scn = true ↔ _ ∧ _
    unfold eqScn19OnDemand
    rw [FloatBits.eq_self, FloatBits.eq_self, decide_eq_true rfl, Bool.and_true,
      Bool.and_eq_true, Bool.not_eq_true', Bool.not_eq_true']

/-- EDF slices always equal themselves. -/
theorem eqEdfSlice_self (edf : EdfSlice) : eqEdfSlice edf edf = .done true := by
  simp [eqEdfSlice]

/-- The end of each comparison of parameters. -/
theorem guards_ret (ret : Bool) :
    Guards (do
      Access.assert ret "ret != false"
      return ret) (ret = true) true := by
  cases ret
  · exact (guards_refused _ _).iff (iff_of_false id Bool.false_ne_true)
  · exact (guards_done _).iff (iff_of_true trivial rfl)

/-- **Parameters are found equal to themselves** where their floats are numbers. -/
theorem guards_eqSliceParams {params : SliceParams} (hnone : params ≠ .none) :
    Guards (eqSliceParams params params) params.Numbers true := by
  unfold eqSliceParams
  rw [if_neg (not_not_intro rfl)]
  cases params with
  | none => contradiction
  | sta sta => exact (guards_ret _).iff (iff_of_true (eqStaticSlice_self sta) trivial)
  | nvs slice => exact (guards_ret _).iff (eqNvsSlice_self slice)
  | scn19 slice => exact (guards_ret _).iff (eqScn19Slice_self slice)
  | edf edf =>
    simp only [eqEdfSlice_self edf]
    exact (guards_ret true).iff (iff_of_true rfl trivial)

/-- Parameters that are numbers equal themselves. -/
theorem SliceParams.Numbers.eq_self {params : SliceParams} (h : params.Numbers) :
    eqSliceParams params params = .done true := by
  refine (guards_eqSliceParams ?_).1 h
  rintro rfl
  exact h

/-- Slices whose parameters are numbers equal themselves. -/
theorem eqSlice_self {slice : FrSlice} (h : slice.params.Numbers) :
    eqSlice slice slice = .done true := by
  unfold eqSlice
  rw [if_neg (not_not_intro rfl), if_neg (not_not_intro rfl), if_neg (not_not_intro rfl)]
  exact h.eq_self

/-- **Names are told apart** by their blocks, since an empty one has none. -/
theorem eqSchedName_block {m0 m1 : Arr Octet} :
    eqSchedName (block m0) (block m1) = true ↔ m0 = m1 := by
  rw [Arr.ext_iff, block, block]
  split <;> split <;> rename_i h0 h1
  · exact iff_of_true rfl (h0.trans h1.symm)
  · exact iff_of_false Bool.false_ne_true fun heq => h1 (heq.symm.trans h0)
  · exact iff_of_false Bool.false_ne_true fun heq => h0 (heq.trans h1)
  · exact decide_eq_true_iff

/-- A direction of such slices equals itself. -/
theorem eqUlDlSliceConf_self {conf : UlDlSliceConf} (h : conf.Numbers) :
    eqUlDlSliceConf conf conf = .done true := by
  unfold eqUlDlSliceConf
  rw [if_neg (not_not_intro rfl), if_neg (by rw [eqSchedName_block.mpr rfl]; exact Bool.noConfusion),
    if_neg (not_not_intro rfl)]
  refine Arr.eqEach_self fun slice hslice => ?_
  rw [Access.bind_of_done (eqSlice_self (h slice hslice))]
  rfl

/-- A configuration of such slices equals itself. -/
theorem eqSliceConf_self {conf : SliceConf} (h : conf.Numbers) :
    eqSliceConf conf conf = .done true := by
  unfold eqSliceConf
  rw [Access.bind_of_done (eqUlDlSliceConf_self h.2)]
  exact eqUlDlSliceConf_self h.1

theorem eqUeSliceConf_self (conf : UeSliceConf) : eqUeSliceConf conf conf = .done true := by
  unfold eqUeSliceConf
  rw [if_neg (not_not_intro rfl)]
  refine Arr.eqEach_self fun ue _ => ?_
  simp [eqUeSliceAssoc]

/-- **A message equals itself** where all parameters are numbers. -/
theorem eqSliceIndMsg_self {msg : SliceIndMsg} (h : msg.Numbers) :
    eqSliceIndMsg msg msg = .done true := by
  unfold eqSliceIndMsg
  rw [Access.bind_of_done (eqSliceConf_self h), if_pos rfl,
    Access.bind_of_done (eqUeSliceConf_self msg.ueSliceConf), if_pos rfl, decide_eq_true rfl]
  rfl

/-! ## Proofs: copies -/

/-- The copy of parameters is compared with them. -/
theorem guards_cpSliceParams (params : SliceParams) :
    Guards (cpSliceParams params) params.Numbers params := by
  have hcopy (hnone : params ≠ .none) : cpSliceParams params = (do
      Access.assert (← eqSliceParams params params) "eq_slice_params(&dst, src) == true"
      return params) := by
    cases params with
    | none => contradiction
    | sta sta => rfl
    | nvs slice => cases slice <;> rfl
    | scn19 slice => cases slice <;> rfl
    | edf edf => rfl
  by_cases hnone : params = .none
  · subst hnone
    exact guards_refused _ _
  · rw [hcopy hnone]
    exact (guards_eqSliceParams hnone).last fun _ => rfl

/-- The name of the scheduler is copied whole, though only its length is compared. -/
theorem guards_cpySlice (slice : FrSlice) :
    Guards (cpySlice slice) slice.params.Numbers slice := by
  refine (guards_cpSliceParams slice.params).last fun h => ?_
  rw [Access.bind_of_done (eqSlice_self h)]
  rfl

/-- One direction is copied slice by slice. -/
theorem guards_cpyUlDlSliceConf (conf : UlDlSliceConf) :
    Guards (cpyUlDlSliceConf conf) conf.Numbers conf := by
  have hslices : Guards (conf.slices.copyFrom cpySlice) conf.Numbers (conf.slices.map id) :=
    Arr.guards_copyFrom guards_cpySlice conf.slices
  rw [Arr.map_id] at hslices
  refine hslices.last fun h => ?_
  rw [Access.bind_of_done (eqUlDlSliceConf_self h)]
  rfl

/-- The two directions are copied one after the other. -/
theorem guards_cpSliceConf (conf : SliceConf) :
    Guards (cpSliceConf conf) conf.Numbers conf := by
  refine (guards_cpyUlDlSliceConf conf.dl).bind fun hdl => ?_
  refine (guards_cpyUlDlSliceConf conf.ul).last fun hul => ?_
  rw [Access.bind_of_done (eqSliceConf_self ⟨hdl, hul⟩)]
  rfl

/-- The associations of the UEs are copied without an assertion. -/
theorem cpUeSliceConf_eq (conf : UeSliceConf) : cpUeSliceConf conf = .done conf := by
  have hues : Guards (conf.ues.copyFrom fun src =>
      .done { ulId := src.ulId, dlId := src.dlId, rnti := src.rnti }) _ (conf.ues.map id) :=
    Arr.guards_copyFrom (fun ue => guards_done ue) conf.ues
  rw [Arr.map_id] at hues
  unfold cpUeSliceConf
  rw [Access.bind_of_done (hues.1 fun _ _ => trivial)]
  rfl

/-- **A SLICE message is copied** when each slice has an algorithm and its floats are numbers. -/
theorem guards_cpSliceIndMsg (msg : SliceIndMsg) :
    Guards (cpSliceIndMsg msg) msg.Numbers msg := by
  refine (guards_cpSliceConf msg.sliceConf).last fun h => ?_
  rw [Access.bind_of_done (cpUeSliceConf_eq msg.ueSliceConf),
    Access.bind_of_done (eqSliceIndMsg_self h)]
  rfl

end Slice

end FlexRic
