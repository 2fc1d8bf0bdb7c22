import FlexRic.Lib.Answers
import FlexRic.Sm.StatsCopies
import FlexRic.Sm.TcCopies

/-!
# FlexRic.Sm.StatsComparisons

Comparisons of the indications of MAC and GTP, and of function definitions
(`eq_mac_ind_msg` of `sm/mac_sm/ie/mac_data_ie.c`, and the like).

* `eq_mac_ind_msg` looks at one of the two PUCCH SNRs only, and not at all fields.
* `eq_gtp_ind_msg` does not look at the context of a UE, nor at the handover.
* `eq_mac_func_def` and its likes compare the structures instead of the octets.
-/

namespace FlexRic

namespace Plain

/-! ## Floats -/

/-- `FLT_MIN`, as a `double`. -/
def fltMin : Float := .ofBits 0x3810000000000000

/-- What `eq_float` (`util/alg_ds/alg/eq_float.c`) says of numbers that are not `==`. -/
def nearFloat (a b : FloatBits) (eps : Float) : Bool :=
  let a := Float32.ofBits a
  let b := Float32.ofBits b
  let diff := (a - b).abs.toFloat
  if a == 0 || b == 0 || diff < fltMin then
    diff < eps * fltMin
  else
    diff / (a.abs + b.abs).toFloat < eps

end Plain

namespace Stats

open Plain Answers

/-! ## MAC -/

/-- What `eq_mac_ind_msg` compares of two UEs with `!=`. -/
def eqMacFields (ue0 ue1 : MacUeStatsImpl) : Bool :=
  ue0.dlAggrTbs = ue1.dlAggrTbs && ue0.ulAggrTbs = ue1.ulAggrTbs &&
  ue0.dlAggrBytesSdus = ue1.dlAggrBytesSdus && ue0.ulAggrBytesSdus = ue1.ulAggrBytesSdus &&
  ue0.dlCurrTbs = ue1.dlCurrTbs && ue0.ulCurrTbs = ue1.ulCurrTbs &&
  ue0.dlSchedRb = ue1.dlSchedRb && ue0.ulSchedRb = ue1.ulSchedRb && ue0.rnti = ue1.rnti &&
  ue0.dlAggrPrb = ue1.dlAggrPrb && ue0.ulAggrPrb = ue1.ulAggrPrb &&
  ue0.dlAggrSdus = ue1.dlAggrSdus && ue0.ulAggrSdus = ue1.ulAggrSdus &&
  ue0.dlAggrRetxPrb = ue1.dlAggrRetxPrb && ue0.ulAggrRetxPrb = ue1.ulAggrRetxPrb &&
  ue0.wbCqi = ue1.wbCqi && ue0.dlMcs1 = ue1.dlMcs1 && ue0.ulMcs1 = ue1.ulMcs1 &&
  ue0.dlMcs2 = ue1.dlMcs2 && ue0.ulMcs2 = ue1.ulMcs2 && ue0.phr = ue1.phr && ue0.bsr = ue1.bsr &&
  ue0.dlBler.eq ue1.dlBler && ue0.ulBler.eq ue1.ulBler && ue0.dlNumHarq = ue1.dlNumHarq &&
  ue0.dlHarq = ue1.dlHarq && ue0.ulNumHarq = ue1.ulNumHarq && ue0.ulHarq = ue1.ulHarq &&
  ue0.frame = ue1.frame && ue0.slot = ue1.slot

section

variable (near : FloatBits → FloatBits → Float → Bool)

/-- The loop of `eq_mac_ind_msg`; the last comparison is of a UE with itself. -/
def eqMacUe (ue0 ue1 : MacUeStatsImpl) : Access Bool :=
  if !eqMacFields ue0 ue1 then
    .done false
  else do
    if ← Tc.eqFloat near ue0.puschSnr ue1.puschSnr 0.0000001 then
      if ← Tc.eqFloat near ue0.pucchSnr ue0.pucchSnr 0.0000001 then
        return true
      else
        return false
    else
      return false

/-- `eq_mac_ind_msg`. -/
def eqMacIndMsg (m0 m1 : MacIndMsg) : Access Bool :=
  if m0.ueStats.len ≠ m1.ueStats.len ∨ m0.tstamp ≠ m1.tstamp then
    .done false
  else
    eqEach (eqMacUe near) m0.ueStats.items m1.ueStats.items

/-! ### What is asked, and when it holds -/

/-- The PUSCH SNRs are equal, or near. -/
def MacUeStatsImpl.PuschAgree (ue0 ue1 : MacUeStatsImpl) : Prop :=
  (ue0.puschSnr.eq ue1.puschSnr || near ue0.puschSnr ue1.puschSnr 0.0000001) = true

/-- What is looked at agrees. -/
def MacUeStatsImpl.Agree (ue0 ue1 : MacUeStatsImpl) : Prop :=
  eqMacFields ue0 ue1 = true ∧ ue0.PuschAgree near ue1

/-- The SNRs that are looked at are numbers. -/
def MacUeStatsImpl.SnrsOk (ue0 ue1 : MacUeStatsImpl) : Prop :=
  eqMacFields ue0 ue1 = true →
    (ue0.puschSnr.isNaN = false ∧ ue1.puschSnr.isNaN = false) ∧
      (ue0.PuschAgree near ue1 → ue0.pucchSnr.isNaN = false)

/-- What makes no difference to `eq_mac_ind_msg`, or not enough of it. -/
def MacUeStatsImpl.RestSame (ue0 ue1 : MacUeStatsImpl) : Prop :=
  ue0.puschSnr.Same ue1.puschSnr ∧ ue0.pucchSnr.Same ue1.pucchSnr ∧
    ue0.rawRssi.Same ue1.rawRssi ∧ ue0.inSync = ue1.inSync ∧ ue0.pcmax = ue1.pcmax ∧
    ue0.pmiCqiRi = ue1.pmiCqiRi ∧ ue0.pmiCqiX1 = ue1.pmiCqiX1 ∧ ue0.pmiCqiX2 = ue1.pmiCqiX2 ∧
    ue0.cqi = ue1.cqi ∧ ue0.rsrp = ue1.rsrp ∧ ue0.nrCellid = ue1.nrCellid

/-- **When `eq_mac_ind_msg` is right.** -/
structure MacIndMsg.Told (m0 m1 : MacIndMsg) : Prop where
  /-- up to the first two UEs that are told apart, the SNRs are numbers -/
  snrs : m0.ueStats.items.length = m1.ueStats.items.length → m0.tstamp = m1.tstamp →
    SafeEach (MacUeStatsImpl.SnrsOk near) (MacUeStatsImpl.Agree near)
      m0.ueStats.items m1.ueStats.items
  /-- where all agrees that is looked at, the rest is the same -/
  rest : m0.tstamp = m1.tstamp →
    List.Forall₂ (MacUeStatsImpl.Agree near) m0.ueStats.items m1.ueStats.items →
    List.Forall₂ MacUeStatsImpl.RestSame m0.ueStats.items m1.ueStats.items
  /-- the BLERs of messages that are the same are numbers -/
  blers : m0.Same m1 → ∀ ue ∈ m0.ueStats.items, ue.dlBler.isNaN = false ∧ ue.ulBler.isNaN = false

/-! ### Proofs -/

variable {near : FloatBits → FloatBits → Float → Bool}

/-- `eq_float` asserts that both are numbers. -/
theorem judges_eqFloat (a b : FloatBits) (eps : Float) :
    Judges (Tc.eqFloat near a b eps).answer (a.isNaN = false ∧ b.isNaN = false)
      ((a.eq b || near a b eps) = true) := by
  unfold Tc.eqFloat
  cases ha : a.isNaN with
  | true => exact judges_none.of_iff (iff_of_false id fun h => nomatch h.1) Iff.rfl
  | false =>
    cases hb : b.isNaN with
    | true => exact judges_none.of_iff (iff_of_false id fun h => nomatch h.2) Iff.rfl
    | false => exact (judges_some _).of_iff (iff_of_true trivial ⟨rfl, rfl⟩) Iff.rfl

/-- A float with itself. -/
theorem judges_eqFloat_self (a : FloatBits) (eps : Float) :
    Judges (Tc.eqFloat near a a eps).answer (a.isNaN = false) True := by
  refine ((judges_eqFloat a a eps).of_safe fun h => ?_).of_iff (and_self_iff) Iff.rfl
  rw [FloatBits.eq_self, h.1]
  exact iff_of_true rfl trivial

/-- **Two UEs**: the SNRs are looked at last, the PUCCH's only in the first UE. -/
theorem judges_eqMacUe (ue0 ue1 : MacUeStatsImpl) :
    Judges (eqMacUe near ue0 ue1).answer (ue0.SnrsOk near ue1) (ue0.Agree near ue1) := by
  unfold eqMacUe MacUeStatsImpl.SnrsOk MacUeStatsImpl.Agree
  cases hfields : eqMacFields ue0 ue1 with
  | false =>
    exact (judges_some false).of_iff (iff_of_true trivial fun h => nomatch h)
      (iff_of_false (fun h => nomatch h) fun h => nomatch h.1)
  | true =>
    rw [Bool.not_true, if_neg Bool.false_ne_true, Access.answer_and, Access.answer_and]
    refine (judges_and (judges_eqFloat _ _ _) fun _ => judges_and (judges_eqFloat_self _ _) fun _ =>
      judges_some true).of_iff ?_ ?_
    · rw [imp_iff_right rfl]
      simp only [MacUeStatsImpl.PuschAgree, implies_true, and_true]
    · rw [and_iff_right rfl, true_and]
      exact and_iff_left rfl

/-- The messages have as much in common as is looked at. -/
def MacIndMsg.Agree (near : FloatBits → FloatBits → Float → Bool) (m0 m1 : MacIndMsg) : Prop :=
  m0.tstamp = m1.tstamp ∧
    List.Forall₂ (MacUeStatsImpl.Agree near) m0.ueStats.items m1.ueStats.items

/-- **Two MAC indications** are told apart by their lengths and time stamps, then UE by UE. -/
theorem judges_eqMacIndMsg (m0 m1 : MacIndMsg) :
    Judges (eqMacIndMsg near m0 m1).answer
      (m0.ueStats.items.length = m1.ueStats.items.length → m0.tstamp = m1.tstamp →
        SafeEach (MacUeStatsImpl.SnrsOk near) (MacUeStatsImpl.Agree near)
          m0.ueStats.items m1.ueStats.items)
      (m0.Agree near m1) := by
  unfold eqMacIndMsg
  rw [apply_ite Access.answer, Access.answer_done, answer_eqEach]
  refine (judges_unless fun hno => judges_each judges_eqMacUe ?_).of_iff ?_ ?_
  all_goals simp only [ne_eq, not_or, not_not, Arr.len_inj] at *
  · exact hno.1
  · exact and_imp
  · exact ⟨fun h => ⟨h.1.2, h.2⟩, fun h => ⟨⟨h.2.length_eq, h.1⟩, h.2⟩⟩

/-- UEs that are equal in every field are equal in those compared by `!=`. -/
theorem eqMacFields_of_same {ue0 ue1 : MacUeStatsImpl} (h : ue0.Same ue1)
    (hblers : ue0.dlBler.isNaN = false ∧ ue0.ulBler.isNaN = false) :
    eqMacFields ue0 ue1 = true := by
  obtain ⟨-, -, hdl, hul, -, heq⟩ := h
  have hdl' := hdl.eq hblers.1
  have hul' := hul.eq hblers.2
  cases ue0
  cases ue1
  simp only [MacUeStatsImpl.mk.injEq] at heq hdl' hul'
  simp only [eqMacFields, heq, hdl', hul', decide_true, Bool.and_self]

/-- Of UEs that agree, the rest may differ. -/
theorem MacUeStatsImpl.Agree.same_iff {ue0 ue1 : MacUeStatsImpl} (h : ue0.Agree near ue1) :
    ue0.Same ue1 ↔ ue0.RestSame ue1 := by
  have hfields := h.1
  cases ue0
  cases ue1
  simp only [eqMacFields, Bool.and_eq_true, decide_eq_true_eq, FloatBits.eq_iff] at hfields
  simp only [Same, RestSame, MacUeStatsImpl.mk.injEq]
  tauto

/-- The same UEs agree, up to one whose SNRs are not numbers. -/
theorem agree_of_same {xs ys : List MacUeStatsImpl}
    (hsafe : SafeEach (MacUeStatsImpl.SnrsOk near) (MacUeStatsImpl.Agree near) xs ys)
    (hsame : List.Forall₂ MacUeStatsImpl.Same xs ys)
    (hblers : ∀ ue ∈ xs, ue.dlBler.isNaN = false ∧ ue.ulBler.isNaN = false) :
    List.Forall₂ (MacUeStatsImpl.Agree near) xs ys := by
  induction hsame with
  | nil => exact .nil
  | cons hxy _ ih =>
    obtain ⟨hsnrs, hrest⟩ := hsafe
    obtain ⟨hx, hxs⟩ := List.forall_mem_cons.mp hblers
    have hfields := eqMacFields_of_same hxy hx
    have hpusch := hxy.1.eq (hsnrs hfields).1.1
    have hagree : MacUeStatsImpl.Agree near _ _ := ⟨hfields, Bool.or_eq_true_iff.mpr (.inl hpusch)⟩
    exact .cons hagree (ih (hrest hagree) hxs)

/-- Block error rates that are equal are numbers. -/
theorem MacUeStatsImpl.Agree.blers {ue0 ue1 : MacUeStatsImpl} (h : ue0.Agree near ue1) :
    ue0.dlBler.isNaN = false ∧ ue0.ulBler.isNaN = false := by
  have hfields := h.1
  simp only [eqMacFields, Bool.and_eq_true, FloatBits.eq_iff] at hfields
  tauto

/-- **When `eq_mac_ind_msg` is right.** -/
theorem decides_eqMacIndMsg (m0 m1 : MacIndMsg) :
    Decides (eqMacIndMsg near m0 m1).answer (m0.Same m1) ↔ m0.Told near m1 := by
  rw [(judges_eqMacIndMsg m0 m1).decides_iff]
  constructor
  · rintro ⟨hsnrs, hiff⟩
    refine ⟨hsnrs, fun htstamp hagree => ?_, fun hsame => ?_⟩
    · have hsame := hiff.mp ⟨htstamp, hagree⟩
      exact hagree.mp (fun _ _ hagree hsame => hagree.same_iff.mp hsame) hsame.1
    · have hagree := (hiff.mpr hsame).2
      exact (List.forall₂_and_left _ _).mp (hagree.imp fun _ _ h => ⟨h.blers, h⟩) |>.1
  · rintro ⟨hsnrs, hrest, hblers⟩
    refine ⟨hsnrs, ⟨fun hagree => ⟨?_, hagree.1⟩, fun hsame => ⟨hsame.2, ?_⟩⟩⟩
    · exact hagree.2.mp (fun _ _ hagree hrest => hagree.same_iff.mpr hrest)
        (hrest hagree.1 hagree.2)
    · exact agree_of_same (hsnrs hsame.1.length_eq hsame.2) hsame.1 (hblers hsame)

end

/-! ## GTP -/

/-- What `eq_gtp_ind_msg` compares of two tunnels. -/
def eqGtpFields (ngut0 ngut1 : GtpNguTStats) : Bool :=
  ngut0.rnti = ngut1.rnti && ngut0.teidgnb = ngut1.teidgnb && ngut0.qfi = ngut1.qfi &&
    ngut0.teidupf = ngut1.teidupf

/-- `eq_gtp_ind_msg`. -/
def eqGtpIndMsg (m0 m1 : GtpIndMsg) : Access Bool :=
  if m0.tstamp ≠ m1.tstamp ∨ m0.ngut.len ≠ m1.ngut.len then
    .done false
  else
    eqEach (fun ngut0 ngut1 => .done (eqGtpFields ngut0 ngut1)) m0.ngut.items m1.ngut.items

namespace DoubleBits

/-- The bits but the sign. -/
def magnitude (x : DoubleBits) : UInt64 := x &&& 0x7FFFFFFFFFFFFFFF

def isNaN (x : DoubleBits) : Bool := 0x7FF0000000000000 < x.magnitude

def isZero (x : DoubleBits) : Bool := x.magnitude = 0

/-- The same value: both zeros are one, and so are all NaNs. -/
def Same (x y : DoubleBits) : Prop := x = y ∨ x.isZero ∧ y.isZero ∨ x.isNaN ∧ y.isNaN

end DoubleBits

/-- What makes no difference to `eq_gtp_ind_msg`. -/
def GtpNguTStats.RestSame (ngut0 ngut1 : GtpNguTStats) : Prop :=
  ngut0.ueContextHasMqr = ngut1.ueContextHasMqr ∧
    ngut0.ueContextRrcUeId = ngut1.ueContextRrcUeId ∧
    ngut0.ueContextRntiT = ngut1.ueContextRntiT ∧ ngut0.ueContextMqrRsrp = ngut1.ueContextMqrRsrp ∧
    DoubleBits.Same ngut0.ueContextMqrRsrq ngut1.ueContextMqrRsrq ∧
    DoubleBits.Same ngut0.ueContextMqrSinr ngut1.ueContextMqrSinr

/-- Equal in every field, the floats in their values. -/
def GtpNguTStats.Same (ngut0 ngut1 : GtpNguTStats) : Prop :=
  DoubleBits.Same ngut0.ueContextMqrRsrq ngut1.ueContextMqrRsrq ∧
    DoubleBits.Same ngut0.ueContextMqrSinr ngut1.ueContextMqrSinr ∧
    { ngut0 with
      ueContextMqrRsrq := ngut1.ueContextMqrRsrq, ueContextMqrSinr := ngut1.ueContextMqrSinr } =
      ngut1

/-- Equal in every field. -/
def GtpIndMsg.Same (m0 m1 : GtpIndMsg) : Prop :=
  List.Forall₂ GtpNguTStats.Same m0.ngut.items m1.ngut.items ∧ m0.tstamp = m1.tstamp ∧
    m0.hoInfo = m1.hoInfo

/-- The messages have as much in common as is looked at. -/
def GtpIndMsg.Agree (m0 m1 : GtpIndMsg) : Prop :=
  m0.tstamp = m1.tstamp ∧
    List.Forall₂ (fun ngut0 ngut1 => eqGtpFields ngut0 ngut1 = true) m0.ngut.items m1.ngut.items

/-- **When `eq_gtp_ind_msg` is right**: where all agrees that is looked at, the rest is the same. -/
def GtpIndMsg.Told (m0 m1 : GtpIndMsg) : Prop :=
  m0.Agree m1 →
    List.Forall₂ GtpNguTStats.RestSame m0.ngut.items m1.ngut.items ∧ m0.hoInfo = m1.hoInfo

/-- **Two GTP indications** are always told apart or not: no assertion. -/
theorem judges_eqGtpIndMsg (m0 m1 : GtpIndMsg) :
    Judges (eqGtpIndMsg m0 m1).answer True (m0.Agree m1) := by
  unfold eqGtpIndMsg
  rw [apply_ite Access.answer, Access.answer_done]
  refine (judges_unless fun hno => judges_eqEach ?_).of_iff ?_ ?_
  all_goals simp only [ne_eq, not_or, not_not, Arr.len_inj] at *
  · exact hno.2
  · exact iff_of_true (fun _ => trivial) trivial
  · exact ⟨fun h => ⟨h.1.1, h.2⟩, fun h => ⟨⟨h.1, h.2.length_eq⟩, h.2⟩⟩

/-- What is compared of a tunnel, and the rest of it. -/
theorem GtpNguTStats.same_iff {ngut0 ngut1 : GtpNguTStats} :
    ngut0.Same ngut1 ↔ eqGtpFields ngut0 ngut1 = true ∧ ngut0.RestSame ngut1 := by
  cases ngut0
  cases ngut1
  simp only [eqGtpFields, Bool.and_eq_true, decide_eq_true_eq, Same, RestSame,
    GtpNguTStats.mk.injEq]
  tauto

/-- **When `eq_gtp_ind_msg` is right.** -/
theorem decides_eqGtpIndMsg (m0 m1 : GtpIndMsg) :
    Decides (eqGtpIndMsg m0 m1).answer (m0.Same m1) ↔ m0.Told m1 := by
  rw [(judges_eqGtpIndMsg m0 m1).decides_iff, and_iff_right trivial]
  constructor
  · intro hiff hagree
    obtain ⟨hsame, -, hhoInfo⟩ := hiff.mp hagree
    exact ⟨hsame.imp fun _ _ h => (GtpNguTStats.same_iff.mp h).2, hhoInfo⟩
  · intro h
    constructor
    · intro hagree
      obtain ⟨hrest, hhoInfo⟩ := h hagree
      exact ⟨hagree.2.mp (fun _ _ hfields hrest => GtpNguTStats.same_iff.mpr ⟨hfields, hrest⟩) hrest,
        hagree.1, hhoInfo⟩
    · rintro ⟨hsame, htstamp, -⟩
      exact ⟨htstamp, hsame.imp fun _ _ h => (GtpNguTStats.same_iff.mp h).1⟩

/-! ## Function definitions -/

/-- Which of its two fields a function definition begins with. -/
inductive FuncDefLayout where
  /-- `mac_func_def_t` -/
  | lenBuf
  /-- `rlc_func_def_t`, `pdcp_func_def_t` and `tc_func_def_t` -/
  | bufLen

/-- A function definition: octets, and where they are. -/
structure FuncDef where
  bytes : List Octet
  buf : UInt64

/-- The structure in memory: the length and the pointer, or the other way round. -/
def FuncDef.image (src : FuncDef) : FuncDefLayout → List Octet
  | .lenBuf => u64.octets src.bytes.length.toUInt64 ++ u64.octets src.buf
  | .bufLen => u64.octets src.buf ++ u64.octets src.bytes.length.toUInt64

/-- `memcmp` of the first `n` octets. -/
def memcmp (xs ys : List Octet) (n : Nat) : Access Bool :=
  if n ≤ xs.length ∧ n ≤ ys.length then .done (xs.take n = ys.take n) else .overread

/-- What the comparisons of function definitions have in common: two pointers, with what they point
to; 0 is `NULL`. -/
def eqFuncDef (layout : FuncDefLayout) (mem : UInt64 → FuncDef) (m0 m1 : UInt64) : Access Bool :=
  if m0 = m1 then
    .done true
  else if m0 = 0 ∨ m1 = 0 then
    .done false
  else if (mem m0).bytes.length ≠ (mem m1).bytes.length then
    .done false
  else
    memcmp ((mem m0).image layout) ((mem m1).image layout) (mem m0).bytes.length

/-- `eq_mac_func_def`. -/
def eqMacFuncDef : (UInt64 → FuncDef) → UInt64 → UInt64 → Access Bool := eqFuncDef .lenBuf

/-- `eq_rlc_func_def`. -/
def eqRlcFuncDef : (UInt64 → FuncDef) → UInt64 → UInt64 → Access Bool := eqFuncDef .bufLen

/-- `eq_pdcp_func_def`. -/
def eqPdcpFuncDef : (UInt64 → FuncDef) → UInt64 → UInt64 → Access Bool := eqFuncDef .bufLen

/-- `eq_tc_func_def`. -/
def eqTcFuncDef : (UInt64 → FuncDef) → UInt64 → UInt64 → Access Bool := eqFuncDef .bufLen

/-- What is pointed to. -/
def FuncDef.pointedTo (mem : UInt64 → FuncDef) (m : UInt64) : Option (List Octet) :=
  if m = 0 then none else some (mem m).bytes

/-- The part of the address that `memcmp` gets to: all that is not behind the length, or the
length's octets too. -/
def FuncDef.seen (src : FuncDef) : FuncDefLayout → List Octet
  | .lenBuf => (u64.octets src.buf).take (src.bytes.length - 8)
  | .bufLen => (u64.octets src.buf).take src.bytes.length

/-- **When the comparison is right** about two structures of as many octets: these are no more
than the structure has, and equal just if what is seen of their addresses is. -/
def FuncDef.Told (layout : FuncDefLayout) (mem : UInt64 → FuncDef) (m0 m1 : UInt64) : Prop :=
  m0 ≠ m1 → m0 ≠ 0 → m1 ≠ 0 → (mem m0).bytes.length = (mem m1).bytes.length →
    (mem m0).bytes.length ≤ 16 ∧
      ((mem m0).seen layout = (mem m1).seen layout ↔ (mem m0).bytes = (mem m1).bytes)

/-- A definition is sixteen octets in memory. -/
theorem FuncDef.length_image (src : FuncDef) (layout : FuncDefLayout) :
    (src.image layout).length = 16 := by
  cases layout <;> rw [image, List.length_append, u64.length_octets, u64.length_octets] <;> rfl

/-- **What is seen of two structures** with the same length differs where the addresses do. -/
theorem FuncDef.take_image {m0 m1 : FuncDef} (layout : FuncDefLayout)
    (hlen : m0.bytes.length = m1.bytes.length) :
    (m0.image layout).take m0.bytes.length = (m1.image layout).take m0.bytes.length ↔
      m0.seen layout = m1.seen layout := by
  cases layout with
  | lenBuf =>
    rw [image, image, seen, seen, List.take_append, List.take_append, u64.length_octets,
      u64.length_octets, hlen, List.append_cancel_left_eq]
    rfl
  | bufLen =>
    rw [image, image, seen, seen, List.take_append, List.take_append, u64.length_octets,
      u64.length_octets, hlen, List.append_cancel_right_eq]

/-- `memcmp` reads past the sixteen octets of a definition where the texts are longer. -/
theorem judges_memcmp {m0 m1 : FuncDef} (layout : FuncDefLayout)
    (hlen : m0.bytes.length = m1.bytes.length) :
    Judges (memcmp (m0.image layout) (m1.image layout) m0.bytes.length).answer
      (m0.bytes.length ≤ 16) (m0.seen layout = m1.seen layout) := by
  unfold memcmp
  simp only [m0.length_image, m1.length_image, and_self]
  by_cases hle : m0.bytes.length ≤ 16
  · rw [if_pos hle]
    exact (judges_some _).of_iff (iff_of_true trivial hle)
      (decide_eq_true_iff.trans (FuncDef.take_image layout hlen))
  · rw [if_neg hle]
    exact judges_none.of_iff (iff_of_false id hle) Iff.rfl

/-- **When two function definitions are told apart.** -/
theorem decides_eqFuncDef (layout : FuncDefLayout) (mem : UInt64 → FuncDef) (m0 m1 : UInt64) :
    Decides (eqFuncDef layout mem m0 m1).answer
      (FuncDef.pointedTo mem m0 = FuncDef.pointedTo mem m1) ↔ FuncDef.Told layout mem m0 m1 := by
  have hfalse {P : Prop} (h : ¬P) : Decides (Access.done false).answer P :=
    ⟨false, rfl, iff_of_false Bool.false_ne_true h⟩
  unfold eqFuncDef FuncDef.Told FuncDef.pointedTo
  by_cases heq : m0 = m1
  · subst heq
    rw [if_pos rfl]
    exact iff_of_true ⟨true, rfl, iff_of_true rfl rfl⟩ fun hno => absurd rfl hno
  rw [if_neg heq, imp_iff_right heq]
  by_cases h0 : m0 = 0
  · have h1 : m1 ≠ 0 := fun h1 => heq (h0.trans h1.symm)
    rw [if_pos (.inl h0), if_pos h0, if_neg h1]
    exact iff_of_true (hfalse nofun) fun hno => absurd h0 hno
  by_cases h1 : m1 = 0
  · rw [if_pos (.inr h1), if_neg h0, if_pos h1]
    exact iff_of_true (hfalse nofun) fun _ hno => absurd h1 hno
  rw [if_neg (not_or.mpr ⟨h0, h1⟩), if_neg h0, if_neg h1, imp_iff_right h0, imp_iff_right h1,
    Option.some_inj]
  by_cases hlen : (mem m0).bytes.length = (mem m1).bytes.length
  · rw [if_neg (not_not_intro hlen), imp_iff_right hlen]
    exact (judges_memcmp layout hlen).decides_iff
  · rw [if_pos hlen]
    exact iff_of_true (hfalse fun h => hlen (congrArg List.length h)) fun hno => absurd hno hlen

end Stats

end FlexRic
