import FlexRic.Lib.Copies
import FlexRic.Sm.StatsTypes

/-!
# FlexRic.Sm.StatsCopies

Copies of the messages of the MAC, RLC, PDCP and GTP service models
(`cp_mac_ind_msg` of `sm/mac_sm/ie/mac_data_ie.c`, and the like).
-/

namespace FlexRic

namespace Stats

open Plain

/-! ## MAC -/

/-- `cp_mac_ue_stats_impl`; what the initialiser does not name is zero. -/
def cpMacUeStatsImpl (src : MacUeStatsImpl) : MacUeStatsImpl where
  dlAggrTbs := src.dlAggrTbs
  ulAggrTbs := src.ulAggrTbs
  dlAggrBytesSdus := src.dlAggrBytesSdus
  ulAggrBytesSdus := src.ulAggrBytesSdus
  dlCurrTbs := src.dlCurrTbs
  ulCurrTbs := src.ulCurrTbs
  dlSchedRb := src.dlSchedRb
  ulSchedRb := src.ulSchedRb
  puschSnr := src.puschSnr
  pucchSnr := src.pucchSnr
  rnti := src.rnti
  dlAggrPrb := src.dlAggrPrb
  ulAggrPrb := src.ulAggrPrb
  dlAggrSdus := src.dlAggrSdus
  ulAggrSdus := src.ulAggrSdus
  dlAggrRetxPrb := src.dlAggrRetxPrb
  ulAggrRetxPrb := src.ulAggrRetxPrb
  wbCqi := src.wbCqi
  dlMcs1 := src.dlMcs1
  ulMcs1 := src.ulMcs1
  dlMcs2 := src.dlMcs2
  ulMcs2 := src.ulMcs2
  phr := src.phr
  bsr := src.bsr
  dlBler := src.dlBler
  ulBler := src.ulBler
  dlNumHarq := src.dlNumHarq
  dlHarq := src.dlHarq
  ulNumHarq := src.ulNumHarq
  ulHarq := src.ulHarq
  frame := src.frame
  slot := src.slot
  pcmax := src.pcmax
  rawRssi := src.rawRssi.negated
  cqi := src.cqi
  rsrp := src.rsrp
  inSync := false
  pmiCqiRi := 0
  pmiCqiX1 := 0
  pmiCqiX2 := 0
  nrCellid := 0

/-- `cp_mac_ind_msg`. -/
def cpMacIndMsg (src : MacIndMsg) : Access MacIndMsg := do
  let ueStats ← src.ueStats.copyFrom fun ue => .done (cpMacUeStatsImpl ue)
  return { ueStats, tstamp := src.tstamp }

/-- Equal in every field, the floats in their values. -/
def MacUeStatsImpl.Same (m n : MacUeStatsImpl) : Prop :=
  m.puschSnr.Same n.puschSnr ∧ m.pucchSnr.Same n.pucchSnr ∧ m.dlBler.Same n.dlBler ∧
    m.ulBler.Same n.ulBler ∧ m.rawRssi.Same n.rawRssi ∧
    { m with
      puschSnr := n.puschSnr, pucchSnr := n.pucchSnr, dlBler := n.dlBler,
      ulBler := n.ulBler, rawRssi := n.rawRssi } = n

/-- Equal in every field. -/
def MacIndMsg.Same (m n : MacIndMsg) : Prop :=
  List.Forall₂ MacUeStatsImpl.Same m.ueStats.items n.ueStats.items ∧ m.tstamp = n.tstamp

/-- What is not copied is zero, and the RSSI its own negative. -/
def MacUeStatsImpl.Kept (ue : MacUeStatsImpl) : Prop :=
  ue.inSync = false ∧ ue.pmiCqiRi = 0 ∧ ue.pmiCqiX1 = 0 ∧ ue.pmiCqiX2 = 0 ∧ ue.nrCellid = 0 ∧
    (ue.rawRssi.isZero ∨ ue.rawRssi.isNaN)

def MacIndMsg.Kept (msg : MacIndMsg) : Prop := ∀ ue ∈ msg.ueStats.items, ue.Kept

/-- The copy of a UE is the UE where what it leaves out is zero. -/
theorem cpMacUeStatsImpl_same_iff (ue : MacUeStatsImpl) :
    (cpMacUeStatsImpl ue).Same ue ↔ ue.Kept := by
  cases ue
  simp only [MacUeStatsImpl.Same, cpMacUeStatsImpl, FloatBits.same_self, true_and,
    FloatBits.negated_same_iff, MacUeStatsImpl.mk.injEq, MacUeStatsImpl.Kept]
  constructor
  · rintro ⟨hrssi, hsync, hri, hx1, hx2, hcell⟩
    exact ⟨hsync.symm, hri.symm, hx1.symm, hx2.symm, hcell.symm, hrssi⟩
  · rintro ⟨hsync, hri, hx1, hx2, hcell, hrssi⟩
    exact ⟨hrssi, hsync.symm, hri.symm, hx1.symm, hx2.symm, hcell.symm⟩

/-- The copy of MAC asserts nothing. -/
theorem guards_cpMacIndMsg (msg : MacIndMsg) :
    Guards (cpMacIndMsg msg) True
      { msg with ueStats := msg.ueStats.map cpMacUeStatsImpl } := by
  have hues : Guards (msg.ueStats.copyFrom fun ue => .done (cpMacUeStatsImpl ue)) True
      (msg.ueStats.map cpMacUeStatsImpl) :=
    (Arr.guards_copyFrom (fun ue => guards_done (cpMacUeStatsImpl ue)) _).iff
      (iff_of_true (fun _ _ => trivial) trivial)
  exact hues.last fun _ => rfl

/-- **A MAC message is copied** when nothing that is left out or negated is seen to be. -/
theorem cpMacIndMsg_iff (msg : MacIndMsg) :
    (∃ out, cpMacIndMsg msg = .done out ∧ out.Same msg) ↔ msg.Kept := by
  have hdone := (guards_cpMacIndMsg msg).1 trivial
  have hues : List.Forall₂ MacUeStatsImpl.Same (msg.ueStats.items.map cpMacUeStatsImpl)
      msg.ueStats.items ↔ msg.Kept := by
    rw [List.forall₂_map_left_iff, List.forall₂_same]
    exact forall₂_congr fun ue _ => cpMacUeStatsImpl_same_iff ue
  rw [← hues]
  constructor
  · intro h
    obtain ⟨out, hout, hsame⟩ := h
    rw [hdone, Access.done_inj] at hout
    subst hout
    exact hsame.1
  · intro h
    exact ⟨_, hdone, h, rfl⟩

/-! ## RLC -/

/-- `cp_rlc_ind_msg`: the bearers are one `memcpy`. -/
def cpRlcIndMsg (src : RlcIndMsg) : Access RlcIndMsg :=
  .done { rb := src.rb, tstamp := src.tstamp }

/-! ## PDCP -/

/-- `check_pdcp_mode`. -/
def checkPdcpMode (mode : UInt8) : Access Unit :=
  Access.assert (mode = 0 || mode = 1 || mode = 2) "mode == 0 || mode == 1 || mode == 2"

/-- `check_pdcp_rbid`. -/
def checkPdcpRbid (rbid : UInt8) : Access Unit := Access.assert (rbid < 11) "rbid < 11"

/-- `check_pdcp_bearer`. -/
def checkPdcpBearer (rb : PdcpRadioBearerStats) : Access Unit := do
  Access.assert (rb.txpduPkts ≤ rb.txpduBytes) "rb->txpdu_pkts <= rb->txpdu_bytes"
  Access.assert (rb.rxpduPkts ≤ rb.rxpduBytes) "rb->rxpdu_pkts <= rb->rxpdu_bytes"
  Access.assert (rb.txsduPkts ≤ rb.txsduBytes) "rb->txsdu_pkts <= rb->txsdu_bytes"
  Access.assert (rb.rxsduPkts ≤ rb.rxsduBytes) "rb->rxsdu_pkts <= rb->rxsdu_bytes"

/-- `check_pdcp_invariants`. -/
def checkPdcpInvariants (msg : PdcpIndMsg) : Access Unit :=
  checkEach (fun rb => do
    checkPdcpMode rb.mode
    checkPdcpRbid rb.rbid
    checkPdcpBearer rb) msg.rb.items

/-- `cp_pdcp_ind_msg`. -/
def cpPdcpIndMsg (src : PdcpIndMsg) : Access PdcpIndMsg := do
  checkPdcpInvariants src
  return { tstamp := src.tstamp, rb := src.rb }

/-- The counters of a bearer are plausible. -/
def PdcpRadioBearerStats.Plausible (rb : PdcpRadioBearerStats) : Prop :=
  (rb.mode = 0 ∨ rb.mode = 1 ∨ rb.mode = 2) ∧ rb.rbid < 11 ∧ rb.txpduPkts ≤ rb.txpduBytes ∧
    rb.rxpduPkts ≤ rb.rxpduBytes ∧ rb.txsduPkts ≤ rb.txsduBytes ∧ rb.rxsduPkts ≤ rb.rxsduBytes

def PdcpIndMsg.Plausible (msg : PdcpIndMsg) : Prop := ∀ rb ∈ msg.rb.items, rb.Plausible

/-- What is asserted of a bearer of PDCP. -/
theorem guards_checkPdcp (rb : PdcpRadioBearerStats) :
    Guards (do
      checkPdcpMode rb.mode
      checkPdcpRbid rb.rbid
      checkPdcpBearer rb) rb.Plausible () := by
  have hbearer : Guards (checkPdcpBearer rb) _ () :=
    (guards_assert _ _).bind fun _ => (guards_assert _ _).bind fun _ =>
      (guards_assert _ _).bind fun _ => guards_assert _ _
  refine ((guards_assert _ _).bind fun _ => (guards_assert _ _).bind fun _ => hbearer).iff ?_
  simp only [Bool.or_eq_true, decide_eq_true_eq, or_assoc]
  rfl

/-- **A PDCP message is copied** when its counters are plausible. -/
theorem guards_cpPdcpIndMsg (msg : PdcpIndMsg) :
    Guards (cpPdcpIndMsg msg) msg.Plausible msg :=
  (guards_checkEach guards_checkPdcp msg.rb.items).last fun _ => rfl

/-! ## GTP -/

/-- `cp_gtp_ind_msg`: the bearers are one `memcpy`. -/
def cpGtpIndMsg (src : GtpIndMsg) : Access GtpIndMsg :=
  .done { ngut := src.ngut, tstamp := src.tstamp, hoInfo := src.hoInfo }

end Stats

end FlexRic
