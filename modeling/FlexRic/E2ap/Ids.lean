import FlexRic.Lib.Comparator

/-!
# FlexRic.E2ap.Ids

The identifiers the E2AP and E42 messages carry, with the equality tests
and comparators of the source: the RIC request id (`ric_gen_id_t`), the
global E2 node id, and the kinds of pending events.

Field widths are those of the C structures, so that truncations are
visible; `IdFits` is what the encoder accepts as a `RICrequestID`.
-/

namespace FlexRic

/-! ## RIC request ids -/

/-- `ric_gen_id_t`. -/
structure RicGenId where
  ricReqId : UInt32
  ricInstId : UInt16
  ranFuncId : UInt16
  deriving DecidableEq, Repr

/-- `eq_ric_gen_id`. -/
def eqRicGenId (m0 m1 : RicGenId) : Bool :=
  m0.ricReqId == m1.ricReqId && m0.ricInstId == m1.ricInstId && m0.ranFuncId == m1.ranFuncId

/-- `cmp_ric_gen_id`. -/
def cmpRicGenId : Cmp RicGenId :=
  thenBy (cmpAsc (·.ranFuncId)) (thenBy (cmpAsc (·.ricInstId)) (cmpAsc (·.ricReqId)))

/-- RIC request ids are ordered by three fields, one after the other. -/
theorem lawful_cmpRicGenId : LawfulCmp cmpRicGenId :=
  (lawful_cmpAsc _).thenBy ((lawful_cmpAsc _).thenBy (lawful_cmpAsc _))

/-- RIC request ids are equal if the three fields are. -/
@[simp] theorem eqRicGenId_iff {m0 m1 : RicGenId} : eqRicGenId m0 m1 = true ↔ m0 = m1 := by
  cases m0
  cases m1
  simp [eqRicGenId, and_assoc]

/-- RIC request ids compare as 0 only if they are equal. -/
@[simp] theorem cmpRicGenId_eq_zero {m0 m1 : RicGenId} : cmpRicGenId m0 m1 = 0 ↔ m0 = m1 := by
  rw [cmpRicGenId, thenBy_eq_zero, thenBy_eq_zero, cmpAsc_eq_zero, cmpAsc_eq_zero, cmpAsc_eq_zero]
  cases m0
  cases m1
  simp only [RicGenId.mk.injEq]
  constructor
  · rintro ⟨h₁, h₂, h₃⟩
    exact ⟨h₃, h₂, h₁⟩
  · rintro ⟨h₁, h₂, h₃⟩
    exact ⟨h₃, h₂, h₁⟩

/-- The request id fits the 16 bits of an encoded `RICrequestID`. -/
def IdFits (id : RicGenId) : Prop := id.ricReqId < 65536

instance (id : RicGenId) : Decidable (IdFits id) := inferInstanceAs (Decidable (_ < _))

/-- Reading an id that fits as a `uint16_t` loses nothing. -/
theorem toUInt32_toUInt16 {x : UInt32} (h : x < 65536) : x.toUInt16.toUInt32 = x := by
  rw [UInt32.lt_iff_toNat_lt] at h
  apply UInt32.toNat.inj
  simp only [UInt32.toNat_ofNat, UInt16.toNat_toUInt32, UInt32.toNat_toUInt16] at *
  omega

/-- Writing an id through a `uint16_t*` replaces its low 16 bits. -/
def storeLow16 (x : UInt32) (y : UInt16) : UInt32 := x - x % 65536 + y.toUInt32

/-- A store of the low half that leaves 16 bits has no high half left. -/
theorem storeLow16_of_lt {x : UInt32} {y : UInt16} (h : storeLow16 x y < 65536) :
    storeLow16 x y = y.toUInt32 := by
  unfold storeLow16 at *
  have hx := x.toNat_lt
  have hy := y.toNat_lt
  have hm : (x % 65536).toNat = x.toNat % 65536 := by simp
  have hs : (x - x % 65536).toNat = x.toNat - x.toNat % 65536 := by
    rw [UInt32.toNat_sub_of_le _ _ (by rw [UInt32.le_iff_toNat_le, hm]; omega), hm]
  have ha : (x - x % 65536 + y.toUInt32).toNat = x.toNat - x.toNat % 65536 + y.toNat := by
    rw [UInt32.toNat_add, hs, UInt16.toNat_toUInt32]
    omega
  rw [UInt32.lt_iff_toNat_lt, ha] at h
  have h' : x.toNat - x.toNat % 65536 + y.toNat < 65536 := h
  apply UInt32.toNat.inj
  rw [ha, UInt16.toNat_toUInt32]
  omega

/-- What a request asks the E2 node for: `SUBSCRIPTION_RIC_REQUEST_TYPE` or
`CONTROL_RIC_REQUEST_TYPE`. -/
inductive RicReqType where
  | subscription
  | control
  deriving DecidableEq, Repr

/-- `xapp_ric_id_t`: a request of an xApp, under the xApp's own id for it. -/
@[ext] structure XappRicId where
  ricId : RicGenId
  xappId : UInt16
  deriving DecidableEq, Repr

/-! ## E2 nodes -/

/-- `ngran_node_t`. -/
inductive NgranNode where
  | eNB | ngENB | gNB | eNBCU | ngENBCU | gNBCU | eNBDU | gNBDU | eNBMbmsSta | gNBCUCP | gNBCUUP
  deriving DecidableEq, Repr

namespace NgranNode

/-- `NODE_IS_DU`. -/
def isDu (t : NgranNode) : Bool := t == .eNBDU || t == .gNBDU

/-- `NODE_IS_CUUP`. -/
def isCuup (t : NgranNode) : Bool := t == .gNBCUUP

end NgranNode

/-- `e2ap_plmn_t`. -/
structure E2apPlmn where
  mcc : UInt16
  mnc : UInt16
  mncDigitLen : UInt8
  deriving DecidableEq, Repr

/-- `e2ap_gnb_id_t`. -/
structure E2apGnbId where
  nbId : UInt32
  unused : UInt32
  deriving DecidableEq, Repr

/-- `global_e2_node_id_t`.  The decoder allocates `cu_du_id` for the node
types whose comparison asserts that it is there; the last field keeps that. -/
structure GlobalE2NodeId where
  type : NgranNode
  plmn : E2apPlmn
  nbId : E2apGnbId
  cuDuId : Option UInt64
  hasCuDuId : (type.isCuup || type.isDu) = true → cuDuId.isSome = true
  deriving DecidableEq

/-- A whole gNB has no CU or DU id. -/
theorem NgranNode.gNB_needs_none :
    (NgranNode.gNB.isCuup || NgranNode.gNB.isDu) = true → (none : Option UInt64).isSome = true := by
  decide

/-- The gNBs of the worked runs. -/
def GlobalE2NodeId.gnb (nbId : UInt32) : GlobalE2NodeId :=
  ⟨.gNB, ⟨505, 1, 2⟩, ⟨nbId, 0⟩, none, by decide⟩

/-- `eq_global_e2_node_id`. -/
def eqGlobalE2NodeId (m0 m1 : GlobalE2NodeId) : Bool :=
  m0.type == m1.type && m0.plmn == m1.plmn && m0.nbId == m1.nbId &&
    (!(m0.type.isCuup || m0.type.isDu) || m0.cuDuId == m1.cuDuId)

/-- **A node's id equals itself**, whichever of the two ids it has. -/
@[simp] theorem eqGlobalE2NodeId_refl (id : GlobalE2NodeId) : eqGlobalE2NodeId id id = true := by
  simp [eqGlobalE2NodeId]

/-! ## Pending events -/

/-- `pending_event_t`, in the order of the enumeration. -/
inductive PendingEvent where
  | setupRequest
  | subscriptionRequest
  | subscriptionDeleteRequest
  | controlRequest
  | e42SetupRequest
  | e42RicSubscriptionRequest
  | ricSubscriptionDeleteRequest
  | e42RicSubscriptionDeleteRequest
  | e42RicControlRequest
  deriving DecidableEq, Repr

/-- The value of the enumerator. -/
def PendingEvent.code : PendingEvent → Nat
  | setupRequest => 0
  | subscriptionRequest => 1
  | subscriptionDeleteRequest => 2
  | controlRequest => 3
  | e42SetupRequest => 4
  | e42RicSubscriptionRequest => 5
  | ricSubscriptionDeleteRequest => 6
  | e42RicSubscriptionDeleteRequest => 7
  | e42RicControlRequest => 8

/-- `cmp_pending_event`. -/
def cmpPendingEvent : Cmp PendingEvent := cmpAsc (·.code)

/-- Pending events are ordered by kind. -/
theorem lawful_cmpPendingEvent : LawfulCmp cmpPendingEvent := lawful_cmpAsc _

/-- Pending events of one kind are one. -/
@[simp] theorem cmpPendingEvent_eq_zero {a b : PendingEvent} :
    cmpPendingEvent a b = 0 ↔ a = b := by
  rw [cmpPendingEvent, cmpAsc_eq_zero]
  cases a <;> cases b <;> decide

/-- `pending_event_ric_t`. -/
structure PendingEventRic where
  ev : PendingEvent
  id : RicGenId
  deriving DecidableEq, Repr

/-- `cmp_pending_event_ric`. -/
def cmpPendingEventRic : Cmp PendingEventRic :=
  thenBy (fun a b => cmpPendingEvent a.ev b.ev) (fun a b => cmpRicGenId a.id b.id)

/-- `eq_pending_event_ric`. -/
def eqPendingEventRic (m0 m1 : PendingEventRic) : Bool := cmpPendingEventRic m0 m1 == 0

/-- The RIC orders its pending events by kind and by request. -/
theorem lawful_cmpPendingEventRic : LawfulCmp cmpPendingEventRic :=
  LawfulCmp.thenBy (lawful_cmpPendingEvent.comap _) (lawful_cmpRicGenId.comap _)

/-- Pending events of the RIC compare as 0 only if they are equal. -/
@[simp] theorem cmpPendingEventRic_eq_zero {a b : PendingEventRic} :
    cmpPendingEventRic a b = 0 ↔ a = b := by
  rw [cmpPendingEventRic, thenBy_eq_zero, cmpPendingEvent_eq_zero, cmpRicGenId_eq_zero]
  cases a
  cases b
  simp

/-- The equality of the source agrees with the order of the RIC's pending events. -/
@[simp] theorem eqPendingEventRic_iff {a b : PendingEventRic} :
    eqPendingEventRic a b = true ↔ a = b := by
  simp [eqPendingEventRic]

/-- A timer's file descriptor. -/
abbrev Fd := Nat

/-- `cmp_fd`. -/
def cmpFd : Cmp Fd := cmpAsc id

/-- `eq_fd`. -/
def eqFd (m0 m1 : Fd) : Bool := m0 == m1

/-- File descriptors are ordered as numbers. -/
theorem lawful_cmpFd : LawfulCmp cmpFd := lawful_cmpAsc _

/-- Two of them compare as 0 if they are one. -/
@[simp] theorem cmpFd_eq_zero {a b : Fd} : cmpFd a b = 0 ↔ a = b := cmpAsc_eq_zero

end FlexRic
