import FlexRic.Codec.RicDec
import FlexRic.Codec.SetupItems

/-!
# FlexRic.Codec.RicItems

What the decoders read of the elements the encoders write.

* Subscription messages: `carries_subscriptionRequest` and its siblings say when
  a message comes back.
* Indications, control requests and acknowledgements: `indication_back`,
  `controlRequest_back`, `controlAck_back`.  These come back whenever they are
  encoded.
-/

namespace FlexRic.Codec

open Outcome

/-! ## Elements -/

/-- Reading an element that was built, under its id or another. -/
theorem readIe_ricIe (strict : Bool) (v : RicIe) (id : ProtocolIeId) :
    readIe strict id (ricIe v) = if v.id = id then next v else abort "id" := by
  by_cases h : v.id = id <;> simp [readIe, ricIe, assert, expect, h]

@[simp] theorem readInteger_ricIe (strict : Bool) (type : IntegerIe) (v : Int) :
    readInteger strict type (ricIe (.integer type v)) = next v := by
  simp [readInteger, readIe_ricIe, RicIe.id]

@[simp] theorem readOctets_ricIe (strict : Bool) (type : OctetsIe) (v : Bytes) :
    readOctets strict type (ricIe (.octets type v)) = next v := by
  simp [readOctets, readIe_ricIe, RicIe.id]

theorem id_ricIe (v : RicIe) : (ricIe v).id = v.id := rfl

/-- Opening the types of an element leaves its id. -/
@[simp] theorem mapValue_ricIe (v : RicIe) : (ricIe v).mapValue RicIe.opened = ricIe v.opened := by
  cases v <;> rfl

@[simp] theorem takes_ricIe (type : MessageType) (v : RicIe) :
    type.takes (ricIe v) = (type.ies.contains v.id && v.satisfies) := by
  simp [MessageType.takes, ricIe, Ie.satisfies]

@[simp] theorem longToU32_back (v : UInt32) : longToU32 v.toNat = v := by
  have := v.toNat_lt
  rw [longToU32, toUInt32_eq_iff (by omega)]
  omega

@[simp] theorem inRange_toNat {max n : Nat} : inRange max n = decide (n ≤ max) := by
  simp [inRange]

/-! ## Ids -/

/-- The ids fit their elements. -/
def RicGenIdFits (ricId : RicGenId) : Prop :=
  ricId.ricReqId.toNat ≤ 65535 ∧ ricId.ranFuncId.toNat ≤ 4095

instance (ricId : RicGenId) : Decidable (RicGenIdFits ricId) := inferInstanceAs (Decidable (_ ∧ _))

/-- The ids a decoder takes. -/
def RicIdLimits.admits (l : RicIdLimits) (ricId : RicGenId) : Prop :=
  (∀ m ∈ l.ricRequestId, (ricId.ricReqId.toNat : Int) < m ∧ (ricId.ricInstId.toNat : Int) < m) ∧
    ∀ m ∈ l.ranFunctionId, (ricId.ranFuncId.toNat : Int) < m

theorem decRicId_eq_next {l : RicIdLimits} {ricId ricId' : RicGenId} :
    decRicId l (ricIe (.ricRequestId ricId.ricReqId.toNat ricId.ricInstId.toNat))
        (ricIe (.integer .ranFunctionId ricId.ranFuncId.toNat)) = next ricId' ↔
      l.admits ricId ∧ ricId = ricId' := by
  simp [decRicId, readIe_ricIe, RicIe.id, RicIdLimits.admits, Option.all_eq_true, forall_and, and_assoc]

/-! ## Subscriptions -/

/-- A time to wait that is on the wire: one of the seventeen, and not the first,
which stands for none. -/
def RicSubsequentAction.Survives (a : RicSubsequentAction) : Prop :=
  ∀ t ∈ a.timeToWaitMs, 0 < t.toNat ∧ t.toNat ≤ 16

/-- An action whose definition, where it has one, is not empty, and whose time to
wait is on the wire. -/
def RicAction.Survives (a : RicAction) : Prop :=
  (∀ d ∈ a.definition, 0 < d.length) ∧ ∀ s ∈ a.subseqAction, s.Survives

theorem RicSubseqActionType.code_mem (t : RicSubseqActionType) : inRange 1 t.code = true := by
  cases t <;> rfl

theorem RicActionType.code_mem (t : RicActionType) : inRange 2 t.code = true := by
  cases t <;> rfl

theorem carries_subsequentAction {a : RicSubsequentAction} :
    Carries encSubsequentAction SubsequentActionIe.satisfies decSubsequentAction a a ↔
      a.Survives := by
  obtain ⟨type, _ | t⟩ := a
  · have hzero : inRange 16 0 = true := rfl
    simp [Carries, encSubsequentAction, SubsequentActionIe.satisfies, decSubsequentAction, expect,
      type.code_mem, RicSubsequentAction.Survives, hzero]
  · simp [Carries, encSubsequentAction, SubsequentActionIe.satisfies, decSubsequentAction, expect,
      type.code_mem, RicSubsequentAction.Survives, UInt32.lt_iff_toNat_lt]
    omega

/-- An octet string comes back where it is not empty. -/
theorem carries_octets {ba : Bytes} :
    Carries copyBaToOstring (fun _ => true) copyOstringToBa ba ba ↔ 0 < ba.length := by
  simp [Carries, copyBaToOstring, copyOstringToBa]

theorem carries_actionToBeSetup {a : RicAction} :
    Carries encActionToBeSetup (Ie.satisfies ActionToBeSetupItem.satisfies) decActionToBeSetup a a ↔
      a.Survives := by
  obtain ⟨id, type, definition, subseqAction⟩ := a
  have hid := id.toNat_lt
  simp only [RicAction.Survives, ← carries_octets, ← carries_subsequentAction, ← carries_opt_self]
  simp [Carries, encActionToBeSetup, Ie.satisfies, ActionToBeSetupItem.satisfies,
    decActionToBeSetup, expect, type.code_mem]
  grind

theorem id_of_encActionToBeSetup {a : RicAction} {ie : Ie ActionToBeSetupItem}
    (h : encActionToBeSetup a = next ie) : ie.id = .ricActionToBeSetupItem := by
  simp only [encActionToBeSetup, bind_eq_next, pure_eq, next_inj] at h
  obtain ⟨_, -, _, -, rfl⟩ := h
  rfl

theorem id_of_encAdmittedItem {a : UInt8} {ie : Ie Int} (h : encAdmittedItem a = next ie) :
    ie.id = .ricActionAdmittedItem := by
  obtain rfl := next_inj.mp h
  rfl

/-- **An admitted action comes back.** -/
theorem carries_admittedItem (a : UInt8) :
    Carries encAdmittedItem (Ie.satisfies (inRange 255)) decAdmittedItem a a := by
  have := a.toNat_lt
  simp [Carries, encAdmittedItem, Ie.satisfies, decAdmittedItem, Ie.read_mk, maxRicActionId]
  omega

/-- Lists of one kind of element, all under the id of its table, through the
open types of the runtime. -/
theorem carries_list {α V : Type} {enc : α → Outcome (Ie V)} {p : V → Bool}
    {dec : Ie V → Outcome α} {row : ProtocolIeId} (min max : Nat) {xs : List α}
    (hid : ∀ x ie, enc x = next ie → ie.id = row) :
    Carries (walk enc) (isSequenceOf min max (Ie.satisfies p))
        (fun ies => walk dec (ies.map (Ie.opened row))) xs xs ↔
      (min ≤ xs.length ∧ xs.length ≤ max) ∧ ∀ x ∈ xs, Carries enc (Ie.satisfies p) dec x x := by
  have hsize : (decide (min ≤ xs.length) && decide (xs.length ≤ max)) = true ↔
      min ≤ xs.length ∧ xs.length ≤ max := by
    rw [Bool.and_eq_true, decide_eq_true_eq, decide_eq_true_eq]
  rw [← hsize, ← carries_sized_self fun n => decide (min ≤ n) && decide (n ≤ max)]
  refine exists_congr fun ies => and_congr_right fun hies => and_congr_right fun _ => ?_
  have hopened : ies.map (Ie.opened row) = ies := Ie.map_opened fun ie hie => by
    obtain ⟨x, -, hx⟩ := exists_of_mem_walk hies hie
    exact hid x ie hx
  simp only [hopened]

/-- The event trigger is not empty, and there are one to sixteen actions. -/
def RicSubscriptionRequest.DetailsSurvive (sr : RicSubscriptionRequest) : Prop :=
  0 < sr.eventTrigger.length ∧ (1 ≤ sr.action.length ∧ sr.action.length ≤ 16) ∧
    ∀ a ∈ sr.action, a.Survives

theorem carries_subscriptionDetails (type : MessageType) {sr : RicSubscriptionRequest}
    (htype : type.ies.contains .ricSubscriptionDetails = true) :
    Carries encSubscriptionDetails type.takes
        (fun ie => decSubscriptionDetails sr.ricId (ie.mapValue RicIe.opened)) sr sr ↔
      sr.DetailsSurvive := by
  obtain ⟨ricId, eventTrigger, action⟩ := sr
  simp only [RicSubscriptionRequest.DetailsSurvive, ← carries_actionToBeSetup]
  rw [← carries_list 1 16 fun x ie => id_of_encActionToBeSetup]
  simp only [List.contains_iff_mem] at htype
  simp [Carries, encSubscriptionDetails, decSubscriptionDetails, readIe_ricIe, copyBaToOstring_eq_next,
    RicIe.id, htype, RicIe.satisfies, RicIe.opened]
  -- the sizes the constraints give are those that both sides assert
  have hsize (y : List (Ie ActionToBeSetupItem)) (hw : walk encActionToBeSetup action = next y)
      (hy : isSequenceOf 1 16 (Ie.satisfies ActionToBeSetupItem.satisfies) y = true) :
      (0 < y.length ∧ y.length ≤ maxNumActionDef) ∧ action.length ≤ maxNumActionDef := by
    have hlen := walk_length hw
    simp only [isSequenceOf, Bool.and_eq_true, decide_eq_true_eq] at hy
    simp only [maxNumActionDef]
    omega
  constructor
  · rintro ⟨y, ⟨hpos, -, -, hw⟩, hsat, -, hdec⟩
    exact ⟨hpos, y, hw, hsat, hdec⟩
  · rintro ⟨hpos, y, hw, hsat, hdec⟩
    obtain ⟨hy, haction⟩ := hsize y hw hsat
    exact ⟨y, ⟨hpos, haction, hpos, hw⟩, hsat, hy, hdec⟩

/-! ## Messages -/

attribute [local simp] RicIe.id IntegerIe.id OctetsIe.id MessageType.ies MessageType.procedure
  RicIe.satisfies IntegerIe.max RicIe.opened ricIdIes RicPdu.check

theorem RicPdu.satisfies_iff {pdu : RicPdu} :
    pdu.satisfies = true ↔ pdu.value.procedure = (pdu.present, pdu.procedureCode) ∧
      pdu.ies.length ≤ 65535 ∧ ∀ ie ∈ pdu.ies, pdu.value.takes ie = true := by
  simp [RicPdu.satisfies, isSequenceOf]

@[simp] theorem RicPdu.element_eq_next {pdu : RicPdu} {i : Nat} {ie : Ie RicIe} :
    pdu.element i = next ie ↔ pdu.ies[i]? = some ie := expect_eq_next

theorem toNat_le_65535 (x : UInt16) : x.toNat ≤ 65535 := Nat.le_of_lt_succ x.toNat_lt

/-- What a subscription request needs to come back. -/
def RicSubscriptionRequest.Survives (sr : RicSubscriptionRequest) : Prop :=
  RicGenIdFits sr.ricId ∧ sr.DetailsSurvive

theorem carries_subscriptionRequest {sr : RicSubscriptionRequest} :
    Carries e2apEncSubscriptionRequestAsnPdu RicPdu.satisfies
      (fun pdu => e2apDecSubscriptionRequest pdu.opened) sr sr ↔ sr.Survives := by
  rw [RicSubscriptionRequest.Survives, ← carries_subscriptionDetails .ricSubscriptionRequest rfl]
  simp [Carries, e2apEncSubscriptionRequestAsnPdu, RicPdu.satisfies_iff, RicPdu.opened,
    e2apDecSubscriptionRequest, decRicId_eq_next, RicGenIdFits, RicIdLimits.admits,
    subscriptionRequestLimits, toNat_le_65535]
  grind

/-- What a subscription response needs to come back: at least one action is
admitted, and every action is. -/
def RicSubscriptionResponse.Survives (sr : RicSubscriptionResponse) : Prop :=
  (sr.ricId.ricReqId.toNat ≤ 65535 ∧ sr.ricId.ranFuncId.toNat < 256) ∧
    (1 ≤ sr.admitted.length ∧ sr.admitted.length ≤ 16) ∧ sr.notAdmitted = []

theorem carries_subscriptionResponse {sr : RicSubscriptionResponse} :
    Carries e2apEncSubscriptionResponseAsnPdu RicPdu.satisfies
      (fun pdu => e2apDecSubscriptionResponse pdu.opened) sr sr ↔ sr.Survives := by
  have hadmitted : Carries (walk encAdmittedItem) (isSequenceOf 1 16 (Ie.satisfies (inRange 255)))
      (fun ies => walk decAdmittedItem (ies.map (Ie.opened .ricActionAdmittedItem)))
      sr.admitted sr.admitted ↔ 1 ≤ sr.admitted.length ∧ sr.admitted.length ≤ 16 := by
    rw [carries_list 1 16 fun _ _ => id_of_encAdmittedItem]
    exact and_iff_left fun a _ => carries_admittedItem a
  obtain ⟨ricId, admitted, notAdmitted⟩ := sr
  rw [RicSubscriptionResponse.Survives]
  simp [Carries, e2apEncSubscriptionResponseAsnPdu, RicPdu.satisfies_iff, RicPdu.opened,
    e2apDecSubscriptionResponse, decNotAdmittedList, decRicId_eq_next, RicIdLimits.admits,
    subscriptionResponseLimits, toNat_le_65535, readIe_ricIe, decAdmittedList]
  constructor
  · rintro ⟨a, ha, b, -, ⟨hreq, -, hasat, -⟩, ⟨-, hran⟩, hdec, -, hnone⟩
    exact ⟨⟨hreq, hran⟩, hadmitted.mp ⟨a, ha, hasat, hdec⟩, hnone⟩
  · rintro ⟨⟨hreq, hran⟩, hlen, rfl⟩
    obtain ⟨a, ha, hasat, hdec⟩ := hadmitted.mpr hlen
    have hinst := toNat_le_65535 ricId.ricInstId
    refine ⟨a, ha, [], rfl, ⟨hreq, by omega, hasat, rfl⟩, ⟨?_, hran⟩, hdec, by simp, rfl⟩
    simp only [maxRicRequestId]
    omega

theorem carries_subscriptionDelete {dr : RicSubscriptionDelete} :
    Carries e2apEncSubscriptionDeleteRequestAsnPdu RicPdu.satisfies
      (fun pdu => e2apDecSubscriptionDeleteRequest pdu.opened) dr dr ↔ RicGenIdFits dr.ricId := by
  obtain ⟨ricId⟩ := dr
  simp [Carries, e2apEncSubscriptionDeleteRequestAsnPdu, RicPdu.satisfies_iff, RicPdu.opened,
    e2apDecSubscriptionDeleteRequest, decRicId_eq_next, RicGenIdFits, RicIdLimits.admits,
    subscriptionDeleteLimits, toNat_le_65535, maxRanFuncId]
  omega

theorem carries_subscriptionDeleteResponse {dr : RicSubscriptionDelete} :
    Carries e2apEncSubscriptionDeleteResponseAsnPdu RicPdu.satisfies
      (fun pdu => e2apDecSubscriptionDeleteResponse pdu.opened) dr dr ↔ RicGenIdFits dr.ricId := by
  obtain ⟨ricId⟩ := dr
  simp [Carries, e2apEncSubscriptionDeleteResponseAsnPdu, RicPdu.satisfies_iff, RicPdu.opened,
    e2apDecSubscriptionDeleteResponse, decRicId_eq_next, RicGenIdFits, RicIdLimits.admits,
    subscriptionDeleteLimits, toNat_le_65535, maxRanFuncId]
  omega

/-! ## Indications and controls -/

theorem encOctets_eq_next {type : OctetsIe} {ba : Bytes} {ie : Ie RicIe} :
    encOctets type ba = next ie ↔ 0 < ba.length ∧ ricIe (.octets type ba) = ie := by
  simp [encOctets, copyBaToOstring_eq_next, and_assoc]

theorem encOptOctets_eq_next {type : OctetsIe} {ba : Option Bytes} {ies : List (Ie RicIe)} :
    encOptOctets type ba = next ies ↔
      (∀ b ∈ ba, 0 < b.length) ∧ (ba.map fun b => ricIe (.octets type b)).toList = ies := by
  cases ba <;> simp [encOptOctets, encOctets_eq_next, and_assoc]

theorem decOctets_ricIe {strict : Bool} {type : OctetsIe} {old v v' : Bytes} :
    decOctets strict type old (ricIe (.octets type v)) = next v' ↔
      old = [] ∧ 0 < v.length ∧ v = v' := by
  simp [decOctets, copyOstringToBa]

theorem decOptOctets_ricIe {strict : Bool} {type : OctetsIe} {old v' : Option Bytes} {v : Bytes} :
    decOptOctets strict type old (ricIe (.octets type v)) = next v' ↔
      old = none ∧ 0 < v.length ∧ some v = v' := by
  simp [decOptOctets, copyOstringToBa, and_assoc]

theorem RicControlAckReq.code_lt (a : RicControlAckReq) : a.code < 3 := by
  cases a <;> decide

theorem RicIndicationType.code_lt (t : RicIndicationType) : t.code < 2 := by
  cases t <;> decide

/-- The ids of a message that satisfies its constraints. -/
theorem ricGenIdFits_of_satisfies {pdu : RicPdu} (h : pdu.satisfies = true) {ricId : RicGenId}
    (before : List (Ie RicIe)) {after : List (Ie RicIe)} (hies : pdu.ies = before ++ (ricIdIes ricId ++ after)) :
    RicGenIdFits ricId := by
  have htakes := (RicPdu.satisfies_iff.mp h).2.2
  have hreq := htakes (ricIe (.ricRequestId ricId.ricReqId.toNat ricId.ricInstId.toNat))
    (by simp [hies])
  have hran := htakes (ricIe (.integer .ranFunctionId ricId.ranFuncId.toNat)) (by simp [hies])
  simp only [takes_ricIe, Bool.and_eq_true, RicIe.satisfies, inRange_toNat, IntegerIe.max,
    decide_eq_true_eq] at hreq hran
  exact ⟨hreq.2.1, hran.2⟩

theorem admits_of_fits {ricId : RicGenId} (h : RicGenIdFits ricId) (strict : Bool) :
    RicIdLimits.admits ⟨strict, some maxRicRequestId, some maxRanFuncId⟩ ricId := by
  obtain ⟨hreq, hran⟩ := h
  have hinst := toNat_le_65535 ricId.ricInstId
  simp only [RicIdLimits.admits, Option.mem_some_iff, forall_eq', maxRicRequestId, maxRanFuncId]
  omega

section IndicationIe

variable {ind : RicIndication}

theorem decIndicationIe_sn (h : ind.sn = none) (v : UInt16) :
    decIndicationIe ind (ricIe (.integer .indicationSn v.toNat)) = next { ind with sn := some v } := by
  have hlt : (v.toNat : Int) < maxRicIndicationSn := by
    have := v.toNat_lt
    simp only [maxRicIndicationSn]
    omega
  -- by rewriting: `simp` makes the kernel count down from the limit
  rw [decIndicationIe, id_ricIe, RicIe.id, IntegerIe.id, if_pos rfl, readInteger_ricIe, next_bind,
    h, Option.isNone_none, assert_of rfl, next_bind, assert_of (decide_eq_true hlt), next_bind,
    longToU16_back, pure_eq]

theorem decIndicationIe_type (t : RicIndicationType) :
    decIndicationIe ind (ricIe (.integer .indicationType t.code)) = next { ind with type := t } := by
  have hlt : t.code < maxRicIndicationType := t.code_lt
  simp [decIndicationIe, id_ricIe, hlt]

theorem decIndicationIe_hdr (h : ind.hdr = []) {v : Bytes} (hv : 0 < v.length) :
    decIndicationIe ind (ricIe (.octets .indicationHeader v)) = next { ind with hdr := v } := by
  simp [decIndicationIe, id_ricIe, decOctets_ricIe, h, hv]

theorem decIndicationIe_msg (h : ind.msg = []) {v : Bytes} (hv : 0 < v.length) :
    decIndicationIe ind (ricIe (.octets .indicationMessage v)) = next { ind with msg := v } := by
  simp [decIndicationIe, id_ricIe, decOctets_ricIe, h, hv]

theorem decIndicationIe_call (h : ind.callProcessId = none) {v : Bytes} (hv : 0 < v.length) :
    decIndicationIe ind (ricIe (.octets .callProcessId v)) =
      next { ind with callProcessId := some v } := by
  simp [decIndicationIe, id_ricIe, decOptOctets_ricIe, h, hv]

end IndicationIe

/-- The elements of an indication after its action come back. -/
theorem indicationIes_back {ind : RicIndication} (hhdr : 0 < ind.hdr.length)
    (hmsg : 0 < ind.msg.length) (hcall : ∀ b ∈ ind.callProcessId, 0 < b.length) :
    fold decIndicationIe ⟨ind.ricId, ind.actionId, none, .report, [], [], none⟩
      ((indicationSnIes ind.sn ++ ricIe (.integer .indicationType ind.type.code) ::
        ricIe (.octets .indicationHeader ind.hdr) :: ricIe (.octets .indicationMessage ind.msg) ::
        (ind.callProcessId.map fun b => ricIe (.octets .callProcessId b)).toList).map
          (Ie.mapValue RicIe.opened)) = next ind := by
  obtain ⟨ricId, actionId, sn, type, hdr, msg, callProcessId⟩ := ind
  cases sn <;> cases callProcessId
  all_goals
    simp_all [indicationSnIes, decIndicationIe_sn, decIndicationIe_type, decIndicationIe_hdr,
      decIndicationIe_msg, decIndicationIe_call, -bind_eq_next]

/-- **An indication comes back.** -/
theorem indication_back {ind : RicIndication} {pdu : RicPdu}
    (henc : e2apEncIndicationAsnPdu ind = next pdu) (hsat : pdu.satisfies = true) :
    e2apDecIndication pdu.opened = next ind := by
  simp only [e2apEncIndicationAsnPdu, bind_eq_next, encOctets_eq_next, encOptOctets_eq_next,
    pure_eq, next_inj] at henc
  obtain ⟨_, ⟨hhdr, rfl⟩, _, ⟨hmsg, rfl⟩, _, ⟨hcall, rfl⟩, rfl⟩ := henc
  have hadmits := admits_of_fits (ricGenIdFits_of_satisfies hsat [] rfl) true
  have haction : (ind.actionId.toNat : Int) < maxRicActionId := by
    have := ind.actionId.toNat_lt
    simp only [maxRicActionId]
    omega
  have hfold := indicationIes_back hhdr hmsg hcall
  simpa [RicPdu.opened, e2apDecIndication, decRicId_eq_next, indicationLimits, hadmits,
    haction] using hfold

/-- The elements of a control request after its ids come back. -/
theorem control_back {ctrl : RicControlRequest} {ies : List (Ie RicIe)}
    (henc : encControlIes ctrl = next ies) (hfits : RicGenIdFits ctrl.ricId) :
    decControl (ricIe (.ricRequestId ctrl.ricId.ricReqId.toNat ctrl.ricId.ricInstId.toNat))
        (ricIe (.integer .ranFunctionId ctrl.ricId.ranFuncId.toNat))
        (ies.map (Ie.mapValue RicIe.opened)) = next ctrl := by
  obtain ⟨ricId, callProcessId, hdr, msg, ackReq⟩ := ctrl
  have hadmits := admits_of_fits hfits false
  simp only [encControlIes, bind_eq_next, encOctets_eq_next, encOptOctets_eq_next, pure_eq,
    next_inj] at henc
  obtain ⟨_, ⟨hcall, rfl⟩, _, ⟨hhdr, rfl⟩, _, ⟨hmsg, rfl⟩, rfl⟩ := henc
  have hack (a : RicControlAckReq) : a.code < 3 := a.code_lt
  cases callProcessId <;> cases ackReq
  all_goals
    simp_all [decControl, controlAckReqIes, decRicId_eq_next, controlRequestLimits, decControlIe,
      id_ricIe, decOctets_ricIe, decOptOctets_ricIe]

/-- **A control request comes back.** -/
theorem controlRequest_back {ctrl : RicControlRequest} {pdu : RicPdu}
    (henc : e2apEncControlRequestAsnPdu ctrl = next pdu) (hsat : pdu.satisfies = true) :
    e2apDecControlRequest pdu.opened = next ctrl := by
  simp only [e2apEncControlRequestAsnPdu, bind_eq_next, pure_eq, next_inj] at henc
  obtain ⟨ies, hies, rfl⟩ := henc
  have hfits := ricGenIdFits_of_satisfies hsat [] rfl
  have hback := control_back hies hfits
  simpa [e2apDecControlRequest, RicPdu.opened] using hback

/-- **A control acknowledgement comes back.** -/
theorem controlAck_back {ca : RicControlAcknowledge} {pdu : RicPdu}
    (henc : e2apEncControlAckAsnPdu ca = next pdu) (hsat : pdu.satisfies = true) :
    e2apDecControlAck pdu.opened = next ca := by
  obtain ⟨ricId, callProcessId, controlOutcome⟩ := ca
  simp only [e2apEncControlAckAsnPdu, bind_eq_next, encOptOctets_eq_next, pure_eq, next_inj] at henc
  obtain ⟨_, ⟨hcall, rfl⟩, _, ⟨houtcome, rfl⟩, rfl⟩ := henc
  have hadmits := admits_of_fits (ricGenIdFits_of_satisfies hsat [] rfl) true
  clear hsat
  cases callProcessId <;> cases controlOutcome
  all_goals
    simp_all [RicPdu.opened, e2apDecControlAck, decRicId_eq_next, controlAckLimits, decControlAckIe,
      id_ricIe, decOptOctets_ricIe]

end FlexRic.Codec
