import FlexRic.Codec.NodeDiscovery
import FlexRic.Codec.ServiceRoundTrip
import FlexRic.IApp.System

/-!
# FlexRic.Codec.Paths

What a message has become where it ends: from an xApp over iApp and RIC to a
node.

* `RicSubscriptionRequest.canon`: a subscription as it arrives; a time to wait
  of 0 is lost.
* `RicMsg.Arrives`: a message of one side, and what the other side makes of it,
  kind by kind.
* `relay`: a message through two transfers and what forwards it between them.
* `forwardRequest`: what iApp and RIC make of a request, and when they forward
  it.
* `requestPath`: such a relay; `Reaches` says where a request arrives, and as
  what.
-/

namespace FlexRic.Codec

open Outcome

/-! ## Subscriptions as they arrive -/

/-- A time to wait that the encoder takes, and the constraints. -/
def RicSubsequentAction.Encodable (a : RicSubsequentAction) : Prop :=
  ∀ t ∈ a.timeToWaitMs, t.toNat ≤ 16

/-- A time to wait of 0 stands for none. -/
def RicSubsequentAction.canon (a : RicSubsequentAction) : RicSubsequentAction :=
  { a with timeToWaitMs := a.timeToWaitMs.filter fun t => t != 0 }

def RicAction.Encodable (a : RicAction) : Prop :=
  (∀ d ∈ a.definition, 0 < d.length) ∧ ∀ s ∈ a.subseqAction, s.Encodable

def RicAction.canon (a : RicAction) : RicAction :=
  { a with subseqAction := a.subseqAction.map RicSubsequentAction.canon }

/-- What a subscription needs to be sent. -/
def RicSubscriptionRequest.Encodable (sr : RicSubscriptionRequest) : Prop :=
  RicGenIdFits sr.ricId ∧ 0 < sr.eventTrigger.length ∧
    (1 ≤ sr.action.length ∧ sr.action.length ≤ 16) ∧ ∀ a ∈ sr.action, a.Encodable

/-- The subscription that arrives. -/
def RicSubscriptionRequest.canon (sr : RicSubscriptionRequest) : RicSubscriptionRequest :=
  { sr with action := sr.action.map RicAction.canon }

theorem RicSubsequentAction.canon_some (type : RicSubseqActionType) (t : UInt32) :
    canon ⟨type, some t⟩ = ⟨type, if t.toNat = 0 then none else some t⟩ := by
  have hzero : t = 0 ↔ t.toNat = 0 := by
    rw [← UInt32.toNat_inj]
    rfl
  simp [canon, Option.filter_some, hzero]

theorem carries_subsequentAction_iff {a a' : RicSubsequentAction} :
    Carries encSubsequentAction SubsequentActionIe.satisfies decSubsequentAction a a' ↔
      a.Encodable ∧ a.canon = a' := by
  obtain ⟨type, _ | t⟩ := a
  · have hzero : inRange 16 0 = true := rfl
    simp [Carries, encSubsequentAction, SubsequentActionIe.satisfies, decSubsequentAction, expect,
      type.code_mem, RicSubsequentAction.Encodable, RicSubsequentAction.canon, hzero]
  · have hlt : t.toNat ≤ 16 → t.toNat < 18 := fun h => by omega
    simp [Carries, encSubsequentAction, SubsequentActionIe.satisfies, decSubsequentAction, expect,
      type.code_mem, RicSubsequentAction.Encodable, RicSubsequentAction.canon_some,
      UInt32.lt_iff_toNat_lt]
    grind

theorem carries_opt_octets {d e : Option Bytes} :
    Carries (opt copyBaToOstring) (Option.all fun _ => true) (opt copyOstringToBa) d e ↔
      (∀ b ∈ d, 0 < b.length) ∧ d = e := by
  rw [carries_opt]
  cases d <;> cases e <;> simp [Carries, copyBaToOstring, copyOstringToBa]
  grind

theorem carries_opt_subsequentAction {s r : Option RicSubsequentAction} :
    Carries (opt encSubsequentAction) (Option.all SubsequentActionIe.satisfies)
        (opt decSubsequentAction) s r ↔
      (∀ a ∈ s, a.Encodable) ∧ s.map RicSubsequentAction.canon = r := by
  rw [carries_opt]
  cases s <;> cases r <;> simp [carries_subsequentAction_iff]

/-- An action arrives as its canonical form. -/
theorem carries_actionToBeSetup_iff {a a' : RicAction} :
    Carries encActionToBeSetup (Ie.satisfies ActionToBeSetupItem.satisfies) decActionToBeSetup
        a a' ↔ a.Encodable ∧ a.canon = a' := by
  obtain ⟨id, type, definition, subseqAction⟩ := a
  obtain ⟨id', type', definition', subseqAction'⟩ := a'
  have hid := id.toNat_lt
  have hdef := carries_opt_octets (d := definition) (e := definition')
  have hsub := carries_opt_subsequentAction (s := subseqAction) (r := subseqAction')
  simp only [RicAction.Encodable, RicAction.canon, RicAction.mk.injEq]
  simp [Carries, encActionToBeSetup, Ie.satisfies, ActionToBeSetupItem.satisfies,
    decActionToBeSetup, expect, type.code_mem] at hdef hsub ⊢
  grind

/-- **A list arrives** element by element, each as what it arrives as alone. -/
theorem carries_list_iff {α V : Type} {enc : α → Outcome (Ie V)} {p : V → Bool}
    {dec : Ie V → Outcome α} {row : ProtocolIeId} {P : α → Prop} {f : α → α} (min max : Nat)
    (xs ys : List α) (hid : ∀ x ie, enc x = next ie → ie.id = row)
    (h : ∀ x y, Carries enc (Ie.satisfies p) dec x y ↔ P x ∧ f x = y) :
    Carries (walk enc) (isSequenceOf min max (Ie.satisfies p))
        (fun ies => walk dec (ies.map (Ie.opened row))) xs ys ↔
      (min ≤ xs.length ∧ xs.length ≤ max) ∧ (∀ x ∈ xs, P x) ∧ xs.map f = ys := by
  have hsize : (decide (min ≤ xs.length) && decide (xs.length ≤ max)) = true ↔
      min ≤ xs.length ∧ xs.length ≤ max := by simp
  have hall : List.Forall₂ (Carries enc (Ie.satisfies p) dec) xs ys ↔
      (∀ x ∈ xs, P x) ∧ xs.map f = ys := by
    rw [show Carries enc (Ie.satisfies p) dec = fun x y => P x ∧ f x = y by
      funext x y; exact propext (h x y)]
    rw [List.forall₂_and_left, ← List.forall₂_map_left_iff, List.forall₂_eq_eq_eq]
  have hsized : Carries (walk enc) (isSequenceOf min max (Ie.satisfies p)) (walk dec) xs ys ↔ _ :=
    @carries_sized _ _ _ enc (Ie.satisfies p) dec
      (fun n => decide (min ≤ n) && decide (n ≤ max)) xs ys
  rw [hsize, hall] at hsized
  rw [← hsized]
  refine exists_congr fun ies => and_congr_right fun hies => and_congr_right fun _ => ?_
  have hopened : ies.map (Ie.opened row) = ies := Ie.map_opened fun ie hie => by
    obtain ⟨x, -, hx⟩ := exists_of_mem_walk hies hie
    exact hid x ie hx
  simp only [hopened]

/-- The details of a subscription arrive as their canonical form. -/
theorem carries_subscriptionDetails_iff (type : MessageType) {ricId : RicGenId}
    {sr sr' : RicSubscriptionRequest}
    (htype : type.ies.contains .ricSubscriptionDetails = true) :
    Carries encSubscriptionDetails type.takes
        (fun ie => decSubscriptionDetails ricId (ie.mapValue RicIe.opened)) sr sr' ↔
      (0 < sr.eventTrigger.length ∧ (1 ≤ sr.action.length ∧ sr.action.length ≤ 16) ∧
        ∀ a ∈ sr.action, a.Encodable) ∧ sr' = { sr.canon with ricId := ricId } := by
  obtain ⟨id, eventTrigger, action⟩ := sr
  obtain ⟨id', eventTrigger', action'⟩ := sr'
  have hactions := carries_list_iff 1 16 action action'
    (fun x ie => id_of_encActionToBeSetup) fun _ _ => carries_actionToBeSetup_iff
  simp only [RicSubscriptionRequest.canon, RicSubscriptionRequest.mk.injEq]
  simp only [List.contains_iff_mem] at htype
  simp [Carries, encSubscriptionDetails, decSubscriptionDetails, readIe_ricIe,
    copyBaToOstring_eq_next, RicIe.id, htype, RicIe.satisfies, RicIe.opened] at hactions ⊢
  -- the sizes the constraints give are those that both sides assert
  have hsize (y : List (Ie ActionToBeSetupItem)) (hw : walk encActionToBeSetup action = next y)
      (hy : isSequenceOf 1 16 (Ie.satisfies ActionToBeSetupItem.satisfies) y = true) :
      (0 < y.length ∧ y.length ≤ maxNumActionDef) ∧ action.length ≤ maxNumActionDef := by
    have hlen := walk_length hw
    simp only [isSequenceOf, Bool.and_eq_true, decide_eq_true_eq] at hy
    simp only [maxNumActionDef]
    omega
  constructor
  · rintro ⟨y, ⟨hpos, -, -, hw⟩, hsat, -, hdec, rfl, rfl⟩
    obtain ⟨hlen, hact, hmap⟩ := hactions.mp ⟨y, hw, hsat, hdec⟩
    exact ⟨⟨hpos, hlen, hact⟩, rfl, rfl, hmap.symm⟩
  · rintro ⟨⟨hpos, hlen, hact⟩, rfl, rfl, rfl⟩
    obtain ⟨y, hw, hsat, hdec⟩ := hactions.mpr ⟨hlen, hact, rfl⟩
    obtain ⟨hy, haction⟩ := hsize y hw hsat
    exact ⟨y, ⟨hpos, haction, hpos, hw⟩, hsat, hy, hdec, rfl, rfl⟩

/-! ## Messages as they arrive -/

attribute [local simp] RicIe.id IntegerIe.id OctetsIe.id MessageType.ies MessageType.procedure
  RicIe.satisfies IntegerIe.max RicIe.opened ricIdIes RicPdu.check

/-- Encoded on one side, and what the other side makes of it. -/
def RicMsg.Arrives (msg msg' : RicMsg) : Prop :=
  Carries e2apEncRicMsg RicPdu.satisfies (fun pdu => decoderOf msg pdu.opened) msg msg'

theorem arrives_of_kind {α : Type} (mk : α → RicMsg) (enc : α → Outcome RicPdu)
    (dec : RicPdu → Outcome α) {x : α} {msg' : RicMsg} (henc : e2apEncRicMsg (mk x) = enc x)
    (hdec : ∀ pdu, decoderOf (mk x) pdu = dec pdu >>= fun y => next (mk y)) :
    RicMsg.Arrives (mk x) msg' ↔
      ∃ x', Carries enc RicPdu.satisfies (fun pdu => dec pdu.opened) x x' ∧ mk x' = msg' := by
  simp only [RicMsg.Arrives, Carries, henc, hdec, bind_eq_next, next_inj]
  constructor
  · rintro ⟨pdu, hpdu, hsat, x', hx', hmk⟩
    exact ⟨x', ⟨pdu, hpdu, hsat, hx'⟩, hmk⟩
  · rintro ⟨x', ⟨pdu, hpdu, hsat, hx'⟩, hmk⟩
    exact ⟨pdu, hpdu, hsat, x', hx', hmk⟩

/-- **A subscription arrives** as its canonical form. -/
theorem subscriptionRequest_arrives {sr : RicSubscriptionRequest} {msg' : RicMsg} :
    RicMsg.Arrives (.subscriptionRequest sr) msg' ↔
      sr.Encodable ∧ .subscriptionRequest sr.canon = msg' := by
  have hcarries (sr' : RicSubscriptionRequest) :
      Carries e2apEncSubscriptionRequestAsnPdu RicPdu.satisfies
          (fun pdu => e2apDecSubscriptionRequest pdu.opened) sr sr' ↔
        RicGenIdFits sr.ricId ∧ Carries encSubscriptionDetails
          (MessageType.takes .ricSubscriptionRequest)
          (fun ie => decSubscriptionDetails sr.ricId (ie.mapValue RicIe.opened)) sr sr' := by
    simp [Carries, e2apEncSubscriptionRequestAsnPdu, RicPdu.satisfies_iff, RicPdu.opened,
      e2apDecSubscriptionRequest, decRicId_eq_next, RicGenIdFits, RicIdLimits.admits,
      subscriptionRequestLimits, toNat_le_65535]
    grind
  rw [arrives_of_kind .subscriptionRequest e2apEncSubscriptionRequestAsnPdu
    e2apDecSubscriptionRequest rfl fun _ => rfl]
  simp only [hcarries, carries_subscriptionDetails_iff .ricSubscriptionRequest rfl]
  simp [RicSubscriptionRequest.Encodable, RicSubscriptionRequest.canon, and_assoc]

/-- **An E42 subscription arrives** so too, for the node its id stands for. -/
theorem e42SubscriptionRequest_arrives {m : E42RicSubscriptionRequest} {msg' : RicMsg} :
    RicMsg.Arrives (.e42SubscriptionRequest m) msg' ↔
      isSetupNode m.id.type = true ∧ m.sr.Encodable ∧ ∃ id,
        Carries encGlobalE2NodeId GlobalE2NodeIdIe.satisfies decGlobalE2NodeId m.id id ∧
          .e42SubscriptionRequest ⟨m.xappId, id, m.sr.canon⟩ = msg' := by
  rw [arrives_of_kind .e42SubscriptionRequest e2apEncE42SubscriptionRequestAsnPdu
    e2apDecE42SubscriptionRequest rfl fun _ => rfl]
  simp only [carries_e42SubscriptionRequest_parts,
    carries_subscriptionDetails_iff .e42RicSubscriptionRequest rfl,
    RicSubscriptionRequest.Encodable]
  constructor
  · rintro ⟨⟨xappId, id, sr⟩, ⟨htype, rfl, hid, hfits, hsr, rfl⟩, rfl⟩
    exact ⟨htype, ⟨hfits, hsr⟩, id, hid, rfl⟩
  · rintro ⟨htype, ⟨hfits, hsr⟩, id, hid, rfl⟩
    exact ⟨⟨m.xappId, id, m.sr.canon⟩, ⟨htype, rfl, hid, hfits, hsr, rfl⟩, rfl⟩

/-- A deletion arrives as it is. -/
theorem subscriptionDeleteRequest_arrives {dr : RicSubscriptionDelete} {msg' : RicMsg} :
    RicMsg.Arrives (.subscriptionDeleteRequest dr) msg' ↔
      RicGenIdFits dr.ricId ∧ .subscriptionDeleteRequest dr = msg' := by
  obtain ⟨ricId⟩ := dr
  rw [RicGenIdFits]
  simp [RicMsg.Arrives, Carries, e2apEncRicMsg, decoderOf, e2apEncSubscriptionDeleteRequestAsnPdu,
    RicPdu.satisfies_iff, RicPdu.opened, e2apDecSubscriptionDeleteRequest, decRicId_eq_next,
    RicIdLimits.admits, subscriptionDeleteLimits, toNat_le_65535, maxRanFuncId]
  omega

theorem subscriptionDeleteResponse_arrives {dr : RicSubscriptionDelete} {msg' : RicMsg} :
    RicMsg.Arrives (.subscriptionDeleteResponse dr) msg' ↔
      RicGenIdFits dr.ricId ∧ .subscriptionDeleteResponse dr = msg' := by
  obtain ⟨ricId⟩ := dr
  rw [RicGenIdFits]
  simp [RicMsg.Arrives, Carries, e2apEncRicMsg, decoderOf, e2apEncSubscriptionDeleteResponseAsnPdu,
    RicPdu.satisfies_iff, RicPdu.opened, e2apDecSubscriptionDeleteResponse, decRicId_eq_next,
    RicIdLimits.admits, subscriptionDeleteLimits, toNat_le_65535, maxRanFuncId]
  omega

theorem e42SubscriptionDeleteRequest_arrives {m : E42RicSubscriptionDeleteRequest}
    {msg' : RicMsg} :
    RicMsg.Arrives (.e42SubscriptionDeleteRequest m) msg' ↔
      RicGenIdFits m.sdr.ricId ∧ .e42SubscriptionDeleteRequest m = msg' := by
  obtain ⟨xappId, ⟨ricId⟩⟩ := m
  have := toNat_le_65535 xappId
  have := toNat_le_65535 ricId.ricInstId
  rw [RicGenIdFits]
  simp [RicMsg.Arrives, Carries, e2apEncRicMsg, decoderOf,
    e2apEncE42SubscriptionDeleteRequestAsnPdu, RicPdu.satisfies_iff, RicPdu.opened,
    e2apDecE42SubscriptionDeleteRequest, decXappId, decRicId_eq_next, RicIdLimits.admits,
    subscriptionDeleteLimits, maxRanFuncId, *]
  omega

/-- What the encoder takes of a control request, and its constraints let
through, can be sent. -/
theorem sendable_of_takes {ctrl : RicControlRequest} {ies : List (Ie RicIe)} {type : MessageType}
    (henc : encControlIes ctrl = next ies) (hfits : RicGenIdFits ctrl.ricId)
    (htakes : ∀ ie ∈ ies, type.takes ie = true) : ctrl.Sendable := by
  simp only [encControlIes, bind_eq_next, encOctets_eq_next, encOptOctets_eq_next, pure_eq,
    next_inj] at henc
  obtain ⟨_, ⟨hcall, rfl⟩, _, ⟨hhdr, rfl⟩, _, ⟨hmsg, rfl⟩, rfl⟩ := henc
  refine ⟨hfits, hhdr, hmsg, hcall, fun hnack => ?_⟩
  have hack := htakes (ricIe (.integer .controlAckRequest 2))
    (by simp [hnack, controlAckReqIes, RicControlAckReq.code])
  simp [inRange] at hack

/-- The elements of a control request are those of its messages. -/
theorem control_takes {ctrl : RicControlRequest} {ies : List (Ie RicIe)} {type : MessageType}
    (htype : type = .ricControlRequest ∨ type = .e42RicControlRequest)
    (henc : encControlIes ctrl = next ies) (hack : ctrl.ackReq ≠ some .nack) :
    ies.length ≤ 4 ∧ ∀ ie ∈ ies, type.takes ie = true := by
  obtain ⟨ricId, callProcessId, hdr, msg, ackReq⟩ := ctrl
  simp only [encControlIes, bind_eq_next, encOctets_eq_next, encOptOctets_eq_next, pure_eq,
    next_inj] at henc
  obtain ⟨_, ⟨-, rfl⟩, _, ⟨-, rfl⟩, _, ⟨-, rfl⟩, rfl⟩ := henc
  have hcode (a : RicControlAckReq) (ha : a ≠ .nack) : inRange 1 a.code = true := by
    cases a <;> first | rfl | exact absurd rfl ha
  rcases htype with rfl | rfl <;> cases callProcessId <;> cases ackReq <;>
    simp_all [controlAckReqIes]

/-- **A control request arrives as it is**, and none that asks for a negative
acknowledgement alone. -/
theorem controlRequest_arrives {ctrl : RicControlRequest} {msg' : RicMsg} :
    RicMsg.Arrives (.controlRequest ctrl) msg' ↔ ctrl.Sendable ∧ .controlRequest ctrl = msg' := by
  rw [arrives_of_kind .controlRequest e2apEncControlRequestAsnPdu e2apDecControlRequest rfl
    fun _ => rfl]
  constructor
  · rintro ⟨ctrl', ⟨pdu, henc, hsat, hdec⟩, rfl⟩
    have hback := controlRequest_back henc hsat
    obtain rfl := next_inj.mp (hback.symm.trans hdec)
    simp only [e2apEncControlRequestAsnPdu, bind_eq_next, pure_eq, next_inj] at henc
    obtain ⟨ies, hies, rfl⟩ := henc
    have htakes := (RicPdu.satisfies_iff.mp hsat).2.2
    exact ⟨sendable_of_takes hies (ricGenIdFits_of_satisfies hsat [] rfl)
      fun ie hie => htakes ie (by simp [hie]), rfl⟩
  · rintro ⟨hctrl, rfl⟩
    obtain ⟨ies, hies, -⟩ := hctrl.encodes
    obtain ⟨hlen, htakes⟩ := control_takes (.inl rfl) hies hctrl.2.2.2.2
    have henc : e2apEncControlRequestAsnPdu ctrl = next ⟨.initiatingMessage,
        procedureCodeRicControl, .reject, .ricControlRequest, ricIdIes ctrl.ricId ++ ies⟩ := by
      simp [e2apEncControlRequestAsnPdu, hies]
    have hsat : RicPdu.satisfies ⟨.initiatingMessage, procedureCodeRicControl, .reject,
        .ricControlRequest, ricIdIes ctrl.ricId ++ ies⟩ = true := by
      have hinst := toNat_le_65535 ctrl.ricId.ricInstId
      have hsize : ies.length + 1 + 1 ≤ 65535 := by omega
      obtain ⟨hreq, hran⟩ := hctrl.1
      simpa [RicPdu.satisfies_iff, hreq, hran, hinst, hsize] using htakes
    exact ⟨ctrl, ⟨_, henc, hsat, controlRequest_back henc hsat⟩, rfl⟩

/-- **An E42 control request arrives** for the node its id stands for, of a type
its encoder takes. -/
theorem e42ControlRequest_arrives {m : E42RicControlRequest} {msg' : RicMsg} :
    RicMsg.Arrives (.e42ControlRequest m) msg' ↔
      isE42Node m.id.type = true ∧ m.ctrlReq.Sendable ∧ ∃ id,
        Carries encGlobalE2NodeId GlobalE2NodeIdIe.satisfies decGlobalE2NodeId m.id id ∧
          .e42ControlRequest ⟨m.xappId, id, m.ctrlReq⟩ = msg' := by
  rw [arrives_of_kind .e42ControlRequest e2apEncE42ControlRequestAsnPdu e2apDecE42ControlRequest
    rfl fun _ => rfl]
  constructor
  · rintro ⟨m', hm', rfl⟩
    have hctrl : m.ctrlReq.Sendable := by
      obtain ⟨pdu, henc, hsat, -⟩ := hm'
      simp only [e2apEncE42ControlRequestAsnPdu, bind_eq_next, pure_eq, next_inj] at henc
      obtain ⟨-, -, v, -, ies, hies, rfl⟩ := henc
      have htakes := (RicPdu.satisfies_iff.mp hsat).2.2
      exact sendable_of_takes hies
        (ricGenIdFits_of_satisfies hsat (e42Ies m.xappId v) rfl) fun ie hie =>
          htakes ie (by simp [hie])
    obtain ⟨xappId, id, ctrl⟩ := m'
    obtain ⟨htype, rfl, hid, rfl⟩ := (carries_e42ControlRequest hctrl).mp hm'
    exact ⟨htype, hctrl, id, hid, rfl⟩
  · rintro ⟨htype, hctrl, id, hid, rfl⟩
    exact ⟨⟨m.xappId, id, m.ctrlReq⟩,
      (carries_e42ControlRequest hctrl).mpr ⟨htype, rfl, hid, rfl⟩, rfl⟩

/-- A control acknowledgement arrives as it is. -/
theorem controlAcknowledge_arrives {ca : RicControlAcknowledge} {msg' : RicMsg} :
    RicMsg.Arrives (.controlAcknowledge ca) msg' ↔
      (RicGenIdFits ca.ricId ∧ (∀ b ∈ ca.callProcessId, 0 < b.length) ∧
        ∀ b ∈ ca.controlOutcome, 0 < b.length) ∧ .controlAcknowledge ca = msg' := by
  rw [arrives_of_kind .controlAcknowledge e2apEncControlAckAsnPdu e2apDecControlAck rfl
    fun _ => rfl]
  constructor
  · rintro ⟨ca', ⟨pdu, henc, hsat, hdec⟩, rfl⟩
    obtain rfl := next_inj.mp ((controlAck_back henc hsat).symm.trans hdec)
    simp only [e2apEncControlAckAsnPdu, bind_eq_next, encOptOctets_eq_next, pure_eq,
      next_inj] at henc
    obtain ⟨_, ⟨hcall, -⟩, _, ⟨hout, -⟩, rfl⟩ := henc
    exact ⟨⟨ricGenIdFits_of_satisfies hsat [] rfl, hcall, hout⟩, rfl⟩
  · rintro ⟨⟨⟨hreq, hran⟩, hcall, hout⟩, rfl⟩
    have hinst := toNat_le_65535 ca.ricId.ricInstId
    have henc : ∃ pdu, e2apEncControlAckAsnPdu ca = next pdu ∧ pdu.satisfies = true := by
      obtain ⟨ricId, callProcessId, controlOutcome⟩ := ca
      cases callProcessId <;> cases controlOutcome
      all_goals
        simp_all [e2apEncControlAckAsnPdu, encOptOctets_eq_next, RicPdu.satisfies_iff]
    obtain ⟨pdu, henc, hsat⟩ := henc
    exact ⟨ca, ⟨pdu, henc, hsat, controlAck_back henc hsat⟩, rfl⟩

/-- A refused action with a cause that its encoder takes. -/
def RicActionNotAdmitted.Encodable (a : RicActionNotAdmitted) : Prop :=
  a.cause.copy encCauseLimits = next a.cause

theorem carries_admittedItem_iff {a a' : UInt8} :
    Carries encAdmittedItem (Ie.satisfies (inRange 255)) decAdmittedItem a a' ↔
      True ∧ id a = a' := by
  obtain ⟨ie, henc, hsat, hdec⟩ := carries_admittedItem a
  rw [carries_next henc]
  simp [hsat, hdec]

theorem carries_notAdmittedItem_iff {a a' : RicActionNotAdmitted} :
    Carries encNotAdmittedItem (Ie.satisfies ActionNotAdmittedItem.satisfies) decNotAdmittedItem
        a a' ↔ a.Encodable ∧ id a = a' := by
  obtain ⟨ricActId, cause⟩ := a
  have := ricActId.toNat_lt
  have hid : inRange 255 (ricActId.toNat : Int) = true := by
    simp
    omega
  constructor
  · rintro ⟨ie, henc, hsat, hdec⟩
    simp only [encNotAdmittedItem, bind_eq_next, pure_eq, next_inj] at henc
    obtain ⟨cause', hcause, rfl⟩ := henc
    obtain rfl := Cause.copy_eq hcause
    have hback : cause'.copy decRejectedCauseLimits = next cause' := hcause
    simp [decNotAdmittedItem, Ie.read_mk, hback] at hdec
    exact ⟨hcause, hdec⟩
  · rintro ⟨hcause, rfl⟩
    have hcause' : cause.copy encCauseLimits = next cause := hcause
    have hback : cause.copy decRejectedCauseLimits = next cause := hcause
    have hsat : cause.satisfies = true := by
      cases cause <;>
        simp only [Cause.copy, bind_eq_next, assert_eq_next, decide_eq_true_eq,
          reduceCtorEq] at hcause'
      all_goals
        obtain ⟨-, hlt, -⟩ := hcause'
        simp only [encCauseLimits] at hlt
        simp only [Cause.satisfies, decide_eq_true_eq]
        omega
    simp [Carries, encNotAdmittedItem, hcause', Ie.satisfies, ActionNotAdmittedItem.satisfies, hid,
      hsat, decNotAdmittedItem, Ie.read_mk, hback]

/-- What a subscription response needs to be sent. -/
def RicSubscriptionResponse.Encodable (sr : RicSubscriptionResponse) : Prop :=
  (sr.ricId.ricReqId.toNat ≤ 65535 ∧ sr.ricId.ranFuncId.toNat < 256) ∧
    (1 ≤ sr.admitted.length ∧ sr.admitted.length ≤ 16) ∧
    sr.notAdmitted.length ≤ 16 ∧ ∀ a ∈ sr.notAdmitted, a.Encodable

/-- **A subscription response arrives without its refused actions.** -/
theorem subscriptionResponse_arrives {sr : RicSubscriptionResponse} {msg' : RicMsg} :
    RicMsg.Arrives (.subscriptionResponse sr) msg' ↔
      sr.Encodable ∧ .subscriptionResponse { sr with notAdmitted := [] } = msg' := by
  obtain ⟨ricId, admitted, notAdmitted⟩ := sr
  have hadm (l : List UInt8) := carries_list_iff 1 16 admitted l
    (fun _ _ => id_of_encAdmittedItem) fun _ _ => carries_admittedItem_iff
  have hid (x : RicActionNotAdmitted) (ie : Ie ActionNotAdmittedItem)
      (h : encNotAdmittedItem x = next ie) : ie.id = .ricActionNotAdmittedItem := by
    simp only [encNotAdmittedItem, bind_eq_next, pure_eq, next_inj] at h
    obtain ⟨_, -, rfl⟩ := h
    rfl
  have hna (l : List RicActionNotAdmitted) := carries_list_iff 0 16 notAdmitted l
    hid fun _ _ => carries_notAdmittedItem_iff
  simp only [List.map_id] at hadm hna
  rw [RicSubscriptionResponse.Encodable]
  simp [RicMsg.Arrives, Carries, decoderOf, e2apEncRicMsg, e2apEncSubscriptionResponseAsnPdu,
    RicPdu.satisfies_iff, RicPdu.opened, e2apDecSubscriptionResponse, decNotAdmittedList,
    decRicId_eq_next, RicIdLimits.admits, subscriptionResponseLimits, toNat_le_65535, readIe_ricIe,
    decAdmittedList]
  constructor
  · rintro ⟨a, ha, b, hb, ⟨hreq, -, hasat, hbsat⟩, adm, ⟨⟨-, hran⟩, hadec, -, na, hbdec⟩, rfl⟩
    obtain ⟨hlen, -, rfl⟩ := (hadm adm).mp ⟨a, ha, hasat, hadec⟩
    obtain ⟨⟨-, hnalen⟩, hnaenc, -⟩ := (hna na).mp ⟨b, hb, hbsat, hbdec⟩
    exact ⟨⟨⟨hreq, hran⟩, hlen, hnalen, hnaenc⟩, rfl⟩
  · rintro ⟨⟨⟨hreq, hran⟩, hlen, hnalen, hnaenc⟩, rfl⟩
    obtain ⟨a, ha, hasat, hadec⟩ := (hadm admitted).mpr ⟨hlen, by simp, rfl⟩
    obtain ⟨b, hb, hbsat, hbdec⟩ := (hna notAdmitted).mpr ⟨⟨by simp, hnalen⟩, hnaenc, rfl⟩
    have hinst := toNat_le_65535 ricId.ricInstId
    have hblen : b.length < 17 := by
      rw [walk_length hb]
      omega
    refine ⟨a, ha, b, hb, ⟨hreq, by omega, hasat, hbsat⟩, admitted, ⟨⟨?_, hran⟩, hadec, hblen,
      notAdmitted, hbdec⟩, rfl⟩
    simp only [maxRicRequestId]
    omega

/-! ## Two transfers -/

/-- A message through a transfer, through what forwards it or does not, and
through a second transfer. -/
def relay {Buf α : Type} (rt : Asn1c RicPdu Buf)
    (forward : RicMsg → Outcome (Option (α × RicMsg))) (msg : RicMsg) :
    Outcome (Option (α × RicMsg)) := do
  let arrived ← transferRicMsg rt msg
  match ← forward arrived with
  | none => return none
  | some (dest, fwd) => do
    let received ← transferRicMsg rt fwd
    return some (dest, received)

/-- The two transfers and what is between them. -/
theorem relay_iff {Buf α : Type} {rt : Asn1c RicPdu Buf}
    (hrt : rt.Exact RicPdu.satisfies RicPdu.opened)
    {forward : RicMsg → Outcome (Option (α × RicMsg))} {msg received : RicMsg} {dest : α} :
    relay rt forward msg = next (some (dest, received)) ↔
      ∃ arrived fwd, (msg.Arrives arrived ∧ FitsBuffer rt msg) ∧
        forward arrived = next (some (dest, fwd)) ∧ fwd.Arrives received ∧ FitsBuffer rt fwd := by
  simp only [relay, bind_eq_next, transfer_ricMsg hrt, RicMsg.Arrives]
  constructor
  · rintro ⟨arrived, harrived, sent, hsent, hrec⟩
    cases sent with
    | none => simp at hrec
    | some s =>
      obtain ⟨dest', fwd⟩ := s
      simp only [bind_eq_next, transfer_ricMsg hrt, pure_eq, next_inj, Option.some.injEq,
        Prod.mk.injEq] at hrec
      obtain ⟨received', hreceived, rfl, rfl⟩ := hrec
      exact ⟨arrived, fwd, harrived, hsent, hreceived⟩
  · rintro ⟨arrived, fwd, harrived, hsent, hreceived⟩
    have hrec := (transfer_ricMsg hrt).mpr hreceived
    exact ⟨arrived, harrived, some (dest, fwd), hsent, by simp [hrec]⟩

/-! ## From an xApp to a node -/

/-- The registered nodes make an array, and one of them has the id. -/
def Listed (iapp : E42Iapp) (id : GlobalE2NodeId) : Prop :=
  iapp.e2Nodes.length < 256 ∧ (∀ n ∈ iapp.e2Nodes, Arrayed n) ∧
    (iapp.e2Nodes.any fun n => eqGlobalE2NodeId n.id id) = true

theorem validGlobalE2Node_iff {iapp : E42Iapp} {id : GlobalE2NodeId} :
    iapp.validGlobalE2Node id = next true ↔ Listed iapp id := by
  simp only [E42Iapp.validGlobalE2Node, Listed, bind_eq_next, generateE2NodeArr_eq_next, pure_eq, next_inj]
  constructor
  · rintro ⟨_, ⟨hlen, hnodes, rfl⟩, hid⟩
    exact ⟨hlen, hnodes, hid⟩
  · rintro ⟨hlen, hnodes, hid⟩
    exact ⟨_, ⟨hlen, hnodes, rfl⟩, hid⟩

/-- What iApp and RIC make of a request of an xApp, and the node it goes to.
None is sent for an xApp that is not there, nor while the same deletion is
pending. -/
def forwardRequest (iapp : E42Iapp) (ric : NearRic) (timer : Option Fd) :
    RicMsg → Outcome (Option (GlobalE2NodeId × RicMsg))
  | .e42SubscriptionRequest m =>
    if !decide (m.xappId.toUInt32 ≤ iapp.xappId) then return none
    else do
      let info ← iapp.xapps.findMapXappsSad m.xappId
      if info.sinPort == 0 then return none
      else
        let _ ← ric.fwdRicSubscriptionRequest m.id m.sr.ricId timer
        return some (m.id, .subscriptionRequest m.sr)
  | .e42SubscriptionDeleteRequest m => do
    let n ← iapp.map.findRicReqMapRicId ⟨m.sdr.ricId, m.xappId⟩
    Outcome.assert (n.ricReqType == .subscription) "n.ric_req_type == SUBSCRIPTION_RIC_REQUEST_TYPE"
    let ricId := { m.sdr.ricId with ricReqId := n.ricId.ricReqId }
    let (fd, _) ← ric.fwdRicSubscriptionRequestDelete n.e2NodeId ricId timer
    return fd.map fun _ => (n.e2NodeId, .subscriptionDeleteRequest ⟨ricId⟩)
  | .e42ControlRequest m => do
    Outcome.assert (decide (m.xappId.toUInt32 ≤ iapp.xappId))
      "valid_xapp_id(iapp, e42_cr->xapp_id) == true"
    Outcome.assert (← iapp.validGlobalE2Node m.id) "valid_global_e2_node(iapp, &e42_cr->id)"
    let (ricId, _, _) ← ric.fwdRicControlRequest m.id m.ctrlReq.ricId timer
    return some (m.id, .controlRequest { m.ctrlReq with ricId })
  | _ => .blocked

/-- A request of an xApp, as the node it goes to receives it. -/
def requestPath {Buf : Type} (rt : Asn1c RicPdu Buf) (iapp : E42Iapp) (ric : NearRic)
    (timer : Option Fd) (msg : RicMsg) : Outcome (Option (GlobalE2NodeId × RicMsg)) :=
  relay rt (forwardRequest iapp ric timer) msg

/-- RIC has a timer for the request, and knows the node. -/
def Sends (ric : NearRic) (node : GlobalE2NodeId) (timer : Option Fd) : Prop :=
  (∃ fd, timer = some fd ∧ 0 < fd ∧ ∀ e ∈ ric.pending.left, e.1 ≠ fd) ∧
    ric.e2Nodes.any (eqGlobalE2NodeId node) = true

/-- The xApp has an address with a port. -/
def HasPort (iapp : E42Iapp) (xappId : UInt16) : Prop :=
  ∃ info, iapp.xapps.findMapXappsSad xappId = next info ∧ info.sinPort ≠ 0

/-- The xApp has an id that was given, and an address with a port. -/
def HasXapp (iapp : E42Iapp) (xappId : UInt16) : Prop :=
  xappId.toUInt32 ≤ iapp.xappId ∧ HasPort iapp xappId

theorem sendRequest_iff (ric : NearRic) (ev : PendingEvent) {node : GlobalE2NodeId}
    {id : RicGenId} {timer : Option Fd} :
    (∃ r, ric.sendRequest node ⟨ev, id⟩ timer = next r) ↔ IdFits id ∧ Sends ric node timer := by
  simp only [NearRic.sendRequest, NearRic.startTimer, NearRic.sendBytes, bind_eq_next,
    expect_eq_next, assert_eq_next, await_eq_next, Bimap.insert_eq lawful_cmpFd
    lawful_cmpPendingEventRic, pure_eq, next_inj, decide_eq_true_eq]
  constructor
  · rintro ⟨r, ⟨fd, ric'⟩, ⟨fd, ⟨⟩, ⟨⟩, hpos, ⟨⟩, hopen, p, ⟨⟩, ⟨⟩⟩, ⟨⟩, ⟨⟨⟩, hfits, hnode⟩, rfl⟩
    refine ⟨hfits, ⟨fd, rfl, hpos, ?_⟩, hnode⟩
    simpa using hopen
  · rintro ⟨hfits, ⟨fd, rfl, hpos, hopen⟩, hnode⟩
    exact ⟨_, ⟨fd, _⟩, ⟨fd, rfl, ⟨⟩, hpos, ⟨⟩, by simpa using hopen, _, rfl, rfl⟩, ⟨⟩,
      ⟨⟨⟩, hfits, hnode⟩, rfl⟩

theorem idFits_iff {id : RicGenId} : IdFits id ↔ id.ricReqId.toNat ≤ 65535 := by
  rw [IdFits, UInt32.lt_iff_toNat_lt]
  exact Nat.lt_succ_iff

theorem fwdSubscription_iff {ric : NearRic} {node : GlobalE2NodeId} {id : RicGenId}
    {timer : Option Fd} :
    (∃ r, ric.fwdRicSubscriptionRequest node id timer = next r) ↔
      IdFits id ∧ Sends ric node timer := by
  simp only [NearRic.fwdRicSubscriptionRequest, bind_eq_next, pure_eq, next_inj]
  constructor
  · rintro ⟨-, r, hr, -⟩
    have hsends := (sendRequest_iff _ .subscriptionRequest).mp ⟨r, hr⟩
    exact hsends
  · intro h
    obtain ⟨r, hr⟩ := (sendRequest_iff { ric with
      reqId := id.ricReqId.toUInt16.toUInt32
      lastReqId := if id.ricReqId.toUInt16 > ric.lastReqId then id.ricReqId.toUInt16
        else ric.lastReqId } .subscriptionRequest).mpr h
    exact ⟨_, r, hr, rfl⟩

/-- Nothing is sent while the same deletion is pending. -/
theorem fwdDelete_iff {ric : NearRic} {node : GlobalE2NodeId} {id : RicGenId}
    {timer : Option Fd} :
    (∃ fd ric', ric.fwdRicSubscriptionRequestDelete node id timer = next (some fd, ric')) ↔
      (∀ e ∈ ric.pending.right, e.1 ≠ ⟨.subscriptionDeleteRequest, id⟩) ∧ IdFits id ∧
        Sends ric node timer := by
  constructor
  · rintro ⟨fd, ric', h⟩
    obtain ⟨hnone, -⟩ | ⟨_, -, -, -, hpending⟩ := NearRic.fwdRicSubscriptionRequestDelete_eq_next h
    · cases hnone
    · refine ⟨hpending, (sendRequest_iff ric .subscriptionDeleteRequest).mp ?_⟩
      simp only [NearRic.fwdRicSubscriptionRequestDelete] at h
      split at h
      · cases h
      · simp only [bind_eq_next, pure_eq, next_inj] at h
        obtain ⟨r, hr, -⟩ := h
        exact ⟨r, hr⟩
  · rintro ⟨hpending, hsends⟩
    obtain ⟨⟨fd, ric'⟩, hr⟩ := (sendRequest_iff ric .subscriptionDeleteRequest).mpr hsends
    have hnone : OrdAssoc.findIf (eqPendingEventRic ⟨.subscriptionDeleteRequest, id⟩)
        ric.pending.right = none := by
      refine OrdAssoc.findIf_eq_none.mpr fun e he => ?_
      rw [Bool.eq_false_iff, ne_eq, eqPendingEventRic_iff]
      exact (hpending e he).symm
    exact ⟨fd, ric', by simp [NearRic.fwdRicSubscriptionRequestDelete, hnone, hr]⟩

/-- An id that fits is replaced by the counter of the RIC. -/
theorem storeLow16_of_fits {id : RicGenId} (h : IdFits id) (y : UInt16) :
    storeLow16 id.ricReqId y = y.toUInt32 := by
  have hmod : id.ricReqId % 65536 = id.ricReqId := by
    rw [IdFits, UInt32.lt_iff_toNat_lt] at h
    apply UInt32.toNat.inj
    simpa using Nat.mod_eq_of_lt h
  simp [storeLow16, hmod]

theorem fwdControl_iff {ric : NearRic} {node : GlobalE2NodeId} {id newId : RicGenId}
    {timer : Option Fd} (hfits : IdFits id) :
    (∃ fd ric', ric.fwdRicControlRequest node id timer = next (newId, fd, ric')) ↔
      newId = { id with ricReqId := ric.reqId.toUInt16.toUInt32 } ∧ Sends ric node timer := by
  simp only [NearRic.fwdRicControlRequest, bind_eq_next, pure_eq, next_inj,
    storeLow16_of_fits hfits]
  constructor
  · rintro ⟨fd, ric', r, hr, heq⟩
    obtain ⟨-, hsends⟩ := (sendRequest_iff _ .controlRequest).mp ⟨r, hr⟩
    cases heq
    exact ⟨rfl, hsends⟩
  · rintro ⟨rfl, hsends⟩
    have hnew : IdFits { id with ricReqId := ric.reqId.toUInt16.toUInt32 } := by
      rw [idFits_iff, UInt16.toNat_toUInt32]
      exact toNat_le_65535 _
    obtain ⟨r, hr⟩ :=
      (sendRequest_iff { ric with reqId := ric.reqId + 1 } .controlRequest).mpr ⟨hnew, hsends⟩
    exact ⟨_, _, r, hr, rfl⟩

/-- When iApp and RIC forward a subscription. -/
theorem forward_subscription_iff {iapp : E42Iapp} {ric : NearRic} {timer : Option Fd}
    {m : E42RicSubscriptionRequest} {node : GlobalE2NodeId} {fwd : RicMsg} :
    forwardRequest iapp ric timer (.e42SubscriptionRequest m) = next (some (node, fwd)) ↔
      HasXapp iapp m.xappId ∧ (IdFits m.sr.ricId ∧ Sends ric m.id timer) ∧ m.id = node ∧
        .subscriptionRequest m.sr = fwd := by
  rw [forwardRequest, HasXapp, HasPort, ← fwdSubscription_iff]
  split
  · next h => simp_all
  · next h =>
    simp only [Bool.not_eq_true, Bool.not_eq_false', decide_eq_true_eq] at h
    simp only [bind_eq_next, pure_eq, h, true_and]
    constructor
    · rintro ⟨info, hinfo, hsent⟩
      split at hsent
      · cases hsent
      · next hport =>
        simp only [bind_eq_next, next_inj, Option.some.injEq, Prod.mk.injEq] at hsent
        obtain ⟨r, hr, hnode, hfwd⟩ := hsent
        exact ⟨⟨info, hinfo, by simpa using hport⟩, ⟨r, hr⟩, hnode, hfwd⟩
    · rintro ⟨⟨info, hinfo, hport⟩, ⟨r, hr⟩, rfl, rfl⟩
      exact ⟨info, hinfo, by simp [hport, hr]⟩

/-- When iApp and RIC forward a deletion, for the subscription it stands for. -/
theorem forward_delete_iff {iapp : E42Iapp} {ric : NearRic} {timer : Option Fd}
    {m : E42RicSubscriptionDeleteRequest} {node : GlobalE2NodeId} {fwd : RicMsg} :
    forwardRequest iapp ric timer (.e42SubscriptionDeleteRequest m) = next (some (node, fwd)) ↔
      ∃ n ricId, iapp.map.findRicReqMapRicId ⟨m.sdr.ricId, m.xappId⟩ = next n ∧
        n.ricReqType = .subscription ∧ ricId = { m.sdr.ricId with ricReqId := n.ricId.ricReqId } ∧
        ((∀ e ∈ ric.pending.right, e.1 ≠ ⟨.subscriptionDeleteRequest, ricId⟩) ∧ IdFits ricId ∧
          Sends ric n.e2NodeId timer) ∧
        n.e2NodeId = node ∧ .subscriptionDeleteRequest ⟨ricId⟩ = fwd := by
  simp only [forwardRequest, ← fwdDelete_iff, bind_eq_next, assert_eq_next, beq_iff_eq, pure_eq,
    next_inj]
  constructor
  · rintro ⟨n, hn, ⟨⟩, htype, ⟨fd, ric'⟩, hfwd, hsent⟩
    cases fd with
    | none => cases hsent
    | some fd =>
      simp only [Option.map_some, Option.some.injEq, Prod.mk.injEq] at hsent
      exact ⟨n, _, hn, htype, rfl, ⟨fd, ric', hfwd⟩, hsent⟩
  · rintro ⟨n, ricId, hn, htype, rfl, ⟨fd, ric', hfwd⟩, rfl, rfl⟩
    exact ⟨n, hn, ⟨⟩, htype, ⟨some fd, ric'⟩, hfwd, rfl⟩

/-- When iApp and RIC forward a control request, under the number of the RIC. -/
theorem forward_control_iff {iapp : E42Iapp} {ric : NearRic} {timer : Option Fd}
    {m : E42RicControlRequest} {node : GlobalE2NodeId} {fwd : RicMsg}
    (hfits : IdFits m.ctrlReq.ricId) :
    forwardRequest iapp ric timer (.e42ControlRequest m) = next (some (node, fwd)) ↔
      m.xappId.toUInt32 ≤ iapp.xappId ∧ Listed iapp m.id ∧ Sends ric m.id timer ∧ m.id = node ∧
        .controlRequest { m.ctrlReq with
          ricId := { m.ctrlReq.ricId with ricReqId := ric.reqId.toUInt16.toUInt32 } } = fwd := by
  simp only [forwardRequest, bind_eq_next, assert_eq_next, decide_eq_true_eq, pure_eq, next_inj,
    Option.some.injEq, Prod.mk.injEq]
  constructor
  · rintro ⟨⟨⟩, hxapp, valid, hvalid, ⟨⟩, rfl, ⟨ricId, fd, ric'⟩, hfwd, hid, rfl⟩
    obtain ⟨rfl, hsends⟩ := (fwdControl_iff hfits).mp ⟨fd, ric', hfwd⟩
    exact ⟨hxapp, validGlobalE2Node_iff.mp hvalid, hsends, hid, rfl⟩
  · rintro ⟨hxapp, hlisted, hsends, rfl, rfl⟩
    obtain ⟨fd, ric', hfwd⟩ := (fwdControl_iff hfits).mpr ⟨rfl, hsends⟩
    exact ⟨⟨⟩, hxapp, true, validGlobalE2Node_iff.mpr hlisted, ⟨⟩, rfl, ⟨_, fd, ric'⟩, hfwd, rfl,
      rfl⟩

/-! ## Where a request arrives -/

theorem RicSubsequentAction.canon_canon (a : RicSubsequentAction) : a.canon.canon = a.canon := by
  simp [canon, Option.filter_filter]

theorem RicAction.canon_canon (a : RicAction) : a.canon.canon = a.canon := by
  obtain ⟨id, type, definition, _ | s⟩ := a
  · rfl
  · simp [canon, s.canon_canon]

/-- What has arrived once arrives as it is. -/
theorem RicSubscriptionRequest.canon_canon (sr : RicSubscriptionRequest) :
    sr.canon.canon = sr.canon := by
  simp [canon, RicAction.canon_canon]

theorem RicSubsequentAction.Encodable.canon {a : RicSubsequentAction} (h : a.Encodable) :
    a.canon.Encodable := by
  intro t ht
  exact h t (Option.filter_eq_some_iff.mp ht).1

theorem RicAction.Encodable.canon {a : RicAction} (h : a.Encodable) : a.canon.Encodable := by
  refine ⟨h.1, fun s hs => ?_⟩
  obtain ⟨s', hs', rfl⟩ := Option.map_eq_some_iff.mp hs
  exact (h.2 s' hs').canon

theorem RicSubscriptionRequest.Encodable.canon {sr : RicSubscriptionRequest} (h : sr.Encodable) :
    sr.canon.Encodable := by
  obtain ⟨hfits, htrigger, hlen, hact⟩ := h
  refine ⟨hfits, htrigger, by simpa [RicSubscriptionRequest.canon] using hlen, fun a ha => ?_⟩
  obtain ⟨a', ha', rfl⟩ := List.mem_map.mp ha
  exact (hact a' ha').canon

/-- An id keeps fitting under a number of the RIC. -/
theorem ricGenIdFits_renumber {id : RicGenId} (h : RicGenIdFits id) (n : UInt16) :
    RicGenIdFits { id with ricReqId := n.toUInt32 } := by
  refine ⟨?_, h.2⟩
  rw [UInt16.toNat_toUInt32]
  exact toNat_le_65535 n

/-- A request that fits keeps its number in sixteen bits. -/
theorem idFits_of_ricGenIdFits {id : RicGenId} (h : RicGenIdFits id) : IdFits id :=
  idFits_iff.mpr h.1

/-- What an xApp's request has become at the node it reaches, and when it
reaches one.  The node is what the id of the request stands for, or the node of
the subscription that it deletes. -/
def Reaches (iapp : E42Iapp) (ric : NearRic) (timer : Option Fd) (node : GlobalE2NodeId)
    (received : RicMsg) : RicMsg → Prop
  | .e42SubscriptionRequest m =>
    isSetupNode m.id.type = true ∧
      Carries encGlobalE2NodeId GlobalE2NodeIdIe.satisfies decGlobalE2NodeId m.id node ∧
      m.sr.Encodable ∧ HasXapp iapp m.xappId ∧ Sends ric node timer ∧
      received = .subscriptionRequest m.sr.canon
  | .e42SubscriptionDeleteRequest m =>
    RicGenIdFits m.sdr.ricId ∧ ∃ n ricId,
      iapp.map.findRicReqMapRicId ⟨m.sdr.ricId, m.xappId⟩ = next n ∧
        n.ricReqType = .subscription ∧ ricId = { m.sdr.ricId with ricReqId := n.ricId.ricReqId } ∧
        RicGenIdFits ricId ∧
        (∀ e ∈ ric.pending.right, e.1 ≠ ⟨.subscriptionDeleteRequest, ricId⟩) ∧
        Sends ric n.e2NodeId timer ∧ n.e2NodeId = node ∧
        received = .subscriptionDeleteRequest ⟨ricId⟩
  | .e42ControlRequest m =>
    isE42Node m.id.type = true ∧
      Carries encGlobalE2NodeId GlobalE2NodeIdIe.satisfies decGlobalE2NodeId m.id node ∧
      m.ctrlReq.Sendable ∧ m.xappId.toUInt32 ≤ iapp.xappId ∧ Listed iapp node ∧
      Sends ric node timer ∧
      received = .controlRequest { m.ctrlReq with
        ricId := { m.ctrlReq.ricId with ricReqId := ric.reqId.toUInt16.toUInt32 } }
  | _ => False

/-- The whole path of a subscription, from the xApp to the node. -/
theorem requestPath_subscription {Buf : Type} {rt : Asn1c RicPdu Buf}
    (hrt : rt.Exact RicPdu.satisfies RicPdu.opened) {iapp : E42Iapp} {ric : NearRic}
    {timer : Option Fd} {m : E42RicSubscriptionRequest} {received : RicMsg}
    {node : GlobalE2NodeId} :
    requestPath rt iapp ric timer (.e42SubscriptionRequest m) = next (some (node, received)) ↔
      Reaches iapp ric timer node received (.e42SubscriptionRequest m) ∧
        FitsBuffer rt (.e42SubscriptionRequest m) ∧ FitsBuffer rt received := by
  rw [requestPath, relay_iff hrt, Reaches]
  constructor
  · rintro ⟨arrived, fwd, ⟨harrives, hfits⟩, hfwd, hreceives, hfitsFwd⟩
    obtain ⟨htype, hsr, id, hid, rfl⟩ := e42SubscriptionRequest_arrives.mp harrives
    obtain ⟨hxapp, ⟨-, hsends⟩, rfl, rfl⟩ := forward_subscription_iff.mp hfwd
    obtain ⟨-, rfl⟩ := subscriptionRequest_arrives.mp hreceives
    rw [RicSubscriptionRequest.canon_canon]
    exact ⟨⟨htype, hid, hsr, hxapp, hsends, rfl⟩, hfits, hfitsFwd⟩
  · rintro ⟨⟨htype, hid, hsr, hxapp, hsends, rfl⟩, hfits, hfitsFwd⟩
    have harrives := e42SubscriptionRequest_arrives.mpr ⟨htype, hsr, node, hid, rfl⟩
    have hfwd := (forward_subscription_iff (m := ⟨m.xappId, node, m.sr.canon⟩)).mpr
      ⟨hxapp, ⟨idFits_of_ricGenIdFits hsr.1, hsends⟩, rfl, rfl⟩
    have hreceives := subscriptionRequest_arrives.mpr ⟨hsr.canon, rfl⟩
    rw [RicSubscriptionRequest.canon_canon] at hreceives
    exact ⟨_, _, ⟨harrives, hfits⟩, hfwd, hreceives, hfitsFwd⟩

/-- The whole path of a deletion, from the xApp to the node. -/
theorem requestPath_delete {Buf : Type} {rt : Asn1c RicPdu Buf}
    (hrt : rt.Exact RicPdu.satisfies RicPdu.opened) {iapp : E42Iapp} {ric : NearRic}
    {timer : Option Fd} {m : E42RicSubscriptionDeleteRequest} {received : RicMsg}
    {node : GlobalE2NodeId} :
    requestPath rt iapp ric timer (.e42SubscriptionDeleteRequest m) =
        next (some (node, received)) ↔
      Reaches iapp ric timer node received (.e42SubscriptionDeleteRequest m) ∧
        FitsBuffer rt (.e42SubscriptionDeleteRequest m) ∧ FitsBuffer rt received := by
  rw [requestPath, relay_iff hrt, Reaches]
  constructor
  · rintro ⟨arrived, fwd, ⟨harrives, hfits⟩, hfwd, hreceives, hfitsFwd⟩
    obtain ⟨hid, rfl⟩ := e42SubscriptionDeleteRequest_arrives.mp harrives
    obtain ⟨n, ricId, hn, htype, hnew, ⟨hpending, -, hsends⟩, hnode, rfl⟩ :=
      forward_delete_iff.mp hfwd
    obtain ⟨hnewFits, rfl⟩ := subscriptionDeleteRequest_arrives.mp hreceives
    exact ⟨⟨hid, n, ricId, hn, htype, hnew, hnewFits, hpending, hsends, hnode, rfl⟩, hfits,
      hfitsFwd⟩
  · rintro ⟨⟨hid, n, ricId, hn, htype, hnew, hnewFits, hpending, hsends, hnode, rfl⟩, hfits,
      hfitsFwd⟩
    have harrives := e42SubscriptionDeleteRequest_arrives.mpr ⟨hid, rfl⟩
    have hfwd := forward_delete_iff.mpr ⟨n, ricId, hn, htype, hnew,
      ⟨hpending, idFits_of_ricGenIdFits hnewFits, hsends⟩, hnode, rfl⟩
    have hreceives := subscriptionDeleteRequest_arrives.mpr ⟨hnewFits, rfl⟩
    exact ⟨_, _, ⟨harrives, hfits⟩, hfwd, hreceives, hfitsFwd⟩

/-- The whole path of a control request, from the xApp to the node. -/
theorem requestPath_control {Buf : Type} {rt : Asn1c RicPdu Buf}
    (hrt : rt.Exact RicPdu.satisfies RicPdu.opened) {iapp : E42Iapp} {ric : NearRic}
    {timer : Option Fd} {m : E42RicControlRequest} {received : RicMsg} {node : GlobalE2NodeId} :
    requestPath rt iapp ric timer (.e42ControlRequest m) = next (some (node, received)) ↔
      Reaches iapp ric timer node received (.e42ControlRequest m) ∧
        FitsBuffer rt (.e42ControlRequest m) ∧ FitsBuffer rt received := by
  rw [requestPath, relay_iff hrt, Reaches]
  constructor
  · rintro ⟨arrived, fwd, ⟨harrives, hfits⟩, hfwd, hreceives, hfitsFwd⟩
    obtain ⟨htype, hctrl, id, hid, rfl⟩ := e42ControlRequest_arrives.mp harrives
    obtain ⟨hxapp, hnode, hsends, rfl, rfl⟩ :=
      (forward_control_iff (m := ⟨m.xappId, id, m.ctrlReq⟩)
        (idFits_of_ricGenIdFits hctrl.1)).mp hfwd
    obtain ⟨-, rfl⟩ := controlRequest_arrives.mp hreceives
    exact ⟨⟨htype, hid, hctrl, hxapp, hnode, hsends, rfl⟩, hfits, hfitsFwd⟩
  · rintro ⟨⟨htype, hid, hctrl, hxapp, hnode, hsends, rfl⟩, hfits, hfitsFwd⟩
    have harrives := e42ControlRequest_arrives.mpr ⟨htype, hctrl, node, hid, rfl⟩
    have hfwd := (forward_control_iff (m := ⟨m.xappId, node, m.ctrlReq⟩)
      (idFits_of_ricGenIdFits hctrl.1)).mpr ⟨hxapp, hnode, hsends, rfl, rfl⟩
    -- the counter is cut to sixteen bits, so the new number fits
    have hnew : RicControlRequest.Sendable { m.ctrlReq with
        ricId := { m.ctrlReq.ricId with ricReqId := ric.reqId.toUInt16.toUInt32 } } :=
      ⟨ricGenIdFits_renumber hctrl.1 _, hctrl.2⟩
    have hreceives := controlRequest_arrives.mpr ⟨hnew, rfl⟩
    exact ⟨_, _, ⟨harrives, hfits⟩, hfwd, hreceives, hfitsFwd⟩

/-- Nothing else is forwarded: what arrives is of the kind that was sent. -/
theorem forwardRequest_other {iapp : E42Iapp} {ric : NearRic} {timer : Option Fd}
    {msg arrived : RicMsg} {r : GlobalE2NodeId × RicMsg} (harrives : msg.Arrives arrived)
    (hfwd : forwardRequest iapp ric timer arrived = next (some r)) :
    (∃ m, msg = .e42SubscriptionRequest m) ∨ (∃ m, msg = .e42SubscriptionDeleteRequest m) ∨
      ∃ m, msg = .e42ControlRequest m := by
  obtain ⟨pdu, -, -, hdec⟩ := harrives
  cases msg
  case e42SubscriptionRequest m => exact .inl ⟨m, rfl⟩
  case e42SubscriptionDeleteRequest m => exact .inr (.inl ⟨m, rfl⟩)
  case e42ControlRequest m => exact .inr (.inr ⟨m, rfl⟩)
  all_goals
    simp only [decoderOf, bind_eq_next, next_inj] at hdec
    obtain ⟨_, -, rfl⟩ := hdec
    simp [forwardRequest] at hfwd

/-- **Where the requests of the xApps arrive.**  A subscription loses a time to
wait of 0, a control request gets a number of the RIC, and a deletion the number
of the subscription that it deletes; the rest arrives as it was sent. -/
theorem requests_reach_node {Buf : Type} (rt : Asn1c RicPdu Buf)
    (hrt : rt.Exact RicPdu.satisfies RicPdu.opened) (iapp : E42Iapp) (ric : NearRic)
    (timer : Option Fd) (msg received : RicMsg) (node : GlobalE2NodeId) :
    requestPath rt iapp ric timer msg = next (some (node, received)) ↔
      Reaches iapp ric timer node received msg ∧ FitsBuffer rt msg ∧ FitsBuffer rt received := by
  constructor
  · intro h
    obtain ⟨arrived, fwd, ⟨harrives, -⟩, hfwd, -⟩ := (relay_iff hrt).mp h
    obtain ⟨m, rfl⟩ | ⟨m, rfl⟩ | ⟨m, rfl⟩ := forwardRequest_other harrives hfwd
    · exact (requestPath_subscription hrt).mp h
    · exact (requestPath_delete hrt).mp h
    · exact (requestPath_control hrt).mp h
  · rintro ⟨hreaches, hfits⟩
    cases msg
    case e42SubscriptionRequest m => exact (requestPath_subscription hrt).mpr ⟨hreaches, hfits⟩
    case e42SubscriptionDeleteRequest m => exact (requestPath_delete hrt).mpr ⟨hreaches, hfits⟩
    case e42ControlRequest m => exact (requestPath_control hrt).mpr ⟨hreaches, hfits⟩
    all_goals exact hreaches.elim

/-- An iApp with one xApp. -/
def pathIapp : E42Iapp where
  e2Nodes := [cuCpNode.node]
  xapps := ⟨[(7, ⟨36422, 1, 2⟩)], [(⟨36422, 1, 2⟩, 7)]⟩
  xappId := 8
  map := .empty
  registry := ⟨[], 0⟩
  forwardMutex := false

/-- A RIC with the nodes of that iApp. -/
def pathRic : NearRic := { NearRic.init with e2Nodes := pathIapp.e2Nodes.map (·.id) }

theorem requests_reach_node_cuCp :
    requestPath ricRuntime pathIapp pathRic (some 9)
        (.e42SubscriptionRequest ⟨7, cuCpSeen, reportRequest⟩) =
      next (some (cuCpSeen.canon, .subscriptionRequest reportRequest)) :=
  (requests_reach_node ricRuntime ricRuntime_exact pathIapp pathRic (some 9) _ _ _).mpr
    ⟨⟨by decide, ⟨_, rfl, by decide, by decide⟩, by
      simp [reportRequest, RicSubscriptionRequest.Encodable, RicAction.Encodable,
        RicSubsequentAction.Encodable, RicGenIdFits], ⟨by decide, ⟨36422, 1, 2⟩, rfl, by decide⟩,
      ⟨⟨9, rfl, by decide, by simp [pathRic, NearRic.init, Bimap.empty]⟩, by decide⟩, rfl⟩,
      fitsBuffer_ricRuntime _, fitsBuffer_ricRuntime _⟩

end FlexRic.Codec
