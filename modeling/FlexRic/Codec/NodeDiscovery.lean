import FlexRic.Codec.ConnectedNodes
import FlexRic.Codec.SubscriptionRoundTrip

/-!
# FlexRic.Codec.NodeDiscovery

How an xApp finds the E2 nodes, and how its requests find them back.

* `discover`: the registry of iApp in the E42 setup response.
* `carries_nodeConnected`: what the xApp sees of a node.
* `hops_iff`: an id that was registered, seen and used as an address is the
  registered one again.
* `nodes_discovered`: when all of this works.

The type of a gNB is not on the wire.  The xApp takes it from the components:
NG and F1 stand for a CU, with E1 for a CU-CP; other lists of two or three
abort.
-/

namespace FlexRic.Codec

open Outcome

attribute [local simp] RicIe.id IntegerIe.id OctetsIe.id MessageType.ies MessageType.procedure
  RicIe.satisfies IntegerIe.max RicIe.opened ricIdIes RicPdu.check

theorem id_of_encRanFunctionItem {f : RanFunction} {ie : Ie RanFunctionItem}
    (h : encRanFunctionItem f = next ie) : ie.id = .ranFunctionItem := by
  simp only [encRanFunctionItem, bind_eq_next, pure_eq, next_inj] at h
  obtain ⟨_, -, _, -, rfl⟩ := h
  rfl

theorem id_of_encComponent {c : NodeComponentConfigAdd} {ie : Ie ConfigAdditionItem}
    (h : e2apEncNodeComponentConfAddition c = next ie) :
    ie.id = .e2NodeComponentConfigAdditionItem := by
  simp only [e2apEncNodeComponentConfAddition, bind_eq_next, pure_eq, next_inj] at h
  obtain ⟨_, -, _, -, _, -, rfl⟩ := h
  rfl

theorem isE42Node_of_onWire {id : GlobalE2NodeId} (h : OnWire id) : isE42Node id.type = true := by
  rcases h.1 with h | h | h | h <;> rw [h] <;> rfl

/-- The element of a node, as the decoder reads it. -/
theorem decNodeConnected_iff {v : GlobalE2NodeIdIe} {cca : List (Ie ConfigAdditionItem)}
    {rf : List (Ie RanFunctionItem)} {seen : E2NodeConnected} :
    decNodeConnected ((ricIe (.e2NodeConnectedList
        [⟨.globalE2NodeId, .reject, some (.globalE2NodeId v)⟩,
          ⟨.e2NodeComponentConfigAddition, .reject, some (.configAdditionList cca)⟩,
          ⟨.ranFunctionsAdded, .reject, some (.ranFunctionsList rf)⟩])).mapValue RicIe.opened) =
        next seen ↔
      ∃ id, decGlobalE2NodeId v = next id ∧
        ((0 < cca.length ∧ cca.length < 256) ∧
          walk e2apDecNodeComponentConfAddition
            (cca.map (Ie.opened .e2NodeComponentConfigAdditionItem)) = next seen.cca) ∧
        inferNodeId id seen.cca = next seen.id ∧
        walk decRanFunctionItem (rf.map (Ie.opened .ranFunctionItem)) = next seen.ackRf := by
  obtain ⟨sid, scca, sackRf⟩ := seen
  rw [mapValue_ricIe]
  simp [decNodeConnected, readIe_ricIe, NodeConnectedValue.opened, Ie.mapValue, Ie.read_mk,
    decConfigAdditionList, decRanFunctionsList]

/-- **What the xApp sees of a node**: its components and functions as they are,
and its id as it is on the wire, with the type its components stand for. -/
theorem carries_nodeConnected (n : ConnectedNode) {seen : E2NodeConnected} :
    Carries encNodeConnected (MessageType.takes .e42SetupResponse)
        (fun ie => decNodeConnected (ie.mapValue RicIe.opened)) n.node seen ↔
      n.node.cca.length < 256 ∧
        (∃ id, Carries encGlobalE2NodeId GlobalE2NodeIdIe.satisfies decGlobalE2NodeId n.node.id id ∧
          inferNodeId id n.node.cca = next seen.id) ∧
        seen.cca = n.node.cca ∧ seen.ackRf = n.node.ackRf := by
  have htype := isE42Node_of_onWire n.onWire
  have hlenCca : 0 < n.node.cca.length := n.lenCca
  have hlenRf : 0 < n.node.ackRf.length := n.lenRf
  obtain ⟨hrf256, hrf⟩ := n.functions
  obtain ⟨rf, hrfenc, hrfsat, hrfdec⟩ := (carries_list 1 256
    (fun _ _ => id_of_encRanFunctionItem)).mpr ⟨by omega, hrf⟩
  have hcca (hlen : n.node.cca.length < 256) := (carries_list 1 1024
    (fun _ _ => id_of_encComponent)).mpr ⟨by omega, n.components⟩
  constructor
  · rintro ⟨ie, henc, hsat, hdec⟩
    simp only [encNodeConnected, bind_eq_next, assert_eq_next, pure_eq, next_inj] at henc
    obtain ⟨-, -, v, hv, -, -, cca, hccaenc, rf', hrfenc', rfl⟩ := henc
    obtain rfl := next_inj.mp (hrfenc.symm.trans hrfenc')
    obtain ⟨id, hid, ⟨⟨-, hlen⟩, hccadec⟩, hinfer, hrfdec'⟩ := decNodeConnected_iff.mp hdec
    rw [walk_length hccaenc] at hlen
    obtain ⟨cca', hccaenc', -, hccadec'⟩ := hcca hlen
    obtain rfl := next_inj.mp (hccaenc.symm.trans hccaenc')
    have hscca := next_inj.mp (hccadec'.symm.trans hccadec)
    have hsrf := next_inj.mp (hrfdec.symm.trans hrfdec')
    simp [isSequenceOf, Ie.satisfies, NodeConnectedValue.satisfies] at hsat
    exact ⟨hlen, ⟨id, ⟨v, hv, hsat.1, hid⟩, by rwa [hscca]⟩, hscca.symm, hsrf.symm⟩
  · rintro ⟨hlen, ⟨id, ⟨v, hv, hsat, hid⟩, hinfer⟩, hscca, hsrf⟩
    obtain ⟨cca, hccaenc, hccasat, hccadec⟩ := hcca hlen
    refine ⟨ricIe (.e2NodeConnectedList
      [⟨.globalE2NodeId, .reject, some (.globalE2NodeId v)⟩,
        ⟨.e2NodeComponentConfigAddition, .reject, some (.configAdditionList cca)⟩,
        ⟨.ranFunctionsAdded, .reject, some (.ranFunctionsList rf)⟩]), ?_, ?_, ?_⟩
    · simp only [encNodeConnected, bind_eq_next, assert_eq_next, pure_eq, next_inj]
      exact ⟨⟨⟩, htype, v, hv, ⟨⟩, decide_eq_true hlenCca, cca, hccaenc, rf, hrfenc, rfl⟩
    · simp [isSequenceOf, Ie.satisfies, NodeConnectedValue.satisfies] at hccasat hrfsat ⊢
      exact ⟨hsat, hccasat, hrfsat⟩
    · refine decNodeConnected_iff.mpr ⟨id, hid, ⟨?_, hscca ▸ hccadec⟩, hscca ▸ hinfer,
        hsrf ▸ hrfdec⟩
      rw [walk_length hccaenc]
      exact ⟨hlenCca, hlen⟩

/-- **What the xApp sees of the connected nodes**: of each what it sees of that
node. -/
theorem carries_e42SetupResponse {sr seen : E42SetupResponse} :
    Carries e2apEncE42SetupResponseAsnPdu RicPdu.satisfies
        (fun pdu => e2apDecE42SetupResponse pdu.opened) sr seen ↔
      (0 < sr.nodes.length ∧ sr.nodes.length < 65535) ∧ ∃ nodes,
        List.Forall₂ (Carries encNodeConnected (MessageType.takes .e42SetupResponse)
          fun ie => decNodeConnected (ie.mapValue RicIe.opened)) sr.nodes nodes ∧
        seen = ⟨sr.xappId, nodes.take (nodes.length % 256)⟩ := by
  obtain ⟨xappId, nodes⟩ := sr
  obtain ⟨seenId, seenNodes⟩ := seen
  have := toNat_le_65535 xappId
  simp only [← carries_walk]
  simp [Carries, e2apEncE42SetupResponseAsnPdu, RicPdu.satisfies_iff, RicPdu.opened,
    e2apDecE42SetupResponse, decXappId, walk_map, *]
  constructor
  · rintro ⟨ies, ⟨hpos, henc⟩, ⟨hlen, hsat⟩, l, hdec, rfl, rfl⟩
    rw [walk_length henc] at hlen
    exact ⟨⟨hpos, by omega⟩, l, ⟨ies, henc, hsat, hdec⟩, rfl, rfl⟩
  · rintro ⟨⟨hpos, hlen⟩, l, ⟨ies, henc, hsat, hdec⟩, rfl, rfl⟩
    refine ⟨ies, ⟨hpos, henc⟩, ⟨?_, hsat⟩, l, hdec, rfl, rfl⟩
    rw [walk_length henc]
    omega

/-! ## Requests to a node that was seen -/

/-- What a control request needs to be sent. -/
def RicControlRequest.Sendable (ctrl : RicControlRequest) : Prop :=
  RicGenIdFits ctrl.ricId ∧ 0 < ctrl.hdr.length ∧ 0 < ctrl.msg.length ∧
    (∀ b ∈ ctrl.callProcessId, 0 < b.length) ∧ ctrl.ackReq ≠ some .nack

instance (ctrl : RicControlRequest) : Decidable ctrl.Sendable :=
  inferInstanceAs (Decidable (_ ∧ _ ∧ _ ∧ _ ∧ _))

/-- Such a control request is encoded. -/
theorem RicControlRequest.Sendable.encodes {ctrl : RicControlRequest} (h : ctrl.Sendable) :
    ∃ ies, encControlIes ctrl = next ies ∧ ies.length ≤ 4 ∧
      ∀ ie ∈ ies, MessageType.e42RicControlRequest.takes ie = true := by
  obtain ⟨ricId, callProcessId, hdr, msg, ackReq⟩ := ctrl
  obtain ⟨-, hhdr, hmsg, hcall, hack⟩ := h
  simp only [encControlIes, bind_eq_next, encOctets_eq_next, encOptOctets_eq_next, pure_eq,
    next_inj]
  refine ⟨_, ⟨_, ⟨hcall, rfl⟩, _, ⟨hhdr, rfl⟩, _, ⟨hmsg, rfl⟩, rfl⟩, ?_⟩
  have hcode (a : RicControlAckReq) (ha : a ≠ .nack) : inRange 1 a.code = true := by
    cases a <;> first | rfl | exact absurd rfl ha
  cases callProcessId <;> cases ackReq <;> simp_all [controlAckReqIes]

/-- **The node of an E42 control request is carried**, and of a type its encoder
takes. -/
theorem carries_e42ControlRequest {m m' : E42RicControlRequest} (hctrl : m.ctrlReq.Sendable) :
    Carries e2apEncE42ControlRequestAsnPdu RicPdu.satisfies
        (fun pdu => e2apDecE42ControlRequest pdu.opened) m m' ↔
      isE42Node m.id.type = true ∧ m.xappId = m'.xappId ∧
        Carries encGlobalE2NodeId GlobalE2NodeIdIe.satisfies decGlobalE2NodeId m.id m'.id ∧
        m.ctrlReq = m'.ctrlReq := by
  obtain ⟨ies, hies, hlen, htakes⟩ := hctrl.encodes
  have hback := control_back hies hctrl.1
  obtain ⟨hreq, hran⟩ := hctrl.1
  obtain ⟨xappId, id, ctrl⟩ := m
  obtain ⟨xappId', id', ctrl'⟩ := m'
  simp only at hies hback hreq hran
  have := toNat_le_65535 xappId
  have := toNat_le_65535 ctrl.ricId.ricInstId
  have hsize : ies.length ≤ 65531 := by omega
  have hsize' : ies.length + 1 + 1 + 1 < 65535 := by omega
  simp [Carries, e2apEncE42ControlRequestAsnPdu, RicPdu.satisfies_iff, RicPdu.opened, e42Ies,
    e2apDecE42ControlRequest, decXappId, decE42NodeId, readIe_ricIe, *]
  constructor
  · rintro ⟨v, ⟨htype, hv⟩, ⟨hsat, -⟩, hid, rfl, rfl⟩
    exact ⟨htype, rfl, ⟨v, hv, hsat, hid⟩, rfl⟩
  · rintro ⟨htype, rfl, ⟨v, hv, hsat, hid⟩, rfl⟩
    exact ⟨v, ⟨htype, hv⟩, ⟨hsat, htakes⟩, hid, rfl, rfl⟩

/-- Equal under `eq_global_e2_node_id` and under `cmp_global_e2_node_id`. -/
def SameNode (a b : GlobalE2NodeId) : Prop :=
  eqGlobalE2NodeId a b = true ∧ cmpGlobalE2NodeId a b = 0

/-- Ids on the wire are the same node exactly when they are one. -/
theorem sameNode_iff {a b : GlobalE2NodeId} (ha : OnWire a) (hb : OnWire b) :
    SameNode a b ↔ a = b := by
  have heq := eqNodeId_iff (a := ⟨a, ha⟩) (b := ⟨b, hb⟩)
  have hcmp := cmpNodeId_eq_zero (a := ⟨a, ha⟩) (b := ⟨b, hb⟩)
  rw [Subtype.mk.injEq] at heq hcmp
  rw [SameNode, ← and_self_iff (a := a = b)]
  exact and_congr heq hcmp

/-- The id in an E42 request to a node that was seen, as it arrives, is the one
the node is registered under. -/
def Addresses {Buf : Type} (rt : Asn1c RicPdu Buf) (xappId : UInt16) (sr : RicSubscriptionRequest)
    (ctrl : RicControlRequest) (registered seen : GlobalE2NodeId) : Prop :=
  (∃ m, transferRicMsg rt (.e42SubscriptionRequest ⟨xappId, seen, sr⟩) =
      next (.e42SubscriptionRequest m) ∧ SameNode m.id registered) ∧
    ∃ m, transferRicMsg rt (.e42ControlRequest ⟨xappId, seen, ctrl⟩) =
      next (.e42ControlRequest m) ∧ SameNode m.id registered

theorem onWire_of_carries {id id' : GlobalE2NodeId}
    (h : Carries encGlobalE2NodeId GlobalE2NodeIdIe.satisfies decGlobalE2NodeId id id') :
    OnWire id' := by
  obtain ⟨v, -, -, hdec⟩ := h
  exact onWire_of_decGlobalE2NodeId hdec

theorem isSetupNode_of_isE42Node {t : NgranNode} (h : isE42Node t = true) :
    isSetupNode t = true := by
  cases t <;> simp_all [isE42Node, isSetupNode]

/-- **A node that was seen is reached** exactly when the encoder of the control
requests takes its type and its id is carried to the registered one. -/
theorem addresses_iff {Buf : Type} {rt : Asn1c RicPdu Buf}
    (hrt : rt.Exact RicPdu.satisfies RicPdu.opened) {xappId : UInt16}
    {sr : RicSubscriptionRequest} {ctrl : RicControlRequest} (hsr : sr.Survives)
    (hctrl : ctrl.Sendable)
    (hsrFits : ∀ id, FitsBuffer rt (.e42SubscriptionRequest ⟨xappId, id, sr⟩))
    (hctrlFits : ∀ id, FitsBuffer rt (.e42ControlRequest ⟨xappId, id, ctrl⟩))
    {registered seen : GlobalE2NodeId} (hwire : OnWire registered) :
    Addresses rt xappId sr ctrl registered seen ↔ isE42Node seen.type = true ∧
      Carries encGlobalE2NodeId GlobalE2NodeIdIe.satisfies decGlobalE2NodeId seen registered := by
  have hsub (m : E42RicSubscriptionRequest) :
      transferRicMsg rt (.e42SubscriptionRequest ⟨xappId, seen, sr⟩) =
        next (.e42SubscriptionRequest m) ↔
      Carries e2apEncE42SubscriptionRequestAsnPdu RicPdu.satisfies
        (fun pdu => e2apDecE42SubscriptionRequest pdu.opened) ⟨xappId, seen, sr⟩ m := by
    rw [transfer_ricMsg hrt, and_iff_left (hsrFits seen)]
    simp [Carries, decoderOf, e2apEncRicMsg]
  have hctl (m : E42RicControlRequest) :
      transferRicMsg rt (.e42ControlRequest ⟨xappId, seen, ctrl⟩) = next (.e42ControlRequest m) ↔
      Carries e2apEncE42ControlRequestAsnPdu RicPdu.satisfies
        (fun pdu => e2apDecE42ControlRequest pdu.opened) ⟨xappId, seen, ctrl⟩ m := by
    rw [transfer_ricMsg hrt, and_iff_left (hctrlFits seen)]
    simp [Carries, decoderOf, e2apEncRicMsg]
  simp only [Addresses, hsub, hctl]
  constructor
  · rintro ⟨-, m, hm, hsame⟩
    obtain ⟨htype, -, hid, -⟩ := (carries_e42ControlRequest hctrl).mp hm
    obtain rfl := (sameNode_iff (onWire_of_carries hid) hwire).mp hsame
    exact ⟨htype, hid⟩
  · rintro ⟨htype, hid⟩
    have hsame := (sameNode_iff hwire hwire).mpr rfl
    refine ⟨⟨⟨xappId, registered, sr⟩, ?_, hsame⟩, ⟨xappId, registered, ctrl⟩, ?_, hsame⟩
    · exact carries_e42SubscriptionRequest_parts.mpr ⟨isSetupNode_of_isE42Node htype, rfl, hid,
        hsr.1, (carries_subscriptionDetails .e42RicSubscriptionRequest rfl).mpr hsr.2⟩
    · exact (carries_e42ControlRequest hctrl).mpr ⟨htype, rfl, hid, rfl⟩

/-! ## Through three hops -/

/-- The components a gNB may have: the encoder of the control requests does not
take a CU-CP, which three of them stand for, and two have to be those of a CU. -/
def TypeInferred (type : NgranNode) (cca : List NodeComponentConfigAdd) : Prop :=
  type = .gNB → cca.length ≠ 3 ∧
    (cca.length = 2 → cca.map (·.interfaceType) = [.ng, .f1])

theorem inferNodeType_iff {type : NgranNode} (htype : isE42Node type = true)
    {cca : List NodeComponentConfigAdd} :
    (∃ t, inferNodeType type cca = next t ∧ isE42Node t = true) ↔ TypeInferred type cca := by
  by_cases hgnb : type = .gNB
  · subst hgnb
    match cca with
    | [] => simp [inferNodeType, TypeInferred, htype]
    | [c] => simp [inferNodeType, TypeInferred, htype]
    | [c₀, c₁] => simp [inferNodeType, TypeInferred, isE42Node]
    | [c₀, c₁, c₂] => simp [inferNodeType, TypeInferred, isE42Node]
    | _ :: _ :: _ :: _ :: _ => simp [inferNodeType, TypeInferred, htype]
  · simp [inferNodeType, TypeInferred, hgnb, htype]

theorem inferNodeId_eq_next {id id' : GlobalE2NodeId} {cca : List NodeComponentConfigAdd} :
    inferNodeId id cca = next id' ↔ inferNodeType id.type cca = next id'.type ∧
      id'.plmn = id.plmn ∧ id'.nbId = id.nbId ∧ id'.cuDuId = id.cuDuId := by
  rw [inferNodeId]
  split
  · next type h =>
    simp only [next_inj, GlobalE2NodeId.ext_iff]
    simp [h, eq_comm]
  · next h => simp [h]
  · next h => simp [h]

/-- Only gNBs are seen under another type. -/
theorem inferNodeType_cases {type type' : NgranNode} {cca : List NodeComponentConfigAdd}
    (h : inferNodeType type cca = next type') :
    type' = type ∨ type = .gNB ∧ (type' = .gNBCU ∨ type' = .gNBCUCP) := by
  rw [inferNodeType] at h
  split at h
  · next htype =>
    split at h <;> simp at h
    · exact .inr ⟨htype, .inl h.2.symm⟩
    · exact .inr ⟨htype, .inr h.2.symm⟩
    · exact .inl (h.symm.trans htype.symm)
  · exact .inl (next_inj.mp h).symm

/-- What becomes of the type and the PLMN of an id, whether it survives or not. -/
theorem fields_of_carries {id id' : GlobalE2NodeId} (htype : isSetupNode id.type = true)
    (h : Carries encGlobalE2NodeId GlobalE2NodeIdIe.satisfies decGlobalE2NodeId id id') :
    id'.type = id.type.canon ∧ id'.plmn = plmnidToMccMnc (mccMncToPlmnid id.plmn) := by
  obtain ⟨v, henc, -, hdec⟩ := h
  obtain ⟨t, plmn, nbId, cuDuId, hhas⟩ := id
  by_cases henb : t = .eNB
  · subst henb
    obtain rfl := next_inj.mp henc
    simp only [decGlobalE2NodeId, bind_eq_next, pure_eq, next_inj] at hdec
    obtain ⟨_, -, rfl⟩ := hdec
    exact ⟨rfl, rfl⟩
  · rw [encGlobalE2NodeId, if_neg henb] at henc
    simp only [bind_eq_next, pure_eq, next_inj] at henc
    obtain ⟨b, -, rfl⟩ := henc
    have hsome : (t.isCuup || t.isDu) = true → ∃ c, cuDuId = some c :=
      fun hneeds => Option.isSome_iff_exists.mp (hhas hneeds)
    simp only [decGlobalE2NodeId, bind_eq_next] at hdec
    obtain ⟨_, -, hdec⟩ := hdec
    cases t <;> simp [isSetupNode] at htype henb
    case gNBCUUP | gNBDU =>
      obtain ⟨c, rfl⟩ := hsome rfl
      obtain rfl := next_inj.mp hdec
      exact ⟨rfl, rfl⟩
    all_goals
      obtain rfl := next_inj.mp hdec
      exact ⟨rfl, rfl⟩

/-- An id on the wire is in the form it has there. -/
theorem canon_of_onWire {id : GlobalE2NodeId} (h : OnWire id) : id.canon = id := by
  rw [eq_comm, ← (eqGlobalE2NodeId_onWire h).trans (and_iff_left ?_)]
  · exact eqGlobalE2NodeId_refl id
  · rcases h.1 with h | h | h | h <;> rw [h] <;> rfl

/-- A node that survives is carried back from what is seen of it. -/
theorem carries_seen {id seen : GlobalE2NodeId} (hwire : OnWire id) (hencodes : NodeIdEncodes id)
    (hsurv : id.Survives) {cca : List NodeComponentConfigAdd}
    (hinfer : inferNodeId id cca = next seen) :
    Carries encGlobalE2NodeId GlobalE2NodeIdIe.satisfies decGlobalE2NodeId seen id := by
  obtain ⟨hinfer, hplmn, hnb, hcuDu⟩ := inferNodeId_eq_next.mp hinfer
  have hcanon := canon_of_onWire hwire
  rcases inferNodeType_cases hinfer with htype | ⟨htype, hseen⟩
  · -- the type is the registered one, and so is the id
    obtain rfl : seen = id := GlobalE2NodeId.ext_iff.mpr ⟨htype, hplmn, hnb, hcuDu⟩
    have hcarries := (carries_globalE2NodeId (isSetupNode_of_isE42Node
      (isE42Node_of_onWire hwire))).mpr ⟨hencodes, hsurv⟩
    rwa [hcanon] at hcarries
  · -- a CU or a CU-CP, which is a gNB on the wire
    have hsetup : isSetupNode seen.type = true := by
      rcases hseen with h | h <;> simp [h, isSetupNode]
    have hencodes : NodeIdEncodes seen := fun _ =>
      ⟨hnb ▸ (hencodes (by simp [htype])).1, by rcases hseen with h | h <;> simp [h]⟩
    have hsurv : seen.Survives :=
      ⟨hplmn ▸ hsurv.1, by rcases hseen with h | h <;> simp [h]⟩
    have hcarries := (carries_globalE2NodeId hsetup).mpr ⟨hencodes, hsurv⟩
    have hback : seen.canon = id := by
      rw [← hcanon]
      have hnone := hwire.2
      rw [htype] at hnone
      rcases hseen with h | h <;>
        simp_all [GlobalE2NodeId.ext_iff, GlobalE2NodeId.canon, NgranNode.canon, NgranNode.isCuup,
          NgranNode.isDu]
    rwa [hback] at hcarries

/-- **The three hops of an id**: registered, seen, addressed. -/
theorem hops_iff (n : ConnectedNode) :
    (∃ id seen, Carries encGlobalE2NodeId GlobalE2NodeIdIe.satisfies decGlobalE2NodeId
        n.node.id id ∧ inferNodeId id n.node.cca = next seen ∧ isE42Node seen.type = true ∧
        Carries encGlobalE2NodeId GlobalE2NodeIdIe.satisfies decGlobalE2NodeId seen n.node.id) ↔
      PlmnFits n.node.id.plmn ∧ TypeInferred n.node.id.type n.node.cca := by
  have htype := isE42Node_of_onWire n.onWire
  have hcanon := canon_of_onWire n.onWire
  rw [← inferNodeType_iff htype, ← n.survives_iff]
  constructor
  · rintro ⟨id, seen, hid, hinfer, hseen, hback⟩
    obtain ⟨ht, hplmn⟩ := fields_of_carries (isSetupNode_of_isE42Node htype) hid
    obtain ⟨hinfer, hsplmn, -⟩ := inferNodeId_eq_next.mp hinfer
    obtain ⟨-, htwice⟩ := fields_of_carries (isSetupNode_of_isE42Node hseen) hback
    rw [ht, show n.node.id.type.canon = _ from congrArg GlobalE2NodeId.type hcanon] at hinfer
    rw [hsplmn, hplmn] at htwice
    exact ⟨n.survives_iff.mpr (plmnFits_of_twice htwice.symm), seen.type, hinfer, hseen⟩
  · rintro ⟨hsurv, t, hinfer, ht⟩
    have hid := (carries_globalE2NodeId (isSetupNode_of_isE42Node htype)).mpr ⟨n.encodes, hsurv⟩
    rw [hcanon] at hid
    have hseen : ∃ seen : GlobalE2NodeId, inferNodeId n.node.id n.node.cca = next seen ∧
        seen.type = t :=
      ⟨{ n.node.id with
          type := t
          hasCuDuId := fun hneeds =>
            n.node.id.hasCuDuId ((inferNodeType_needs hinfer).symm.trans hneeds) },
        inferNodeId_eq_next.mpr ⟨hinfer, rfl, rfl, rfl⟩, rfl⟩
    obtain ⟨seen, hseen, rfl⟩ := hseen
    exact ⟨n.node.id, seen, hid, hseen, ht, carries_seen n.onWire n.encodes hsurv hseen⟩

/-! ## Discovery -/

/-- The setup response of iApp, as the xApp gets it. -/
def discover {Buf : Type} (rt : Asn1c RicPdu Buf) (xappId : UInt16)
    (nodes : List E2NodeConnected) : Outcome RicMsg := do
  let arr ← generateE2NodeArr nodes
  transferRicMsg rt (.e42SetupResponse ⟨xappId, arr⟩)

/-- The xApp discovers the connected nodes: it sees each of them, and reaches
what it sees. -/
def Discovers {Buf : Type} (rt : Asn1c RicPdu Buf) (xappId : UInt16) (sr : RicSubscriptionRequest)
    (ctrl : RicControlRequest) (nodes : List ConnectedNode) : Prop :=
  ∃ seen, discover rt xappId (nodes.map ConnectedNode.node) = next (.e42SetupResponse seen) ∧
    List.Forall₂ (fun n s => Addresses rt xappId sr ctrl n.node.id s.id) nodes seen.nodes

/-- The sets of connected nodes an xApp can discover. -/
def Discoverable (nodes : List ConnectedNode) : Prop :=
  (0 < nodes.length ∧ nodes.length < 256) ∧ ∀ n ∈ nodes,
    n.node.cca.length < 256 ∧ PlmnFits n.node.id.plmn ∧ TypeInferred n.node.id.type n.node.cca

/-- **Node discovery**: an xApp discovers the connected nodes, and reaches each
of them with well formed requests, exactly when the nodes are discoverable and
the setup response fits the buffer. -/
theorem nodes_discovered {Buf : Type} (rt : Asn1c RicPdu Buf)
    (hrt : rt.Exact RicPdu.satisfies RicPdu.opened) (xappId : UInt16)
    (sr : RicSubscriptionRequest) (hsr : sr.Survives) (ctrl : RicControlRequest)
    (hctrl : ctrl.Sendable)
    (hsrFits : ∀ id, FitsBuffer rt (.e42SubscriptionRequest ⟨xappId, id, sr⟩))
    (hctrlFits : ∀ id, FitsBuffer rt (.e42ControlRequest ⟨xappId, id, ctrl⟩))
    (nodes : List ConnectedNode) :
    Discovers rt xappId sr ctrl nodes ↔ Discoverable nodes ∧
      FitsBuffer rt (.e42SetupResponse ⟨xappId, nodes.map ConnectedNode.node⟩) := by
  have hnode (n : ConnectedNode) :
      (∃ s, Carries encNodeConnected (MessageType.takes .e42SetupResponse)
          (fun ie => decNodeConnected (ie.mapValue RicIe.opened)) n.node s ∧
        Addresses rt xappId sr ctrl n.node.id s.id) ↔
      n.node.cca.length < 256 ∧ PlmnFits n.node.id.plmn ∧
        TypeInferred n.node.id.type n.node.cca := by
    simp only [carries_nodeConnected, addresses_iff hrt hsr hctrl hsrFits hctrlFits n.onWire]
    rw [← hops_iff]
    constructor
    · rintro ⟨s, ⟨hlen, ⟨id, hid, hinfer⟩, -, -⟩, htype, hback⟩
      exact ⟨hlen, id, s.id, hid, hinfer, htype, hback⟩
    · rintro ⟨hlen, id, seen, hid, hinfer, htype, hback⟩
      exact ⟨⟨seen, n.node.cca, n.node.ackRf⟩, ⟨hlen, ⟨id, hid, hinfer⟩, rfl, rfl⟩, htype, hback⟩
  have hresponse (seen : E42SetupResponse) :
      transferRicMsg rt (.e42SetupResponse ⟨xappId, nodes.map ConnectedNode.node⟩) =
          next (.e42SetupResponse seen) ↔
        Carries e2apEncE42SetupResponseAsnPdu RicPdu.satisfies
            (fun pdu => e2apDecE42SetupResponse pdu.opened)
            ⟨xappId, nodes.map ConnectedNode.node⟩ seen ∧
          FitsBuffer rt (.e42SetupResponse ⟨xappId, nodes.map ConnectedNode.node⟩) := by
    rw [transfer_ricMsg hrt]
    simp [Carries, decoderOf, e2apEncRicMsg]
  constructor
  · rintro ⟨seen, hdisc, hreach⟩
    obtain ⟨arr, harr, htrans⟩ := bind_eq_next.mp hdisc
    obtain ⟨hlen, -, rfl⟩ := generateE2NodeArr_eq_next.mp harr
    obtain ⟨hcarries, hfits⟩ := (hresponse seen).mp htrans
    obtain ⟨⟨hpos, -⟩, l, hl, rfl⟩ := carries_e42SetupResponse.mp hcarries
    rw [List.length_map] at hlen hpos
    have hl := List.forall₂_map_left_iff.mp hl
    have htake : l.take (l.length % 256) = l := by
      rw [← hl.length_eq, Nat.mod_eq_of_lt hlen, hl.length_eq, List.take_length]
    rw [htake] at hreach
    refine ⟨⟨⟨hpos, hlen⟩, fun n hn => (hnode n).mp ?_⟩, hfits⟩
    exact exists_forall₂_and.mp ⟨l, hl, hreach⟩ n hn
  · rintro ⟨⟨⟨hpos, hlen⟩, hnodes⟩, hfits⟩
    obtain ⟨l, hl, hreach⟩ := exists_forall₂_and.mpr fun n hn => (hnode n).mpr (hnodes n hn)
    have htake : l.take (l.length % 256) = l := by
      rw [← hl.length_eq, Nat.mod_eq_of_lt hlen, hl.length_eq, List.take_length]
    refine ⟨⟨xappId, l⟩, bind_eq_next.mpr ⟨nodes.map ConnectedNode.node,
      generateE2NodeArr_eq_next.mpr ⟨?_, fun n hn => ?_, rfl⟩,
      (hresponse _).mpr ⟨carries_e42SetupResponse.mpr ⟨?_, l, ?_, ?_⟩, hfits⟩⟩, hreach⟩
    · rwa [List.length_map]
    · obtain ⟨m, hm, rfl⟩ := List.mem_map.mp hn
      exact ⟨⟨m.lenCca, (hnodes m hm).1⟩, m.copied⟩
    · rw [List.length_map]
      omega
    · exact List.forall₂_map_left_iff.mpr hl
    · rw [htake]

/-! ### Worked nodes -/

/-- The components of a CU, and the one more of a CU-CP. -/
def cuComponents : List NodeComponentConfigAdd :=
  [⟨.ng, .ng [97], [1], [2]⟩, ⟨.f1, .f1 7, [3], [4]⟩]

def cuCpComponents : List NodeComponentConfigAdd := cuComponents ++ [⟨.e1, .e1 9, [5], [6]⟩]

/-- The setup request of a gNB, as it is sent. -/
def gnbSent (components : List (Ie ConfigAdditionItem)) : Procedure E2SetupRequestValue :=
  ⟨procedureCodeE2Setup, .reject, some (setupRequestIes 1
    (.gNB ⟨[5, 245, 16], ⟨[0, 0, 224, 0], 4⟩, none, none⟩)
    [⟨.ranFunctionItem, .reject, some ⟨147, [42], 0, [49, 46, 51]⟩⟩] components)⟩

/-- The setup request of a gNB, as it arrives. -/
def gnbRequestOf (components : List NodeComponentConfigAdd) : E2SetupRequest where
  transId := 1
  id := ⟨.gNB, ⟨505, 1, 2⟩, ⟨3584, 4⟩, none, NgranNode.gNB_needs_none⟩
  ranFuncItem := [⟨[42], 147, 0, [49, 46, 51]⟩]
  compConfAdd := components

/-- A CU, registered as a gNB. -/
def cuNode : ConnectedNode where
  sent := gnbSent
    [⟨.e2NodeComponentConfigAdditionItem, .reject, some ⟨0, .ng [97], [1], [2]⟩⟩,
      ⟨.e2NodeComponentConfigAdditionItem, .reject, some ⟨3, .f1 7, [3], [4]⟩⟩]
  request := gnbRequestOf cuComponents
  satisfies := by decide
  arrives := by decide
  lenRf := by decide
  lenCca := by decide
  copied := by decide

/-- A CU-CP, registered as a gNB. -/
def cuCpNode : ConnectedNode where
  sent := gnbSent
    [⟨.e2NodeComponentConfigAdditionItem, .reject, some ⟨0, .ng [97], [1], [2]⟩⟩,
      ⟨.e2NodeComponentConfigAdditionItem, .reject, some ⟨3, .f1 7, [3], [4]⟩⟩,
      ⟨.e2NodeComponentConfigAdditionItem, .reject, some ⟨2, .e1 9, [5], [6]⟩⟩]
  request := gnbRequestOf cuCpComponents
  satisfies := by decide
  arrives := by decide
  lenRf := by decide
  lenCca := by decide
  copied := by decide

/-- A control request without options. -/
def plainControl : RicControlRequest := ⟨⟨1022, 0, 147⟩, none, [1], [2], none⟩

theorem cuNode_discoverable : Discoverable [cuNode] := by
  refine ⟨by decide, fun n hn => ?_⟩
  obtain rfl := List.mem_singleton.mp hn
  exact ⟨by decide, by decide, fun _ => ⟨by decide, fun _ => rfl⟩⟩

theorem nodes_discovered_cu : Discovers ricRuntime 7 reportRequest plainControl [cuNode] :=
  (nodes_discovered ricRuntime ricRuntime_exact 7 reportRequest reportRequest_survives plainControl
    (by decide) (fun _ => fitsBuffer_ricRuntime _) (fun _ => fitsBuffer_ricRuntime _)
    [cuNode]).mpr ⟨cuNode_discoverable, fitsBuffer_ricRuntime _⟩

/-- The id the xApp sees of `cuCpNode`. -/
def cuCpSeen : GlobalE2NodeId := ⟨.gNBCUCP, ⟨505, 1, 2⟩, ⟨3584, 4⟩, none, by decide⟩

/-- The xApp sees a CU-CP, and the encoder of its control request aborts. -/
theorem cuCpNode_aborts :
    discover ricRuntime 7 [cuCpNode.node] = next (.e42SetupResponse
        ⟨7, [⟨cuCpSeen, cuCpComponents, [⟨[42], 147, 0, [49, 46, 51]⟩]⟩]⟩) ∧
      transferRicMsg ricRuntime (.e42ControlRequest ⟨7, cuCpSeen, plainControl⟩) =
        abort "e42_ric_req->id.type" :=
  ⟨by decide, by decide⟩

/-- Not every connected node is discovered. -/
theorem nodes_not_discovered :
    ¬ ∀ (Buf : Type) (rt : Asn1c RicPdu Buf), rt.Exact RicPdu.satisfies RicPdu.opened →
      ∀ (xappId : UInt16) (sr : RicSubscriptionRequest), sr.Survives →
      ∀ ctrl : RicControlRequest, ctrl.Sendable →
        (∀ id, FitsBuffer rt (.e42SubscriptionRequest ⟨xappId, id, sr⟩)) →
        (∀ id, FitsBuffer rt (.e42ControlRequest ⟨xappId, id, ctrl⟩)) →
      ∀ nodes : List ConnectedNode, nodes ≠ [] →
        FitsBuffer rt (.e42SetupResponse ⟨xappId, nodes.map ConnectedNode.node⟩) →
          Discovers rt xappId sr ctrl nodes := by
  intro h
  obtain ⟨seen, hdisc, hreach⟩ := h RicPdu ricRuntime ricRuntime_exact 7 reportRequest
    reportRequest_survives plainControl (by decide) (fun _ => fitsBuffer_ricRuntime _)
    (fun _ => fitsBuffer_ricRuntime _) [cuCpNode] (by simp) (fitsBuffer_ricRuntime _)
  obtain ⟨hseen, habort⟩ := cuCpNode_aborts
  rw [List.map_singleton, hseen, next_inj, RicMsg.e42SetupResponse.injEq] at hdisc
  rw [← hdisc] at hreach
  obtain ⟨hnode, -⟩ := List.forall₂_cons.mp hreach
  obtain ⟨m, hm, -⟩ := hnode.2
  cases habort.symm.trans hm

end FlexRic.Codec
