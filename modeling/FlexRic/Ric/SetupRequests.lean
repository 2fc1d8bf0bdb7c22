import FlexRic.Codec.MessageValues
import FlexRic.Codec.SetupLists
import FlexRic.E2ap.NodeIds

/-!
# FlexRic.Ric.SetupRequests

The E2 setup requests that arrive at the near-RT RIC, from the PDU to the
response (`e2ap_msg_dec_ric`, `generate_setup_response.c`,
`e2ap_msg_enc_ric`).

* `SetupRequest`: a request as it is decoded.  The id of its node is one of
  those that arrive, so the three comparisons of node ids agree on it;
* `acceptRanFunc`, `generateSetupResponse`, `encSetupResponse`: the answer;
* `Acceptable`: the PDUs that are decoded and answered;
* `acceptable_iff`: there are no others.
-/

namespace FlexRic

open Outcome
open Codec (IdCopied cpE2apNodeCompId_eq_next)

/-! ## Decoding -/

/-- Only nodes of four types are decoded, and two of them have a `cu_du_id`. -/
theorem onWire_of_decGlobalE2NodeId {v : GlobalE2NodeIdIe} {id : GlobalE2NodeId}
    (h : decGlobalE2NodeId v = next id) : OnWire id := by
  rcases v with ⟨plmn, gnbId, _ | cuUp, _ | du⟩ | _ | _ | ⟨plmn, enb | enb | enb | enb⟩
  all_goals
    simp only [decGlobalE2NodeId, bind_eq_next, pure_eq, next_inj, reduceCtorEq] at h
  all_goals
    obtain ⟨nb, -, rfl⟩ := h
    exact ⟨by simp, rfl⟩

/-- An element is read when all three assertions hold of it. -/
theorem Ie.read_eq_next {V : Type} {ie : Ie V} {id : ProtocolIeId} {c : Criticality} {v : V} :
    ie.read id c = next v ↔ ie = ⟨id, c, some v⟩ := by
  obtain ⟨id', c', value⟩ := ie
  simp [Ie.read]

/-- The two elements every request begins with. -/
def requestHead (trans : Int) (node : GlobalE2NodeIdIe) (rest : List (Ie E2SetupRequestValue)) :
    List (Ie E2SetupRequestValue) :=
  ⟨.transactionId, .reject, some (.transactionId trans)⟩ ::
    ⟨.globalE2NodeId, .reject, some (.globalE2NodeId node)⟩ :: rest

/-- What `e2ap_dec_setup_request` takes a PDU apart into. -/
theorem e2apDecSetupRequest_eq_next {m : Procedure E2SetupRequestValue} {sr : E2SetupRequest} :
    e2apDecSetupRequest m = next sr ↔
      ∃ trans node rest, m = ⟨procedureCodeE2Setup, .reject, some (requestHead trans node rest)⟩ ∧
        rest.length < 3 ∧ decTransId trans = next sr.transId ∧ decGlobalE2NodeId node = next sr.id ∧
        ∃ arrays, fold decSetupRequestIe ⟨none, none⟩ rest.reverse = next arrays ∧
          arrays.ranFuncItem.getD [] = sr.ranFuncItem ∧
          arrays.compConfAdd.getD [] = sr.compConfAdd := by
  obtain ⟨code, criticality, value⟩ := m
  obtain ⟨t, n, fs, cs⟩ := sr
  constructor
  · intro h
    simp only [e2apDecSetupRequest, bind_eq_next, assert_eq_next, expect_eq_next, Ie.read_eq_next,
      decide_eq_true_eq, Bool.and_eq_true] at h
    obtain ⟨-, hcode, -, hcriticality, ies, hies, -, hlen, ie₀, h₀, v₀, rfl, h⟩ := h
    cases v₀ <;> simp only [reduceCtorEq] at h
    rename_i trans
    simp only [bind_eq_next, expect_eq_next, Ie.read_eq_next] at h
    obtain ⟨t', ht, ie₁, h₁, v₁, rfl, h⟩ := h
    cases v₁ <;> simp only [reduceCtorEq] at h
    rename_i node
    simp only [bind_eq_next, pure_eq, next_inj, E2SetupRequest.mk.injEq] at h
    obtain ⟨n', hn, arrays, hfold, rfl, rfl, hfs, hcs⟩ := h
    obtain _ | ⟨_, _ | ⟨_, rest⟩⟩ := ies
    · cases h₀
    · cases h₁
    · simp only [List.length_cons] at hlen
      cases h₀
      cases h₁
      exact ⟨trans, node, rest, by rw [hcode, hcriticality, hies]; rfl, by omega, ht, hn, arrays,
        hfold, hfs, hcs⟩
  · rintro ⟨trans, node, rest, hm, hlen, ht, hn, arrays, hfold, hfs, hcs⟩
    cases hm
    simp only at ht hn hfs hcs
    simp [e2apDecSetupRequest, requestHead, expect, Ie.read_mk, ht, hn, hfold, hfs, hcs,
      show rest.length + 1 + 1 < 5 by omega]

/-- The element with the RAN functions `fs`. -/
def IsFunctions (ie : Ie E2SetupRequestValue) (fs : List RanFunction) : Prop :=
  ∃ items, ie = ⟨.ranFunctionsAdded, .reject, some (.ranFunctionsList items)⟩ ∧
    items.length < maxNumRanFuncId ∧ walk decRanFunctionItem items = next fs

/-- The element with the components `cs`. -/
def IsComponents (ie : Ie E2SetupRequestValue) (cs : List NodeComponentConfigAdd) : Prop :=
  ∃ items, ie = ⟨.e2NodeComponentConfigAddition, .reject, some (.configAdditionList items)⟩ ∧
    (0 < items.length ∧ items.length < 1024) ∧ walk e2apDecNodeComponentConfAddition items = next cs

/-- The body of the loop takes one of the two lists, each of them once. -/
theorem decSetupRequestIe_eq_next {sr sr' : SetupRequestArrays} {ie : Ie E2SetupRequestValue} :
    decSetupRequestIe sr ie = next sr' ↔
      (∃ fs, IsFunctions ie fs ∧ sr.ranFuncItem = none ∧
        { sr with ranFuncItem := some fs } = sr') ∨
      (∃ cs, IsComponents ie cs ∧ sr.compConfAdd = none ∧
        { sr with compConfAdd := some cs } = sr') := by
  constructor
  · intro h
    rw [decSetupRequestIe] at h
    split at h
    · simp only [bind_eq_next, Ie.read_eq_next] at h
      obtain ⟨v, rfl, h⟩ := h
      cases v <;> simp only [reduceCtorEq] at h
      simp only [bind_eq_next, assert_eq_next, decide_eq_true_eq, Option.isNone_iff_eq_none, pure_eq,
        next_inj] at h
      obtain ⟨-, hlen, -, hnone, fs, hfs, rfl⟩ := h
      exact .inl ⟨fs, ⟨_, rfl, hlen, hfs⟩, hnone, rfl⟩
    split at h
    · simp only [bind_eq_next, Ie.read_eq_next] at h
      obtain ⟨v, rfl, h⟩ := h
      cases v <;> simp only [reduceCtorEq] at h
      simp only [bind_eq_next, assert_eq_next, Bool.and_eq_true, decide_eq_true_eq,
        Option.isNone_iff_eq_none, pure_eq, next_inj] at h
      obtain ⟨-, ⟨hlen, hnone⟩, cs, hcs, rfl⟩ := h
      exact .inr ⟨cs, ⟨_, rfl, hlen, hcs⟩, hnone, rfl⟩
    · cases h
  · rintro (⟨fs, ⟨items, rfl, hlen, hfs⟩, hnone, rfl⟩ | ⟨cs, ⟨items, rfl, hlen, hcs⟩, hnone, rfl⟩)
    · exact decSetupRequestIe_functions.mpr ⟨hlen, hnone, fs, hfs, rfl⟩
    · exact decSetupRequestIe_components.mpr ⟨hlen, hnone, cs, hcs, rfl⟩

/-- The loop leaves both lists behind exactly when the two remaining elements are a list of RAN
functions and one of components, in either order. -/
theorem fold_decSetupRequestIe_lists {rest : List (Ie E2SetupRequestValue)}
    {fs : List RanFunction} {cs : List NodeComponentConfigAdd} (hlen : rest.length < 3)
    (hfs : fs ≠ []) (hcs : cs ≠ []) :
    (∃ arrays, fold decSetupRequestIe ⟨none, none⟩ rest.reverse = next arrays ∧
        arrays.ranFuncItem.getD [] = fs ∧ arrays.compConfAdd.getD [] = cs) ↔
      ∃ fie cie, (rest = [fie, cie] ∨ rest = [cie, fie]) ∧ IsFunctions fie fs ∧
        IsComponents cie cs := by
  constructor
  · rintro ⟨arrays, hfold, rfl, rfl⟩
    rcases rest with _ | ⟨ie₁, _ | ⟨ie₂, _ | ⟨ie₃, rest⟩⟩⟩
    · cases next_inj.mp hfold
      exact absurd rfl hfs
    · -- one of the two arrays is still missing
      simp only [List.reverse_singleton, fold_cons, fold_nil, bind_eq_next, next_inj,
        decSetupRequestIe_eq_next] at hfold
      obtain ⟨_, ⟨l, -, -, rfl⟩ | ⟨l, -, -, rfl⟩, rfl⟩ := hfold
      · exact absurd rfl hcs
      · exact absurd rfl hfs
    · simp only [List.reverse_cons, List.reverse_nil, List.nil_append, List.cons_append, fold_cons,
        fold_nil, bind_eq_next, next_inj, decSetupRequestIe_eq_next] at hfold
      obtain ⟨_, ⟨l, hl, -, rfl⟩ | ⟨l, hl, -, rfl⟩, _, ⟨k, hk, hnone, rfl⟩ | ⟨k, hk, hnone, rfl⟩, rfl⟩ :=
        hfold
      · cases hnone
      · exact ⟨ie₂, ie₁, .inr rfl, hl, hk⟩
      · exact ⟨ie₁, ie₂, .inl rfl, hk, hl⟩
      · cases hnone
    · rw [List.length_cons, List.length_cons, List.length_cons] at hlen
      omega
  · rintro ⟨fie, cie, rfl | rfl, hf, hc⟩
    · refine ⟨⟨some fs, some cs⟩, ?_, rfl, rfl⟩
      simp only [List.reverse_cons, List.reverse_nil, List.nil_append, List.cons_append, fold_cons,
        fold_nil, bind_eq_next]
      exact ⟨_, decSetupRequestIe_eq_next.mpr (.inr ⟨cs, hc, rfl, rfl⟩), _,
        decSetupRequestIe_eq_next.mpr (.inl ⟨fs, hf, rfl, rfl⟩), rfl⟩
    · refine ⟨⟨some fs, some cs⟩, ?_, rfl, rfl⟩
      simp only [List.reverse_cons, List.reverse_nil, List.nil_append, List.cons_append, fold_cons,
        fold_nil, bind_eq_next]
      exact ⟨_, decSetupRequestIe_eq_next.mpr (.inl ⟨fs, hf, rfl, rfl⟩), _,
        decSetupRequestIe_eq_next.mpr (.inr ⟨cs, hc, rfl, rfl⟩), rfl⟩

/-! ## The answer -/

/-- `accept_ran_func`. -/
def acceptRanFunc (plugin : List UInt16) (req : E2SetupRequest) : Outcome (List UInt16) := do
  assert ((req.ranFuncItem.map (·.id)).all plugin.contains)
    "Unknown RAN function ID from the agent received"
  return req.ranFuncItem.map (·.id)

/-- The acknowledgement of a component in `generate_setup_response_v2`. -/
def ackComponent (c : NodeComponentConfigAdd) : Outcome NodeCompConfigAddAck := do
  let id ← Codec.cpE2apNodeCompId c.id
  return ⟨c.interfaceType, id, .success, none⟩

/-- `generate_setup_response_v2`. -/
def generateSetupResponse (plugin : List UInt16) (req : E2SetupRequest) :
    Outcome E2SetupResponse := do
  let accepted ← acceptRanFunc plugin req
  assert (0 < req.compConfAdd.length && req.compConfAdd.length < 1025)
    "req->len_cca > 0 && req->len_cca < 1025"
  let acks ← walk ackComponent req.compConfAdd
  return ⟨req.transId, ⟨req.id.plmn, 25⟩, accepted, [], acks⟩

/-- `e2ap_msg_enc_ric` of a setup response: the runtime encodes what satisfies its
constraints. -/
def encSetupResponse (sr : E2SetupResponse) : Outcome SetupPdu := do
  let pdu ← e2apEncSetupResponseAsnPdu sr
  assert pdu.satisfies "success"
  return pdu

/-- A component that is acknowledged: one of NG, S1, E1 or F1, with a name or with an id of 36
bits. -/
def Acknowledged (c : NodeComponentConfigAdd) : Prop :=
  match c.id with
  | .ng name | .s1 name => 0 < name.length
  | .e1 id | .f1 id => id.toNat < 2 ^ 36
  | .xn | .w1 _ | .x2 => False

theorem Acknowledged.copied {c : NodeComponentConfigAdd} (h : Acknowledged c) : IdCopied c.id := by
  obtain ⟨t, id, request, response⟩ := c
  cases id <;> simp_all [Acknowledged, IdCopied, UInt64.lt_iff_toNat_lt]

/-- What acknowledges a component. -/
def ackOf (c : NodeComponentConfigAdd) : NodeCompConfigAddAck :=
  ⟨c.interfaceType, c.id, .success, none⟩

theorem ackComponent_eq_next {c : NodeComponentConfigAdd} {ack : NodeCompConfigAddAck} :
    ackComponent c = next ack ↔ IdCopied c.id ∧ ackOf c = ack := by
  simp only [ackComponent, bind_eq_next, cpE2apNodeCompId_eq_next, pure_eq, next_inj]
  constructor
  · rintro ⟨_, ⟨hc, rfl⟩, rfl⟩
    exact ⟨hc, rfl⟩
  · rintro ⟨hc, rfl⟩
    exact ⟨_, ⟨hc, rfl⟩, rfl⟩

/-- A component is acknowledged when its copy is made and its acknowledgement can be encoded. -/
theorem acknowledged_iff {c : NodeComponentConfigAdd} (h : c.interfaceType = c.id.type) :
    Acknowledged c ↔ IdCopied c.id ∧ ∃ ie, e2apEncNodeComponentConfAdditionAck (ackOf c) = next ie ∧
      ie.satisfies ConfigAdditionAckItem.satisfies = true := by
  obtain ⟨t, id, request, response⟩ := c
  obtain rfl : t = id.type := h
  cases id <;>
    simp [Acknowledged, IdCopied, ackOf, e2apEncNodeComponentConfAdditionAck, e2apEncNodeComponentId,
      NodeCompId.type, NodeCompId.name?, NodeCompId.id?, copyBaToOstring_eq_next, copyFailureCause,
      Ie.satisfies, ConfigAdditionAckItem.satisfies, E2NodeComponentId.satisfies,
      isNodeId, asnUint642Integer, NodeCompInterfaceType.code_le, NodeCompConfAckOutcome.code,
      expect, UInt64.lt_iff_toNat_lt]

/-- A decoded request that the RIC answers. -/
structure Answerable (plugin : List UInt16) (req : E2SetupRequest) : Prop where
  lenRf : 0 < req.ranFuncItem.length
  known : ∀ f ∈ req.ranFuncItem, f.id ∈ plugin ∧ f.id.toNat ≤ 4095
  lenCca : 0 < req.compConfAdd.length
  acknowledged : ∀ c ∈ req.compConfAdd, Acknowledged c

/-- The elements the accepted functions are put into. -/
theorem walk_encAcceptedItem (ids : List UInt16) :
    walk encAcceptedItem ids = next (ids.map fun id => ⟨.ranFunctionIdItem, .ignore, some id.toNat⟩) :=
  (walk_eq_next_iff_map (P := fun _ => True) fun id ie => by simp [encAcceptedItem]).mpr
    ⟨fun _ _ => trivial, rfl⟩

/-- The PDU of a response satisfies its constraints when the accepted ids and the acknowledgements
do. -/
theorem satisfies_setupResponse (t : UInt8) (id : GlobalRicId) {ids : List UInt16}
    {acks : List (Ie ConfigAdditionAckItem)} (hids : 0 < ids.length ∧ ids.length ≤ 256)
    (hacks : 0 < acks.length ∧ acks.length ≤ 1024) :
    SetupPdu.satisfies (.successfulOutcome ⟨procedureCodeE2Setup, .reject,
        some (setupResponseIes t (encGlobalRicId id)
          (ids.map fun id => ⟨.ranFunctionIdItem, .ignore, some (id.toNat : Int)⟩) [] acks)⟩) = true ↔
      (∀ id ∈ ids, id.toNat ≤ 4095) ∧
        ∀ ie ∈ acks, ie.satisfies ConfigAdditionAckItem.satisfies = true := by
  have ht := t.toNat_lt
  have hric : GlobalRicIdIe.satisfies (encGlobalRicId id) = true := rfl
  have hlists : setupResponseLists (ids.map fun id => ⟨.ranFunctionIdItem, .ignore, some id.toNat⟩)
      [] acks = [⟨.ranFunctionsAccepted, .reject, some (.ranFunctionsIdList
        (ids.map fun id => ⟨.ranFunctionIdItem, .ignore, some (id.toNat : Int)⟩))⟩,
      ⟨.e2NodeComponentConfigAdditionAck, .reject, some (.configAdditionAckList acks)⟩] := by
    rw [setupResponseLists, listIe, if_pos (by rw [List.length_map]; exact hids.1)]
    rfl
  simp only [SetupPdu.satisfies, Procedure.satisfies, setupResponseIes, hlists, Option.any_some,
    List.all_cons, List.all_nil, Ie.satisfies, E2SetupResponseValue.satisfies, hric, isListOf,
    List.length_map, List.all_map, Bool.and_eq_true, decide_eq_true_eq, List.all_eq_true,
    isRanFunctionId_iff, Function.comp_apply, Bool.and_true, true_and]
  constructor
  · rintro ⟨-, ⟨-, hf⟩, -, ha⟩
    exact ⟨fun id hid => by have := hf id hid; omega, ha⟩
  · rintro ⟨hf, ha⟩
    exact ⟨by omega, ⟨hids, fun id hid => by have := hf id hid; omega⟩, hacks, ha⟩

/-- The responses that can be encoded. -/
theorem encSetupResponse_iff (t : UInt8) (id : GlobalRicId) (ids : List UInt16)
    (acks : List NodeCompConfigAddAck) (hids : 0 < ids.length ∧ ids.length ≤ 256)
    (hacks : 0 < acks.length ∧ acks.length ≤ 1024) :
    (∃ pdu, encSetupResponse ⟨t, id, ids, [], acks⟩ = next pdu) ↔
      (∀ id ∈ ids, id.toNat ≤ 4095) ∧ ∀ ack ∈ acks, ∃ ie,
        e2apEncNodeComponentConfAdditionAck ack = next ie ∧
          ie.satisfies ConfigAdditionAckItem.satisfies = true := by
  have henc (pdu) : e2apEncSetupResponseAsnPdu ⟨t, id, ids, [], acks⟩ = next pdu ↔ ∃ ies,
      walk e2apEncNodeComponentConfAdditionAck acks = next ies ∧
        (.successfulOutcome ⟨procedureCodeE2Setup, .reject,
          some (setupResponseIes t (encGlobalRicId id)
            (ids.map fun id => ⟨.ranFunctionIdItem, .ignore, some id.toNat⟩) [] ies)⟩ : SetupPdu) =
          pdu := by
    simp [e2apEncSetupResponseAsnPdu, walk_encAcceptedItem, maxNumRanFuncId, maxNumE2NodeComponents,
      hids.2, hacks, Nat.lt_succ_of_le hacks.2]
  rw [forall_iff_walk (P := fun ack => ∃ ie, e2apEncNodeComponentConfAdditionAck ack = next ie ∧
    ie.satisfies ConfigAdditionAckItem.satisfies = true) fun _ => Iff.rfl]
  constructor
  · rintro ⟨pdu, h⟩
    simp only [encSetupResponse, bind_eq_next, henc, assert_eq_next, pure_eq, next_inj] at h
    obtain ⟨_, ⟨ies, hies, rfl⟩, -, hsat, rfl⟩ := h
    have hlen := walk_length hies
    obtain ⟨hf, ha⟩ := (satisfies_setupResponse t id hids (hlen ▸ hacks)).mp hsat
    exact ⟨hf, ies, hies, ha⟩
  · rintro ⟨hf, ies, hies, ha⟩
    have hlen := walk_length hies
    have hsat := (satisfies_setupResponse t id hids (hlen ▸ hacks)).mpr ⟨hf, ha⟩
    exact ⟨_, bind_eq_next.mpr ⟨_, (henc _).mpr ⟨ies, hies, rfl⟩,
      bind_eq_next.mpr ⟨⟨⟩, assert_eq_next.mpr hsat, rfl⟩⟩⟩

/-- **The requests that are answered.** A request within the limits of the decoder, whose components
are under their own interface types, gets its response exactly when it is `Answerable`. -/
theorem answerable_iff {plugin : List UInt16} {req : E2SetupRequest}
    (htyped : ∀ c ∈ req.compConfAdd, c.interfaceType = c.id.type)
    (hrf : req.ranFuncItem.length ≤ 256) (hcca : req.compConfAdd.length ≤ 1024) :
    Answerable plugin req ↔ 0 < req.ranFuncItem.length ∧ ∃ sr pdu,
      generateSetupResponse plugin req = next sr ∧ encSetupResponse sr = next pdu := by
  have hgen (sr) : generateSetupResponse plugin req = next sr ↔
      (∀ f ∈ req.ranFuncItem, f.id ∈ plugin) ∧
        (0 < req.compConfAdd.length ∧ req.compConfAdd.length < 1025) ∧
        (∀ c ∈ req.compConfAdd, IdCopied c.id) ∧
        (⟨req.transId, ⟨req.id.plmn, 25⟩, req.ranFuncItem.map (·.id), [],
          req.compConfAdd.map ackOf⟩ : E2SetupResponse) = sr := by
    simp [generateSetupResponse, acceptRanFunc, walk_eq_next_iff_map fun _ _ => ackComponent_eq_next,
      and_assoc]
  have hack (c) (hc : c ∈ req.compConfAdd) := acknowledged_iff (htyped c hc)
  have henc (hpos : 0 < req.ranFuncItem.length) (hcpos : 0 < req.compConfAdd.length) :=
    encSetupResponse_iff req.transId ⟨req.id.plmn, 25⟩ (req.ranFuncItem.map (·.id))
      (req.compConfAdd.map ackOf)
      (by rw [List.length_map]; exact ⟨hpos, hrf⟩) (by rw [List.length_map]; exact ⟨hcpos, hcca⟩)
  constructor
  · rintro ⟨hpos, hknown, hcpos, hall⟩
    obtain ⟨pdu, hpdu⟩ := (henc hpos hcpos).mpr
      ⟨List.forall_mem_map.mpr fun f hf => (hknown f hf).2,
        List.forall_mem_map.mpr fun c hc => ((hack c hc).mp (hall c hc)).2⟩
    refine ⟨hpos, _, pdu, (hgen _).mpr ⟨fun f hf => (hknown f hf).1, ⟨hcpos, by omega⟩,
      fun c hc => (hall c hc).copied, rfl⟩, hpdu⟩
  · rintro ⟨hpos, sr, pdu, hsr, hpdu⟩
    obtain ⟨hknown, ⟨hcpos, -⟩, hcopied, rfl⟩ := (hgen sr).mp hsr
    obtain ⟨hf, ha⟩ := (henc hpos hcpos).mp ⟨pdu, hpdu⟩
    refine ⟨hpos, fun f hf' => ⟨hknown f hf', hf _ (List.mem_map_of_mem hf')⟩, hcpos, fun c hc => ?_⟩
    exact (hack c hc).mpr ⟨hcopied c hc, ha _ (List.mem_map_of_mem hc)⟩

/-! ## Acceptable requests -/

/-- A RAN function that is decoded and whose service model is loaded. -/
def takesFunction (plugin : List UInt16) (ie : Ie RanFunctionItem) : Bool :=
  ie.value.any fun f =>
    f.ranFunctionId ≤ maxRanFuncId &&
      (-1 < f.ranFunctionRevision && f.ranFunctionRevision ≤ maxRanFuncRev) &&
      (0 < f.ranFunctionDefinition.length && 0 < f.ranFunctionOid.length) &&
      (plugin.contains (longToU16 f.ranFunctionId) && (longToU16 f.ranFunctionId).toNat ≤ 4095)

/-- A component id that is decoded, copied and acknowledged under an interface type. -/
def takesComponentId (interfaceType : Nat) : E2NodeComponentId → Bool
  | .ng name => interfaceType = NodeCompInterfaceType.ng.code && 0 < name.length
  | .s1 name => interfaceType = NodeCompInterfaceType.s1.code && 0 < name.length
  | .e1 id => interfaceType = NodeCompInterfaceType.e1.code && (asnInteger2Ulong id).toNat < 2 ^ 36
  | .f1 id => interfaceType = NodeCompInterfaceType.f1.code && (asnInteger2Ulong id).toNat < 2 ^ 36
  | .xn | .w1 _ | .x2 => false

/-- A component that is decoded, copied and acknowledged. -/
def takesComponent (ie : Ie ConfigAdditionItem) : Bool :=
  ie.id = .e2NodeComponentConfigAdditionItem && ie.criticality = .reject &&
    ie.value.any fun c => takesComponentId c.interfaceType c.componentId &&
      (0 < c.requestPart.length && 0 < c.responsePart.length)

/-- The list of RAN functions: at most 255, and at least one. -/
def takesFunctions (plugin : List UInt16) (ie : Ie E2SetupRequestValue) : Bool :=
  ie.id = .ranFunctionsAdded && ie.criticality = .reject &&
    match ie.value with
    | some (.ranFunctionsList items) =>
      (0 < items.length && items.length < maxNumRanFuncId) && items.all (takesFunction plugin)
    | _ => false

/-- The list of components: at most 1023, and at least one. -/
def takesComponents (ie : Ie E2SetupRequestValue) : Bool :=
  ie.id = .e2NodeComponentConfigAddition && ie.criticality = .reject &&
    match ie.value with
    | some (.configAdditionList items) =>
      (0 < items.length && items.length < 1024) && items.all takesComponent
    | _ => false

/-- The transaction id. -/
def takesTransactionId (ie : Ie E2SetupRequestValue) : Bool :=
  ie.id = .transactionId && ie.criticality = .reject &&
    match ie.value with
    | some (.transactionId v) => v < 256
    | _ => false

/-- A node that is decoded: a gNB under an id of 22 to 32 bits, or an eNB under a macro id. -/
def takesNode (ie : Ie E2SetupRequestValue) : Bool :=
  ie.id = .globalE2NodeId && ie.criticality = .reject &&
    match ie.value with
    | some (.globalE2NodeId (.gNB v)) =>
      (v.gnbId.size = 3 && v.gnbId.bitsUnused < 3) || (v.gnbId.size = 4 && v.gnbId.bitsUnused < 8)
    | some (.globalE2NodeId (.eNB ⟨_, .macroEnbId id⟩)) => id.bitsUnused = 4
    | _ => false

/-- A setup request the RIC decodes and answers: its transaction id, its node and then the two
lists, in either order. -/
def acceptable (plugin : List UInt16) (m : Procedure E2SetupRequestValue) : Bool :=
  m.procedureCode = procedureCodeE2Setup && m.criticality = .reject &&
    match m.value with
    | some [transIe, nodeIe, ie₁, ie₂] =>
      takesTransactionId transIe && takesNode nodeIe &&
        (takesFunctions plugin ie₁ && takesComponents ie₂ ||
          takesComponents ie₁ && takesFunctions plugin ie₂)
    | _ => false

variable {plugin : List UInt16}

/-- **A RAN function that is taken** is one of a plugin. -/
theorem takesFunction_iff {ie : Ie RanFunctionItem} :
    takesFunction plugin ie = true ↔
      ∃ f, decRanFunctionItem ie = next f ∧ f.id ∈ plugin ∧ f.id.toNat ≤ 4095 := by
  obtain ⟨id, criticality, _ | f⟩ := ie
  · simp [takesFunction, decRanFunctionItem]
  · simp only [takesFunction, decRanFunctionItem, copyOstringToBa, Option.any_some, Bool.and_eq_true,
      decide_eq_true_eq, List.contains_iff_mem, expect, next_bind, bind_eq_next, assert_eq_next,
      pure_eq, next_inj]
    constructor
    · rintro ⟨⟨⟨hid, hrev⟩, hdefn, hoid⟩, hknown⟩
      exact ⟨_, ⟨⟨⟩, hid, ⟨⟩, hrev, _, ⟨⟨⟩, hdefn, rfl⟩, _, ⟨⟨⟩, hoid, rfl⟩, rfl⟩, hknown⟩
    · rintro ⟨_, ⟨-, hid, -, hrev, _, ⟨-, hdefn, rfl⟩, _, ⟨-, hoid, rfl⟩, rfl⟩, hknown⟩
      exact ⟨⟨⟨hid, hrev⟩, hdefn, hoid⟩, hknown⟩

/-- **A component id that is taken** is decoded to one that is copied and encoded again. -/
theorem takesComponentId_iff {t : NodeCompInterfaceType} {cid : E2NodeComponentId}
    (request response : Bytes) :
    takesComponentId t.code cid = true ↔
      ∃ id, e2apDecNodeComponentId t cid = next id ∧ Acknowledged ⟨t, id, request, response⟩ := by
  cases cid <;> cases t <;>
    simp [takesComponentId, e2apDecNodeComponentId, copyOstringToBa, NodeCompInterfaceType.code,
      Acknowledged, List.length_pos_iff]

/-- An interface type is decoded from its code. -/
theorem decInterfaceType_eq_next {v : Nat} {t : NodeCompInterfaceType} :
    decInterfaceType v = next t ↔ t.code = v := by
  constructor
  · intro h
    simp only [decInterfaceType, bind_eq_next, assert_eq_next, decide_eq_true_eq, expect_eq_next] at h
    obtain ⟨-, hle, h⟩ := h
    interval_cases v <;> cases h <;> rfl
  · rintro rfl
    exact decInterfaceType_back t

/-- A component that is taken is acknowledged. -/
theorem takesComponent_iff {ie : Ie ConfigAdditionItem} :
    takesComponent ie = true ↔
      ∃ c, e2apDecNodeComponentConfAddition ie = next c ∧ Acknowledged c := by
  obtain ⟨id, criticality, _ | ⟨v, cid, request, response⟩⟩ := ie
  · simp [takesComponent, e2apDecNodeComponentConfAddition, Ie.read_eq_next]
  simp only [takesComponent, e2apDecNodeComponentConfAddition, copyOstringToBa, Option.any_some,
    Bool.and_eq_true, decide_eq_true_eq, bind_eq_next, Ie.read_eq_next, Ie.mk.injEq,
    Option.some.injEq, decInterfaceType_eq_next, assert_eq_next, pure_eq, next_inj]
  constructor
  · rintro ⟨⟨hid, hcriticality⟩, hcid, hrequest, hresponse⟩
    -- the interface type is one of the seven, as the component id is under it
    obtain ⟨t, rfl⟩ : ∃ t : NodeCompInterfaceType, t.code = v := by
      cases cid <;> simp only [takesComponentId, Bool.and_eq_true, decide_eq_true_eq,
        reduceCtorEq] at hcid <;> exact ⟨_, hcid.1.symm⟩
    obtain ⟨id', hid', hack⟩ := (takesComponentId_iff request response).mp hcid
    exact ⟨_, ⟨_, ⟨hid, hcriticality, rfl⟩, t, rfl, id', hid', _, ⟨⟨⟩, hrequest, rfl⟩, _,
      ⟨⟨⟩, hresponse, rfl⟩, rfl⟩, hack⟩
  · rintro ⟨_, ⟨_, ⟨hid, hcriticality, rfl⟩, t, rfl, id', hid', _, ⟨-, hrequest, rfl⟩, _,
      ⟨-, hresponse, rfl⟩, rfl⟩, hack⟩
    exact ⟨⟨hid, hcriticality⟩, (takesComponentId_iff _ _).mpr ⟨id', hid', hack⟩, hrequest, hresponse⟩

/-- A component is decoded under its own interface type. -/
theorem typed_of_dec {ie : Ie ConfigAdditionItem} {c : NodeComponentConfigAdd}
    (h : e2apDecNodeComponentConfAddition ie = next c) : c.interfaceType = c.id.type := by
  simp only [e2apDecNodeComponentConfAddition, bind_eq_next, pure_eq, next_inj] at h
  obtain ⟨cca, -, t, -, id, hid, _, -, _, -, rfl⟩ := h
  generalize cca.componentId = cid at hid
  cases cid <;> simp only [e2apDecNodeComponentId, bind_eq_next, assert_eq_next, decide_eq_true_eq,
    pure_eq, next_inj, reduceCtorEq] at hid
  case ng | s1 =>
    obtain ⟨-, rfl, _, -, rfl⟩ := hid
    rfl
  all_goals
    obtain ⟨-, rfl, rfl⟩ := hid
    rfl

/-- The list of functions has one at least, all of plugins. -/
theorem takesFunctions_iff {ie : Ie E2SetupRequestValue} :
    takesFunctions plugin ie = true ↔ ∃ fs, IsFunctions ie fs ∧ 0 < fs.length ∧
      ∀ f ∈ fs, f.id ∈ plugin ∧ f.id.toNat ≤ 4095 := by
  obtain ⟨id, criticality, value⟩ := ie
  constructor
  · intro h
    simp only [takesFunctions, Bool.and_eq_true, decide_eq_true_eq] at h
    obtain ⟨⟨rfl, rfl⟩, h⟩ := h
    split at h
    · rename_i items
      simp only [Bool.and_eq_true, decide_eq_true_eq, List.all_eq_true] at h
      obtain ⟨⟨hpos, hlen⟩, hall⟩ := h
      obtain ⟨fs, hfs, hknown⟩ := (forall_iff_walk (fun _ => takesFunction_iff) items).mp hall
      exact ⟨fs, ⟨items, rfl, hlen, hfs⟩, walk_length hfs ▸ hpos, hknown⟩
    · cases h
  · rintro ⟨fs, ⟨items, heq, hlen, hfs⟩, hpos, hknown⟩
    cases heq
    have hall : ∀ ie ∈ items, takesFunction plugin ie = true :=
      (forall_iff_walk (fun _ => takesFunction_iff) items).mpr ⟨fs, hfs, hknown⟩
    rw [walk_length hfs] at hpos
    simpa [takesFunctions, hpos, hlen] using hall

/-- Every component of the list is acknowledged. -/
theorem takesComponents_iff {ie : Ie E2SetupRequestValue} :
    takesComponents ie = true ↔ ∃ cs, IsComponents ie cs ∧ ∀ c ∈ cs, Acknowledged c := by
  obtain ⟨id, criticality, value⟩ := ie
  constructor
  · intro h
    simp only [takesComponents, Bool.and_eq_true, decide_eq_true_eq] at h
    obtain ⟨⟨rfl, rfl⟩, h⟩ := h
    split at h
    · rename_i items
      simp only [Bool.and_eq_true, decide_eq_true_eq, List.all_eq_true] at h
      obtain ⟨hlen, hall⟩ := h
      obtain ⟨cs, hcs, hack⟩ := (forall_iff_walk (fun _ => takesComponent_iff) items).mp hall
      exact ⟨cs, ⟨items, rfl, hlen, hcs⟩, hack⟩
    · cases h
  · rintro ⟨cs, ⟨items, heq, hlen, hcs⟩, hack⟩
    cases heq
    have hall := (forall_iff_walk (fun _ => takesComponent_iff) items).mpr ⟨cs, hcs, hack⟩
    simpa [takesComponents, hlen] using hall

/-- The transaction id comes first, and is decoded. -/
theorem takesTransactionId_iff {ie : Ie E2SetupRequestValue} :
    takesTransactionId ie = true ↔
      ∃ v t, ie = ⟨.transactionId, .reject, some (.transactionId v)⟩ ∧ decTransId v = next t := by
  obtain ⟨id, criticality, _ | v | v | v | v⟩ := ie <;>
    simp [takesTransactionId, decTransId, and_assoc]

/-- The bit strings that hold a gNB id. -/
theorem cpBitStringToGnbId_succeeds {b : BitString} :
    (∃ id, cpBitStringToGnbId b = next id) ↔
      b.size = 3 ∧ b.bitsUnused < 3 ∨ b.size = 4 ∧ b.bitsUnused < 8 := by
  by_cases h3 : b.size = 3
  · simp only [cpBitStringToGnbId, h3, if_pos, bind_eq_next, assert_eq_next, pure_eq, next_inj]
    simp only [decide_eq_true_eq]
    constructor
    · rintro ⟨id, -, -, -, -, -, hu, -, hmin, -⟩
      exact .inl ⟨trivial, hmin⟩
    · rintro (⟨-, hu⟩ | ⟨h, -⟩)
      · exact ⟨_, ⟨⟩, by decide, ⟨⟩, rfl, ⟨⟩, by omega, ⟨⟩, hu, rfl⟩
      · omega
  · simp only [cpBitStringToGnbId, h3, if_neg, bind_eq_next, assert_eq_next, pure_eq, next_inj,
      not_false_eq_true]
    simp only [decide_eq_true_eq, Bool.or_eq_true, false_or, false_and]
    constructor
    · rintro ⟨id, -, -, -, h4, -, hu, -⟩
      exact ⟨h4, hu⟩
    · rintro ⟨h4, hu⟩
      exact ⟨_, ⟨⟩, by omega, ⟨⟩, h4, ⟨⟩, hu, rfl⟩

/-- The node's id is decoded to one that is encoded again. -/
theorem takesNode_iff {ie : Ie E2SetupRequestValue} :
    takesNode ie = true ↔ ∃ v id, ie = ⟨.globalE2NodeId, .reject, some (.globalE2NodeId v)⟩ ∧
      decGlobalE2NodeId v = next id := by
  obtain ⟨id, criticality, _ | v | v | v | v⟩ := ie
  case some.globalE2NodeId =>
    rcases v with ⟨plmn, gnbId, cuUp, du⟩ | _ | _ | ⟨plmn, enb | enb | enb | enb⟩
    case gNB =>
      have hnb := cpBitStringToGnbId_succeeds (b := gnbId)
      rcases cuUp with _ | cuUp <;> rcases du with _ | du <;>
        simp [takesNode, decGlobalE2NodeId, ← hnb, and_assoc]
    all_goals
      simp [takesNode, decGlobalE2NodeId, bitStringToMacroEnbId, and_assoc]
  all_goals
    simp [takesNode]

/-- **The acceptable requests** are those that are decoded and answered. -/
theorem acceptable_iff {m : Procedure E2SetupRequestValue} :
    acceptable plugin m = true ↔
      ∃ req, e2apDecSetupRequest m = next req ∧ Answerable plugin req := by
  constructor
  · intro h
    obtain ⟨code, criticality, value⟩ := m
    simp only [acceptable, Bool.and_eq_true, decide_eq_true_eq] at h
    obtain ⟨⟨rfl, rfl⟩, h⟩ := h
    split at h
    · rename_i transIe nodeIe ie₁ ie₂
      simp only [Bool.and_eq_true, Bool.or_eq_true, takesTransactionId_iff, takesNode_iff,
        takesFunctions_iff, takesComponents_iff] at h
      obtain ⟨⟨⟨v, t, rfl, ht⟩, n, id, rfl, hid⟩, hlists⟩ := h
      -- the two lists in either order come out of the loop
      obtain ⟨fs, cs, hpos, hknown, hack, fie, cie, horder, hf, hc⟩ : ∃ fs cs, 0 < fs.length ∧
          (∀ f ∈ fs, f.id ∈ plugin ∧ f.id.toNat ≤ 4095) ∧ (∀ c ∈ cs, Acknowledged c) ∧
          ∃ fie cie, ([ie₁, ie₂] = [fie, cie] ∨ [ie₁, ie₂] = [cie, fie]) ∧ IsFunctions fie fs ∧
            IsComponents cie cs := by
        rcases hlists with ⟨⟨fs, hf, hpos, hknown⟩, cs, hc, hack⟩ | ⟨⟨cs, hc, hack⟩, fs, hf, hpos, hknown⟩
        · exact ⟨fs, cs, hpos, hknown, hack, ie₁, ie₂, .inl rfl, hf, hc⟩
        · exact ⟨fs, cs, hpos, hknown, hack, ie₂, ie₁, .inr rfl, hf, hc⟩
      have hcpos : 0 < cs.length := by
        obtain ⟨items, -, hlen, hcs⟩ := hc
        exact walk_length hcs ▸ hlen.1
      have htwo : [ie₁, ie₂].length < 3 := Nat.lt_succ_self 2
      obtain ⟨arrays, hfold, hfs, hcs⟩ := (fold_decSetupRequestIe_lists htwo
        (List.ne_nil_of_length_pos hpos) (List.ne_nil_of_length_pos hcpos)).mpr
          ⟨fie, cie, horder, hf, hc⟩
      refine ⟨⟨t, id, fs, cs⟩, e2apDecSetupRequest_eq_next.mpr ⟨v, n, [ie₁, ie₂], rfl, by simp, ht,
        hid, arrays, hfold, hfs, hcs⟩, hpos, hknown, hcpos, hack⟩
    · cases h
  · rintro ⟨⟨t, id, fs, cs⟩, hdec, hpos, hknown, hcpos, hack⟩
    obtain ⟨v, n, rest, rfl, hlen, ht, hid, hlists⟩ := e2apDecSetupRequest_eq_next.mp hdec
    obtain ⟨fie, cie, horder, hf, hc⟩ := (fold_decSetupRequestIe_lists hlen
      (List.ne_nil_of_length_pos hpos) (List.ne_nil_of_length_pos hcpos)).mp hlists
    have htrans := takesTransactionId_iff.mpr ⟨v, t, rfl, ht⟩
    have hnode := takesNode_iff.mpr ⟨n, id, rfl, hid⟩
    have hfuncs := takesFunctions_iff.mpr ⟨fs, hf, hpos, hknown⟩
    have hcomps := takesComponents_iff.mpr ⟨cs, hc, hack⟩
    rcases horder with rfl | rfl <;>
      simp [acceptable, requestHead, htrans, hnode, hfuncs, hcomps]

/-- Each array the loop leaves behind comes from one element. -/
theorem elements_of_fold {ies : List (Ie E2SetupRequestValue)} {sr arrays : SetupRequestArrays}
    (hfold : fold decSetupRequestIe sr ies = next arrays)
    (hfuncs : ∀ fs, sr.ranFuncItem = some fs → ∃ ie, IsFunctions ie fs)
    (hcomps : ∀ cs, sr.compConfAdd = some cs → ∃ ie, IsComponents ie cs) :
    (∀ fs, arrays.ranFuncItem = some fs → ∃ ie, IsFunctions ie fs) ∧
      ∀ cs, arrays.compConfAdd = some cs → ∃ ie, IsComponents ie cs := by
  induction ies generalizing sr with
  | nil =>
    cases next_inj.mp hfold
    exact ⟨hfuncs, hcomps⟩
  | cons ie ies ih =>
    rw [fold_cons, bind_eq_next] at hfold
    obtain ⟨sr', hstep, hfold⟩ := hfold
    rcases decSetupRequestIe_eq_next.mp hstep with ⟨fs, hf, -, rfl⟩ | ⟨cs, hc, -, rfl⟩
    · exact ih hfold (fun fs' hfs' => ⟨ie, by cases hfs'; exact hf⟩) hcomps
    · exact ih hfold hfuncs fun cs' hcs' => ⟨ie, by cases hcs'; exact hc⟩

/-- What the decoder promises of a request. -/
theorem within_of_dec {m : Procedure E2SetupRequestValue} {req : E2SetupRequest}
    (h : e2apDecSetupRequest m = next req) :
    req.ranFuncItem.length ≤ 256 ∧ req.compConfAdd.length ≤ 1024 ∧
      ∀ c ∈ req.compConfAdd, c.interfaceType = c.id.type := by
  obtain ⟨v, n, rest, -, -, -, -, arrays, hfold, hfs, hcs⟩ := e2apDecSetupRequest_eq_next.mp h
  obtain ⟨hfuncs, hcomps⟩ := elements_of_fold hfold (by simp) (by simp)
  rw [← hfs, ← hcs]
  constructor
  · cases hf : arrays.ranFuncItem with
    | none => exact Nat.zero_le 256
    | some fs =>
      obtain ⟨ie, items, -, hlen, hwalk⟩ := hfuncs fs hf
      rw [Option.getD_some, walk_length hwalk]
      exact hlen.le
  · cases hc : arrays.compConfAdd with
    | none => exact ⟨Nat.zero_le 1024, fun c hmem => absurd hmem List.not_mem_nil⟩
    | some cs =>
      obtain ⟨ie, items, -, hlen, hwalk⟩ := hcomps cs hc
      rw [Option.getD_some]
      refine ⟨by rw [walk_length hwalk]; exact hlen.2.le, fun c hmem => ?_⟩
      obtain ⟨item, -, hitem⟩ := exists_of_mem_walk hwalk hmem
      exact typed_of_dec hitem

/-! ## Nothing waits -/

theorem copyOstringToBa_ne_blocked (src : Bytes) : copyOstringToBa src ≠ blocked := by
  simp [copyOstringToBa]

theorem Ie.read_ne_blocked {V : Type} (ie : Ie V) (id : ProtocolIeId) (c : Criticality) :
    ie.read id c ≠ blocked := by
  simp [Ie.read]

theorem decNodeComponent_ne_blocked (src : Ie ConfigAdditionItem) :
    e2apDecNodeComponentConfAddition src ≠ blocked := by
  have hid (t cid) : e2apDecNodeComponentId t cid ≠ blocked := by
    cases cid <;> simp [e2apDecNodeComponentId, copyOstringToBa_ne_blocked]
  simp [e2apDecNodeComponentConfAddition, Ie.read_ne_blocked, decInterfaceType, hid,
    copyOstringToBa_ne_blocked]

theorem decRanFunctionItem_ne_blocked (src : Ie RanFunctionItem) :
    decRanFunctionItem src ≠ blocked := by
  simp [decRanFunctionItem, copyOstringToBa_ne_blocked]

theorem decSetupRequestIe_ne_blocked (sr : SetupRequestArrays) (ie : Ie E2SetupRequestValue) :
    decSetupRequestIe sr ie ≠ blocked := by
  rw [decSetupRequestIe]
  split
  · simp only [ne_eq, bind_eq_blocked, Ie.read_ne_blocked, false_or, not_exists, not_and]
    intro v _
    cases v <;> simp [walk_ne_blocked decRanFunctionItem_ne_blocked]
  split
  · simp only [ne_eq, bind_eq_blocked, Ie.read_ne_blocked, false_or, not_exists, not_and]
    intro v _
    cases v <;> simp [walk_ne_blocked decNodeComponent_ne_blocked]
  · simp

theorem decGlobalE2NodeId_ne_blocked (v : GlobalE2NodeIdIe) : decGlobalE2NodeId v ≠ blocked := by
  have hgnb (b) : cpBitStringToGnbId b ≠ blocked := by
    rw [cpBitStringToGnbId]
    split <;> simp
  have hmacro (b) : bitStringToMacroEnbId b ≠ blocked := by
    simp [bitStringToMacroEnbId]
  rcases v with ⟨plmn, gnbId, _ | cuUp, _ | du⟩ | _ | _ | ⟨plmn, enb | enb | enb | enb⟩ <;>
    simp [decGlobalE2NodeId, hgnb, hmacro]

/-- **The decoder does not wait for anything.** -/
theorem e2apDecSetupRequest_ne_blocked (m : Procedure E2SetupRequestValue) :
    e2apDecSetupRequest m ≠ blocked := by
  rw [e2apDecSetupRequest]
  simp only [ne_eq, bind_eq_blocked, assert_ne_blocked, expect_ne_blocked, Ie.read_ne_blocked, false_or,
    not_exists, not_and]
  intro _ _ _ _ ies _ _ _ ie _ v _
  cases v <;> simp only [reduceCtorEq, not_false_eq_true]
  simp only [bind_eq_blocked, expect_ne_blocked, Ie.read_ne_blocked, false_or, not_or, not_exists,
    not_and]
  refine ⟨by simp [decTransId], fun _ _ ie' _ v' _ => ?_⟩
  cases v' <;> simp [decGlobalE2NodeId_ne_blocked, fold_ne_blocked decSetupRequestIe_ne_blocked]

theorem cpE2apNodeCompId_ne_blocked (id : NodeCompId) : Codec.cpE2apNodeCompId id ≠ blocked := by
  cases id <;> simp [Codec.cpE2apNodeCompId]

/-- The answer to a setup request does not wait. -/
theorem generateSetupResponse_ne_blocked (plugin : List UInt16) (req : E2SetupRequest) :
    generateSetupResponse plugin req ≠ blocked := by
  have hack (c) : ackComponent c ≠ blocked := by
    simp [ackComponent, cpE2apNodeCompId_ne_blocked]
  simp [generateSetupResponse, acceptRanFunc, walk_ne_blocked hack]

/-- The encoding of the answer does not wait. -/
theorem encSetupResponse_ne_blocked (sr : E2SetupResponse) : encSetupResponse sr ≠ blocked := by
  have hcopy (limits) (c : Cause) : c.copy limits ≠ blocked := by
    cases c <;> simp [Cause.copy]
  have hid (t id) : e2apEncNodeComponentId t id ≠ blocked := by
    cases t <;> simp [e2apEncNodeComponentId, copyBaToOstring]
  have hack (c) : e2apEncNodeComponentConfAdditionAck c ≠ blocked := by
    have hcause (cause) : copyFailureCause encCauseLimits cause ≠ blocked := by
      cases cause <;> simp [copyFailureCause, hcopy]
    simp [e2apEncNodeComponentConfAdditionAck, hid, hcause]
  have hrejected (r) : encRejectedItem r ≠ blocked := by
    simp [encRejectedItem, hcopy]
  simp [encSetupResponse, e2apEncSetupResponseAsnPdu, walk_encAcceptedItem, walk_ne_blocked hrejected,
    walk_ne_blocked hack]

/-! ## Requests as they are handled -/

/-- A setup request as it is decoded. -/
structure SetupRequest where
  msg : E2SetupRequest
  wire : OnWire msg.id
  lenRf : msg.ranFuncItem.length ≤ 256
  lenCca : msg.compConfAdd.length ≤ 1024
  typed : ∀ c ∈ msg.compConfAdd, c.interfaceType = c.id.type
  deriving DecidableEq

/-- The node of a request. -/
def SetupRequest.id (req : SetupRequest) : NodeId := ⟨req.msg.id, req.wire⟩

/-- A node that was decoded has an id of the wire. -/
theorem onWire_of_dec {m : Procedure E2SetupRequestValue} {req : E2SetupRequest}
    (h : e2apDecSetupRequest m = next req) : OnWire req.id := by
  obtain ⟨v, n, rest, -, -, -, hid, -⟩ := e2apDecSetupRequest_eq_next.mp h
  exact onWire_of_decGlobalE2NodeId hid

/-- `e2ap_msg_dec_ric` of a setup request. -/
def decSetupRequest (m : Procedure E2SetupRequestValue) : Outcome SetupRequest :=
  match h : e2apDecSetupRequest m with
  | next req =>
    have hreq := within_of_dec h
    next ⟨req, onWire_of_dec h, hreq.1, hreq.2.1, hreq.2.2⟩
  | abort msg => abort msg
  | blocked => blocked

/-- A request is decoded, and its names are kept. -/
theorem decSetupRequest_eq_next {m : Procedure E2SetupRequestValue} {req : SetupRequest} :
    decSetupRequest m = next req ↔ e2apDecSetupRequest m = next req.msg := by
  obtain ⟨msg, wire, lenRf, lenCca, typed⟩ := req
  unfold decSetupRequest
  split <;> simp_all

theorem decSetupRequest_ne_blocked (m : Procedure E2SetupRequestValue) :
    decSetupRequest m ≠ blocked := by
  have := e2apDecSetupRequest_ne_blocked m
  unfold decSetupRequest
  split <;> simp_all

/-- **The acceptable requests**, as they are handled. -/
theorem acceptable_iff_handled {m : Procedure E2SetupRequestValue} :
    acceptable plugin m = true ↔
      ∃ req, decSetupRequest m = next req ∧ Answerable plugin req.msg := by
  rw [acceptable_iff]
  constructor
  · rintro ⟨req, hdec, hans⟩
    have hreq := within_of_dec hdec
    exact ⟨⟨req, onWire_of_dec hdec, hreq.1, hreq.2.1, hreq.2.2⟩,
      decSetupRequest_eq_next.mpr hdec, hans⟩
  · rintro ⟨req, hdec, hans⟩
    exact ⟨req.msg, decSetupRequest_eq_next.mp hdec, hans⟩

end FlexRic
