import FlexRic.Codec.RicTypes
import FlexRic.Ds.Keys
import FlexRic.Lib.Compare

/-!
# FlexRic.Codec.MessageValues

The copies, releases and comparisons of E2AP messages (`lib/e2ap/v2_03/e2ap_types` and
`lib/e2ap/v2_03/free`), and the array of the registered nodes
(`lib/msg_hand/reg_e2_nodes.c`).

* `IdCopied`: the component ids that can be copied; what was registered has no others.
* `generateE2NodeArr` asserts that every node has 1 to 255 components.
* `cp_e2_node_connected` does not set the number of node components, so that the copy has none;
  `free_e2_node_connected` asserts that there are some.
* `eq_e2_setup_response` compares the first two acknowledgements, once for each of them.
* `eq_ric_subsequent_action` reads the second time to wait where the first one is there.
* There is no copy of a setup response, nor of a subscription request.
-/

namespace FlexRic.Codec

open Outcome

/-! ## Copies -/

/-- `cp_ran_function`. -/
def cpRanFunction (src : RanFunction) : RanFunction := ⟨src.defn, src.id, src.rev, src.oid⟩

/-- `supported_type`. -/
def supportedType : NodeCompInterfaceType → Bool
  | .ng | .f1 | .e1 | .s1 => true
  | _ => false

/-- `cp_e2ap_node_comp_id`. -/
def cpE2apNodeCompId (src : NodeCompId) : Outcome NodeCompId := do
  assert (supportedType src.type) "Only these types supported"
  match src with
  | .f1 gnbDuId => do
    assert (gnbDuId < 68719476736) "src->f1_gnb_du_id < (1UL << 36)"
    return .f1 gnbDuId
  | id => return id

/-- `cp_e2ap_node_component_config_add`. -/
def cpE2apNodeComponentConfigAdd (src : NodeComponentConfigAdd) :
    Outcome NodeComponentConfigAdd := do
  let id ← cpE2apNodeCompId src.id
  return ⟨src.interfaceType, id, src.request, src.response⟩

/-- A component id `cp_e2ap_node_comp_id` copies. -/
def IdCopied : NodeCompId → Prop
  | .ng _ | .s1 _ | .e1 _ => True
  | .f1 id => id < 68719476736
  | .xn | .w1 _ | .x2 => False

instance : DecidablePred IdCopied := fun id =>
  match id with
  | .ng _ | .s1 _ | .e1 _ => .isTrue trivial
  | .f1 id => inferInstanceAs (Decidable (id < 68719476736))
  | .xn | .w1 _ | .x2 => .isFalse not_false

/-- The copy of a component id is the id. -/
theorem cpE2apNodeCompId_eq_next {id id' : NodeCompId} :
    cpE2apNodeCompId id = next id' ↔ IdCopied id ∧ id = id' := by
  cases id <;> simp [cpE2apNodeCompId, supportedType, NodeCompId.type, IdCopied]

/-- The copy of a component is the component. -/
theorem cpE2apNodeComponentConfigAdd_eq_next {c c' : NodeComponentConfigAdd} :
    cpE2apNodeComponentConfigAdd c = next c' ↔ IdCopied c.id ∧ c = c' := by
  simp only [cpE2apNodeComponentConfigAdd, bind_eq_next, cpE2apNodeCompId_eq_next, pure_eq,
    next_inj]
  constructor
  · rintro ⟨_, ⟨hc, rfl⟩, rfl⟩
    exact ⟨hc, rfl⟩
  · rintro ⟨hc, rfl⟩
    exact ⟨_, ⟨hc, rfl⟩, rfl⟩

/-- The copies of components are the components. -/
theorem walk_cpE2apNodeComponentConfigAdd_eq_next {cs cs' : List NodeComponentConfigAdd} :
    walk cpE2apNodeComponentConfigAdd cs = next cs' ↔ (∀ c ∈ cs, IdCopied c.id) ∧ cs = cs' := by
  rw [walk_eq_next_iff_map (P := fun c : NodeComponentConfigAdd => IdCopied c.id) (g := id)
    fun _ _ => cpE2apNodeComponentConfigAdd_eq_next, List.map_id]

/-- `cp_e2_node_connected`: `dst.len_cca` stays 0. -/
def cpE2NodeConnected (src : E2NodeConnected) : Outcome E2NodeConnected := do
  assert (0 < src.cca.length) "src->len_cca > 0"
  let lenCca := 0
  let cca ← walk cpE2apNodeComponentConfigAdd (src.cca.take lenCca)
  return ⟨cpGlobalE2NodeId src.id, cca, src.ackRf.map cpRanFunction⟩

/-- `cp_e42_setup_response`. -/
def cpE42SetupResponse (src : E42SetupResponse) : Outcome E42SetupResponse := do
  let nodes ← walk cpE2NodeConnected src.nodes
  return ⟨src.xappId, nodes⟩

/-- `cp_ric_action_not_admitted`. -/
def cpRicActionNotAdmitted (src : RicActionNotAdmitted) : RicActionNotAdmitted :=
  ⟨src.ricActId, src.cause⟩

/-- `cp_ric_subscription_respponse`. -/
def cpRicSubscriptionRespponse (src : RicSubscriptionResponse) : RicSubscriptionResponse :=
  ⟨src.ricId, src.admitted, src.notAdmitted.map cpRicActionNotAdmitted⟩

/-! ## The registered nodes -/

/-- `cp_cca`. -/
def cpCca (cca : List NodeComponentConfigAdd) : Outcome (List NodeComponentConfigAdd) := do
  assert (0 < cca.length && cca.length < 256) "sz_cca > 0 && sz_cca < 256"
  walk cpE2apNodeComponentConfigAdd cca

/-- `generate_e2_node_arr`.  The length is a `uint8_t`: with more nodes the array
is too short for the loop that fills it. -/
def generateE2NodeArr (nodes : List E2NodeConnected) : Outcome (List E2NodeConnected) := do
  assert (nodes.length < 256) "dst.n[i]"
  walk (fun n => do
    let cca ← cpCca n.cca
    return ⟨cpGlobalE2NodeId n.id, cca, n.ackRf.map cpRanFunction⟩) nodes

/-- A node whose components go into the array. -/
def Arrayed (n : E2NodeConnected) : Prop :=
  (0 < n.cca.length ∧ n.cca.length < 256) ∧ ∀ c ∈ n.cca, IdCopied c.id

instance : DecidablePred Arrayed := fun n =>
  inferInstanceAs (Decidable ((0 < n.cca.length ∧ n.cca.length < 256) ∧ ∀ c ∈ n.cca, IdCopied c.id))

theorem map_cpRanFunction (fs : List RanFunction) : fs.map cpRanFunction = fs :=
  List.map_id' fs

/-- **The array has the nodes as they were registered**, and is made of fewer than 256 nodes with
1 to 255 components each. -/
theorem generateE2NodeArr_eq_next {nodes arr : List E2NodeConnected} :
    generateE2NodeArr nodes = next arr ↔
      nodes.length < 256 ∧ (∀ n ∈ nodes, Arrayed n) ∧ arr = nodes := by
  have hnode (n m : E2NodeConnected) :
      (do let cca ← cpCca n.cca
          return (⟨cpGlobalE2NodeId n.id, cca, n.ackRf.map cpRanFunction⟩ : E2NodeConnected)) =
        next m ↔ Arrayed n ∧ n = m := by
    simp only [cpCca, bind_eq_next, assert_eq_next, Bool.and_eq_true, decide_eq_true_eq,
      walk_cpE2apNodeComponentConfigAdd_eq_next, cpGlobalE2NodeId, map_cpRanFunction, pure_eq,
      next_inj]
    constructor
    · rintro ⟨_, ⟨-, hlen, hcopied, rfl⟩, rfl⟩
      exact ⟨⟨hlen, hcopied⟩, rfl⟩
    · rintro ⟨⟨hlen, hcopied⟩, rfl⟩
      exact ⟨_, ⟨⟨⟩, hlen, hcopied, rfl⟩, rfl⟩
  simp only [generateE2NodeArr, bind_eq_next, assert_eq_next, decide_eq_true_eq, exists_const]
  rw [walk_eq_next_iff_map (g := id) hnode, List.map_id, eq_comm]

/-! ## Releases -/

/-- `free_e2ap_node_comp_id`. -/
def freeE2apNodeCompId (src : NodeCompId) : Outcome PUnit.{1} :=
  assert (supportedType src.type) "Only these types supported"

/-- `free_e2_node_connected`; the other parts are released without an assertion. -/
def freeE2NodeConnected (src : E2NodeConnected) : Outcome PUnit.{1} := do
  assert (0 < src.cca.length) "src->len_cca > 0"
  each (fun cca => freeE2apNodeCompId cca.id) src.cca

/-- `e2ap_free_e42_setup_response`. -/
def freeE42SetupResponse (src : E42SetupResponse) : Outcome PUnit.{1} :=
  each freeE2NodeConnected src.nodes

/-- `e2ap_free_subscription_response`. -/
def freeSubscriptionResponse (_ : RicSubscriptionResponse) : Outcome PUnit.{1} := return ⟨⟩

/-! ## Comparisons -/

/-- `eq_ran_function`. -/
def eqRanFunction (m0 m1 : RanFunction) : Bool :=
  m0.defn == m1.defn && m0.id == m1.id && m0.rev == m1.rev && m0.oid == m1.oid

/-- The end of `eq_e2ap_node_comp_id`. -/
def eqNodeCompIdUnion : NodeCompId → NodeCompId → Outcome Bool
  | .ng n0, .ng n1 => return n0 == n1
  | .f1 id0, .f1 id1 => do
    assert (id0 < 68719476736 && id1 < 68719476736) "m0->f1_gnb_du_id < (1UL << 36)"
    return id0 == id1
  | .e1 id0, .e1 id1 => do
    assert (id0 < 68719476736 && id1 < 68719476736) "m0->e1_gnb_cu_up_id < (1UL << 36)"
    return id0 == id1
  | .s1 n0, .s1 n1 => return n0 == n1
  | _, _ => .abort "Unknown type"

/-- `eq_e2ap_node_comp_id`. -/
def eqE2apNodeCompId (m0 m1 : NodeCompId) : Outcome Bool := do
  assert (supportedType m0.type && supportedType m1.type) "Only these types supported"
  if m0.type = m1.type then eqNodeCompIdUnion m0 m1 else return false

/-- `eq_e2ap_node_component_config_add`. -/
def eqE2apNodeComponentConfigAdd (m0 m1 : NodeComponentConfigAdd) : Outcome Bool :=
  both (.next (m0.interfaceType == m1.interfaceType)) <|
    both (eqE2apNodeCompId m0.id m1.id) <|
      .next (m0.request == m1.request && m0.response == m1.response)

/-- `eq_e2_node_connected`. -/
def eqE2NodeConnected (m0 m1 : E2NodeConnected) : Outcome Bool :=
  both (.next (eqGlobalE2NodeId m0.id m1.id)) do
    assert (decide (0 < m0.cca.length) && decide (0 < m1.cca.length))
      "m0->len_cca > 0 && m1->len_cca > 0"
    both (allEq eqE2apNodeComponentConfigAdd m0.cca m1.cca) <|
      allEq (fun a b => .next (eqRanFunction a b)) m0.ackRf m1.ackRf

/-- `eq_e42_setup_response`. -/
def eqE42SetupResponse (m0 m1 : E42SetupResponse) : Outcome Bool :=
  both (.next (m0.xappId == m1.xappId)) (allEq eqE2NodeConnected m0.nodes m1.nodes)

/-- `eq_rejected_ran_function`. -/
def eqRejectedRanFunction (m0 m1 : RejectedRanFunction) : Bool :=
  m0.id == m1.id && m0.cause == m1.cause

/-- `eq_global_ric_id`. -/
def eqGlobalRicId (m0 m1 : GlobalRicId) : Bool :=
  m0.plmn == m1.plmn && m0.doubleWord == m1.doubleWord

/-- `eq_e2ap_node_component_config_add_ack`. -/
def eqE2apNodeComponentConfigAddAck (m0 m1 : NodeCompConfigAddAck) : Outcome Bool :=
  both (.next (m0.interfaceType == m1.interfaceType)) <|
    both (eqE2apNodeCompId m0.id m1.id) <|
      both (.next (m0.outcome == m1.outcome)) do
        assert (m0.cause.isNone && m1.cause.isNone) "Not implemented"
        return true

/-- The last loop of `eq_e2_setup_response`: the first two, as often as it says. -/
def eqFirst {α : Type} (eq : α → α → Outcome Bool) (xs ys : List α) : Nat → Outcome Bool
  | 0 => return true
  | n + 1 =>
    match xs, ys with
    | x :: _, y :: _ => both (eq x y) (eqFirst eq xs ys n)
    | _, _ => .abort "read behind the array"

/-- `eq_e2_setup_response`. -/
def eqE2SetupResponse (m0 m1 : E2SetupResponse) : Outcome Bool :=
  both (.next (m0.transId == m1.transId && eqGlobalRicId m0.id m1.id &&
      m0.accepted == m1.accepted)) <|
    both (allEq (fun a b => .next (eqRejectedRanFunction a b)) m0.rejected m1.rejected) <|
      both (.next (m0.compConfigAddAck.length == m1.compConfigAddAck.length)) <|
        eqFirst eqE2apNodeComponentConfigAddAck m0.compConfigAddAck m1.compConfigAddAck
          m0.compConfigAddAck.length

/-- `eq_ric_subsequent_action`: no time to wait and none, or one that is read if the first is
there. -/
def eqRicSubsequentAction (m0 m1 : RicSubsequentAction) : Outcome Bool :=
  both (.next (m0.type == m1.type))
    (match m0.timeToWaitMs, m1.timeToWaitMs with
    | none, none => .next true
    | none, some _ => .next false
    | some _, none => .abort "*m1->time_to_wait_ms"
    | some t0, some t1 => .next (t0 == t1))

/-- `eq_ric_action`. -/
def eqRicAction (m0 m1 : RicAction) : Outcome Bool :=
  both (.next (m0.id == m1.id && m0.type == m1.type && m0.definition == m1.definition))
    (match m0.subseqAction, m1.subseqAction with
    | none, none => .next true
    | some a0, some a1 => eqRicSubsequentAction a0 a1
    | _, _ => .next false)

/-- `eq_ric_subscritption_request`. -/
def eqRicSubscritptionRequest (m0 m1 : RicSubscriptionRequest) : Outcome Bool :=
  both (.next (m0.ricId == m1.ricId && m0.eventTrigger == m1.eventTrigger))
    (allEq eqRicAction m0.action m1.action)

/-- `eq_ric_action_not_admitted`. -/
def eqRicActionNotAdmitted (m0 m1 : RicActionNotAdmitted) : Bool :=
  m0.ricActId == m1.ricActId && m0.cause == m1.cause

/-- `eq_ric_subscritption_response`. -/
def eqRicSubscritptionResponse (m0 m1 : RicSubscriptionResponse) : Outcome Bool :=
  both (.next (m0.ricId == m1.ricId)) <|
    both (allEq (fun a b => .next (a == b)) m0.admitted m1.admitted) <|
      allEq (fun a b => .next (eqRicActionNotAdmitted a b)) m0.notAdmitted m1.notAdmitted

end FlexRic.Codec
