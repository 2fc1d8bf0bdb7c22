import FlexRic.IApp.Tables
import FlexRic.Lib.Count
import FlexRic.Ric.SetupRequests

/-!
# FlexRic.Ric.Nodes

The three registries of E2 nodes in the near-RT RIC: the socket addresses of
the endpoint (`map_e2_node_sockaddr.c`), the list `conn_e2_nodes`, and the
table of the iApp (`reg_e2_nodes.c`).

A setup request is handled by a task of the task manager, any number of
them at a time: `sctp_msg_arrived_event` decodes it and enters the address, then
`e2ap_handle_setup_request_ric` enters the node into the iApp, accepts its
RAN functions and lists it.  A shutdown is handled in the event loop by
`notification_handle_ric`, which takes the node out of the three in the same
order.  Each registry has its own lock, so the two interleave between these
steps.

* `Ok`: which registries a node is in, counted against the tasks and the
  removal in progress;
* `Ok.step`: every step that meets `Cond` keeps it.
-/

namespace FlexRic

/-- `e2_node_t`. -/
structure E2Node where
  id : NodeId
  accepted : List UInt16
  deriving DecidableEq

/-- `pair_rf_cca_t`. -/
structure RfCca where
  ranFunc : List RanFunction
  compConfAdd : List NodeComponentConfigAdd
  deriving DecidableEq

/-! ## The registries -/

/-- `map_e2_node_sockaddr_t` without its lock. -/
abbrev MapE2NodeSockaddr := Bimap NodeId SctpInfo

/-- `reg_e2_nodes_t` without its lock. -/
abbrev RegE2Nodes := OrdAssoc NodeId RfCca

/-- `add_map_e2_node_sad`; the tests for a known node or address are
compiled for debugging only. -/
def addMapE2NodeSad (m : MapE2NodeSockaddr) (id : NodeId) (s : SctpInfo) :
    Outcome MapE2NodeSockaddr :=
  Bimap.insert cmpNodeId cmpSctpInfo m id s

/-- `rm_map_sad_e2_node`. -/
def rmMapSadE2Node (m : MapE2NodeSockaddr) (s : SctpInfo) (picks : Picks) :
    Outcome (NodeId × MapE2NodeSockaddr) :=
  Bimap.extractRight cmpNodeId cmpSctpInfo m s picks

/-- `add_reg_e2_node`; the copy of a component asserts its type and the id of an F1 one. -/
def addRegE2Node (i : RegE2Nodes) (req : SetupRequest) : Outcome RegE2Nodes := do
  .assert (decide (0 < req.msg.ranFuncItem.length)) "len_rf > 0"
  .assert (decide (0 < req.msg.compConfAdd.length)) "len_cca > 0"
  let cca ← Outcome.walk Codec.cpE2apNodeComponentConfigAdd req.msg.compConfAdd
  .assert (OrdAssoc.findIf (eqNodeId req.id) i).isNone "Trying to add an already existing E2 Node"
  return OrdAssoc.insert cmpNodeId req.id ⟨req.msg.ranFuncItem.map Codec.cpRanFunction, cca⟩ i

/-- `rm_reg_e2_node`. -/
def rmRegE2Node (n : RegE2Nodes) (id : NodeId) : Outcome RegE2Nodes := do
  .assert (OrdAssoc.findIf (eqNodeId id) n).isSome "Not registed e2 Node passed"
  return n.eraseP fun e => eqNodeId id e.1

/-- The removal of the node from `conn_e2_nodes`. -/
def unlistE2Node (conn : List E2Node) (id : NodeId) : Outcome (List E2Node) := do
  .assert (conn.any fun n => eqNodeId id n.id) "E2 Node not found!"
  return conn.eraseP fun n => eqNodeId id n.id

/-! ## The RIC -/

/-- How far the task of a setup request has come. -/
inductive SetupPhase where
  | arrived
  | registered
  | added
  deriving DecidableEq

/-- The address of the node is entered. -/
def SetupPhase.sad : SetupPhase → Bool
  | arrived => false
  | registered => true
  | added => true

/-- The node is entered into the iApp. -/
def SetupPhase.reg : SetupPhase → Bool
  | arrived => false
  | registered => false
  | added => true

structure SetupTask where
  req : SetupRequest
  info : SctpInfo
  phase : SetupPhase
  deriving DecidableEq

/-- How far the event loop has come with a shutdown. -/
inductive Removal where
  | idle
  | unlisting (id : NodeId)
  | unregistering (id : NodeId)
  deriving DecidableEq

structure NodesSys where
  /-- the RAN functions of the loaded service models -/
  plugin : List UInt16
  e2Nodes : MapE2NodeSockaddr
  connE2Nodes : List E2Node
  regE2Nodes : RegE2Nodes
  tasks : List SetupTask
  loop : Removal
  deriving DecidableEq

inductive NodesEvent where
  /-- the loop receives a setup request and hands it to a task, which decodes it -/
  | arrive (m : Procedure E2SetupRequestValue) (info : SctpInfo)
  /-- the `k`-th task calls `e2ap_reg_sock_addr_ric` -/
  | register (k : Nat)
  /-- the `k`-th task calls `add_e2_node_iapp_api` -/
  | add (k : Nat)
  /-- the `k`-th task generates the response, lists the node, encodes the response and returns -/
  | respond (k : Nat)
  /-- the loop receives a shutdown and takes the address out -/
  | shutdown (info : SctpInfo) (picks : Picks)
  | unlist
  | unregister
  deriving DecidableEq

namespace NodesSys

def init (plugin : List UInt16) : NodesSys := ⟨plugin, .empty, [], [], [], .idle⟩

/-- `e2ap_reg_sock_addr_ric` by the `k`-th task. -/
def register (s : NodesSys) (k : Nat) (t : SetupTask) : Outcome NodesSys := do
  let e2Nodes ← addMapE2NodeSad s.e2Nodes t.req.id t.info
  return { s with e2Nodes, tasks := s.tasks.set k { t with phase := .registered } }

/-- `add_e2_node_iapp_api` by the `k`-th task. -/
def add (s : NodesSys) (k : Nat) (t : SetupTask) : Outcome NodesSys := do
  let regE2Nodes ← addRegE2Node s.regE2Nodes t.req
  return { s with regE2Nodes, tasks := s.tasks.set k { t with phase := .added } }

/-- The rest of `e2ap_handle_setup_request_ric` by the `k`-th task, and the encoding of its
answer. -/
def respond (s : NodesSys) (k : Nat) (t : SetupTask) : Outcome NodesSys := do
  let sr ← generateSetupResponse s.plugin t.req.msg
  let _ ← encSetupResponse sr
  return { s with
    connE2Nodes := s.connE2Nodes ++ [⟨t.req.id, sr.accepted⟩]
    tasks := s.tasks.eraseIdx k }

def step (s : NodesSys) : NodesEvent → Outcome NodesSys
  | .arrive m info => do
    .await (s.loop == .idle)
    let req ← decSetupRequest m
    return { s with tasks := s.tasks ++ [⟨req, info, .arrived⟩] }
  | .register k =>
    match s.tasks[k]? with
    | some t@⟨_, _, .arrived⟩ => s.register k t
    | _ => .blocked
  | .add k =>
    match s.tasks[k]? with
    | some t@⟨_, _, .registered⟩ => s.add k t
    | _ => .blocked
  | .respond k =>
    match s.tasks[k]? with
    | some t@⟨_, _, .added⟩ => s.respond k t
    | _ => .blocked
  | .shutdown info picks => do
    .await (s.loop == .idle)
    let (id, e2Nodes) ← rmMapSadE2Node s.e2Nodes info picks
    return { s with e2Nodes, loop := .unlisting id }
  | .unlist =>
    match s.loop with
    | .unlisting id => do
      let connE2Nodes ← unlistE2Node s.connE2Nodes id
      return { s with connE2Nodes, loop := .unregistering id }
    | _ => .blocked
  | .unregister =>
    match s.loop with
    | .unregistering id => do
      let regE2Nodes ← rmRegE2Node s.regE2Nodes id
      return { s with regE2Nodes, loop := .idle }
    | _ => .blocked

def machine (plugin : List UInt16) : Machine NodesSys NodesEvent := ⟨init plugin, step⟩

variable {s s' : NodesSys} {id x : NodeId} {k : Nat} {t : SetupTask} {plugin : List UInt16}

/-! ## What is where -/

/-- The nodes with an address. -/
def sadIds (s : NodesSys) : List NodeId := s.e2Nodes.left.map (·.1)

/-- The nodes in `conn_e2_nodes`. -/
def connIds (s : NodesSys) : List NodeId := s.connE2Nodes.map (·.id)

/-- The nodes in the iApp's table. -/
def regIds (s : NodesSys) : List NodeId := s.regE2Nodes.map (·.1)

/-- The tasks for a node. -/
def inTasks (s : NodesSys) (id : NodeId) : Nat := s.tasks.countP fun t => t.req.id == id

/-- The tasks that have entered the address of the node. -/
def inSad (s : NodesSys) (id : NodeId) : Nat :=
  s.tasks.countP fun t => t.phase.sad && t.req.id == id

/-- The tasks that have entered the node into the iApp. -/
def inReg (s : NodesSys) (id : NodeId) : Nat :=
  s.tasks.countP fun t => t.phase.reg && t.req.id == id

/-- The loop is about to take the node off `conn_e2_nodes`. -/
def unlisting (s : NodesSys) (id : NodeId) : Nat := (s.loop == .unlisting id).toNat

/-- The loop is about to take the node out of the iApp. -/
def unregistering (s : NodesSys) (id : NodeId) : Nat := (s.loop == .unregistering id).toNat

/-- The node of the request is not known, and it is not being set up. -/
def NewNode (s : NodesSys) (req : SetupRequest) : Prop :=
  req.id ∉ s.connIds ∧ ∀ t ∈ s.tasks, t.req.id ≠ req.id

instance (s : NodesSys) (req : SetupRequest) : Decidable (NewNode s req) :=
  inferInstanceAs (Decidable (_ ∧ _))

/-- The RIC does what it should with a setup request and with a shutdown: the request is
acceptable and for a new node; the association is the one of a node, and of no node being set
up. -/
def Cond (s : NodesSys) : NodesEvent → Prop
  | .arrive m _ =>
    acceptable s.plugin m = true ∧ ∀ req ∈ (decSetupRequest m).toOption, NewNode s req
  | .shutdown info _ =>
    (∃ e ∈ s.e2Nodes.right, cmpSctpInfo info e.1 = 0) ∧
      ∀ t ∈ s.tasks, t.phase.sad = true → cmpSctpInfo info t.info ≠ 0
  | _ => True

instance (s : NodesSys) : (e : NodesEvent) → Decidable (Cond s e)
  | .arrive m _ =>
    inferInstanceAs (Decidable (acceptable s.plugin m = true ∧
      ∀ req ∈ (decSetupRequest m).toOption, NewNode s req))
  | .shutdown info _ =>
    inferInstanceAs (Decidable ((∃ e ∈ s.e2Nodes.right, cmpSctpInfo info e.1 = 0) ∧
      ∀ t ∈ s.tasks, t.phase.sad = true → cmpSctpInfo info t.info ≠ 0))
  | .register _ | .add _ | .respond _ | .unlist | .unregister => isTrue trivial

/-- What the condition says of the request that is decoded. -/
theorem Cond.requested {m : Procedure E2SetupRequestValue} {info : SctpInfo} {req : SetupRequest}
    (hc : Cond s (.arrive m info)) (hdec : decSetupRequest m = .next req) :
    Answerable s.plugin req.msg ∧ NewNode s req := by
  obtain ⟨req', hdec', hans⟩ := acceptable_iff_handled.mp hc.1
  obtain rfl := Outcome.next_inj.mp (hdec.symm.trans hdec')
  exact ⟨hans, hc.2 req (Outcome.toOption_eq_some.mpr hdec)⟩

/-- Each node is in the three registries, but for what the tasks and the
removal in progress have done to them, and at most once. -/
structure Ok (s : NodesSys) : Prop where
  mirror : Bimap.Mirror s.e2Nodes.left s.e2Nodes.right
  sad : ∀ id, s.sadIds.count id + s.unlisting id = s.connIds.count id + s.inSad id
  reg : ∀ id, s.regIds.count id = s.connIds.count id + s.inReg id + s.unregistering id
  once : ∀ id, s.connIds.count id + s.unregistering id + s.inTasks id ≤ 1
  listed : ∀ id, s.loop = .unlisting id → id ∈ s.connIds
  addressed : ∀ t ∈ s.tasks, t.phase.sad = true → (t.req.id, t.info) ∈ s.e2Nodes.left
  answerable : ∀ t ∈ s.tasks, Answerable s.plugin t.req.msg

/-- **At the start** the registries are empty. -/
theorem Ok.init (plugin : List UInt16) : Ok (init plugin) where
  mirror := .nil
  sad _ := rfl
  reg _ := rfl
  once _ := Nat.zero_le 1
  listed _ h := by cases h
  addressed _ h := absurd h List.not_mem_nil
  answerable _ h := absurd h List.not_mem_nil

/-! ### Reading the counts -/

/-- Only tasks of a node have entered its address. -/
theorem inSad_le (s : NodesSys) (id : NodeId) : s.inSad id ≤ s.inTasks id := by
  refine List.countP_mono_left fun t _ h => ?_
  exact (Bool.and_eq_true_iff.mp h).2

/-- Only tasks of a node have registered it. -/
theorem inReg_le (s : NodesSys) (id : NodeId) : s.inReg id ≤ s.inTasks id := by
  refine List.countP_mono_left fun t _ h => ?_
  exact (Bool.and_eq_true_iff.mp h).2

/-- A node that is being set up is counted. -/
theorem inTasks_pos (ht : t ∈ s.tasks) : 0 < s.inTasks t.req.id :=
  List.countP_pos_iff.mpr ⟨t, ht, beq_self_eq_true _⟩

/-- The table of addresses has no node twice. -/
theorem Ok.nodup_sad (h : Ok s) : s.sadIds.Nodup := by
  refine List.nodup_iff_count.mpr fun id => ?_
  have hsad := h.sad id
  have honce := h.once id
  have hle := s.inSad_le id
  omega

/-- The list of connected nodes has no node twice. -/
theorem Ok.nodup_conn (h : Ok s) : s.connIds.Nodup := by
  refine List.nodup_iff_count.mpr fun id => ?_
  have honce := h.once id
  omega

/-- The registry has no node twice. -/
theorem Ok.nodup_reg (h : Ok s) : s.regIds.Nodup := by
  refine List.nodup_iff_count.mpr fun id => ?_
  have hreg := h.reg id
  have honce := h.once id
  have hle := s.inReg_le id
  omega

/-- The tree has no two equal keys. -/
theorem Ok.distinct_left (h : Ok s) : OrdAssoc.Distinct cmpNodeId s.e2Nodes.left := by
  refine (List.pairwise_map.mp h.nodup_sad).imp fun hne heq => ?_
  exact hne (cmpNodeId_eq_zero.mp heq)

/-- A task alone on its node finds nobody else there. -/
theorem Ok.alone (h : Ok s) (ht : t ∈ s.tasks) :
    s.connIds.count t.req.id = 0 ∧ s.unregistering t.req.id = 0 ∧ s.inTasks t.req.id = 1 := by
  have honce := h.once t.req.id
  have hpos := inTasks_pos ht
  omega

/-- An address the loop may take out belongs to a listed node that no task
works on. -/
theorem Ok.settled_of_cond (h : Ok s) {info b : SctpInfo} (hb : cmpSctpInfo info b = 0)
    (hmem : (id, b) ∈ s.e2Nodes.left)
    (hcond : ∀ t ∈ s.tasks, t.phase.sad = true → cmpSctpInfo info t.info ≠ 0) :
    s.inSad id = 0 := by
  refine List.countP_eq_zero.mpr fun t ht hp => ?_
  simp only [Bool.and_eq_true, beq_iff_eq] at hp
  have hadr := h.addressed t ht hp.1
  have heq := h.distinct_left.eq_of_mem lawful_cmpNodeId hadr hmem (cmpNodeId_eq_zero.mpr hp.2)
  exact hcond t ht hp.1 ((Prod.mk.inj heq).2 ▸ hb)

/-! ## Steps -/

/-- One entry more. -/
theorem count_keys_insert {ν : Type} {v : ν} {l : OrdAssoc NodeId ν} :
    ((OrdAssoc.insert cmpNodeId id v l).map (·.1)).count x =
      (l.map (·.1)).count x + (id == x).toNat := by
  rw [((OrdAssoc.insert_perm cmpNodeId id v l).map _).count_eq, List.map_cons, List.count_cons]
  cases id == x <;> rfl

/-- What is registered of a request: the functions and the components it came with. -/
theorem addRegE2Node_eq_next {i i' : RegE2Nodes} {req : SetupRequest}
    (h : addRegE2Node i req = .next i') :
    i' = OrdAssoc.insert cmpNodeId req.id
      ⟨req.msg.ranFuncItem.map Codec.cpRanFunction, req.msg.compConfAdd⟩ i := by
  simp only [addRegE2Node, Outcome.bind_eq_next, Outcome.assert_eq_next, Outcome.pure_eq,
    Outcome.next_inj, Codec.walk_cpE2apNodeComponentConfigAdd_eq_next] at h
  obtain ⟨-, -, -, -, _, ⟨-, rfl⟩, -, -, rfl⟩ := h
  rfl

/-- **Setup, first step**: a new node arrives. -/
theorem Ok.arrive (h : Ok s) {req : SetupRequest} {info : SctpInfo} (hidle : s.loop = .idle)
    (hacc : Answerable s.plugin req.msg) (hnew : NewNode s req) :
    Ok { s with tasks := s.tasks ++ [⟨req, info, .arrived⟩] } := by
  obtain ⟨hconn, hnew⟩ := hnew
  refine ⟨h.mirror, fun x => ?_, fun x => ?_, fun x => ?_, h.listed, ?_, ?_⟩
  · have := h.sad x
    simpa [inSad, sadIds, connIds, unlisting, SetupPhase.sad] using this
  · have := h.reg x
    simpa [inReg, regIds, connIds, unregistering, SetupPhase.reg] using this
  · have honce := h.once x
    have hx : s.unregistering x = 0 := by simp [unregistering, hidle]
    simp only [inTasks, List.countP_append, List.countP_singleton]
    split
    · rename_i heq
      obtain rfl := beq_iff_eq.mp heq
      have hno : s.inTasks req.id = 0 := List.countP_eq_zero.mpr fun t ht => by
        rw [beq_iff_eq]
        exact hnew t ht
      have hzero := List.count_eq_zero.mpr hconn
      simp only [connIds, unregistering, inTasks] at *
      omega
    · exact honce
  · intro t ht hp
    obtain ht | ht := List.mem_append.mp ht
    · exact h.addressed t ht hp
    · rw [List.mem_singleton.mp ht] at hp
      cases hp
  · intro t ht
    obtain ht | ht := List.mem_append.mp ht
    · exact h.answerable t ht
    · rw [List.mem_singleton.mp ht]
      exact hacc

/-- What a step of a task changes in the counts. -/
theorem counts_set {p : SetupPhase} (s' : NodesSys) (hk : s.tasks[k]? = some t)
    (hs : s'.tasks = s.tasks.set k { t with phase := p }) (x : NodeId) :
    s'.inTasks x = s.inTasks x ∧
      s'.inSad x + (t.phase.sad && t.req.id == x).toNat =
        s.inSad x + (p.sad && t.req.id == x).toNat ∧
      s'.inReg x + (t.phase.reg && t.req.id == x).toNat =
        s.inReg x + (p.reg && t.req.id == x).toNat := by
  have hall := countP_set_add (b := { t with phase := p }) (p := fun t => t.req.id == x) hk
  have hsad := countP_set_add (b := { t with phase := p })
    (p := fun t => t.phase.sad && t.req.id == x) hk
  have hreg := countP_set_add (b := { t with phase := p })
    (p := fun t => t.phase.reg && t.req.id == x) hk
  rw [← hs] at hall hsad hreg
  exact ⟨Nat.add_right_cancel hall, hsad, hreg⟩

/-- A step of a task leaves everything else about the tasks as it was. -/
theorem forall_set {p : SetupPhase} {P : SetupTask → Prop} (hall : ∀ t ∈ s.tasks, P t)
    (hnew : P { t with phase := p }) : ∀ t' ∈ s.tasks.set k { t with phase := p }, P t' := by
  intro t' ht'
  obtain hold | rfl := List.mem_or_eq_of_mem_set ht'
  · exact hall t' hold
  · exact hnew

/-- **Setup, second step**: the address of the node is entered. -/
theorem Ok.register (h : Ok s) (hk : s.tasks[k]? = some t) (hphase : t.phase = .arrived)
    (hs : s.register k t = .next s') : Ok s' := by
  simp only [NodesSys.register, addMapE2NodeSad, Bimap.insert_eq lawful_cmpNodeId lawful_cmpSctpInfo,
    Outcome.next_bind, Outcome.pure_eq, Outcome.next_inj] at hs
  have hcounts := counts_set (p := .registered) s' hk (by rw [← hs])
  simp only [hphase, SetupPhase.sad, SetupPhase.reg, Bool.true_and, Bool.false_and,
    Bool.toNat_false, Nat.add_zero] at hcounts
  have hsadIds (x) : s'.sadIds.count x = s.sadIds.count x + (t.req.id == x).toNat := by
    rw [← hs]
    exact count_keys_insert
  subst hs
  refine ⟨h.mirror.insert, fun x => ?_, fun x => ?_, fun x => ?_, h.listed, ?_, ?_⟩
  · have hin := (hcounts x).2.1
    rw [hsadIds]
    have hsad : s.sadIds.count x + s.unlisting x = s.connIds.count x + s.inSad x := h.sad x
    change _ + s.unlisting x = s.connIds.count x + _
    omega
  · have hreg := h.reg x
    have hin := (hcounts x).2.2
    change s.regIds.count x = s.connIds.count x + _ + s.unregistering x
    omega
  · have honce := h.once x
    rw [(hcounts x).1]
    exact honce
  · refine forall_set ?_ ?_
    · intro t ht hp
      exact Bimap.mem_inserted_left.mpr (.inr (h.addressed t ht hp))
    · exact fun _ => Bimap.mem_inserted_left.mpr (.inl rfl)
  · exact forall_set h.answerable (h.answerable t (List.mem_of_getElem? hk))

/-- **Setup, third step**: the node is added to the registry. -/
theorem Ok.add (h : Ok s) (hk : s.tasks[k]? = some t) (hphase : t.phase = .registered)
    (hs : s.add k t = .next s') : Ok s' := by
  simp only [NodesSys.add, Outcome.bind_eq_next, Outcome.pure_eq, Outcome.next_inj] at hs
  obtain ⟨reg, hreg, hs⟩ := hs
  obtain rfl := addRegE2Node_eq_next hreg
  have hcounts := counts_set (p := .added) s' hk (by rw [← hs])
  simp only [hphase, SetupPhase.sad, SetupPhase.reg, Bool.true_and, Bool.false_and,
    Bool.toNat_false, Nat.add_zero] at hcounts
  have hregIds (x) : s'.regIds.count x = s.regIds.count x + (t.req.id == x).toNat := by
    rw [← hs]
    exact count_keys_insert
  subst hs
  refine ⟨h.mirror, fun x => ?_, fun x => ?_, fun x => ?_, h.listed, ?_, ?_⟩
  · have hsad := h.sad x
    have hin := (hcounts x).2.1
    change s.sadIds.count x + s.unlisting x = s.connIds.count x + _
    omega
  · have hreg := h.reg x
    have hin := (hcounts x).2.2
    rw [hregIds]
    change _ = s.connIds.count x + _ + s.unregistering x
    omega
  · have honce := h.once x
    rw [(hcounts x).1]
    exact honce
  · exact forall_set h.addressed fun _ =>
      h.addressed t (List.mem_of_getElem? hk) (by rw [hphase]; rfl)
  · exact forall_set h.answerable (h.answerable t (List.mem_of_getElem? hk))

/-- **Setup, last step**: the node is listed and answered. -/
theorem Ok.respond (h : Ok s) (hk : s.tasks[k]? = some t) (hphase : t.phase = .added)
    (hs : s.respond k t = .next s') : Ok s' := by
  simp only [NodesSys.respond, Outcome.bind_eq_next, Outcome.pure_eq, Outcome.next_inj] at hs
  obtain ⟨sr, -, pdu, -, hs⟩ := hs
  have hin (x) : s.inTasks x = s'.inTasks x + (t.req.id == x).toNat := by
    rw [← hs]
    exact countP_eraseIdx_add hk
  have hinSad (x) : s.inSad x = s'.inSad x + (t.req.id == x).toNat := by
    rw [← hs, inSad, countP_eraseIdx_add hk, hphase]
    rfl
  have hinReg (x) : s.inReg x = s'.inReg x + (t.req.id == x).toNat := by
    rw [← hs, inReg, countP_eraseIdx_add hk, hphase]
    rfl
  have hconn (x) : s'.connIds.count x = s.connIds.count x + (t.req.id == x).toNat := by
    rw [← hs, connIds, List.map_append, List.count_append]
    simp only [List.map_cons, List.map_nil, List.count_singleton]
    cases t.req.id == x <;> rfl
  have hmem : ∀ t' ∈ s'.tasks, t' ∈ s.tasks := by
    rw [← hs]
    exact fun t' ht' => List.mem_of_mem_eraseIdx ht'
  subst hs
  refine ⟨h.mirror, fun x => ?_, fun x => ?_, fun x => ?_, fun x hx => ?_, ?_, ?_⟩
  · have hsad := h.sad x
    rw [hconn]
    have := hinSad x
    change s.sadIds.count x + s.unlisting x = _
    omega
  · have hreg := h.reg x
    rw [hconn]
    have := hinReg x
    change s.regIds.count x = _ + _ + s.unregistering x
    omega
  · have honce := h.once x
    rw [hconn]
    have := hin x
    change _ + s.unregistering x + _ ≤ 1
    omega
  · have := List.count_pos_iff.mpr (h.listed x hx)
    rw [← List.count_pos_iff, hconn]
    omega
  · exact fun t' ht' => h.addressed t' (hmem t' ht')
  · exact fun t' ht' => h.answerable t' (hmem t' ht')

theorem unlisting_of_loop (h : s.loop = .unlisting id) (x : NodeId) :
    s.unlisting x = (id == x).toNat := by
  rw [unlisting, h]
  refine congrArg Bool.toNat ?_
  rw [Bool.eq_iff_iff, beq_iff_eq, beq_iff_eq, Removal.unlisting.injEq]

theorem unregistering_of_loop (h : s.loop = .unregistering id) (x : NodeId) :
    s.unregistering x = (id == x).toNat := by
  rw [unregistering, h]
  refine congrArg Bool.toNat ?_
  rw [Bool.eq_iff_iff, beq_iff_eq, beq_iff_eq, Removal.unregistering.injEq]

/-- **Shutdown, first step**: the address is removed. -/
theorem Ok.shutdown (h : Ok s) {info : SctpInfo} {picks : Picks} {m : MapE2NodeSockaddr}
    (hidle : s.loop = .idle) (hc : Cond s (.shutdown info picks))
    (hm : rmMapSadE2Node s.e2Nodes info picks = .next (id, m)) :
    Ok { s with e2Nodes := m, loop := .unlisting id } := by
  obtain ⟨b, hb, hrem⟩ := Bimap.extractRight_spec lawful_cmpNodeId h.mirror h.distinct_left hm
  have hperm := hrem.perm_first
  have hmem : (id, b) ∈ s.e2Nodes.left := hperm.mem_iff.mpr List.mem_cons_self
  have hcount (x) : s.sadIds.count x = (m.left.map (·.1)).count x + (id == x).toNat := by
    rw [sadIds, (hperm.map _).count_eq, List.map_cons, List.count_cons]
    cases id == x <;> rfl
  have hidle₁ (x) : s.unlisting x = 0 := by simp [unlisting, hidle]
  have hidle₂ (x) : s.unregistering x = 0 := by simp [unregistering, hidle]
  refine ⟨hrem.mirror h.mirror, fun x => ?_, fun x => ?_, fun x => ?_, ?_, fun t ht hp => ?_,
    h.answerable⟩
  · have hsad := h.sad x
    have := hcount x
    have := hidle₁ x
    rw [unlisting_of_loop rfl]
    change (m.left.map (·.1)).count x + _ = s.connIds.count x + s.inSad x
    omega
  · have hreg := h.reg x
    have := hidle₂ x
    change s.regIds.count x = s.connIds.count x + s.inReg x + 0
    omega
  · have honce := h.once x
    change s.connIds.count x + 0 + s.inTasks x ≤ 1
    omega
  · rintro x ⟨⟩
    have hsad := h.sad id
    have hzero := h.settled_of_cond hb hmem hc.2
    have := hidle₁ id
    have hpos : 0 < s.sadIds.count id := List.count_pos_iff.mpr (List.mem_map_of_mem hmem)
    have hconn : 0 < s.connIds.count id := by omega
    exact List.count_pos_iff.mp hconn
  · obtain heq | htail := List.mem_cons.mp (hperm.mem_iff.mp (h.addressed t ht hp))
    · exact absurd ((Prod.mk.inj heq).2 ▸ hb) (hc.2 t ht hp)
    · exact htail

theorem eqNodeId_eq (id x : NodeId) : eqNodeId id x = (id == x) := by
  rw [Bool.eq_iff_iff, eqNodeId_iff, beq_iff_eq]

/-- **Shutdown, second step**: the node leaves the list. -/
theorem Ok.unlist (h : Ok s) {conn : List E2Node} (hloop : s.loop = .unlisting id)
    (hs : unlistE2Node s.connE2Nodes id = .next conn) :
    Ok { s with connE2Nodes := conn, loop := .unregistering id } := by
  simp only [unlistE2Node, eqNodeId_eq, Outcome.bind_eq_next, Outcome.pure_eq,
    Outcome.next_inj] at hs
  obtain ⟨-, -, rfl⟩ := hs
  have hcount (x) := count_eraseP_map_add (y := x) (h.listed id hloop)
  have hun₁ (x) : s.unlisting x = _ := unlisting_of_loop hloop x
  have hun₂ (x) : s.unregistering x = 0 := by simp [unregistering, hloop]
  refine ⟨h.mirror, fun x => ?_, fun x => ?_, fun x => ?_, ?_, h.addressed, h.answerable⟩
  · have hsad := h.sad x
    have hconn : s.connIds.count x = _ := hcount x
    have := hun₁ x
    change s.sadIds.count x + 0 =
      ((s.connE2Nodes.eraseP fun e => id == e.id).map (·.id)).count x + s.inSad x
    omega
  · have hreg := h.reg x
    have hconn : s.connIds.count x = _ := hcount x
    have := hun₂ x
    rw [unregistering_of_loop rfl]
    change s.regIds.count x =
      ((s.connE2Nodes.eraseP fun e => id == e.id).map (·.id)).count x + s.inReg x + _
    omega
  · have honce := h.once x
    have hconn : s.connIds.count x = _ := hcount x
    have := hun₂ x
    rw [unregistering_of_loop rfl]
    change ((s.connE2Nodes.eraseP fun e => id == e.id).map (·.id)).count x + _ +
      s.inTasks x ≤ 1
    omega
  · rintro x ⟨⟩

/-- **Shutdown, last step**: the node leaves the registry. -/
theorem Ok.unregister (h : Ok s) {reg : RegE2Nodes} (hloop : s.loop = .unregistering id)
    (hs : rmRegE2Node s.regE2Nodes id = .next reg) :
    Ok { s with regE2Nodes := reg, loop := .idle } := by
  simp only [rmRegE2Node, eqNodeId_eq, Outcome.bind_eq_next, Outcome.pure_eq,
    Outcome.next_inj] at hs
  obtain ⟨-, -, rfl⟩ := hs
  have hun₁ (x) : s.unlisting x = 0 := by simp [unlisting, hloop]
  have hun₂ (x) : s.unregistering x = _ := unregistering_of_loop hloop x
  have hmem : id ∈ s.regIds := by
    have hreg := h.reg id
    have := hun₂ id
    rw [beq_self_eq_true, Bool.toNat_true] at this
    exact List.count_pos_iff.mp (by omega)
  have hcount (x) := count_eraseP_map_add (y := x) hmem
  refine ⟨h.mirror, fun x => ?_, fun x => ?_, fun x => ?_, ?_, h.addressed, h.answerable⟩
  · have hsad := h.sad x
    have := hun₁ x
    change s.sadIds.count x + 0 = s.connIds.count x + s.inSad x
    omega
  · have hreg := h.reg x
    have hregs : s.regIds.count x = _ := hcount x
    have := hun₂ x
    change ((s.regE2Nodes.eraseP fun e => id == e.1).map (·.1)).count x =
      s.connIds.count x + s.inReg x + 0
    omega
  · have honce := h.once x
    change s.connIds.count x + 0 + s.inTasks x ≤ 1
    omega
  · rintro x ⟨⟩

/-- **Step.** What is where stays accounted for. -/
theorem Ok.step {e : NodesEvent} (h : Ok s) (hc : Cond s e) (hs : s.step e = .next s') :
    Ok s' := by
  cases e with
  | arrive m info =>
    simp only [NodesSys.step, Outcome.bind_eq_next, Outcome.await_eq_next, beq_iff_eq,
      Outcome.pure_eq, Outcome.next_inj] at hs
    obtain ⟨-, hidle, req, hdec, rfl⟩ := hs
    obtain ⟨hacc, hans⟩ := hc.requested hdec
    exact h.arrive hidle hacc hans
  | register k =>
    simp only [NodesSys.step] at hs
    split at hs
    · rename_i hk
      exact h.register hk rfl hs
    · cases hs
  | add k =>
    simp only [NodesSys.step] at hs
    split at hs
    · rename_i hk
      exact h.add hk rfl hs
    · cases hs
  | respond k =>
    simp only [NodesSys.step] at hs
    split at hs
    · rename_i hk
      exact h.respond hk rfl hs
    · cases hs
  | shutdown info picks =>
    simp only [NodesSys.step, Outcome.bind_eq_next, Outcome.await_eq_next, beq_iff_eq,
      Outcome.pure_eq, Outcome.next_inj] at hs
    obtain ⟨-, hidle, ⟨id, m⟩, hm, rfl⟩ := hs
    exact h.shutdown hidle hc hm
  | unlist =>
    simp only [NodesSys.step] at hs
    split at hs
    · rename_i hloop
      simp only [Outcome.bind_eq_next, Outcome.pure_eq, Outcome.next_inj] at hs
      obtain ⟨conn, hconn, rfl⟩ := hs
      exact h.unlist hloop hconn
    · cases hs
  | unregister =>
    simp only [NodesSys.step] at hs
    split at hs
    · rename_i hloop
      simp only [Outcome.bind_eq_next, Outcome.pure_eq, Outcome.next_inj] at hs
      obtain ⟨reg, hreg, rfl⟩ := hs
      exact h.unregister hloop hreg
    · cases hs

/-- **Every run under the condition keeps the registries as they should be.** -/
theorem ok_of_reachedBy (h : (machine plugin).ReachedBy Cond s) : Ok s :=
  h.invariant (.init plugin) fun _ _ _ _ hok hc hs => hok.step hc hs

end NodesSys

end FlexRic
