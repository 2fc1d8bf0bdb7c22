import FlexRic.Ric.Nodes

/-!
# FlexRic.Ric.NodeRegistries

Whether the three registries of E2 nodes agree.

They do as long as each setup request is `acceptable` and for a node that is
neither known nor being set up, and each shutdown comes from the association
of a node whose setup is done (`registries_agree`).  A node that sends its setup
request again, which the agent does whenever the response is late, ends the
RIC: nothing but an assertion of the iApp expects it
(`repeated_setup_aborts`).
-/

namespace FlexRic

namespace NodesSys

variable {s s' : NodesSys} {id : NodeId} {k : Nat} {t : SetupTask} {plugin : List UInt16}

/-- A setup of the node, or its removal, has begun and is not done. -/
def InProgress (s : NodesSys) (id : NodeId) : Prop :=
  (∃ t ∈ s.tasks, t.req.id = id) ∨ s.loop = .unlisting id ∨ s.loop = .unregistering id

/-- No setup and no removal is going on. -/
def Settled (s : NodesSys) : Prop := s.tasks = [] ∧ s.loop = .idle

/-- A settled RIC has nothing in progress. -/
theorem not_inProgress (h : s.Settled) (id : NodeId) : ¬ s.InProgress id := by
  rintro (⟨t, ht, -⟩ | hloop | hloop)
  · rw [h.1] at ht
    exact absurd ht List.not_mem_nil
  · rw [h.2] at hloop
    cases hloop
  · rw [h.2] at hloop
    cases hloop

/-- No registry holds a node twice. -/
def NoDuplicates (s : NodesSys) : Prop := s.sadIds.Nodup ∧ s.connIds.Nodup ∧ s.regIds.Nodup

/-- The node is in all registries or in none. -/
def Agrees (s : NodesSys) (id : NodeId) : Prop :=
  (id ∈ s.sadIds ↔ id ∈ s.connIds) ∧ (id ∈ s.regIds ↔ id ∈ s.connIds)

/-- No registry has a node twice. -/
theorem Ok.noDuplicates (h : Ok s) : s.NoDuplicates := ⟨h.nodup_sad, h.nodup_conn, h.nodup_reg⟩

/-- **and all four have the same nodes**, but for those in progress. -/
theorem Ok.agrees (h : Ok s) (hid : ¬ s.InProgress id) : s.Agrees id := by
  have htasks : s.inTasks id = 0 := List.countP_eq_zero.mpr fun t ht heq =>
    hid (.inl ⟨t, ht, beq_iff_eq.mp heq⟩)
  have hunlisting : s.unlisting id = 0 := by
    rw [unlisting, beq_eq_false_iff_ne.mpr fun hloop => hid (.inr (.inl hloop))]
    rfl
  have hunregistering : s.unregistering id = 0 := by
    rw [unregistering, beq_eq_false_iff_ne.mpr fun hloop => hid (.inr (.inr hloop))]
    rfl
  have hsad := h.sad id
  have hreg := h.reg id
  have hinSad := s.inSad_le id
  have hinReg := s.inReg_le id
  constructor
  · rw [← List.count_pos_iff, ← List.count_pos_iff]
    omega
  · rw [← List.count_pos_iff, ← List.count_pos_iff]
    omega

/-! ## No assertion fails -/

/-- The iApp takes a new node whose components can be copied. -/
theorem addRegE2Node_succeeds {i : RegE2Nodes} {req : SetupRequest} :
    (∃ i', addRegE2Node i req = .next i') ↔
      0 < req.msg.ranFuncItem.length ∧ 0 < req.msg.compConfAdd.length ∧
        (∀ c ∈ req.msg.compConfAdd, Codec.IdCopied c.id) ∧ req.id ∉ i.map (·.1) := by
  have hfind : (OrdAssoc.findIf (eqNodeId req.id) i).isNone = true ↔ req.id ∉ i.map (·.1) := by
    rw [← Bool.not_eq_false, not_iff_not, Option.isNone_eq_false_iff, OrdAssoc.findIf,
      List.find?_isSome, List.mem_map]
    refine exists_congr fun e => and_congr_right fun _ => ?_
    rw [eqNodeId_iff, eq_comm]
  simp only [addRegE2Node, Outcome.bind_eq_next, Outcome.assert_eq_next, Outcome.pure_eq,
    Outcome.next_inj, hfind, decide_eq_true_eq,
    Codec.walk_cpE2apNodeComponentConfigAdd_eq_next]
  constructor
  · rintro ⟨_, -, hrf, -, hcca, _, ⟨hcopied, -⟩, -, hnew, -⟩
    exact ⟨hrf, hcca, hcopied, hnew⟩
  · rintro ⟨hrf, hcca, hcopied, hnew⟩
    exact ⟨_, ⟨⟩, hrf, ⟨⟩, hcca, _, ⟨hcopied, rfl⟩, ⟨⟩, hnew, rfl⟩

/-- A registration waits for nobody. -/
theorem addRegE2Node_ne_blocked {i : RegE2Nodes} {req : SetupRequest} :
    addRegE2Node i req ≠ .blocked := by
  have hcopy (c) : Codec.cpE2apNodeComponentConfigAdd c ≠ .blocked := by
    simp [Codec.cpE2apNodeComponentConfigAdd, cpE2apNodeCompId_ne_blocked]
  simp [addRegE2Node, Outcome.walk_ne_blocked hcopy]

/-- The entry of the address of a node never aborts. -/
theorem register_not_aborts : ¬ (s.register k t).Aborts := by
  simp [NodesSys.register, addMapE2NodeSad, Bimap.insert_eq lawful_cmpNodeId lawful_cmpSctpInfo]

/-- The registration of a node that is new does not abort. -/
theorem Ok.add_not_aborts (h : Ok s) (hk : s.tasks[k]? = some t) (hphase : t.phase = .registered) :
    ¬ (s.add k t).Aborts := by
  have hmem := List.mem_of_getElem? hk
  have hans := h.answerable t hmem
  obtain ⟨hconn, hun, hone⟩ := h.alone hmem
  -- the task itself has not entered the node, and there is no other one
  have hreg : s.inReg t.req.id = 0 := by
    have hall := countP_eraseIdx_add (p := fun t' => t'.req.id == t.req.id) hk
    have hadded := countP_eraseIdx_add (p := fun t' => t'.phase.reg && t'.req.id == t.req.id) hk
    have hle : (s.tasks.eraseIdx k).countP (fun t' => t'.phase.reg && t'.req.id == t.req.id) ≤
        (s.tasks.eraseIdx k).countP fun t' => t'.req.id == t.req.id :=
      List.countP_mono_left fun t' _ h => (Bool.and_eq_true_iff.mp h).2
    rw [beq_self_eq_true, Bool.toNat_true] at hall
    rw [hphase, SetupPhase.reg, Bool.false_and, Bool.toNat_false] at hadded
    rw [inTasks] at hone
    rw [inReg]
    omega
  have hnew : t.req.id ∉ s.regIds := by
    have hcount := h.reg t.req.id
    rw [← List.count_eq_zero]
    omega
  obtain ⟨reg, hreg⟩ := addRegE2Node_succeeds.mpr
    ⟨hans.lenRf, hans.lenCca, fun c hc => (hans.acknowledged c hc).copied, hnew⟩
  simp [NodesSys.add, hreg]

/-- A request gets its response. -/
theorem respond_not_aborts (hans : Answerable s.plugin t.req.msg) : ¬ (s.respond k t).Aborts := by
  obtain ⟨-, sr, pdu, hsr, hpdu⟩ :=
    (answerable_iff t.req.typed t.req.lenRf t.req.lenCca).mp hans
  simp [NodesSys.respond, hsr, hpdu]

/-- A node that leaves is in the list, so that its removal from there does not abort. -/
theorem Ok.unlist_not_aborts (h : Ok s) (hloop : s.loop = .unlisting id) :
    ¬ (unlistE2Node s.connE2Nodes id).Aborts := by
  obtain ⟨n, hn, hid⟩ := List.mem_map.mp (h.listed id hloop)
  have hany : (s.connE2Nodes.any fun n => eqNodeId id n.id) = true :=
    List.any_eq_true.mpr ⟨n, hn, eqNodeId_iff.mpr hid.symm⟩
  rw [unlistE2Node, Outcome.assert_bind_aborts, hany]
  simp

/-- A node that leaves is in the registry, so that its removal from there does not abort. -/
theorem Ok.unregister_not_aborts (h : Ok s) (hloop : s.loop = .unregistering id) :
    ¬ (rmRegE2Node s.regE2Nodes id).Aborts := by
  have hreg := h.reg id
  rw [unregistering_of_loop hloop, beq_self_eq_true, Bool.toNat_true] at hreg
  obtain ⟨e, he, hid⟩ := List.mem_map.mp (List.count_pos_iff.mp (show 0 < s.regIds.count id by omega))
  have hfind : (OrdAssoc.findIf (eqNodeId id) s.regE2Nodes).isSome = true :=
    Option.isSome_iff_exists.mpr (OrdAssoc.findIf_isSome he (eqNodeId_iff.mpr hid.symm))
  rw [rmRegE2Node, Outcome.assert_bind_aborts, hfind]
  simp

/-- **No abort.** A step that meets the condition fails no assertion. -/
theorem Ok.not_aborts {e : NodesEvent} (h : Ok s) (hc : Cond s e) : ¬ (s.step e).Aborts := by
  cases e with
  | arrive m info =>
    obtain ⟨req, hdec, -⟩ := acceptable_iff_handled.mp hc.1
    simp [NodesSys.step, Outcome.bind_aborts, hdec]
  | register k =>
    simp only [NodesSys.step]
    split
    · exact register_not_aborts
    · exact Outcome.blocked_not_aborts
  | add k =>
    simp only [NodesSys.step]
    split
    · rename_i hk
      exact h.add_not_aborts hk rfl
    · exact Outcome.blocked_not_aborts
  | respond k =>
    simp only [NodesSys.step]
    split
    · rename_i hk
      exact respond_not_aborts (h.answerable _ (List.mem_of_getElem? hk))
    · exact Outcome.blocked_not_aborts
  | shutdown info picks =>
    obtain ⟨id, m, hm⟩ := Bimap.extractRight_succeeds picks lawful_cmpNodeId h.mirror h.distinct_left
      hc.1
    simp [NodesSys.step, Outcome.bind_aborts, rmMapSadE2Node, hm]
  | unlist =>
    simp only [NodesSys.step]
    split
    · rename_i hloop
      simpa [Outcome.bind_aborts] using h.unlist_not_aborts hloop
    · exact Outcome.blocked_not_aborts
  | unregister =>
    simp only [NodesSys.step]
    split
    · rename_i hloop
      simpa [Outcome.bind_aborts] using h.unregister_not_aborts hloop
    · exact Outcome.blocked_not_aborts

/-! ## Handled from beginning to end -/

/-- The process takes the steps one after the other. -/
def steps (s : NodesSys) (es : List NodesEvent) : Outcome NodesSys := es.foldlM step s

/-- The steps of a setup request, with no other task around. -/
def setupEvents (m : Procedure E2SetupRequestValue) (info : SctpInfo) : List NodesEvent :=
  [.arrive m info, .register 0, .add 0, .respond 0]

/-- The steps of a shutdown. -/
def shutdownEvents (info : SctpInfo) (picks : Picks) : List NodesEvent :=
  [.shutdown info picks, .unlist, .unregister]

/-- The conditions are on what arrives, not on how it is handled. -/
theorem Ok.steps_not_aborts {e : NodesEvent} {es : List NodesEvent} (h : Ok s) (hc : Cond s e)
    (hes : ∀ e ∈ es, ∀ s, Cond s e) : ¬ (s.steps (e :: es)).Aborts := by
  induction es generalizing s e with
  | nil =>
    simpa [steps, Outcome.bind_aborts] using h.not_aborts hc
  | cons e' es ih =>
    rw [steps, List.foldlM_cons, Outcome.bind_aborts]
    rintro (habort | ⟨s', hs', habort⟩)
    · exact h.not_aborts hc habort
    · obtain ⟨hc', hes'⟩ := List.forall_mem_cons.mp hes
      exact ih (h.step hc hs') (hc' s') hes' habort

/-- What the steps of a setup request come to. -/
theorem steps_setup (hset : s.Settled) (m : Procedure E2SetupRequestValue) (info : SctpInfo) :
    s.steps (setupEvents m info) = (do
      let req ← decSetupRequest m
      let regE2Nodes ← addRegE2Node s.regE2Nodes req
      let sr ← generateSetupResponse s.plugin req.msg
      let _ ← encSetupResponse sr
      return { s with
        e2Nodes := Bimap.inserted cmpNodeId cmpSctpInfo s.e2Nodes req.id info
        regE2Nodes, connE2Nodes := s.connE2Nodes ++ [⟨req.id, sr.accepted⟩] }) := by
  obtain ⟨plugin, e2Nodes, conn, reg, tasks, loop⟩ := s
  obtain ⟨rfl, rfl⟩ : tasks = [] ∧ loop = .idle := hset
  cases hdec : decSetupRequest m with
  | blocked => simp [steps, setupEvents, step, hdec, Outcome.await]
  | abort msg => simp [steps, setupEvents, step, hdec, Outcome.await]
  | next req =>
    cases hadd : addRegE2Node reg req with
    | blocked => simp [steps, setupEvents, step, register, add, addMapE2NodeSad, hdec, hadd,
        Outcome.await, Bimap.insert_eq lawful_cmpNodeId lawful_cmpSctpInfo]
    | abort msg => simp [steps, setupEvents, step, register, add, addMapE2NodeSad, hdec, hadd,
        Outcome.await, Bimap.insert_eq lawful_cmpNodeId lawful_cmpSctpInfo]
    | next reg' =>
      cases hgen : generateSetupResponse plugin req.msg with
      | blocked => simp [steps, setupEvents, step, register, add, respond, addMapE2NodeSad, hdec, hadd,
          hgen, Outcome.await, Bimap.insert_eq lawful_cmpNodeId lawful_cmpSctpInfo]
      | abort msg => simp [steps, setupEvents, step, register, add, respond, addMapE2NodeSad, hdec,
          hadd, hgen, Outcome.await, Bimap.insert_eq lawful_cmpNodeId lawful_cmpSctpInfo]
      | next sr =>
        cases henc : encSetupResponse sr <;>
          simp [steps, setupEvents, step, register, add, respond, addMapE2NodeSad, hdec, hadd, hgen,
            henc, Outcome.await, Bimap.insert_eq lawful_cmpNodeId lawful_cmpSctpInfo]

/-- A request that is handled to its end was acceptable, and its node new. -/
theorem Ok.cond_of_handled (h : Ok s) (hset : s.Settled) {m : Procedure E2SetupRequestValue}
    {info : SctpInfo} (hs : s.steps (setupEvents m info) = .next s') : Cond s (.arrive m info) := by
  simp only [steps_setup hset, Outcome.bind_eq_next] at hs
  obtain ⟨req, hdec, reg, hreg, sr, hsr, pdu, hpdu, -⟩ := hs
  obtain ⟨hrf, -, -, hnew⟩ := addRegE2Node_succeeds.mp ⟨reg, hreg⟩
  have hans := (answerable_iff req.typed req.lenRf req.lenCca).mpr ⟨hrf, sr, pdu, hsr, hpdu⟩
  refine ⟨acceptable_iff_handled.mpr ⟨req, hdec, hans⟩, fun req' hreq' => ?_⟩
  obtain rfl := Outcome.next_inj.mp (hdec.symm.trans (Outcome.toOption_eq_some.mp hreq'))
  refine ⟨fun hconn => hnew ((h.agrees (not_inProgress hset req.id)).2.mpr hconn), ?_⟩
  rw [hset.1]
  exact fun t ht => absurd ht List.not_mem_nil

/-- With no task around, a setup request is handled to its end or ends the process. -/
theorem steps_setup_ne_blocked (hset : s.Settled) (m : Procedure E2SetupRequestValue)
    (info : SctpInfo) : s.steps (setupEvents m info) ≠ .blocked := by
  rw [steps_setup hset]
  simp [decSetupRequest_ne_blocked, addRegE2Node_ne_blocked, generateSetupResponse_ne_blocked, encSetupResponse_ne_blocked]

/-- **A setup request that is handled to its end aborts exactly if it does not meet the
condition.** -/
theorem Ok.setup_aborts (h : Ok s) (hset : s.Settled) {m : Procedure E2SetupRequestValue}
    {info : SctpInfo} :
    (s.steps (setupEvents m info)).Aborts ↔ ¬ Cond s (.arrive m info) := by
  constructor
  · intro habort hc
    refine h.steps_not_aborts hc ?_ habort
    simp [Cond]
  · intro hc
    refine (Outcome.aborts_iff_not_next (steps_setup_ne_blocked hset m info)).mpr ?_
    rintro ⟨s', hs'⟩
    exact hc (h.cond_of_handled hset hs')

/-- **The end of a connection aborts exactly if it does not meet the condition.** -/
theorem Ok.shutdown_aborts (h : Ok s) (hset : s.Settled) {info : SctpInfo} {picks : Picks} :
    (s.steps (shutdownEvents info picks)).Aborts ↔ ¬ Cond s (.shutdown info picks) := by
  constructor
  · intro habort hc
    refine h.steps_not_aborts hc ?_ habort
    simp [Cond]
  · intro hc
    -- with no task around, only an unknown address fails the condition
    have hnone : ∀ e ∈ s.e2Nodes.right, cmpSctpInfo info e.1 ≠ 0 := by
      intro e he heq
      refine hc ⟨⟨e, he, heq⟩, fun t ht => ?_⟩
      rw [hset.1] at ht
      exact absurd ht List.not_mem_nil
    have habort : (rmMapSadE2Node s.e2Nodes info picks).Aborts :=
      Bimap.extractRight_aborts.mpr (Bimap.extractFrom_aborts_of_absent hnone)
    refine Outcome.bind_aborts.mpr (.inl ?_)
    rw [NodesSys.step, hset.2]
    exact Outcome.bind_aborts.mpr (.inr ⟨⟨⟩, rfl, Outcome.bind_aborts.mpr (.inl habort)⟩)

/-! ## The registries of the RIC -/

/-- **The registries agree.** In every run whose setup requests are for new
nodes and whose shutdowns come from set-up ones, no registry holds a node
twice, a node that is not just being set up or removed is in all three or in
none, and no assertion fails.  Between two messages, a request or a shutdown
that does not meet the condition ends the process, and one that does is
handled to its end. -/
theorem registries_agree (plugin : List UInt16) (s : NodesSys)
    (h : (machine plugin).ReachedBy Cond s) :
    s.NoDuplicates ∧ (∀ id, ¬ s.InProgress id → s.Agrees id) ∧
      (∀ e, Cond s e → ¬ (s.step e).Aborts) ∧
      (s.Settled → ∀ m info picks,
        (∀ id, s.Agrees id) ∧
        ((s.steps (setupEvents m info)).Aborts ↔ ¬ Cond s (.arrive m info)) ∧
        ((s.steps (shutdownEvents info picks)).Aborts ↔ ¬ Cond s (.shutdown info picks))) := by
  have hok := ok_of_reachedBy h
  refine ⟨hok.noDuplicates, fun id hid => hok.agrees hid, fun e hc => hok.not_aborts hc, ?_⟩
  intro hset m info picks
  exact ⟨fun id => hok.agrees (not_inProgress hset id), hok.setup_aborts hset,
    hok.shutdown_aborts hset⟩

/-- A gNB with the service models MAC (142) and RC (3), and with an NG and an F1 component. -/
def gnbRequest (nbId : UInt8) : Procedure E2SetupRequestValue :=
  ⟨procedureCodeE2Setup, .reject, some (requestHead 0 (.gNB ⟨[0, 241, 16], ⟨[0, 0, nbId], 0⟩, none, none⟩)
    [⟨.ranFunctionsAdded, .reject, some (.ranFunctionsList
        [⟨.ranFunctionItem, .reject, some ⟨142, [1], 0, [1]⟩⟩,
          ⟨.ranFunctionItem, .reject, some ⟨3, [1], 0, [1]⟩⟩])⟩,
      ⟨.e2NodeComponentConfigAddition, .reject, some (.configAdditionList
        [⟨.e2NodeComponentConfigAdditionItem, .reject, some ⟨0, .ng [110, 103], [1], [1]⟩⟩,
          ⟨.e2NodeComponentConfigAdditionItem, .reject, some ⟨3, .f1 7, [1], [1]⟩⟩])⟩])⟩

/-- The association from a port of the local host. -/
def localInfo (port : UInt16) : SctpInfo := ⟨port, 0x7f000001, 2⟩

/-- A gNB that repeats its setup request ends the process. -/
theorem repeated_setup_aborts :
    ¬ ∀ plugin s, (machine plugin).Reachable s → ∀ e, ¬ (s.step e).Aborts := by
  intro hclaim
  obtain ⟨s, hr, hs⟩ := Machine.Reachable.exists_of_run (M := machine [3, 142])
    (setupEvents (gnbRequest 1) (localInfo 5000) ++
      [.arrive (gnbRequest 1) (localInfo 5000), .register 0])
    (fun s => (s.step (.add 0)).aborted) (by decide)
  exact hclaim _ s hr _ (Outcome.aborts_of_aborted hs)

/-- Two gNBs are set up at the same time, one leaves and comes back from a
new association. -/
theorem registries_agree_reconnected :
    ∃ s : NodesSys, s.connIds.length = 2 ∧ s.NoDuplicates ∧ ∀ id, s.Agrees id := by
  obtain ⟨s, hr, hs⟩ := Machine.ReachedBy.exists_of_run (M := machine [3, 142]) (C := Cond)
    ([.arrive (gnbRequest 1) (localInfo 5000), .arrive (gnbRequest 2) (localInfo 5001),
      .register 1, .register 0, .add 0, .add 1, .respond 1, .respond 0] ++
      shutdownEvents (localInfo 5000) (0, 0) ++
      setupEvents (gnbRequest 1) (localInfo 5002))
    (fun s => s.connIds.length == 2 && decide (s.tasks = []) && s.loop == .idle)
    (by decide)
  simp only [Bool.and_eq_true, decide_eq_true_eq, beq_iff_eq] at hs
  obtain ⟨⟨hlen, htasks⟩, hloop⟩ := hs
  obtain ⟨hnodup, -, -, hset⟩ := registries_agree [3, 142] s hr
  exact ⟨s, hlen, hnodup, (hset ⟨htasks, hloop⟩ (gnbRequest 1) (localInfo 0) (0, 0)).1⟩

end NodesSys

end FlexRic
