import FlexRic.IApp.System
import FlexRic.Ric.Requests

/-!
# FlexRic.IApp.Steps

What each event does to the iApp, said once.

* `step_cases`: the state after an event, written out;
* `step_ric`: every step is a step of the near-RT RIC or leaves it as it is,
  so that what holds along the runs of the RIC holds along those of the iApp.
-/

namespace FlexRic

namespace Sys

open RicSys (RicEvent)

variable {relock : Relock} {s s' : Sys} {e : Event}

/-- How the handler of a worker's answer ended without a mapping to remove. -/
inductive Handled (s : Sys) (w : Worker) (sentTo : Option XappRicId) : Prop
  | response (ev : w.ev = .subscriptionRequest)
      (routed : routeSubscriptionResponse s.iapp w.req.id = .next sentTo)
  | deleted (ev : w.ev = .subscriptionDeleteRequest)
      (absent : s.iapp.map.findXappMapRicId w.req.id.ricReqId.toUInt16 = none)
      (none : sentTo = none)

/-- The state after an event, by event. -/
inductive Effect (relock : Relock) (s : Sys) : Event → Sys → Prop
  | ric (e : RicEvent) (ricSys : RicSys) (own : ownEvent e = true)
      (stepped : s.ricSys.step e = .next ricSys) :
      Effect relock s (.ric e)
        { s with ricSys, iapp.e2Nodes := regE2Nodes s.iapp.e2Nodes e }
  | setup (info : SctpInfo) (lenRf : Nat) (xapps : MapXapps)
      (added : s.iapp.xapps.addMapXappsSad s.iapp.xappId.toUInt16 info = .next xapps) :
      Effect relock s (.e42Setup info lenRf)
        { s with iapp.xapps := xapps, iapp.xappId := s.iapp.xappId + 1 }
  | ignored (m : E42Request) (timer : Option Fd) : Effect relock s (.e42Subscribe m timer) s
  | subscribed (m : E42Request) (timer : Option Fd) (newId : UInt16) (req : Req) (ricSys : RicSys)
      (info : SctpInfo) (idle : s.pc = .idle)
      (address : s.iapp.xapps.findMapXappsSad m.xappId = .next info) (port : info.sinPort ≠ 0)
      (forwarded : s.ricSys.fwdSubscription m.id m.ricId (some ⟨m.ricId, m.xappId⟩) timer =
        .next (newId, req, ricSys)) :
      Effect relock s (.e42Subscribe m timer)
        { s with
          ricSys
          pc := if newId = 0 then .idle else .subForwarded m newId req
          hist.created := s.hist.created ++ [req]
          hist.liveSubs := s.hist.liveSubs ++ [req] }
  | registered (reallocOk : Bool) (m : E42Request) (newId : UInt16) (req : Req)
      (registry : SubscriptionRegistry) (at_ : s.pc = .subForwarded m newId req)
      (added : s.iapp.registry.register m.xappId.toUInt32 m.ricId.ranFuncId newId reallocOk =
        (true, registry)) :
      Effect relock s (.iappRegister reallocOk)
        { s with
          iapp.registry := registry
          pc := .subRegistered m newId req
          hist.registered := s.hist.registered ++ [req] }
  | notRegistered (reallocOk : Bool) (m : E42Request) (newId : UInt16) (req : Req)
      (at_ : s.pc = .subForwarded m newId req) :
      Effect relock s (.iappRegister reallocOk) { s with pc := .idle }
  | inserted (m : E42Request) (newId : UInt16) (req : Req) (at_ : s.pc = .subRegistered m newId req) :
      Effect relock s .iappInsert
        { s with
          iapp.map := Bimap.inserted cmpE2NodeRicReq cmpXappRicGenId s.iapp.map
            ⟨{ m.ricId with ricReqId := newId.toUInt32 }, m.id, .subscription⟩
            ⟨{ m.ricId with ricReqId := newId.toUInt32 }, m.xappId⟩
          pc := .idle
          hist.accepted := s.hist.accepted ++ [req] }
  | deleteFound (xappId : UInt16) (ricId : RicGenId) (n : E2NodeRicId) (idle : s.pc = .idle)
      (found : s.iapp.map.findRicReqMapRicId ⟨ricId, xappId⟩ = .next n)
      (type : n.ricReqType = .subscription) :
      Effect relock s (.e42Delete xappId ricId)
        { s with
          pc := .deleting xappId [(n.e2NodeId, { ricId with ricReqId := n.ricId.ricReqId })] }
  | deleteForwarded (timer : Option Fd) (xappId : UInt16) (node : GlobalE2NodeId) (id : RicGenId)
      (todo : List (GlobalE2NodeId × RicGenId)) (sent : Bool) (ricSys : RicSys)
      (at_ : s.pc = .deleting xappId ((node, id) :: todo))
      (forwarded : s.ricSys.fwdSubscriptionDelete node id timer = .next (sent, ricSys)) :
      Effect relock s (.fwdDelete timer)
        { s with
          ricSys
          pc := .deletingOrIdle xappId todo
          hist.deletes := if sent then s.hist.deletes ++ [⟨xappId, node, id⟩] else s.hist.deletes }
  | controlForwarded (m : E42Request) (timer : Option Fd) (req : Req) (ricSys : RicSys)
      (idle : s.pc = .idle)
      (forwarded : s.ricSys.fwdControl m.id m.ricId (some ⟨m.ricId, m.xappId⟩) timer =
        .next (req, ricSys)) :
      Effect relock s (.e42Control m timer) { s with ricSys, pc := .ctrlForwarded m req }
  | controlAdded (picks : Picks) (m : E42Request) (req : Req) (at_ : s.pc = .ctrlForwarded m req)
      (refused : relock = .edeadlk) : Effect relock s (.iappAdd picks) { s with pc := .idle }
  | disconnected (info : SctpInfo) (xappId : UInt16) (idle : s.pc = .idle)
      (known : s.iapp.xapps.findMapXappsXid info = .next xappId) :
      Effect relock s (.xappDisconnect info)
        { s with
          pc := .deletingOrIdle xappId
            ((s.iapp.map.findAllSubsMapRicId xappId).map fun n => (n.e2NodeId, n.ricId))
          hist.liveSubs :=
            s.hist.liveSubs.filter fun r => !r.origin.any fun x => x.xappId == xappId }
  | answered (k : Nat) (w : Worker) (sentTo : Option XappRicId) (ricSys : RicSys)
      (worker : s.ricSys.workers[k]? = some w) (unlocked : s.pc.locked = false)
      (handled : Handled s w sentTo) (done : s.ricSys.step (.notified k) = .next ricSys) :
      Effect relock s (.notify k)
        { s with
          ricSys
          hist.answers := s.hist.answers ++ [⟨w.req, w.ev, sentTo⟩]
          hist.liveSubs :=
            if w.ev = .subscriptionDeleteRequest then s.hist.liveSubs.filter (· != w.req)
            else s.hist.liveSubs }
  | forwarded (k : Nat) (w : Worker) (x : XappRicId) (ricSys : RicSys)
      (worker : s.ricSys.workers[k]? = some w) (unlocked : s.pc.locked = false)
      (ev : w.ev = .subscriptionDeleteRequest ∨ w.ev = .controlRequest)
      (found : s.iapp.map.findXappMapRicId w.req.id.ricReqId.toUInt16 = some x)
      (looked : s.ricSys.step (.lookedUp k x) = .next ricSys) :
      Effect relock s (.notify k)
        { s with ricSys, hist.answers := s.hist.answers ++ [⟨w.req, w.ev, some x⟩] }
  | removed (k : Nat) (picks : Picks) (w : Worker) (x : XappRicId) (map : MapRicId)
      (ricSys : RicSys) (worker : s.ricSys.workers[k]? = some w) (found : w.found = some x)
      (unlocked : s.pc.locked = false) (rm : s.iapp.map.rmMapRicId x picks = .next map)
      (done : s.ricSys.step (.notified k) = .next ricSys) :
      Effect relock s (.remove k picks)
        { s with
          ricSys
          iapp.map := map
          hist.liveSubs :=
            if w.ev = .subscriptionDeleteRequest then s.hist.liveSubs.filter (· != w.req)
            else s.hist.liveSubs }
  | indicated (node : GlobalE2NodeId) (ind : Codec.RicIndication) (sentTo : List UInt32)
      (parts : SharedParts) (iapp : E42Iapp)
      (sent : forwardAll ind s.iapp (.ofIndication ind)
        (s.iapp.registry.recipients ind.ricId.ranFuncId) = .next (sentTo, parts, iapp)) :
      Effect relock s (.indication node ind)
        { s with
          iapp
          hist.indications := s.hist.indications ++ [⟨node, ind.ricId, s.hist.liveSubs, sentTo⟩] }

/-- A refused registration leaves the registry as it is. -/
theorem register_false {r r' : SubscriptionRegistry} {xappId : UInt32} {ranFuncId ricReqId : UInt16}
    {reallocOk : Bool} (h : r.register xappId ranFuncId ricReqId reallocOk = (false, r')) : r' = r := by
  simp only [SubscriptionRegistry.register] at h
  split at h
  · cases h
  · split at h
    · split at h <;> cases h
      rfl
    · cases h

theorem finish_eq_next {k : Nat} {w : Worker} (h : s.finish k w = .next s') :
    ∃ ricSys, s.ricSys.step (.notified k) = .next ricSys ∧
      s' = { s with
        ricSys
        hist.liveSubs :=
          if w.ev = .subscriptionDeleteRequest then s.hist.liveSubs.filter (· != w.req)
          else s.hist.liveSubs } := by
  simp only [finish, Outcome.bind_eq_next, Outcome.pure_eq, Outcome.next_inj] at h
  obtain ⟨ricSys, hr, rfl⟩ := h
  exact ⟨ricSys, hr, rfl⟩

theorem forwardAnswer_eq_next {k : Nat} {w : Worker} {x : XappRicId}
    (h : s.forwardAnswer k w x = .next s') :
    ∃ ricSys, s.ricSys.step (.lookedUp k x) = .next ricSys ∧
      s' = { s with ricSys, hist.answers := s.hist.answers ++ [⟨w.req, w.ev, some x⟩] } := by
  simp only [forwardAnswer, Outcome.bind_eq_next, Outcome.pure_eq, Outcome.next_inj] at h
  obtain ⟨⟨⟩, -, ⟨⟩, -, info, -, ricSys, hr, rfl⟩ := h
  exact ⟨ricSys, hr, rfl⟩

theorem notify_cases {k : Nat} (h : s.notify k = .next s') : Effect relock s (.notify k) s' := by
  simp only [notify, Outcome.bind_eq_next, Outcome.awaitSome_eq_next, Outcome.await_eq_next,
    Bool.not_eq_true'] at h
  obtain ⟨w, hw, ⟨⟩, -, ⟨⟩, hl, h⟩ := h
  split at h
  · rename_i hev
    simp only [handleSubscriptionResponse, Outcome.bind_eq_next] at h
    obtain ⟨sentTo, hr, h⟩ := h
    obtain ⟨ricSys, hd, rfl⟩ := finish_eq_next h
    exact .answered k w sentTo ricSys hw hl (.response hev hr) hd
  · rename_i hev
    simp only [handleDeleteResponse] at h
    split at h
    · rename_i hnone
      obtain ⟨ricSys, hd, rfl⟩ := finish_eq_next h
      exact .answered k w none ricSys hw hl (.deleted hev hnone rfl) hd
    · rename_i x hx
      obtain ⟨ricSys, hd, rfl⟩ := forwardAnswer_eq_next h
      exact .forwarded k w x ricSys hw hl (.inl hev) hx hd
  · rename_i hev
    simp only [handleControlAck, Outcome.bind_eq_next, Outcome.expect_eq_next] at h
    obtain ⟨x, hx, h⟩ := h
    obtain ⟨ricSys, hd, rfl⟩ := forwardAnswer_eq_next h
    exact .forwarded k w x ricSys hw hl (.inr hev) hx hd
  · cases h

theorem subscribe_cases {m : E42Request} {timer : Option Fd} (h : s.e42Subscribe m timer = .next s') :
    Effect relock s (.e42Subscribe m timer) s' := by
  simp only [e42Subscribe, Outcome.bind_eq_next, Outcome.await_eq_next, beq_iff_eq] at h
  obtain ⟨⟨⟩, hidle, h⟩ := h
  split at h
  · cases h
    exact .ignored m timer
  · simp only [Outcome.bind_eq_next] at h
    obtain ⟨info, hinfo, h⟩ := h
    split at h
    · cases h
      exact .ignored m timer
    · rename_i hport
      simp only [Outcome.bind_eq_next, Outcome.pure_eq, Outcome.next_inj] at h
      obtain ⟨⟨newId, req, ricSys⟩, hf, rfl⟩ := h
      exact .subscribed m timer newId req ricSys info hidle hinfo (by simpa using hport) hf

/-- **The effect of an event.** -/
theorem step_cases (h : step relock s e = .next s') : Effect relock s e s' := by
  cases e with
  | ric e =>
    simp only [step, Outcome.bind_eq_next, Outcome.await_eq_next, Outcome.pure_eq,
      Outcome.next_inj] at h
    obtain ⟨⟨⟩, hown, ricSys, hr, rfl⟩ := h
    exact .ric e ricSys hown hr
  | e42Setup info lenRf =>
    simp only [step, e42Setup, Outcome.bind_eq_next, Outcome.pure_eq, Outcome.next_inj] at h
    obtain ⟨⟨⟩, -, ⟨⟩, -, _, -, xapps, hx, rfl⟩ := h
    exact .setup info lenRf xapps hx
  | e42Subscribe m timer => exact subscribe_cases h
  | iappRegister reallocOk =>
    simp only [step, iappRegister] at h
    split at h
    · rename_i m newId req hpc
      cases hreg : s.iapp.registry.register m.xappId.toUInt32 m.ricId.ranFuncId newId reallocOk with
      | mk ok registry =>
        simp only [hreg, Outcome.next_inj] at h
        subst h
        cases ok with
        | true => exact .registered reallocOk m newId req registry hpc hreg
        | false =>
          rw [register_false hreg]
          exact .notRegistered reallocOk m newId req hpc
    · cases h
  | iappInsert =>
    simp only [step, iappInsert] at h
    split at h
    · rename_i m newId req hpc
      simp only [MapRicId.insert_eq, Outcome.next_bind, Outcome.pure_eq, Outcome.next_inj] at h
      subst h
      exact .inserted m newId req hpc
    · cases h
  | e42Delete xappId ricId =>
    simp only [step, e42Delete, Outcome.bind_eq_next, Outcome.await_eq_next, Outcome.assert_eq_next,
      beq_iff_eq, Outcome.pure_eq, Outcome.next_inj] at h
    obtain ⟨⟨⟩, hidle, n, hn, ⟨⟩, ht, rfl⟩ := h
    exact .deleteFound xappId ricId n hidle hn ht
  | fwdDelete timer =>
    simp only [step, fwdDelete] at h
    split at h
    · rename_i xappId node id todo hpc
      simp only [Outcome.bind_eq_next, Outcome.pure_eq, Outcome.next_inj] at h
      obtain ⟨⟨sent, ricSys⟩, hf, rfl⟩ := h
      exact .deleteForwarded timer xappId node id todo sent ricSys hpc hf
    · cases h
  | e42Control m timer =>
    simp only [step, e42Control, Outcome.bind_eq_next, Outcome.await_eq_next, beq_iff_eq,
      Outcome.pure_eq, Outcome.next_inj] at h
    obtain ⟨⟨⟩, hidle, ⟨⟩, -, _, -, ⟨⟩, -, ⟨req, ricSys⟩, hf, rfl⟩ := h
    exact .controlForwarded m timer req ricSys hidle hf
  | iappAdd picks =>
    simp only [step, iappAdd] at h
    split at h
    · rename_i m req hpc
      simp only [Outcome.bind_eq_next, MapRicId.addMapRicId_held, Outcome.pure_eq,
        Outcome.next_inj] at h
      obtain ⟨map, ⟨hrel, rfl⟩, rfl⟩ := h
      exact .controlAdded picks m req hpc hrel
    · cases h
  | xappDisconnect info =>
    simp only [step, xappDisconnect, Outcome.bind_eq_next, Outcome.await_eq_next, beq_iff_eq,
      Outcome.pure_eq, Outcome.next_inj] at h
    obtain ⟨⟨⟩, hidle, xappId, hx, rfl⟩ := h
    exact .disconnected info xappId hidle hx
  | notify k => exact notify_cases h
  | remove k picks =>
    simp only [step, remove, Outcome.bind_eq_next, Outcome.awaitSome_eq_next, Outcome.await_eq_next,
      Bool.not_eq_true'] at h
    obtain ⟨w, hw, x, hx, ⟨⟩, hl, map, hm, h⟩ := h
    obtain ⟨ricSys, hd, rfl⟩ := finish_eq_next h
    exact .removed k picks w x map ricSys hw hx hl hm hd
  | indication node ind =>
    simp only [step, indication, Outcome.bind_eq_next, Outcome.pure_eq, Outcome.next_inj] at h
    obtain ⟨⟨sentTo, parts, iapp⟩, hf, _, -, rfl⟩ := h
    exact .indicated node ind sentTo parts iapp hf

/-! ## The RIC under the iApp -/

/-- The event of the RIC an event of the iApp comes with. -/
inductive Induces (s : Sys) : Event → RicEvent → Prop
  | ric (e : RicEvent) (own : ownEvent e = true) : Induces s (.ric e) e
  | subscribe (m : E42Request) (timer : Option Fd) :
      Induces s (.e42Subscribe m timer)
        (.fwdSubscription m.id m.ricId (some ⟨m.ricId, m.xappId⟩) timer)
  | delete (timer : Option Fd) (xappId : UInt16) (node : GlobalE2NodeId) (id : RicGenId)
      (todo : List (GlobalE2NodeId × RicGenId)) (at_ : s.pc = .deleting xappId ((node, id) :: todo)) :
      Induces s (.fwdDelete timer) (.fwdSubscriptionDelete node id timer)
  | control (m : E42Request) (timer : Option Fd) :
      Induces s (.e42Control m timer) (.fwdControl m.id m.ricId (some ⟨m.ricId, m.xappId⟩) timer)
  | answered (k : Nat) : Induces s (.notify k) (.notified k)
  | forwarded (k : Nat) (x : XappRicId) : Induces s (.notify k) (.lookedUp k x)
  | removed (k : Nat) (picks : Picks) : Induces s (.remove k picks) (.notified k)

/-- **The iApp runs on the RIC.** A step of the whole is a step of the RIC,
or the RIC is as before. -/
theorem step_ric (h : step relock s e = .next s') :
    s'.ricSys = s.ricSys ∨ ∃ d, Induces s e d ∧ s.ricSys.step d = .next s'.ricSys := by
  cases step_cases h with
  | ric e ricSys own stepped => exact .inr ⟨e, .ric e own, stepped⟩
  | subscribed m timer newId req ricSys info idle address port forwarded =>
    refine .inr ⟨_, .subscribe m timer, ?_⟩
    simp [RicSys.step, forwarded]
  | deleteForwarded timer xappId node id todo sent ricSys at_ forwarded =>
    refine .inr ⟨_, .delete timer xappId node id todo at_, ?_⟩
    simp [RicSys.step, forwarded]
  | controlForwarded m timer req ricSys idle forwarded =>
    refine .inr ⟨_, .control m timer, ?_⟩
    simp [RicSys.step, forwarded]
  | answered k w sentTo ricSys worker unlocked handled done => exact .inr ⟨_, .answered k, done⟩
  | forwarded k w x ricSys worker unlocked ev found looked => exact .inr ⟨_, .forwarded k x, looked⟩
  | removed k picks w x map ricSys worker found unlocked rm done =>
    exact .inr ⟨_, .removed k picks, done⟩
  | _ => exact .inl rfl

/-- The RIC under the iApp only gets into states it can get into by itself. -/
theorem ric_reachable (h : (iappMachine relock).Reachable s) :
    ricMachine.Reachable s.ricSys := by
  have hinit : ricMachine.Reachable (iappMachine relock).init.ricSys := Machine.Reachable.init
  refine Machine.ReachedBy.simulation (f := Sys.ricSys) hinit (fun s e s' _ _ hs => ?_) h
  obtain heq | ⟨d, -, hd⟩ := step_ric hs
  · exact .inl heq
  · exact .inr ⟨d, trivial, hd⟩

end Sys

end FlexRic
