import FlexRic.IApp.Invariants

/-!
# FlexRic.IApp.Routing

To whom the answer of a subscription request is forwarded.

The answer carries the request id on the E2 interface, which is the one the
xApp chose, and `map_ric_id` is looked up by it alone.  `uses` are the
subscription requests and mappings that go by such an id at a time:

* `uses_step`: one is added by sending a subscription request only;
* `unconfused_step`: so while no request is sent under an id that another
  one goes by, no two are ever confused;
* `response_routed`: and every answer that is forwarded goes to the xApp
  whose request it answers.
-/

namespace FlexRic

/-- Who goes by a request id: a request of an xApp, or of the RIC itself, at
an E2 node. -/
structure IdUse where
  ricReqId : UInt32
  origin : Option XappRicId
  node : GlobalE2NodeId
  deriving DecidableEq

def Req.use (r : Req) : IdUse := ⟨r.id.ricReqId, r.origin, r.node⟩

/-- The request a mapping is for. -/
def MapRicId.use (e : E2NodeRicId × XappRicId) : IdUse :=
  ⟨e.1.ricId.ricReqId, some e.2, e.1.e2NodeId⟩

namespace Sys

open RicSys (RicEvent)

variable {relock : Relock} {s s' : Sys} {e : Event} {r : Req} {u : IdUse}

/-! ## Request ids in use -/

/-- The subscription requests whose answers are due, the mappings, and the
subscription request the iApp's thread is handling. -/
def uses (s : Sys) : List IdUse :=
  (s.ricSys.due.filter fun d => d.2 == .subscriptionRequest).map (fun d => d.1.use) ++
    s.iapp.map.left.map MapRicId.use ++ s.pc.subscribing.toList.map fun p => p.2.2.use

theorem mem_uses :
    u ∈ s.uses ↔ (∃ r, (r, .subscriptionRequest) ∈ s.ricSys.due ∧ r.use = u) ∨
      (∃ n ∈ s.iapp.map.left, MapRicId.use n = u) ∨
      ∃ m newId r, s.pc.subscribing = some (m, newId, r) ∧ r.use = u := by
  simp [uses]

/-- The subscription request an event sends to an E2 node. -/
def newSub (s : Sys) : Event → Option Req
  | .e42Subscribe m _ =>
    some ⟨s.ricSys.nextUid, m.id, m.ricId, .subscription, some ⟨m.ricId, m.xappId⟩⟩
  | .ric (.reportService node ranFuncId _) =>
    some ⟨s.ricSys.nextUid, node, ⟨s.ricSys.ric.reqId, 0, ranFuncId⟩, .subscription, none⟩
  | _ => none

theorem newSub_uid (h : s.newSub e = some r) : r.uid = s.ricSys.nextUid := by
  unfold newSub at h
  split at h <;> cases h <;> rfl

/-- The answer of a subscription request becomes due by sending it. -/
theorem sub_due_step (hs : step relock s e = .next s')
    (h : (r, .subscriptionRequest) ∈ s'.ricSys.due) :
    (r, .subscriptionRequest) ∈ s.ricSys.due ∨ s.newSub e = some r := by
  obtain heq | ⟨d, hind, hd⟩ := step_ric hs
  · rw [heq] at h
    exact .inl h
  · obtain h | ⟨hopens, -⟩ := RicSys.due_step_mem hd h
    · exact .inl h
    · cases hind with
      | ric e own =>
        cases hopens with
        | subscription node id origin timer => cases own
        | report node ranFuncId timer => exact .inr rfl
      | subscribe m timer =>
        cases hopens with
        | subscription => exact .inr rfl
      | delete timer xappId node id todo at_ => cases hopens
      | control m timer => cases hopens
      | answered k => cases hopens
      | forwarded k x => cases hopens
      | removed k picks => cases hopens

/-- A mapping is added for the request being handled only. -/
theorem mapping_step (h : Ok s) (hs : step relock s e = .next s') {n : E2NodeRicId × XappRicId}
    (hn : n ∈ s'.iapp.map.left) :
    n ∈ s.iapp.map.left ∨
      ∃ m newId r, s.pc.subscribing = some (m, newId, r) ∧ r.use = MapRicId.use n := by
  cases step_cases hs with
  | inserted m newId req at_ =>
    have hproc := h.processing m newId req (by rw [at_]; rfl)
    obtain rfl | hn := Bimap.mem_inserted_left.mp hn
    · refine .inr ⟨m, newId, req, by rw [at_]; rfl, ?_⟩
      rw [hproc.ricId, Req.use, MapRicId.use, hproc.id, hproc.origin, hproc.node]
    · exact .inl hn
  | removed k picks w x map ricSys worker found unlocked rm done =>
    exact .inl ((MapRicId.rmMapRicId_sublist rm).1.subset hn)
  | indicated node ind sentTo parts iapp sent =>
    obtain ⟨rfl, rfl⟩ := h.forwardAll_eq_next sent
    exact .inl hn
  | _ => exact .inl hn

/-- The request being handled has just been sent. -/
theorem subscribing_step (hs : step relock s e = .next s') {m : E42Request} {newId : UInt16}
    (hp : s'.pc.subscribing = some (m, newId, r)) :
    s.pc.subscribing = some (m, newId, r) ∨
      (s.newSub e = some r ∧ (r, .subscriptionRequest) ∈ s'.ricSys.due) := by
  cases step_cases hs with
  | subscribed m' timer newId' req ricSys info idle address port forwarded =>
    obtain ⟨rfl, -, fd, ric, -, rfl⟩ := RicSys.fwdSubscription_eq_next forwarded
    dsimp only at hp
    split at hp
    · cases hp
    · cases hp
      exact .inr ⟨rfl, (RicSys.due_opened ..).mem_iff.mpr List.mem_cons_self⟩
  | registered reallocOk m' newId' req registry at_ added =>
    cases hp
    exact .inl (by rw [at_]; rfl)
  | indicated node ind sentTo parts iapp sent => exact .inl hp
  | deleteForwarded | disconnected =>
    rw [Pc.subscribing_deletingOrIdle] at hp
    cases hp
  | notRegistered | inserted | deleteFound | controlForwarded | controlAdded => cases hp
  | ric | setup | ignored | answered | forwarded | removed => exact .inl hp

/-- **What goes by a request id** has gone by it before, or is the request
just sent. -/
theorem uses_step (hok : Ok s) (hs : step relock s e = .next s') (h : u ∈ s'.uses) :
    u ∈ s.uses ∨ ∃ r, s.newSub e = some r ∧ r.use = u := by
  obtain ⟨r, hr, rfl⟩ | ⟨n, hn, rfl⟩ | ⟨m, newId, r, hp, rfl⟩ := mem_uses.mp h
  · obtain hr | hr := sub_due_step hs hr
    · exact .inl (mem_uses.mpr (.inl ⟨r, hr, rfl⟩))
    · exact .inr ⟨r, hr, rfl⟩
  · obtain hn | hp := mapping_step hok hs hn
    · exact .inl (mem_uses.mpr (.inr (.inl ⟨n, hn, rfl⟩)))
    · exact .inl (mem_uses.mpr (.inr (.inr hp)))
  · obtain hp | ⟨hp, -⟩ := subscribing_step hs hp
    · exact .inl (mem_uses.mpr (.inr (.inr ⟨m, newId, r, hp, rfl⟩)))
    · exact .inr ⟨r, hp, rfl⟩

/-! ## No confusion -/

/-- What goes by one request id is one request, of one xApp at one E2 node. -/
def Unconfused (s : Sys) : Prop := ∀ u ∈ s.uses, ∀ v ∈ s.uses, u.ricReqId = v.ricReqId → u = v

/-- No subscription request is sent under an id that another one goes by. -/
def FreshSub (s : Sys) (e : Event) : Prop :=
  ∀ r ∈ s.newSub e, ∀ u ∈ s.uses, u.ricReqId = r.id.ricReqId → u = r.use

instance (s : Sys) (e : Event) : Decidable (FreshSub s e) :=
  inferInstanceAs (Decidable (∀ r ∈ s.newSub e, ∀ u ∈ s.uses, _))

/-- **One step** that sends no request under an id in use. -/
theorem unconfused_step (hok : Ok s) (h : Unconfused s) (hc : FreshSub s e)
    (hs : step relock s e = .next s') : Unconfused s' := by
  intro u hu v hv heq
  obtain hu | ⟨r, hr, rfl⟩ := uses_step hok hs hu <;> obtain hv | ⟨q, hq, rfl⟩ := uses_step hok hs hv
  · exact h u hu v hv heq
  · exact hc q hq u hu heq
  · exact (hc r hr v hv heq.symm).symm
  · rw [hr] at hq
    cases hq
    rfl

theorem unconfused_init : Unconfused Sys.init := fun _ hu => absurd hu List.not_mem_nil

/-- The mapping found for an answer is that of the request answered. -/
theorem Unconfused.found (h : Unconfused s) (hr : RicSys.ReqsOk s.ricSys)
    (hdue : (r, .subscriptionRequest) ∈ s.ricSys.due) {x : XappRicId}
    (hx : s.iapp.map.findXappMapRicId r.id.ricReqId.toUInt16 = some x) :
    ∃ n, (n, x) ∈ s.iapp.map.left ∧ r.origin = some x ∧ r.node = n.e2NodeId := by
  obtain ⟨n, hn, hid⟩ := MapRicId.findXapp_mem hx
  rw [toUInt32_toUInt16 (hr.fits _ (RicSys.mem_live_of_due hdue))] at hid
  have huse : r.use = MapRicId.use (n, x) :=
    h _ (mem_uses.mpr (.inl ⟨r, hdue, rfl⟩)) _ (mem_uses.mpr (.inr (.inl ⟨_, hn, rfl⟩))) hid.symm
  rw [Req.use, MapRicId.use, IdUse.mk.injEq] at huse
  exact ⟨n, hn, huse.2⟩

/-! ## Answers of subscription requests -/

/-- An answer is forwarded under the xApp's own id of what was found. -/
theorem routeSubscriptionResponse_eq_some {iapp : E42Iapp} {src : RicGenId} {y : XappRicId}
    (h : routeSubscriptionResponse iapp src = .next (some y)) :
    iapp.map.findXappMapRicId src.ricReqId.toUInt16 = some y := by
  simp only [routeSubscriptionResponse] at h
  split at h
  · cases h
  · rename_i x hx
    split at h
    · cases h
    · rename_i hfunc
      split at h
      · cases h
      · rename_i hinst
        simp only [Outcome.bind_eq_next] at h
        obtain ⟨info, -, h⟩ := h
        split at h
        · cases h
        · simp only [bne_iff_ne, ne_eq, not_not] at hfunc hinst
          cases h
          rw [hx, hfunc, hinst]

/-- Every answer of a subscription request has gone to whom it is for, if
it has been forwarded. -/
def Routed (s : Sys) : Prop :=
  ∀ a ∈ s.hist.answers, a.ev = .subscriptionRequest → ∀ x, a.sentTo = some x → a.req.origin = some x

/-- What a step adds to the record of answers. -/
theorem step_answers (hs : step relock s e = .next s') :
    s'.hist.answers = s.hist.answers ∨
      ∃ k w sentTo, e = .notify k ∧ s.ricSys.workers[k]? = some w ∧
        s'.hist.answers = s.hist.answers ++ [⟨w.req, w.ev, sentTo⟩] ∧
        (w.ev = .subscriptionRequest →
          routeSubscriptionResponse s.iapp w.req.id = .next sentTo ∧
            s.ricSys.step (.notified k) = .next s'.ricSys) := by
  cases step_cases hs with
  | answered k w sentTo ricSys worker unlocked handled done =>
    refine .inr ⟨k, w, sentTo, rfl, worker, rfl, fun hev => ?_⟩
    cases handled with
    | response ev routed => exact ⟨routed, done⟩
    | deleted ev absent none =>
      rw [hev] at ev
      cases ev
  | forwarded k w x ricSys worker unlocked ev found looked =>
    refine .inr ⟨k, w, some x, rfl, worker, rfl, fun hev => ?_⟩
    rw [hev] at ev
    obtain ev | ev := ev <;> cases ev
  | indicated node ind sentTo parts iapp sent => exact .inl rfl
  | _ => exact .inl rfl

theorem Routed.step (h : Routed s) (hu : Unconfused s) (hr : RicSys.ReqsOk s.ricSys)
    (hs : step relock s e = .next s') : Routed s' := by
  obtain heq | ⟨k, w, sentTo, -, hw, heq, hroute⟩ := step_answers hs
  · intro a ha
    exact h a (heq ▸ ha)
  · intro a ha hev x hx
    rw [heq] at ha
    obtain ha | ha := List.mem_append.mp ha
    · exact h a ha hev x hx
    · rw [List.mem_singleton.mp ha] at hev hx ⊢
      obtain ⟨hrouted, -⟩ := hroute hev
      dsimp only at hev hx
      rw [hx] at hrouted
      have hdue := RicSys.mem_due_of_worker hw
      rw [hev] at hdue
      obtain ⟨-, -, horigin, -⟩ := hu.found hr hdue (routeSubscriptionResponse_eq_some hrouted)
      exact horigin

/-- **Routing of subscription responses.** In every run that sends no
subscription request under an id another request or mapping goes by, every
response that is forwarded goes to the xApp whose request it answers, under
that xApp's id, and no lookup confuses two requests. -/
theorem response_routed (relock : Relock) (s : Sys) (h : (iappMachine relock).ReachedBy FreshSub s) :
    (∀ a ∈ s.hist.answers, a.ev = .subscriptionRequest →
      ∀ x, a.sentTo = some x → a.req.origin = some x) ∧
    (∀ r, (r, .subscriptionRequest) ∈ s.ricSys.due → ∀ n x, (n, x) ∈ s.iapp.map.left →
      n.ricId.ricReqId = r.id.ricReqId → r.origin = some x ∧ r.node = n.e2NodeId) := by
  have hinv : Unconfused s ∧ Routed s := by
    refine h.invariant (P := fun s => Unconfused s ∧ Routed s)
      ⟨unconfused_init, fun _ ha => absurd ha List.not_mem_nil⟩ ?_
    intro s e s' hr hp hc hs
    have hok := ok hr.reachable
    exact ⟨unconfused_step hok hp.1 hc hs,
      hp.2.step hp.1 (RicSys.reqsOk (ric_reachable hr.reachable)) hs⟩
  refine ⟨hinv.2, fun r hr n x hn hid => ?_⟩
  have huse := hinv.1 _ (mem_uses.mpr (.inl ⟨r, hr, rfl⟩)) _
    (mem_uses.mpr (.inr (.inl ⟨_, hn, rfl⟩))) hid.symm
  rw [Req.use, MapRicId.use, IdUse.mk.injEq] at huse
  exact huse.2

/-- The response to the subscription request of the xApp 8 goes to the xApp 7,
which has subscribed under the same id before. -/
theorem response_misrouted :
    ¬ ∀ s, (iappMachine .edeadlk).Reachable s → ∀ a ∈ s.hist.answers,
      a.ev = .subscriptionRequest → ∀ x, a.sentTo = some x → a.req.origin = some x := by
  intro hclaim
  obtain ⟨s, hr, hs⟩ := Machine.Reachable.exists_of_run (M := iappMachine .edeadlk)
    (setUp ++ subscribe ⟨7, .gnb 1, ⟨1, 0, 142⟩⟩ 5 ++ [answer 0, .notify 0] ++
      subscribe ⟨8, .gnb 2, ⟨1, 0, 142⟩⟩ 6 ++ [answer 0, .notify 0])
    (fun s => s.hist.answers.any fun a => a.ev == .subscriptionRequest &&
      a.sentTo == some ⟨⟨1, 0, 142⟩, 7⟩ && a.req.origin == some ⟨⟨1, 0, 142⟩, 8⟩)
    (by decide)
  obtain ⟨a, ha, hall⟩ := List.any_eq_true.mp hs
  simp only [Bool.and_eq_true, beq_iff_eq] at hall
  obtain ⟨⟨hev, hto⟩, horigin⟩ := hall
  have := hclaim s hr a ha hev _ hto
  rw [horigin] at this
  cases this

/-- Two xApps with ids of their own, answered in the other order. -/
theorem response_routed_two_xapps :
    ∃ s : Sys, s.hist.answers.map (·.sentTo) = [some ⟨⟨2, 0, 142⟩, 8⟩, some ⟨⟨1, 0, 142⟩, 7⟩] ∧
      ∀ a ∈ s.hist.answers, a.ev = .subscriptionRequest →
        ∀ x, a.sentTo = some x → a.req.origin = some x := by
  obtain ⟨s, hr, hs⟩ := Machine.ReachedBy.exists_of_run (M := iappMachine .edeadlk) (C := FreshSub)
    (setUp ++ subscribe ⟨7, .gnb 1, ⟨1, 0, 142⟩⟩ 5 ++ subscribe ⟨8, .gnb 2, ⟨2, 0, 142⟩⟩ 6 ++
      [answer 1, answer 0, .notify 0, .notify 0])
    (fun s => s.hist.answers.map (·.sentTo) == [some ⟨⟨2, 0, 142⟩, 8⟩, some ⟨⟨1, 0, 142⟩, 7⟩])
    (by decide)
  exact ⟨s, beq_iff_eq.mp hs, (response_routed .edeadlk s hr).1⟩

end Sys

end FlexRic
