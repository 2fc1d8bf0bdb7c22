import FlexRic.Ric.PendingEvents
import FlexRic.Ric.Requests

/-!
# FlexRic.Ric.RequestIds

Whether the requests outstanding on the E2 interface have request ids of
their own.

An id is either the xApp's own or taken from a counter, and forwarding a
subscription sets the counter back to the xApp's id.

* `uniqueIds_step`: a step from unique ids keeps them unique exactly when it
  sends no request under the id of another outstanding one;
* `uniqueIds`: so along runs of such steps, and then no key of `pending` is
  ever inserted twice.
-/

namespace FlexRic

namespace RicSys

variable {s s' : RicSys} {e : RicEvent} {ev : PendingEvent} {r : Req}

/-- Sent and not answered, or answered subscriptions that are not deleted. -/
def outstanding (s : RicSys) : List Req := s.subs ++ s.procs.map (·.req)

/-- The outstanding requests have distinct request ids.  A deletion and the
subscription it deletes are one request. -/
def UniqueIds (s : RicSys) : Prop :=
  ∀ r ∈ s.outstanding, ∀ q ∈ s.outstanding, r.id.ricReqId = q.id.ricReqId → r = q

/-- A deletion with this id is under way. -/
def deleting (s : RicSys) (id : RicGenId) : Bool :=
  s.ric.pending.right.any fun x => x.1 == ⟨.subscriptionDeleteRequest, id⟩

/-- The request an event sends something for, if it does. -/
def sentFor (s : RicSys) : RicEvent → Option Req
  | .fwdSubscription node id origin _ => some ⟨s.nextUid, node, id, .subscription, origin⟩
  | .fwdSubscriptionDelete node id _ => if s.deleting id then none else some (s.targetReq node id)
  | .fwdControl node id origin _ =>
    some ⟨s.nextUid, node, { id with ricReqId := s.ric.reqId.toUInt16.toUInt32 }, .control, origin⟩
  | .reportService node ranFuncId _ =>
    some ⟨s.nextUid, node, ⟨s.ric.reqId, 0, ranFuncId⟩, .subscription, none⟩
  | .rmReportService node ranFuncId actId _ =>
    some (s.targetReq node ⟨actId.toUInt32, 0, ranFuncId⟩)
  | .controlService node ranFuncId _ =>
    some ⟨s.nextUid, node, ⟨s.ric.reqId, 0, ranFuncId⟩, .control, none⟩
  | _ => none

/-- Nothing is sent under the request id of another outstanding request. -/
def FreshId (s : RicSys) (e : RicEvent) : Prop :=
  ∀ r ∈ s.sentFor e, ∀ q ∈ s.outstanding, q.id.ricReqId = r.id.ricReqId → q = r

instance (s : RicSys) (e : RicEvent) : Decidable (FreshId s e) :=
  inferInstanceAs (Decidable (∀ r ∈ s.sentFor e, ∀ q ∈ s.outstanding, _))

/-- Sending something for a request is opening a procedure for it. -/
theorem sentFor_eq_some : s.sentFor e = some r ↔ ∃ ev, Opens s e r ev := by
  constructor
  · intro h
    cases e with
    | fwdSubscription node id origin timer =>
      cases h
      exact ⟨_, .subscription node id origin timer⟩
    | fwdSubscriptionDelete node id timer =>
      simp only [sentFor] at h
      split at h
      · cases h
      · rename_i hnot
        cases h
        refine ⟨_, .subscriptionDelete node id timer fun x hx heq => hnot ?_⟩
        exact List.any_eq_true.mpr ⟨x, hx, beq_iff_eq.mpr heq⟩
    | fwdControl node id origin timer =>
      cases h
      exact ⟨_, .control node id origin timer⟩
    | reportService node ranFuncId timer =>
      cases h
      exact ⟨_, .report node ranFuncId timer⟩
    | rmReportService node ranFuncId actId timer =>
      cases h
      exact ⟨_, .rmReport node ranFuncId actId timer⟩
    | controlService node ranFuncId timer =>
      cases h
      exact ⟨_, .controlService node ranFuncId timer⟩
    | _ => cases h
  · rintro ⟨ev, h⟩
    cases h with
    | subscriptionDelete node id timer notPending =>
      have hnot : s.deleting id = false := by
        rw [deleting, List.any_eq_false]
        exact fun x hx heq => notPending x hx (beq_iff_eq.mp heq)
      simp [sentFor, hnot]
    | _ => rfl

/-- What an event does to the outstanding requests: it adds the one it sends
something for, or it adds none. -/
inductive OutstandingStep (s : RicSys) (e : RicEvent) (s' : RicSys) : Prop
  | sent (r : Req) (for_ : s.sentFor e = some r)
      (mem : ∀ q, q ∈ s'.outstanding ↔ q ∈ s.outstanding ∨ q = r)
  | silent (not : s.sentFor e = none) (subset : s'.outstanding ⊆ s.outstanding)

/-- A request that is sent is outstanding. -/
theorem outstanding_opened {ric : NearRic} {fd : Fd} {q : Req} :
    q ∈ (s.opened ric r ev fd).outstanding ↔ q ∈ s.outstanding ∨ q = r := by
  simp only [outstanding, opened, List.map_append, List.map_cons, List.map_nil, List.mem_append,
    List.mem_singleton, or_assoc]

/-- An answered request is outstanding as a subscription, or no more. -/
theorem outstanding_answered {ric : NearRic} {k : Nat} {p : Proc} (h : s.procs[k]? = some p) :
    (s.answered ric k p).outstanding ⊆ s.outstanding := by
  have hp : p.req ∈ s.procs.map (·.req) := List.mem_map.mpr ⟨p, List.mem_of_getElem? h, rfl⟩
  intro q hq
  simp only [outstanding, answered, List.mem_append] at hq ⊢
  obtain hq | hq := hq
  · split at hq
    · obtain hq | hq := List.mem_append.mp hq
      · exact .inl hq
      · rw [List.mem_singleton.mp hq]
        exact .inr hp
    · exact .inl (List.mem_of_mem_filter hq)
    · exact .inl hq
  · exact .inr (((List.eraseIdx_sublist _ _).map _).subset hq)

/-- **What a step does to the outstanding requests**: one more, one less, or none. -/
theorem outstanding_step (hs : s.step e = .next s') : OutstandingStep s e s' := by
  cases step_cases hs with
  | opened req ev fd ric opens started eq =>
    subst eq
    exact .sent req (sentFor_eq_some.mpr ⟨ev, opens⟩) fun _ => outstanding_opened
  | answered k resp picks p fd ric event proc stopped eq =>
    subst event eq
    exact .silent rfl (outstanding_answered proc)
  | stray ev id resp picks fd ric event notWaiting stopped eq =>
    subst event eq
    exact .silent rfl (List.Subset.refl _)
  | lookedUp k x w event worker eq =>
    subst event eq
    exact .silent rfl (List.Subset.refl _)
  | notified k w event worker eq =>
    subst event eq
    exact .silent rfl (List.Subset.refl _)
  | quiet silent quiet =>
    refine .silent ?_ ?_
    · rw [Option.eq_none_iff_forall_ne_some]
      intro r hr
      obtain ⟨ev, ho⟩ := sentFor_eq_some.mp hr
      exact silent r ev ho
    · rw [outstanding, quiet.subs, quiet.procs, outstanding]
      exact List.Subset.refl _

/-- **One step.** From unique ids a step leads to unique ids exactly when it
sends nothing under the id of another outstanding request. -/
theorem uniqueIds_step (h : UniqueIds s) (hs : s.step e = .next s') :
    UniqueIds s' ↔ FreshId s e := by
  cases outstanding_step hs with
  | sent r for_ mem =>
    constructor
    · intro hu p hp q hq hid
      cases for_.symm.trans hp
      exact hu q ((mem q).mpr (.inl hq)) r ((mem r).mpr (.inr rfl)) hid
    · intro hf p hp q hq hid
      obtain hp | hp := (mem p).mp hp <;> obtain hq | hq := (mem q).mp hq
      · exact h p hp q hq hid
      · rw [hq] at hid ⊢
        exact hf r for_ p hp hid
      · rw [hp] at hid ⊢
        exact (hf r for_ q hq hid.symm).symm
      · rw [hp, hq]
  | silent not subset =>
    refine iff_of_true (fun p hp q hq => h p (subset hp) q (subset hq)) fun r hr => ?_
    rw [not] at hr
    cases hr

/-- No request is sent under an id in use, and no deletion of a report is
asked for while it is under way. -/
def UniqueCond (s : RicSys) (e : RicEvent) : Prop := FreshId s e ∧ FreshKey s e

instance (s : RicSys) (e : RicEvent) : Decidable (UniqueCond s e) :=
  inferInstanceAs (Decidable (_ ∧ _))

/-- Along runs of such steps the request ids are unique, and so are the
keys of `pending`. -/
theorem uniqueIds (h : ricMachine.ReachedBy UniqueCond s) :
    UniqueIds s ∧ OrdAssoc.Distinct cmpPendingEventRic s.ric.pending.right := by
  have hinit : UniqueIds ricMachine.init := fun r hr => absurd hr List.not_mem_nil
  have hids : UniqueIds s := h.invariant hinit fun s e s' _ hp hc hs =>
    (uniqueIds_step hp hs).mpr hc.1
  have htimer : OneTimer s := h.invariant OneTimer.init fun s e s' _ hp hc hs => hp.step hc.2 hs
  exact ⟨hids, htimer.distinct⟩

end RicSys

end FlexRic
