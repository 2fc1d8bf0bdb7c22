import FlexRic.Ric.Requests

/-!
# FlexRic.Ric.Subscriptions

The subscriptions of the near-RT RIC that are in use.

* `Sensible`: a new subscription has an id of its own, and a deletion is of a subscription that has
  been answered.
* `SubsOk`: while requests are sensible and no key is used twice, a subscription is known by its id,
  and is held from its answer to that of its deletion.
-/

namespace FlexRic

namespace RicSys

variable {s s' : RicSys} {e : RicEvent} {r r' : Req} {p q : Proc} {k : Nat}

/-- A new subscription has an id that none in use has, and a deletion is of one that has been
answered. -/
def Sensible (s : RicSys) : RicEvent → Prop
  | .fwdSubscription _ id _ _ => ∀ r ∈ s.live, r.type = .subscription → r.id ≠ id
  | .reportService _ ranFuncId _ =>
    ∀ r ∈ s.live, r.type = .subscription → r.id ≠ ⟨s.ric.reqId, 0, ranFuncId⟩
  | .fwdSubscriptionDelete node id _ => ∃ r ∈ s.subs, r.node = node ∧ r.id = id
  | .rmReportService node ranFuncId actId _ =>
    ∃ r ∈ s.subs, r.node = node ∧ r.id = ⟨actId.toUInt32, 0, ranFuncId⟩
  | _ => True

instance (s : RicSys) (e : RicEvent) : Decidable (s.Sensible e) := by
  unfold Sensible
  split <;> infer_instance

/-- A subscription is known by its id, and is held from its answer to that of its deletion. -/
structure SubsOk (s : RicSys) : Prop where
  unique : ∀ r ∈ s.live, ∀ r' ∈ s.live, r.type = .subscription → r'.type = .subscription →
    r.id = r'.id → r = r'
  subs : ∀ r ∈ s.subs, r.type = .subscription
  opening : ∀ p ∈ s.procs, p.ev = .subscriptionRequest →
    p.req.type = .subscription ∧ p.req ∉ s.subs
  closing : ∀ p ∈ s.procs, p.ev = .subscriptionDeleteRequest → p.req ∈ s.subs

/-- An answered subscription is live. -/
theorem mem_live_of_subs (h : r ∈ s.subs) : r ∈ s.live := mem_live.mpr (.inl h)

/-- The request of an outstanding procedure is live. -/
theorem mem_live_of_procs (h : p ∈ s.procs) : p.req ∈ s.live :=
  mem_live_of_due (List.mem_append_left _ (List.mem_map.mpr ⟨p, h, rfl⟩))

/-- A procedure that is opened is of a new subscription, of one that has been answered, or of a
control. -/
inductive OpensFor (s : RicSys) (req : Req) (ev : PendingEvent) : Prop
  | subscription (kind : ev = .subscriptionRequest) (type : req.type = .subscription)
      (new : ∀ r ∈ s.live, r.type = .subscription → r.id ≠ req.id)
  | deletion (kind : ev = .subscriptionDeleteRequest) (held : req ∈ s.subs)
  | control (kind : ev = .controlRequest) (type : req.type = .control)

/-- The target of a deletion is the subscription with its id. -/
theorem SubsOk.targetReq_mem (h : SubsOk s) {node : GlobalE2NodeId} {id : RicGenId}
    (hr : ∃ r ∈ s.subs, r.node = node ∧ r.id = id) : s.targetReq node id ∈ s.subs := by
  obtain ⟨r, hr, rfl, rfl⟩ := hr
  have htype := h.subs r hr
  have hlive := mem_live_of_subs hr
  obtain hmem | ⟨hnone, -⟩ := RicSys.targetReq_mem s r.node r.id
  · obtain ⟨-, hid, htype'⟩ := targetReq_node s r.node r.id
    rw [h.unique _ hmem r hlive htype' htype hid]
    exact hr
  · have hnot := List.find?_eq_none.mp hnone r hlive
    simp [htype] at hnot

/-- A sensible request subscribes under a new id, or deletes what is there. -/
theorem SubsOk.opensFor (h : SubsOk s) {req : Req} {ev : PendingEvent} (hs : s.Sensible e)
    (ho : Opens s e req ev) : OpensFor s req ev := by
  cases ho with
  | subscription node id origin timer => exact .subscription rfl rfl hs
  | subscriptionDelete node id timer notPending => exact .deletion rfl (h.targetReq_mem hs)
  | control node id origin timer => exact .control rfl rfl
  | report node ranFuncId timer => exact .subscription rfl rfl hs
  | rmReport node ranFuncId actId timer => exact .deletion rfl (h.targetReq_mem hs)
  | controlService node ranFuncId timer => exact .control rfl rfl

theorem SubsOk.init : SubsOk RicSys.init where
  unique := fun _ h => absurd h List.not_mem_nil
  subs := fun _ h => absurd h List.not_mem_nil
  opening := fun _ h => absurd h List.not_mem_nil
  closing := fun _ h => absurd h List.not_mem_nil

/-- A request is live once it is sent. -/
theorem mem_live_opened {ric : NearRic} {req : Req} {ev : PendingEvent} {fd : Fd} :
    r ∈ (s.opened ric req ev fd).live ↔ r = req ∨ r ∈ s.live := by
  simp only [live, opened, List.map_append, List.mem_append, List.map_cons, List.map_nil,
    List.mem_singleton]
  constructor
  · rintro ((h | h | h) | h)
    · exact .inr (.inl (.inl h))
    · exact .inr (.inl (.inr h))
    · exact .inl h
    · exact .inr (.inr h)
  · rintro (h | (h | h) | h)
    · exact .inl (.inr (.inr h))
    · exact .inl (.inl h)
    · exact .inl (.inr (.inl h))
    · exact .inr h

/-- A sensible request keeps the subscriptions unique. -/
theorem SubsOk.opened (h : SubsOk s) {ric : NearRic} {req : Req} {ev : PendingEvent} {fd : Fd}
    (ho : OpensFor s req ev) : SubsOk (s.opened ric req ev fd) := by
  have hprocs {p : Proc} (hp : p ∈ s.procs ++ [⟨req, ev, fd⟩]) : p ∈ s.procs ∨ p = ⟨req, ev, fd⟩ :=
    (List.mem_append.mp hp).imp id List.mem_singleton.mp
  refine ⟨fun r hr r' hr' htype htype' hid => ?_, h.subs, fun p hp hev => ?_, fun p hp hev => ?_⟩
  · rw [mem_live_opened] at hr hr'
    cases ho with
    | subscription kind type new =>
      obtain rfl | hr := hr
      · obtain rfl | hr' := hr'
        · rfl
        · exact absurd hid.symm (new r' hr' htype')
      · obtain rfl | hr' := hr'
        · exact absurd hid (new r hr htype)
        · exact h.unique r hr r' hr' htype htype' hid
    | deletion kind held =>
      have hlive {r : Req} (hr : r = req ∨ r ∈ s.live) : r ∈ s.live :=
        hr.elim (fun heq => heq ▸ mem_live_of_subs held) fun hr => hr
      exact h.unique r (hlive hr) r' (hlive hr') htype htype' hid
    | control kind type =>
      have hlive {r : Req} (hr : r = req ∨ r ∈ s.live) (ht : r.type = .subscription) :
          r ∈ s.live := by
        obtain rfl | hr := hr
        · rw [type] at ht
          cases ht
        · exact hr
      exact h.unique r (hlive hr htype) r' (hlive hr' htype') htype htype' hid
  · obtain hp | rfl := hprocs hp
    · exact h.opening p hp hev
    · cases ho with
      | subscription kind type new =>
        exact ⟨type, fun hmem => new req (mem_live_of_subs hmem) type rfl⟩
      | deletion kind held => simp [kind] at hev
      | control kind type => simp [kind] at hev
  · obtain hp | rfl := hprocs hp
    · exact h.closing p hp hev
    · cases ho with
      | subscription kind type new => simp [kind] at hev
      | deletion kind held => exact held
      | control kind type => simp [kind] at hev

/-- What is asked for is not what a deletion is asked of. -/
theorem SubsOk.opening_ne_closing (h : SubsOk s) (hp : p ∈ s.procs)
    (hpev : p.ev = .subscriptionRequest) (hq : q ∈ s.procs)
    (hqev : q.ev = .subscriptionDeleteRequest) : p.req.id ≠ q.req.id := by
  intro hid
  have hheld := h.closing q hq hqev
  obtain ⟨htype, hfree⟩ := h.opening p hp hpev
  refine hfree ?_
  rwa [h.unique _ (mem_live_of_procs hp) _ (mem_live_of_subs hheld) htype (h.subs _ hheld) hid]

/-- Another procedure of the same kind is of another request. -/
theorem other_req (hkeys : (s.procs.map Proc.key).Nodup) (hp : s.procs[k]? = some p)
    (hq : q ∈ s.procs.eraseIdx k) (hev : q.ev = p.ev) : q.req.id ≠ p.req.id := by
  obtain ⟨hlt, rfl⟩ := List.getElem?_eq_some_iff.mp hp
  intro hid
  have hperm := ((List.getElem_cons_eraseIdx_perm hlt).map Proc.key).nodup_iff.mpr hkeys
  rw [List.map_cons, List.nodup_cons] at hperm
  refine hperm.1 (List.mem_map.mpr ⟨q, hq, ?_⟩)
  rw [Proc.key, Proc.key, hev, hid]

/-- An answer adds or takes away its own subscription. -/
theorem mem_subs_answered {ric : NearRic} : r ∈ (s.answered ric k p).subs ↔
    (r ∈ s.subs ∧ (p.ev = .subscriptionDeleteRequest → r ≠ p.req)) ∨
      p.ev = .subscriptionRequest ∧ r = p.req := by
  simp only [answered]
  split
  · rename_i hev
    simp [hev]
  · rename_i hev
    simp [hev]
  · rename_i hsub hdel
    have hsub : p.ev ≠ .subscriptionRequest := hsub
    have hdel : p.ev ≠ .subscriptionDeleteRequest := hdel
    simp [hdel, hsub]

/-- An answer keeps the subscriptions unique. -/
theorem SubsOk.answered (h : SubsOk s) (hkeys : (s.procs.map Proc.key).Nodup) {ric : NearRic}
    (hp : s.procs[k]? = some p)
    {resp : NearRic.Admission} {picks : Picks}
    (hstep : s.step (.answer k resp picks) = .next (s.answered ric k p)) :
    SubsOk (s.answered ric k p) := by
  have hmem : p ∈ s.procs := List.mem_of_getElem? hp
  have hlive : ∀ r ∈ (s.answered ric k p).live, r ∈ s.live := by
    intro r hr
    obtain hr | ⟨ev, ⟨ho, -⟩⟩ := live_step hstep hr
    · exact hr
    · cases ho
  refine ⟨fun r hr r' hr' => h.unique r (hlive r hr) r' (hlive r' hr'), fun r hr => ?_,
    fun q hq hev => ?_, fun q hq hev => ?_⟩
  · obtain ⟨hr, -⟩ | ⟨hev, rfl⟩ := mem_subs_answered.mp hr
    · exact h.subs r hr
    · exact (h.opening p hmem hev).1
  · obtain ⟨htype, hnot⟩ := h.opening q (List.mem_of_mem_eraseIdx hq) hev
    refine ⟨htype, fun hsub => ?_⟩
    obtain ⟨hsub, -⟩ | ⟨hp', heq⟩ := mem_subs_answered.mp hsub
    · exact hnot hsub
    · exact other_req hkeys hp hq (hev.trans hp'.symm) (by rw [heq])
  · refine mem_subs_answered.mpr (.inl ⟨h.closing q (List.mem_of_mem_eraseIdx hq) hev, ?_⟩)
    exact fun hp' heq => other_req hkeys hp hq (hev.trans hp'.symm) (by rw [heq])

end RicSys

end FlexRic
