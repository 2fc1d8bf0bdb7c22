import FlexRic.IApp.Routing
import FlexRic.Ric.PendingEvents

/-!
# FlexRic.IApp.Delivery

That the answer of an accepted subscription request is not lost.

A subscription request leaves for the E2 node before its mapping is entered,
and a worker handles the answer whenever it arrives.

* `tokens_step`: in every run the answer of a subscription request is due or
  on record, and never twice;
* `Delivered.step`: while no answer is handled before the mapping of its
  request is entered, and no mapping is removed that a due answer needs, the
  mapping of each accepted request is there for its answer;
* `response_delivered`: so each is forwarded to the xApp once.
-/

namespace FlexRic

/-- The request an answer is for, and the kind of the answer. -/
def Answered.key (a : Answered) : Req × PendingEvent := (a.req, a.ev)

@[simp] theorem Answered.key_mk {r : Req} {ev : PendingEvent} {sentTo : Option XappRicId} :
    Answered.key ⟨r, ev, sentTo⟩ = (r, ev) := rfl

namespace Sys

open RicSys (RicEvent)

variable {relock : Relock} {s s' : Sys} {e : Event} {r : Req}

/-! ## Due or on record -/

/-- How often the answer of the subscription request is due or on record. -/
def tokens (s : Sys) (r : Req) : Nat :=
  s.ricSys.due.count (r, .subscriptionRequest) +
    (s.hist.answers.map Answered.key).count (r, .subscriptionRequest)

theorem tokens_pos_of_due (h : (r, .subscriptionRequest) ∈ s.ricSys.due) : 0 < s.tokens r :=
  Nat.add_pos_left (List.count_pos_iff.mpr h) _

/-- What an event does to the answers of subscription requests: nothing, or
it makes the answer of a new request due. -/
inductive TokenStep (s s' : Sys) : Prop
  | same (tokens : ∀ r, s'.tokens r = s.tokens r)
  | sent (q : Req) (uid : q.uid = s.ricSys.nextUid) (next : s.ricSys.nextUid < s'.ricSys.nextUid)
      (tokens : ∀ r, s'.tokens r = s.tokens r + if q = r then 1 else 0)

/-- The workers that have read a mapping handle no answer of a subscription
request. -/
def FoundOther (s : Sys) : Prop :=
  ∀ w ∈ s.ricSys.workers, w.found ≠ none → w.ev ≠ .subscriptionRequest

theorem FoundOther.ric (h : FoundOther s) {d : RicEvent} {ricSys : RicSys}
    (hd : s.ricSys.step d = .next ricSys) (hown : ownEvent d = true) :
    ∀ w ∈ ricSys.workers, w.found ≠ none → w.ev ≠ .subscriptionRequest := by
  intro w hw hf
  cases RicSys.step_cases hd with
  | opened req ev fd ric opens started eq =>
    subst eq
    exact h w hw hf
  | answered k resp picks p fd ric event proc stopped eq =>
    subst eq
    obtain hw | hw := List.mem_append.mp hw
    · exact h w hw hf
    · rw [List.mem_singleton.mp hw] at hf
      contradiction
  | stray ev id resp picks fd ric event notWaiting stopped eq =>
    subst eq
    exact h w hw hf
  | lookedUp k x w' event worker eq =>
    subst event
    cases hown
  | notified k w' event worker eq =>
    subst event
    cases hown
  | quiet silent quiet =>
    rw [quiet.workers] at hw
    exact h w hw hf

theorem FoundOther.step (h : FoundOther s) (hs : step relock s e = .next s') : FoundOther s' := by
  cases step_cases hs with
  | ric e ricSys own stepped => exact h.ric stepped own
  | subscribed m timer newId req ricSys info idle address port forwarded =>
    obtain ⟨-, -, fd, ric, -, rfl⟩ := RicSys.fwdSubscription_eq_next forwarded
    exact h
  | deleteForwarded timer xappId node id todo sent ricSys at_ forwarded =>
    obtain ⟨-, rfl, -⟩ | ⟨-, -, fd, ric, -, rfl⟩ := RicSys.fwdSubscriptionDelete_eq_next forwarded
    · exact h
    · exact h
  | controlForwarded m timer req ricSys idle forwarded =>
    obtain ⟨-, fd, ric, -, rfl⟩ := RicSys.fwdControl_eq_next forwarded
    exact h
  | answered k w sentTo ricSys worker unlocked handled done =>
    cases (RicSys.step_notified worker).symm.trans done
    exact fun w hw => h w ((List.eraseIdx_sublist _ _).subset hw)
  | forwarded k w x ricSys worker unlocked ev found looked =>
    cases (RicSys.step_lookedUp worker x).symm.trans looked
    intro w' hw' hf hev
    obtain hw' | rfl := List.mem_or_eq_of_mem_set hw'
    · exact h w' hw' hf hev
    · dsimp only at hev
      rw [hev] at ev
      obtain ev | ev := ev <;> cases ev
  | removed k picks w x map ricSys worker found unlocked rm done =>
    cases (RicSys.step_notified worker).symm.trans done
    exact fun w hw => h w ((List.eraseIdx_sublist _ _).subset hw)
  | indicated node ind sentTo parts iapp sent => exact h
  | _ => exact h

theorem tokens_of_due_perm (hd : s'.ricSys.due.Perm s.ricSys.due)
    (ha : s'.hist.answers = s.hist.answers) : ∀ r, s'.tokens r = s.tokens r := by
  intro r
  rw [tokens, tokens, hd.count_eq, ha]

/-- A procedure of another kind makes no answer of a subscription due. -/
theorem tokens_of_opened_other {q : Req} {ev : PendingEvent}
    (hd : s'.ricSys.due.Perm ((q, ev) :: s.ricSys.due)) (hev : ev ≠ .subscriptionRequest)
    (ha : s'.hist.answers = s.hist.answers) : ∀ r, s'.tokens r = s.tokens r := by
  intro r
  have hne : (q, ev) ≠ (r, .subscriptionRequest) := fun heq => hev (Prod.mk.inj heq).2
  rw [tokens, tokens, hd.count_eq, List.count_cons_of_ne hne, ha]

theorem tokens_of_opened {q : Req}
    (hd : s'.ricSys.due.Perm ((q, .subscriptionRequest) :: s.ricSys.due))
    (ha : s'.hist.answers = s.hist.answers) :
    ∀ r, s'.tokens r = s.tokens r + if q = r then 1 else 0 := by
  intro r
  rw [tokens, tokens, hd.count_eq, ha]
  by_cases hq : q = r
  · rw [hq, List.count_cons_self, if_pos rfl]
    omega
  · have hne : (q, PendingEvent.subscriptionRequest) ≠ (r, .subscriptionRequest) := fun heq =>
      hq (Prod.mk.inj heq).1
    rw [List.count_cons_of_ne hne, if_neg hq, Nat.add_zero]

/-- An answer that is handled is on record from then on. -/
theorem tokens_of_answered {w : Worker} {sentTo : Option XappRicId}
    (hd : s.ricSys.due.Perm ((w.req, w.ev) :: s'.ricSys.due))
    (ha : s'.hist.answers = s.hist.answers ++ [⟨w.req, w.ev, sentTo⟩]) :
    ∀ r, s'.tokens r = s.tokens r := by
  intro r
  have hdue := hd.count_eq (r, .subscriptionRequest)
  rw [List.count_cons] at hdue
  rw [tokens, tokens, ha, List.map_append, List.count_append, List.map_singleton,
    List.count_singleton, Answered.key_mk]
  omega

/-- Putting an answer of another kind on record changes nothing. -/
theorem tokens_of_recorded_other {w : Worker} {sentTo : Option XappRicId}
    (hd : s'.ricSys.due.Perm s.ricSys.due) (hev : w.ev ≠ .subscriptionRequest)
    (ha : s'.hist.answers = s.hist.answers ++ [⟨w.req, w.ev, sentTo⟩]) :
    ∀ r, s'.tokens r = s.tokens r := by
  intro r
  have hne : (w.req, w.ev) ≠ (r, .subscriptionRequest) := fun heq => hev (Prod.mk.inj heq).2
  rw [tokens, tokens, hd.count_eq, ha, List.map_append, List.count_append, List.map_singleton,
    Answered.key_mk, List.count_singleton, if_neg (by simpa using hne), Nat.add_zero]

/-- No more than finishing the handling of one. -/
theorem tokens_of_finished_other {w : Worker}
    (hd : s.ricSys.due.Perm ((w.req, w.ev) :: s'.ricSys.due)) (hev : w.ev ≠ .subscriptionRequest)
    (ha : s'.hist.answers = s.hist.answers) : ∀ r, s'.tokens r = s.tokens r := by
  intro r
  have hne : (w.req, w.ev) ≠ (r, .subscriptionRequest) := fun heq => hev (Prod.mk.inj heq).2
  rw [tokens, tokens, hd.count_eq, List.count_cons_of_ne hne, ha]

/-- **Due or on record.** What an event does to the answers of subscription
requests. -/
theorem tokens_step (h : FoundOther s) (hs : step relock s e = .next s') : TokenStep s s' := by
  cases step_cases hs with
  | ric e ricSys own stepped =>
    cases RicSys.due_step stepped with
    | opened q ev by_ perm =>
      obtain ⟨opens, fd, ric, -, rfl⟩ := by_
      by_cases hev : ev = .subscriptionRequest
      · subst hev
        refine .sent q ?_ (Nat.lt_succ_self _) (tokens_of_opened perm rfl)
        cases opens <;> rfl
      · exact .same (tokens_of_opened_other perm hev rfl)
    | notified k w event worker perm =>
      subst event
      cases own
    | same perm => exact .same (tokens_of_due_perm perm rfl)
  | subscribed m timer newId req ricSys info idle address port forwarded =>
    obtain ⟨rfl, -, fd, ric, -, rfl⟩ := RicSys.fwdSubscription_eq_next forwarded
    exact .sent _ rfl (Nat.lt_succ_self _) (tokens_of_opened (RicSys.due_opened ..) rfl)
  | deleteForwarded timer xappId node id todo sent ricSys at_ forwarded =>
    obtain ⟨-, rfl, -⟩ | ⟨-, -, fd, ric, -, rfl⟩ := RicSys.fwdSubscriptionDelete_eq_next forwarded
    · exact .same fun _ => rfl
    · exact .same (tokens_of_opened_other (RicSys.due_opened ..) (by decide) rfl)
  | controlForwarded m timer req ricSys idle forwarded =>
    obtain ⟨-, fd, ric, -, rfl⟩ := RicSys.fwdControl_eq_next forwarded
    exact .same (tokens_of_opened_other (RicSys.due_opened ..) (by decide) rfl)
  | answered k w sentTo ricSys worker unlocked handled done =>
    cases (RicSys.step_notified worker).symm.trans done
    exact .same (tokens_of_answered (RicSys.due_notified worker) rfl)
  | forwarded k w x ricSys worker unlocked ev found looked =>
    cases (RicSys.step_lookedUp worker x).symm.trans looked
    refine .same (tokens_of_recorded_other (.of_eq (RicSys.due_lookedUp worker)) ?_ rfl)
    obtain ev | ev := ev <;> rw [ev] <;> decide
  | removed k picks w x map ricSys worker found unlocked rm done =>
    cases (RicSys.step_notified worker).symm.trans done
    have hev : w.ev ≠ .subscriptionRequest :=
      h w (List.mem_of_getElem? worker) (by rw [found]; exact Option.some_ne_none x)
    exact .same (tokens_of_finished_other (RicSys.due_notified worker) hev rfl)
  | indicated node ind sentTo parts iapp sent => exact .same fun _ => rfl
  | _ => exact .same fun _ => rfl

/-- The requests an event adds to those created or accepted. -/
theorem created_step (hs : step relock s e = .next s') (h : r ∈ s'.hist.created) :
    r ∈ s.hist.created ∨ (r, .subscriptionRequest) ∈ s'.ricSys.due := by
  cases step_cases hs with
  | subscribed m timer newId req ricSys info idle address port forwarded =>
    obtain ⟨rfl, -, fd, ric, -, rfl⟩ := RicSys.fwdSubscription_eq_next forwarded
    obtain h | h := List.mem_append.mp h
    · exact .inl h
    · rw [List.mem_singleton.mp h]
      exact .inr ((RicSys.due_opened ..).mem_iff.mpr List.mem_cons_self)
  | indicated node ind sentTo parts iapp sent => exact .inl h
  | _ => exact .inl h

theorem created_mono (hs : step relock s e = .next s') : s.hist.created ⊆ s'.hist.created := by
  cases step_cases hs with
  | subscribed m timer newId req ricSys info idle address port forwarded =>
    exact List.subset_append_left _ _
  | indicated node ind sentTo parts iapp sent => exact List.Subset.refl _
  | _ => exact List.Subset.refl _

/-- The subscription requests of every run: each has a number of its own,
and each one created for an xApp has its answer due or on record, once. -/
structure Tracked (s : Sys) : Prop where
  found : FoundOther s
  once : ∀ r, s.tokens r ≤ 1
  uid : ∀ r, 0 < s.tokens r → r.uid < s.ricSys.nextUid
  created : ∀ r ∈ s.hist.created, 0 < s.tokens r

theorem Tracked.init : Tracked Sys.init where
  found _ hw := absurd hw List.not_mem_nil
  once _ := Nat.zero_le 1
  uid _ h := absurd h (Nat.lt_irrefl 0)
  created _ hr := absurd hr List.not_mem_nil

theorem nextUid_step (hs : step relock s e = .next s') : s.ricSys.nextUid ≤ s'.ricSys.nextUid := by
  obtain heq | ⟨d, -, hd⟩ := step_ric hs
  · exact Nat.le_of_eq (congrArg RicSys.nextUid heq).symm
  · exact RicSys.nextUid_le hd

theorem Tracked.step (h : Tracked s) (hs : step relock s e = .next s') : Tracked s' := by
  have hcreated : (∀ r, s.tokens r ≤ s'.tokens r) → ∀ r ∈ s'.hist.created, 0 < s'.tokens r := by
    intro hle r hr
    obtain hr | hr := created_step hs hr
    · exact Nat.lt_of_lt_of_le (h.created r hr) (hle r)
    · exact tokens_pos_of_due hr
  cases tokens_step h.found hs with
  | same tokens =>
    refine ⟨h.found.step hs, fun r => ?_, fun r hr => ?_, hcreated fun r => Nat.le_of_eq (tokens r).symm⟩
    · rw [tokens r]
      exact h.once r
    · rw [tokens r] at hr
      exact Nat.lt_of_lt_of_le (h.uid r hr) (nextUid_step hs)
  | sent q uid next tokens =>
    refine ⟨h.found.step hs, fun r => ?_, fun r hr => ?_, hcreated fun r => ?_⟩
    · -- the new request has a number no other one has
      have hold : r.uid = s.ricSys.nextUid → s.tokens r = 0 := fun hu =>
        Nat.eq_zero_of_not_pos fun hpos => absurd (h.uid r hpos) (by omega)
      rw [tokens r]
      split
      · rename_i hq
        exact Nat.le_of_eq (congrArg Nat.succ (hold (hq ▸ uid)))
      · exact h.once r
    · rw [tokens r] at hr
      split at hr
      · rename_i hq
        rw [← hq, uid]
        exact next
      · exact Nat.lt_trans (h.uid r hr) next
    · rw [tokens r]
      exact Nat.le_add_right _ _

theorem tracked (h : (iappMachine relock).Reachable s) : Tracked s :=
  h.invariant Tracked.init fun _ _ _ _ hp hs => hp.step hs

theorem Tracked.not_answered (h : Tracked s) (hr : (r, .subscriptionRequest) ∈ s.ricSys.due) :
    (r, .subscriptionRequest) ∉ s.hist.answers.map Answered.key := by
  intro ha
  have hdue := List.count_pos_iff.mpr hr
  have hans := List.count_pos_iff.mpr ha
  have := h.once r
  rw [tokens] at this
  omega

/-! ## Answers that find their mapping -/

/-- The iApp's thread is not overtaken: no answer is handled while its
request is, and no mapping is removed while the answer of a subscription
request that goes by its id is due. -/
def Undisturbed (s : Sys) : Event → Prop
  | .notify k => ∀ w ∈ s.ricSys.workers[k]?, w.ev = .subscriptionRequest →
      ∀ p ∈ s.pc.subscribing, p.2.2 ≠ w.req
  | .remove k _ => ∀ w ∈ s.ricSys.workers[k]?, ∀ x ∈ w.found, ∀ d ∈ s.ricSys.due,
      d.2 = .subscriptionRequest → d.1.id.ricReqId ≠ x.ricId.ricReqId
  | _ => True

instance (s : Sys) : (e : Event) → Decidable (Undisturbed s e)
  | .notify k | .remove k _ => inferInstanceAs (Decidable (∀ w ∈ s.ricSys.workers[k]?, _))
  | .ric _ | .e42Setup .. | .e42Subscribe .. | .iappRegister _ | .iappInsert | .e42Delete ..
    | .fwdDelete _ | .e42Control .. | .iappAdd _ | .xappDisconnect _ | .indication .. => isTrue trivial

/-- The RIC gets to notify the iApp: its answers are solicited, and those of
subscription requests admit the action 0 alone; and no expired timer ends or
stops its event loop. -/
def Received (s : Sys) : Event → Prop
  | .ric e => s.ricSys.Orderly e = true
  | _ => True

instance (s : Sys) : (e : Event) → Decidable (Received s e)
  | .ric e => inferInstanceAs (Decidable (s.ricSys.Orderly e = true))
  | .e42Setup .. | .e42Subscribe .. | .iappRegister _ | .iappInsert | .e42Delete ..
    | .fwdDelete _ | .e42Control .. | .iappAdd _ | .xappDisconnect _ | .notify _ | .remove ..
    | .indication .. => isTrue trivial

/-- The steps on which no answer of a subscription request is lost. -/
def DeliveryCond (s : Sys) (e : Event) : Prop := FreshSub s e ∧ Undisturbed s e ∧ Received s e

instance (s : Sys) (e : Event) : Decidable (DeliveryCond s e) :=
  inferInstanceAs (Decidable (_ ∧ _ ∧ _))

/-- While all is received, the event loop of the RIC does not stop. -/
theorem polling_step (h : s.ricSys.loop.reading = false) (hc : Received s e)
    (hs : step relock s e = .next s') : s'.ricSys.loop.reading = false := by
  obtain heq | ⟨d, hind, hd⟩ := step_ric hs
  · rw [heq]
    exact h
  · refine RicSys.polling_step h (fun readable heq => ?_) hd
    cases hind with
    | ric e own => exact hc
    | _ => cases heq

/-- The mapping of the request is in the map. -/
def Mapped (s : Sys) (r : Req) : Prop := ∃ n ∈ s.iapp.map.left, MapRicId.use n = r.use

/-- Every accepted request has its mapping until its answer is handled, and
its answer has gone to the xApp that sent it. -/
structure Delivered (s : Sys) : Prop where
  unconfused : Unconfused s
  accepted : s.hist.accepted ⊆ s.hist.created
  handling : ∀ m newId r, s.pc.subscribing = some (m, newId, r) →
    (r, .subscriptionRequest) ∈ s.ricSys.due
  mapped : ∀ r ∈ s.hist.accepted, (r, .subscriptionRequest) ∈ s.ricSys.due → s.Mapped r
  sent : ∀ a ∈ s.hist.answers, a.ev = .subscriptionRequest → a.req ∈ s.hist.accepted →
    a.sentTo = a.req.origin

theorem Delivered.init : Delivered Sys.init where
  unconfused := unconfused_init
  accepted := List.Subset.refl _
  handling _ _ _ h := by cases h
  mapped _ hr := absurd hr List.not_mem_nil
  sent _ ha := absurd ha List.not_mem_nil

/-- An answer stays due until it is handled. -/
theorem sub_due_persists (ht : FoundOther s) (hs : step relock s e = .next s')
    (h : (r, .subscriptionRequest) ∈ s.ricSys.due) :
    (r, .subscriptionRequest) ∈ s'.ricSys.due ∨
      ∃ k w, e = .notify k ∧ s.ricSys.workers[k]? = some w ∧ w.req = r ∧
        w.ev = .subscriptionRequest := by
  have hnotified : ∀ k w, s.ricSys.workers[k]? = some w →
      (r, .subscriptionRequest) ∈ { s.ricSys with workers := s.ricSys.workers.eraseIdx k }.due ∨
        w.req = r ∧ w.ev = .subscriptionRequest := by
    intro k w hw
    obtain heq | h := List.mem_cons.mp ((RicSys.due_notified hw).mem_iff.mp h)
    · obtain ⟨hr, hev⟩ := Prod.mk.inj heq
      exact .inr ⟨hr.symm, hev.symm⟩
    · exact .inl h
  cases step_cases hs with
  | ric e ricSys own stepped =>
    cases RicSys.due_step stepped with
    | opened q ev by_ perm => exact .inl (perm.mem_iff.mpr (List.mem_cons_of_mem _ h))
    | notified k w event worker perm =>
      subst event
      cases own
    | same perm => exact .inl (perm.mem_iff.mpr h)
  | subscribed m timer newId req ricSys info idle address port forwarded =>
    obtain ⟨rfl, -, fd, ric, -, rfl⟩ := RicSys.fwdSubscription_eq_next forwarded
    exact .inl ((RicSys.due_opened ..).mem_iff.mpr (List.mem_cons_of_mem _ h))
  | deleteForwarded timer xappId node id todo sent ricSys at_ forwarded =>
    obtain ⟨-, rfl, -⟩ | ⟨-, -, fd, ric, -, rfl⟩ := RicSys.fwdSubscriptionDelete_eq_next forwarded
    · exact .inl h
    · exact .inl ((RicSys.due_opened ..).mem_iff.mpr (List.mem_cons_of_mem _ h))
  | controlForwarded m timer req ricSys idle forwarded =>
    obtain ⟨-, fd, ric, -, rfl⟩ := RicSys.fwdControl_eq_next forwarded
    exact .inl ((RicSys.due_opened ..).mem_iff.mpr (List.mem_cons_of_mem _ h))
  | answered k w sentTo ricSys worker unlocked handled done =>
    cases (RicSys.step_notified worker).symm.trans done
    obtain h | h := hnotified k w worker
    · exact .inl h
    · exact .inr ⟨k, w, rfl, worker, h⟩
  | forwarded k w x ricSys worker unlocked ev found looked =>
    cases (RicSys.step_lookedUp worker x).symm.trans looked
    rw [← RicSys.due_lookedUp (x := some x) worker] at h
    exact .inl h
  | removed k picks w x map ricSys worker found unlocked rm done =>
    cases (RicSys.step_notified worker).symm.trans done
    obtain h | ⟨-, hev⟩ := hnotified k w worker
    · exact .inl h
    · exact absurd hev (ht w (List.mem_of_getElem? worker) (by rw [found]; exact Option.some_ne_none x))
  | indicated node ind sentTo parts iapp sent => exact .inl h
  | _ => exact .inl h

/-- A mapping stays until one under its request id is removed. -/
theorem mapping_persists (hok : Ok s) (hs : step relock s e = .next s')
    {n : E2NodeRicId × XappRicId} (h : n ∈ s.iapp.map.left) :
    n ∈ s'.iapp.map.left ∨
      ∃ k picks w x, e = .remove k picks ∧ s.ricSys.workers[k]? = some w ∧ w.found = some x ∧
        n.1.ricId.ricReqId = x.ricId.ricReqId := by
  cases step_cases hs with
  | inserted m newId req at_ => exact .inl (Bimap.mem_inserted_left.mpr (.inr h))
  | removed k picks w x map ricSys worker found unlocked rm done =>
    obtain ⟨y, hy, hperm⟩ := MapRicId.rmMapRicId_left rm fun e he => by
      obtain ⟨-, -, -, -, -, hid, -⟩ := hok.right e he
      rw [hid]
    obtain rfl | h := List.mem_cons.mp (hperm.mem_iff.mp h)
    · exact .inr ⟨k, picks, w, x, rfl, worker, found, hy⟩
    · exact .inl h
  | indicated node ind sentTo parts iapp sent =>
    obtain ⟨rfl, rfl⟩ := hok.forwardAll_eq_next sent
    exact .inl h
  | _ => exact .inl h

theorem Mapped.persists (hok : Ok s) (hc : Undisturbed s e) (hs : step relock s e = .next s')
    (hdue : (r, .subscriptionRequest) ∈ s.ricSys.due) (h : s.Mapped r) : s'.Mapped r := by
  obtain ⟨n, hn, huse⟩ := h
  obtain hn | ⟨k, picks, w, x, rfl, hw, hx, hid⟩ := mapping_persists hok hs hn
  · exact ⟨n, hn, huse⟩
  · have hkey : r.id.ricReqId = n.1.ricId.ricReqId := (congrArg IdUse.ricReqId huse).symm
    exact absurd (hkey.trans hid) (hc w hw x hx _ hdue rfl)

/-- A request is accepted when the thread that handles it enters its mapping. -/
theorem accepted_step (hok : Ok s) (hs : step relock s e = .next s') (h : r ∈ s'.hist.accepted) :
    r ∈ s.hist.accepted ∨ ((∃ m newId, s.pc.subscribing = some (m, newId, r)) ∧ s'.Mapped r ∧
      s'.hist.answers = s.hist.answers) := by
  cases step_cases hs with
  | inserted m newId req at_ =>
    have hproc := hok.processing m newId req (by rw [at_]; rfl)
    obtain h | h := List.mem_append.mp h
    · exact .inl h
    · rw [List.mem_singleton.mp h]
      refine .inr ⟨⟨m, newId, by rw [at_]; rfl⟩, ⟨_, Bimap.mem_inserted_left.mpr (.inl rfl), ?_⟩, rfl⟩
      rw [hproc.ricId, Req.use, MapRicId.use, hproc.id, hproc.origin, hproc.node]
  | indicated node ind sentTo parts iapp sent => exact .inl h
  | _ => exact .inl h

/-- The answer of a mapped request goes to the xApp that sent it. -/
theorem Unconfused.route (h : Unconfused s) (hok : Ok s) (hr : RicSys.ReqsOk s.ricSys)
    (hdue : (r, .subscriptionRequest) ∈ s.ricSys.due) (hc : r ∈ s.hist.created)
    (hm : s.Mapped r) : routeSubscriptionResponse s.iapp r.id = .next r.origin := by
  obtain ⟨n, hn, huse⟩ := hm
  have hfits := toUInt32_toUInt16 (hr.fits _ (RicSys.mem_live_of_due hdue))
  cases hx : s.iapp.map.findXappMapRicId r.id.ricReqId.toUInt16 with
  | none =>
    refine absurd ?_ (MapRicId.findXapp_eq_none.mp hx n hn)
    rw [hfits]
    exact congrArg IdUse.ricReqId huse
  | some x =>
    obtain ⟨-, -, horigin, -⟩ := h.found hr hdue hx
    obtain ⟨y, hy, info, hinfo, hport⟩ := hok.address r hc
    cases horigin.symm.trans hy
    rw [hok.ownId r hc x horigin] at hx ⊢
    simp [routeSubscriptionResponse, hx, hinfo, hport, horigin]

theorem Delivered.step (h : Delivered s) (hok : Ok s) (ht : Tracked s)
    (hr : RicSys.ReqsOk s.ricSys) (hc : DeliveryCond s e) (hs : step relock s e = .next s') :
    Delivered s' := by
  -- a request just sent is neither accepted nor being handled before
  have hold : ∀ r ∈ s.hist.created, (r, .subscriptionRequest) ∈ s'.ricSys.due →
      (r, .subscriptionRequest) ∈ s.ricSys.due := by
    intro r hr' hdue
    obtain hdue | hnew := sub_due_step hs hdue
    · exact hdue
    · have huid := ht.uid r (ht.created r hr')
      have hq : r.uid = s.ricSys.nextUid := newSub_uid hnew
      omega
  have hhandled : ∀ m newId r, s.pc.subscribing = some (m, newId, r) →
      r ∈ s.hist.created ∧ (r, .subscriptionRequest) ∈ s.ricSys.due := fun m newId r hp =>
    ⟨(hok.processing m newId r hp).created, h.handling m newId r hp⟩
  have hcreated : s.hist.created ⊆ s'.hist.created := created_mono hs
  refine ⟨unconfused_step hok h.unconfused hc.1 hs, fun r hr' => ?_, fun m newId r hp => ?_,
    fun r hr' hdue => ?_, fun a ha hev hacc => ?_⟩
  · obtain hr' | ⟨⟨m, newId, hp⟩, -⟩ := accepted_step hok hs hr'
    · exact hcreated (h.accepted hr')
    · exact hcreated (hhandled m newId r hp).1
  · obtain hp | ⟨-, hdue⟩ := subscribing_step hs hp
    · obtain hdue | ⟨k, w, rfl, hw, hreq, hev⟩ := sub_due_persists ht.found hs (h.handling m newId r hp)
      · exact hdue
      · exact absurd hreq.symm (hc.2.1 w hw hev _ hp)
    · exact hdue
  · obtain hr' | ⟨-, hm, -⟩ := accepted_step hok hs hr'
    · have hdue' := hold r (h.accepted hr') hdue
      exact (h.mapped r hr' hdue').persists hok hc.2.1 hs hdue'
    · exact hm
  · obtain hacc | ⟨⟨m, newId, hp⟩, -, heq⟩ := accepted_step hok hs hacc
    · obtain heq | ⟨k, w, sentTo, rfl, hw, heq, hroute⟩ := step_answers hs
      · exact h.sent a (heq ▸ ha) hev hacc
      · rw [heq] at ha
        obtain ha | ha := List.mem_append.mp ha
        · exact h.sent a ha hev hacc
        · rw [List.mem_singleton.mp ha] at hev hacc ⊢
          have hdue := RicSys.mem_due_of_worker hw
          dsimp only at hev hacc ⊢
          rw [hev] at hdue
          have hto := h.unconfused.route hok hr hdue (h.accepted hacc) (h.mapped _ hacc hdue)
          exact (Outcome.next_inj.mp ((hroute hev).1.symm.trans hto))
    · -- the request being handled has not been answered
      have hkey : a.key = (a.req, .subscriptionRequest) := by rw [Answered.key, hev]
      refine absurd (List.mem_map.mpr ⟨a, heq ▸ ha, hkey⟩) (ht.not_answered ?_)
      exact h.handling m newId _ hp

/-- What becomes of an accepted request's answer. -/
structure AnsweredOnce (relock : Relock) (s : Sys) (r : Req) : Prop where
  origin : ∃ x, r.origin = some x
  /-- while the E2 node has not answered, the event loop is there for the
  answer, and a worker takes it up -/
  outstanding : ∀ k p, s.ricSys.procs[k]? = some p → p.req = r → p.ev = .subscriptionRequest →
    s.ricSys.loop.reading = false ∧ ∀ resp picks, RicSys.AdmitsOne p resp →
      ∃ s', step relock s (.ric (.answer k resp picks)) = .next s' ∧
        ⟨r, .subscriptionRequest, none⟩ ∈ s'.ricSys.workers
  /-- while it is due, nothing has been forwarded, the mapping is there, and
  a worker that gets at the map forwards it -/
  due : (r, .subscriptionRequest) ∈ s.ricSys.due →
    (r, .subscriptionRequest) ∉ s.hist.answers.map Answered.key ∧ s.Mapped r ∧
      ∀ k w, s.ricSys.workers[k]? = some w → w.due = (r, .subscriptionRequest) →
        s.pc.locked = false → ∃ s', step relock s (.notify k) = .next s' ∧
          s'.hist.answers = s.hist.answers ++ [⟨r, .subscriptionRequest, r.origin⟩]
  /-- afterwards it has been forwarded to the xApp, once -/
  done : (r, .subscriptionRequest) ∉ s.ricSys.due →
    ⟨r, .subscriptionRequest, r.origin⟩ ∈ s.hist.answers ∧
      (s.hist.answers.map Answered.key).count (r, .subscriptionRequest) = 1

theorem Delivered.notify (h : Delivered s) (hok : Ok s) (ht : Tracked s)
    (hr : RicSys.ReqsOk s.ricSys) (hacc : r ∈ s.hist.accepted) {k : Nat} {w : Worker}
    (hw : s.ricSys.workers[k]? = some w) (hdue : w.due = (r, .subscriptionRequest))
    (hl : s.pc.locked = false) :
    ∃ s', Sys.step relock s (.notify k) = .next s' ∧
      s'.hist.answers = s.hist.answers ++ [⟨r, .subscriptionRequest, r.origin⟩] := by
  obtain ⟨hreq, hev⟩ := Prod.mk.inj hdue
  have hmem := RicSys.mem_due_of_worker hw
  have hf : w.found = none := by
    by_contra hf
    exact ht.found w (List.mem_of_getElem? hw) hf hev
  rw [hreq, hev] at hmem
  have hroute := h.unconfused.route hok hr hmem (h.accepted hacc) (h.mapped r hacc hmem)
  have hs : Sys.step relock s (.notify k) = (s.record w r.origin).finish k w := by
    simp only [Sys.step, Sys.notify, hw, hf, hl, hev, hreq, handleSubscriptionResponse, hroute,
      Outcome.awaitSome, Outcome.await, Outcome.next_bind, Option.isNone_none, Bool.not_false, if_true]
  have hdone : (s.record w r.origin).ricSys.step (.notified k) =
      .next { s.ricSys with workers := s.ricSys.workers.eraseIdx k } := RicSys.step_notified hw
  simp only [hs, finish, hdone, Outcome.next_bind, Outcome.pure_eq, Outcome.next_inj]
  exact ⟨_, rfl, by simp only [record, hreq, hev]⟩

/-- The answer of an outstanding procedure becomes a worker's. -/
theorem taken (h : RicSys.TimersMatch s.ricSys) {k : Nat} {p : Proc} {resp : NearRic.Admission}
    (picks : Picks) (hp : s.ricSys.procs[k]? = some p) (hresp : RicSys.AdmitsOne p resp) :
    ∃ s', Sys.step relock s (.ric (.answer k resp picks)) = .next s' ∧
      ⟨p.req, p.ev, none⟩ ∈ s'.ricSys.workers := by
  obtain ⟨fd, ric, hs, -⟩ := h.answer picks hp hresp
  refine ⟨{ s with ricSys := s.ricSys.answered ric k p, iapp.e2Nodes := s.iapp.e2Nodes }, ?_, ?_⟩
  · simp [Sys.step, ownEvent, hs, Outcome.await, regE2Nodes]
  · exact List.mem_append_right _ List.mem_cons_self

end Sys

end FlexRic
