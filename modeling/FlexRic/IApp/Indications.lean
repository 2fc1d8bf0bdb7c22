import FlexRic.IApp.Invariants

/-!
# FlexRic.IApp.Indications

Who gets an indication, against who should.

An indication goes once to every xApp that has ever entered a subscription
to its RAN function into the registry (`mem_recipients`): the E2 node and
the request id play no part, and no deletion or disconnection takes an entry
out again.  It should go to the xApps with a live subscription to the RAN
function, at that E2 node and under that request id.

* `indicated_iff`: an indication is handled exactly when nobody is registered
  for its RAN function, or its copies share nothing (`Forwardable`);
* `exact_iff`: it goes where it should exactly when no registration is left
  over and none is missing (`RegisteredLive`);
* `indication_fanout`: the same along whole runs.
-/

namespace FlexRic

/-- The xApp the request was sent for. -/
def Req.xapp (r : Req) : Option UInt32 := r.origin.map fun x => x.xappId.toUInt32

/-- The request is for this RAN function, at this E2 node and under this
request id. -/
def Req.Matches (r : Req) (node : GlobalE2NodeId) (id : RicGenId) : Prop :=
  r.node = node ∧ r.id.ranFuncId = id.ranFuncId ∧ r.id.ricReqId = id.ricReqId

instance (r : Req) (node : GlobalE2NodeId) (id : RicGenId) : Decidable (r.Matches node id) :=
  inferInstanceAs (Decidable (_ ∧ _ ∧ _))

namespace Indicated

/-- The xApp had a live subscription that the indication belongs to. -/
def Due (i : Indicated) (xappId : UInt32) : Prop :=
  ∃ r ∈ i.liveSubs, r.xapp = some xappId ∧ r.Matches i.node i.id

instance (i : Indicated) (xappId : UInt32) : Decidable (i.Due xappId) :=
  inferInstanceAs (Decidable (∃ r ∈ i.liveSubs, _))

/-- The indication went once to each xApp it was due to, and to no other. -/
def Exact (i : Indicated) : Prop :=
  ∀ xappId, i.sentTo.count xappId = if i.Due xappId then 1 else 0

theorem exact_iff_mem {i : Indicated} (h : i.sentTo.Nodup) :
    i.Exact ↔ ∀ xappId, xappId ∈ i.sentTo ↔ i.Due xappId := by
  refine forall_congr' fun xappId => ?_
  rw [List.Nodup.count h]
  by_cases hm : xappId ∈ i.sentTo <;> by_cases hd : i.Due xappId <;> simp [hm, hd]

end Indicated

namespace Sys

variable {relock : Relock} {s s' : Sys} {e : Event}

/-- No registration for the RAN function is left over, each is of an xApp
with a live subscription that the indication belongs to; and none is missing,
each xApp with such a subscription is registered. -/
def RegisteredLive (s : Sys) (node : GlobalE2NodeId) (id : RicGenId) : Prop :=
  (∀ r ∈ s.hist.registered, r.id.ranFuncId = id.ranFuncId →
    ∃ l ∈ s.hist.liveSubs, l.xapp = r.xapp ∧ l.Matches node id) ∧
  ∀ l ∈ s.hist.liveSubs, l.Matches node id →
    ∃ r ∈ s.hist.registered, r.xapp = l.xapp ∧ r.id.ranFuncId = id.ranFuncId

/-- Nobody is registered for the RAN function; or header and message are not
empty, and there is neither a sequence number nor a call process id that the
copies would share. -/
def Forwardable (s : Sys) (ind : Codec.RicIndication) : Prop :=
  s.iapp.registry.recipients ind.ricId.ranFuncId = [] ∨
    ind.hdr ≠ [] ∧ ind.msg ≠ [] ∧ ind.sn = none ∧ ind.callProcessId = none

/-- The indications that are handled and go where they are due. -/
def FanoutCond (s : Sys) : Event → Prop
  | .indication node ind => s.RegisteredLive node ind.ricId ∧ s.Forwardable ind
  | _ => True

instance (s : Sys) (e : Event) : Decidable (FanoutCond s e) := by
  cases e <;> unfold FanoutCond RegisteredLive Forwardable <;> infer_instance

/-- What goes on record for an indication. -/
def indicationOf (s : Sys) (node : GlobalE2NodeId) (id : RicGenId) : Indicated :=
  ⟨node, id, s.hist.liveSubs, s.iapp.registry.recipients id.ranFuncId⟩

/-- The state once the indication has gone to the recipients in the registry. -/
def indicated (s : Sys) (node : GlobalE2NodeId) (ind : Codec.RicIndication) : Sys :=
  { s with hist.indications := s.hist.indications ++ [s.indicationOf node ind.ricId] }

/-! ## What is forwarded -/

variable {ind : Codec.RicIndication} {iapp iapp' : E42Iapp} {parts : SharedParts}
  {xs sentTo : List UInt32}

/-- The encoder asks for a header and a message. -/
theorem encodes_of_plain (hhdr : ind.hdr ≠ []) (hmsg : ind.msg ≠ [])
    (hcpid : ind.callProcessId = none) :
    ∃ pdu, Codec.e2apEncIndicationAsnPdu ind = .next pdu := by
  have hhdr' := List.length_pos_iff.mpr hhdr
  have hmsg' := List.length_pos_iff.mpr hmsg
  simp [Codec.e2apEncIndicationAsnPdu, Codec.encOctets, Codec.encOptOctets, copyBaToOstring,
    Outcome.assert, Outcome.opt, hhdr', hmsg', hcpid]

theorem plain_of_encodes {pdu : Codec.RicPdu} (h : Codec.e2apEncIndicationAsnPdu ind = .next pdu) :
    ind.hdr ≠ [] ∧ ind.msg ≠ [] := by
  simp only [Codec.e2apEncIndicationAsnPdu, Codec.encOctets, copyBaToOstring,
    Outcome.bind_eq_next, Outcome.assert_eq_next, decide_eq_true_eq] at h
  obtain ⟨_, ⟨_, ⟨_, hhdr, -⟩, -⟩, _, ⟨_, ⟨_, hmsg, -⟩, -⟩, -⟩ := h
  exact ⟨List.length_pos_iff.mp hhdr, List.length_pos_iff.mp hmsg⟩

/-- Without shared blocks every recipient gets the indication. -/
theorem forwardAll_absent (hm : iapp.forwardMutex = false)
    (hx : ∀ x ∈ xs, Reachable iapp.xapps x.toUInt16) {pdu : Codec.RicPdu}
    (henc : Codec.e2apEncIndicationAsnPdu ind = .next pdu) :
    forwardAll ind iapp .absent xs = .next (xs, .absent, iapp) := by
  induction xs with
  | nil => rfl
  | cons x xs ih =>
    have hone : forwardIndicationToXapp ind iapp .absent x = .next (true, .absent, iapp) := by
      rw [forwardIndicationToXapp_eq hm (hx x List.mem_cons_self), henc]
      rfl
    have hrest := ih fun y hy => hx y (List.mem_cons_of_mem _ hy)
    simp only [forwardAll, hone, hrest, Outcome.next_bind, Outcome.pure_eq, if_true]

/-- Once the shared blocks are freed, nobody else can get the indication. -/
theorem forwardAll_freed (hm : iapp.forwardMutex = false)
    (hx : ∀ x ∈ xs, Reachable iapp.xapps x.toUInt16)
    (h : forwardAll ind iapp .freed xs = .next (sentTo, parts, iapp')) : parts = .freed := by
  cases xs with
  | nil =>
    cases h
    rfl
  | cons x xs =>
    rw [forwardAll, forwardIndicationToXapp_eq hm (hx x List.mem_cons_self)] at h
    cases h

/-- The indication is forwarded and its parts are freed once exactly when
there is no recipient, or it can be encoded and has no shared block. -/
theorem forwarded_iff (hm : iapp.forwardMutex = false)
    (hx : ∀ x ∈ xs, Reachable iapp.xapps x.toUInt16) :
    (∃ parts parts', forwardAll ind iapp (.ofIndication ind) xs = .next (xs, parts, iapp) ∧
        parts.free = .next parts') ↔
      xs = [] ∨ ind.hdr ≠ [] ∧ ind.msg ≠ [] ∧ ind.sn = none ∧ ind.callProcessId = none := by
  constructor
  · rintro ⟨parts, parts', hall, hfree⟩
    cases xs with
    | nil => exact .inl rfl
    | cons x xs =>
      simp only [forwardAll, forwardIndicationToXapp_eq hm (hx x List.mem_cons_self),
        Outcome.bind_eq_next, Outcome.pure_eq, Outcome.next_inj] at hall
      obtain ⟨_, ⟨-, -, pdu, henc, parts₁, hone, rfl⟩, ⟨rest, parts₂, iapp₂⟩, hrest, heq⟩ := hall
      obtain ⟨hhdr, hmsg⟩ := plain_of_encodes henc
      refine .inr ⟨hhdr, hmsg, ?_⟩
      by_contra hshared
      have hparts : SharedParts.ofIndication ind = .allocated := by
        rw [SharedParts.ofIndication, if_neg]
        simpa using hshared
      rw [hparts] at hone
      cases hone
      obtain rfl := forwardAll_freed hm (fun y hy => hx y (List.mem_cons_of_mem _ hy)) hrest
      cases heq
      cases hfree
  · rintro (rfl | ⟨hhdr, hmsg, hsn, hcpid⟩)
    · cases hparts : SharedParts.ofIndication ind with
      | absent => exact ⟨.absent, .absent, rfl, rfl⟩
      | allocated => exact ⟨.allocated, .freed, rfl, rfl⟩
      | freed =>
        unfold SharedParts.ofIndication at hparts
        split at hparts <;> cases hparts
    · obtain ⟨pdu, henc⟩ := encodes_of_plain hhdr hmsg hcpid
      have hparts : SharedParts.ofIndication ind = .absent := by
        simp [SharedParts.ofIndication, hsn, hcpid]
      rw [hparts]
      exact ⟨_, _, forwardAll_absent hm hx henc, rfl⟩

/-- An indication is handled exactly when it can be forwarded. -/
theorem Ok.indicated_iff (h : Ok s) (relock : Relock) (node : GlobalE2NodeId) :
    Sys.step relock s (.indication node ind) = .next (s.indicated node ind) ↔
      s.Forwardable ind := by
  rw [Forwardable, ← forwarded_iff h.forwardMutex h.recipients]
  simp only [Sys.step, Sys.indication, Outcome.bind_eq_next, Outcome.pure_eq, Outcome.next_inj]
  constructor
  · rintro ⟨⟨sentTo, parts, iapp⟩, hall, parts', hfree, -⟩
    obtain ⟨rfl, rfl⟩ := h.forwardAll_eq_next hall
    exact ⟨parts, parts', hall, hfree⟩
  · rintro ⟨parts, parts', hall, hfree⟩
    exact ⟨_, hall, parts', hfree, rfl⟩

/-! ## Where it goes -/

/-- The recipients are the xApps that have ever been registered for the RAN
function. -/
theorem Ok.mem_recipients (h : Ok s) {ranFuncId : UInt16} {xappId : UInt32} :
    xappId ∈ s.iapp.registry.recipients ranFuncId ↔
      ∃ r ∈ s.hist.registered, r.xapp = some xappId ∧ r.id.ranFuncId = ranFuncId := by
  rw [h.registry.mem_recipients, h.keys]
  constructor
  · rintro ⟨r, hr, x, hx, heq⟩
    rw [Prod.mk.injEq] at heq
    exact ⟨r, hr, by rw [Req.xapp, hx, heq.1]; rfl, heq.2.symm⟩
  · rintro ⟨r, hr, hx, rfl⟩
    obtain ⟨x, ho, rfl⟩ := Option.map_eq_some_iff.mp hx
    exact ⟨r, hr, x, ho, rfl⟩

theorem Ok.xapp (h : Ok s) {r : Req} (hr : r ∈ s.hist.created) : ∃ xappId, r.xapp = some xappId := by
  obtain ⟨x, hx, -⟩ := h.address r hr
  exact ⟨_, Option.map_eq_some_iff.mpr ⟨x, hx, rfl⟩⟩

/-- **One indication** goes where it is due exactly when no registration is
left over and none is missing. -/
theorem Ok.exact_iff (h : Ok s) (node : GlobalE2NodeId) (id : RicGenId) :
    (s.indicationOf node id).Exact ↔ s.RegisteredLive node id := by
  rw [Indicated.exact_iff_mem h.registry.recipients_nodup]
  simp only [indicationOf, h.mem_recipients, Indicated.Due, RegisteredLive]
  constructor
  · intro hall
    constructor
    · intro r hr hf
      obtain ⟨xappId, hx⟩ := h.xapp (h.registered hr)
      obtain ⟨l, hl, hlx, hm⟩ := (hall xappId).mp ⟨r, hr, hx, hf⟩
      exact ⟨l, hl, hlx.trans hx.symm, hm⟩
    · intro l hl hm
      obtain ⟨xappId, hx⟩ := h.xapp (h.liveSubs hl)
      obtain ⟨r, hr, hrx, hf⟩ := (hall xappId).mpr ⟨l, hl, hx, hm⟩
      exact ⟨r, hr, hrx.trans hx.symm, hf⟩
  · rintro ⟨hleft, hmissing⟩ xappId
    constructor
    · rintro ⟨r, hr, hx, hf⟩
      obtain ⟨l, hl, hlx, hm⟩ := hleft r hr hf
      exact ⟨l, hl, hlx.trans hx, hm⟩
    · rintro ⟨l, hl, hx, hm⟩
      obtain ⟨r, hr, hrx, hf⟩ := hmissing l hl hm
      exact ⟨r, hr, hrx.trans hx, hf⟩

/-- Only an indication puts an indication on record. -/
theorem step_indications (h : Ok s) (hs : step relock s e = .next s') :
    s'.hist.indications = s.hist.indications ∨ ∃ node ind, e = .indication node ind ∧
      s'.hist.indications = s.hist.indications ++ [s.indicationOf node ind.ricId] := by
  cases step_cases hs with
  | indicated node ind sentTo parts iapp sent =>
    obtain ⟨rfl, rfl⟩ := h.forwardAll_eq_next sent
    exact .inr ⟨node, ind, rfl, rfl⟩
  | _ => exact .inl rfl

/-- **Indication fan-out.** In every run where no indication finds a
registration left over or missing, each one goes once to every xApp with a
live subscription to its RAN function, at its E2 node and under its request
id, and to no other xApp.  In every reachable state an indication is handled
and goes where it is due exactly when no registration is left over, none is
missing, and it can be forwarded to those registered. -/
theorem indication_fanout (relock : Relock) (s : Sys) :
    ((iappMachine relock).ReachedBy FanoutCond s → ∀ i ∈ s.hist.indications, i.Exact) ∧
    ((iappMachine relock).Reachable s → ∀ node ind,
      (step relock s (.indication node ind) = .next (s.indicated node ind) ∧
          (s.indicationOf node ind.ricId).Exact ↔
        s.FanoutCond (.indication node ind))) := by
  constructor
  · intro h
    have hinit : ∀ i ∈ (iappMachine relock).init.hist.indications, i.Exact := fun i hi =>
      absurd hi List.not_mem_nil
    refine h.invariant (P := fun s => ∀ i ∈ s.hist.indications, i.Exact) hinit ?_
    intro s e s' hr hp hc hs i hi
    have hok := ok hr.reachable
    obtain heq | ⟨node, ind, rfl, heq⟩ := step_indications hok hs
    · exact hp i (heq ▸ hi)
    · rw [heq] at hi
      obtain hi | hi := List.mem_append.mp hi
      · exact hp i hi
      · rw [List.mem_singleton.mp hi]
        exact (hok.exact_iff node ind.ricId).mpr hc.1
  · intro h node ind
    rw [(ok h).indicated_iff, (ok h).exact_iff]
    exact And.comm

/-- A subscription of the xApp 7 is answered, deleted, and the deletion
answered and its mapping removed. -/
def subscribeAndDelete : List Event :=
  setUp ++ subscribe ⟨7, .gnb 1, ⟨1, 0, 142⟩⟩ 5 ++ [answer 0, .notify 0, .e42Delete 7 ⟨1, 0, 142⟩,
    .fwdDelete (some 6), answer 0, .notify 0, .remove 0 (0, 0)]

/-- An indication of the E2 node still goes to the xApp 7 after its
subscription is deleted, and it is due to no one. -/
theorem indication_after_delete :
    ¬ ∀ s, (iappMachine .edeadlk).Reachable s → ∀ i ∈ s.hist.indications, i.Exact := by
  intro hclaim
  obtain ⟨s, hr, hs⟩ := Machine.Reachable.exists_of_run (M := iappMachine .edeadlk)
    (subscribeAndDelete ++ [.indication (.gnb 1) (report ⟨1, 0, 142⟩)])
    (fun s => s.hist.indications == [⟨.gnb 1, ⟨1, 0, 142⟩, [], [7]⟩]) (by decide)
  have hmem : ⟨.gnb 1, ⟨1, 0, 142⟩, [], [7]⟩ ∈ s.hist.indications := by
    rw [beq_iff_eq.mp hs]
    exact List.mem_cons_self
  have hcount := hclaim s hr _ hmem 7
  simp [Indicated.Due] at hcount

/-- Two xApps with a subscription each; one indication of the first. -/
theorem indication_fanout_subscribed :
    ∃ s : Sys, s.hist.indications.length = 1 ∧ (∀ i ∈ s.hist.indications, i.Exact) ∧
      (step .edeadlk s (.indication (.gnb 2) (report ⟨2, 0, 143⟩)) =
          .next (s.indicated (.gnb 2) (report ⟨2, 0, 143⟩)) ∧
          (s.indicationOf (.gnb 2) ⟨2, 0, 143⟩).Exact ↔
        s.FanoutCond (.indication (.gnb 2) (report ⟨2, 0, 143⟩))) := by
  obtain ⟨s, hr, hs⟩ := Machine.ReachedBy.exists_of_run (M := iappMachine .edeadlk)
    (C := FanoutCond)
    (setUp ++ subscribe ⟨7, .gnb 1, ⟨1, 0, 142⟩⟩ 5 ++
      [.indication (.gnb 1) (report ⟨1, 0, 142⟩)] ++ subscribe ⟨8, .gnb 2, ⟨2, 0, 143⟩⟩ 6)
    (fun s => s.hist.indications.length == 1) (by decide)
  have hall := indication_fanout .edeadlk s
  exact ⟨s, by simpa using hs, hall.1 hr, hall.2 hr.reachable (.gnb 2) (report ⟨2, 0, 143⟩)⟩

end Sys

end FlexRic
