import FlexRic.IApp.Steps

/-!
# FlexRic.IApp.Invariants

What holds in every state of the iApp, whatever the xApps and E2 nodes do.

`Ok` collects it: each entry of `map_ric_id` belongs to a subscription that
was created, the right tree is sorted, whoever has created a subscription
has an address with a port, and the registry's keys are those of the
subscriptions entered into it.  `ok` is the run lemma; `Ok.forwardAll_eq_next`
is what it means for indications: one that is handled reaches every recipient.
-/

namespace FlexRic

namespace Pc

/-- The subscription request the iApp's thread is handling. -/
def subscribing : Pc → Option (E42Request × UInt16 × Req)
  | .subForwarded m newId req => some (m, newId, req)
  | .subRegistered m newId req => some (m, newId, req)
  | _ => none

@[simp] theorem subscribing_deletingOrIdle (xappId : UInt16)
    (todo : List (GlobalE2NodeId × RicGenId)) :
    (Pc.deletingOrIdle xappId todo).subscribing = none := by
  cases todo <;> rfl

end Pc

namespace Sys

variable {relock : Relock} {s s' : Sys} {e : Event}

/-- The entry is that of a subscription which was created, under the id the
xApp chose. -/
def Owned (created : List Req) (n : E2NodeRicId) (x : XappRicId) : Prop :=
  ∃ r ∈ created, r.origin = some x ∧ r.node = n.e2NodeId ∧ r.id = n.ricId ∧ x.ricId = n.ricId ∧
    n.ricReqType = .subscription

theorem Owned.mono {created created' : List Req} {n : E2NodeRicId} {x : XappRicId}
    (h : Owned created n x) (hsub : created ⊆ created') : Owned created' n x := by
  obtain ⟨r, hr, h⟩ := h
  exact ⟨r, hsub hr, h⟩

/-- The request being handled is the one the RIC has sent. -/
structure Processing (created : List Req) (m : E42Request) (newId : UInt16) (req : Req) : Prop where
  created : req ∈ created
  origin : req.origin = some ⟨m.ricId, m.xappId⟩
  node : req.node = m.id
  id : req.id = m.ricId
  newId : newId.toUInt32 = m.ricId.ricReqId

/-- The new id is the xApp's. -/
theorem Processing.ricId {created : List Req} {m : E42Request} {newId : UInt16} {req : Req}
    (h : Processing created m newId req) :
    ({ m.ricId with ricReqId := newId.toUInt32 } : RicGenId) = m.ricId := by
  rw [h.newId]

theorem processing_of_none {created : List Req} {pc : Pc} (h : pc.subscribing = none) :
    ∀ m newId req, pc.subscribing = some (m, newId, req) → Processing created m newId req := by
  intro m newId req heq
  rw [h] at heq
  contradiction

/-- The xApp has an address it can be reached under. -/
def Reachable (xapps : MapXapps) (xappId : UInt16) : Prop :=
  ∃ info, xapps.findMapXappsSad xappId = .next info ∧ info.sinPort ≠ 0

structure Ok (s : Sys) : Prop where
  left : ∀ e ∈ s.iapp.map.left, Owned s.hist.created e.1 e.2
  right : ∀ e ∈ s.iapp.map.right, Owned s.hist.created e.2 e.1
  sorted : OrdAssoc.Sorted cmpXappRicGenId s.iapp.map.right
  processing : ∀ m newId req, s.pc.subscribing = some (m, newId, req) →
    Processing s.hist.created m newId req
  address : ∀ r ∈ s.hist.created, ∃ x, r.origin = some x ∧ Reachable s.iapp.xapps x.xappId
  ownId : ∀ r ∈ s.hist.created, ∀ x, r.origin = some x → r.id = x.ricId
  registered : s.hist.registered ⊆ s.hist.created
  liveSubs : s.hist.liveSubs ⊆ s.hist.created
  registry : s.iapp.registry.Ok
  keys : ∀ k, k ∈ s.iapp.registry.entries.map SubscriptionRegistry.key ↔
    ∃ r ∈ s.hist.registered, ∃ x, r.origin = some x ∧ k = (x.xappId.toUInt32, r.id.ranFuncId)
  forwardMutex : s.iapp.forwardMutex = false

/-! ## Indications -/

/-- An xApp with an address gets the indication if it can be encoded and its
shared blocks are still there. -/
theorem forwardIndicationToXapp_eq {ind : Codec.RicIndication} {iapp : E42Iapp}
    {parts : SharedParts} {x : UInt32} (hm : iapp.forwardMutex = false)
    (hx : Reachable iapp.xapps x.toUInt16) :
    forwardIndicationToXapp ind iapp parts x = (do
      .assert (parts != .freed) "read of a freed block"
      let _ ← Codec.e2apEncIndicationAsnPdu ind
      let parts ← parts.free
      return (true, parts, iapp)) := by
  obtain ⟨info, hinfo, hport⟩ := hx
  simp [forwardIndicationToXapp, hm, hinfo, hport, Outcome.await]

/-- Everyone with an address gets the indication, and the iApp stays as it is. -/
theorem forwardAll_eq_next {ind : Codec.RicIndication} {iapp iapp' : E42Iapp}
    {parts parts' : SharedParts} {xs sentTo : List UInt32} (hm : iapp.forwardMutex = false)
    (hx : ∀ x ∈ xs, Reachable iapp.xapps x.toUInt16)
    (h : forwardAll ind iapp parts xs = .next (sentTo, parts', iapp')) :
    sentTo = xs ∧ iapp' = iapp := by
  induction xs generalizing parts sentTo with
  | nil =>
    cases h
    exact ⟨rfl, rfl⟩
  | cons x xs ih =>
    simp only [forwardAll, forwardIndicationToXapp_eq hm (hx x List.mem_cons_self),
      Outcome.bind_eq_next, Outcome.pure_eq, Outcome.next_inj, Outcome.assert_eq_next] at h
    obtain ⟨_, ⟨⟨⟩, -, _, -, parts₁, -, rfl⟩, ⟨rest, parts₂, iapp₂⟩, hrest, heq⟩ := h
    cases heq
    obtain ⟨rfl, rfl⟩ := ih (fun y hy => hx y (List.mem_cons_of_mem _ hy)) hrest
    exact ⟨rfl, rfl⟩

/-- Every recipient has an address. -/
theorem Ok.recipients (h : Ok s) {ranFuncId : UInt16} :
    ∀ x ∈ s.iapp.registry.recipients ranFuncId, Reachable s.iapp.xapps x.toUInt16 := by
  intro x hx
  obtain ⟨r, hr, y, hy, hk⟩ := (h.keys _).mp (h.registry.mem_recipients.mp hx)
  obtain ⟨z, hz, hreach⟩ := h.address r (h.registered hr)
  rw [(Prod.mk.inj hk).1, UInt16.toUInt16_toUInt32, Option.some.inj (hy.symm.trans hz)]
  exact hreach

theorem Ok.forwardAll_eq_next (h : Ok s) {ind : Codec.RicIndication} {parts parts' : SharedParts}
    {ranFuncId : UInt16} {sentTo : List UInt32} {iapp : E42Iapp}
    (hs : Sys.forwardAll ind s.iapp parts (s.iapp.registry.recipients ranFuncId) =
      .next (sentTo, parts', iapp)) :
    sentTo = s.iapp.registry.recipients ranFuncId ∧ iapp = s.iapp :=
  Sys.forwardAll_eq_next h.forwardMutex h.recipients hs

/-- The subscriptions listed for an xApp are all of its entries. -/
theorem Ok.findAllSubs (h : Ok s) (xappId : UInt16) :
    s.iapp.map.findAllSubsMapRicId xappId =
      (s.iapp.map.right.filter fun e => e.1.xappId == xappId).map Prod.snd := by
  refine MapRicId.findAllSubs_exact.mpr fun e he _ => ?_
  obtain ⟨-, -, -, -, -, -, htype⟩ := h.right e he
  exact htype

/-! ## Preservation -/

theorem Ok.init : Ok Sys.init where
  left _ he := absurd he List.not_mem_nil
  right _ he := absurd he List.not_mem_nil
  sorted := .nil
  processing := processing_of_none rfl
  address _ hr := absurd hr List.not_mem_nil
  ownId _ hr := absurd hr List.not_mem_nil
  registered := List.Subset.refl _
  liveSubs := List.Subset.refl _
  registry := SubscriptionRegistry.Ok.init
  keys k := by
    constructor
    · exact fun hk => absurd hk List.not_mem_nil
    · rintro ⟨r, hr, -⟩
      exact absurd hr List.not_mem_nil
  forwardMutex := rfl

theorem Ok.setup (h : Ok s) {xapps : MapXapps} {xappId : UInt16} {info : SctpInfo} {next : UInt32}
    (ha : s.iapp.xapps.addMapXappsSad xappId info = .next xapps) :
    Ok { s with iapp.xapps := xapps, iapp.xappId := next } :=
  { h with
    address := fun r hr => by
      obtain ⟨x, hx, i, hi, hp⟩ := h.address r hr
      exact ⟨x, hx, i, MapXapps.findMapXappsSad_add ha hi, hp⟩ }

theorem Ok.subscribed (h : Ok s) {m : E42Request} {newId : UInt16} {req : Req} {ricSys : RicSys}
    {info : SctpInfo} {timer : Option Fd}
    (ha : s.iapp.xapps.findMapXappsSad m.xappId = .next info) (hp : info.sinPort ≠ 0)
    (hf : s.ricSys.fwdSubscription m.id m.ricId (some ⟨m.ricId, m.xappId⟩) timer =
      .next (newId, req, ricSys)) :
    Ok { s with
      ricSys
      pc := if newId = 0 then .idle else .subForwarded m newId req
      hist.created := s.hist.created ++ [req]
      hist.liveSubs := s.hist.liveSubs ++ [req] } := by
  obtain ⟨rfl, hid, -⟩ := RicSys.fwdSubscription_eq_next hf
  have hsub := List.subset_append_left s.hist.created
    [⟨s.ricSys.nextUid, m.id, m.ricId, .subscription, some ⟨m.ricId, m.xappId⟩⟩]
  exact
    { h with
      left := fun e he => (h.left e he).mono hsub
      right := fun e he => (h.right e he).mono hsub
      processing := fun m' newId' req' hpc => by
        dsimp only at hpc
        split at hpc
        · cases hpc
        · cases hpc
          exact ⟨List.mem_append_right _ List.mem_cons_self, rfl, rfl, rfl, hid⟩
      address := fun r hr => by
        obtain hr | hr := List.mem_append.mp hr
        · exact h.address r hr
        · rw [List.mem_singleton.mp hr]
          exact ⟨_, rfl, info, ha, hp⟩
      ownId := fun r hr x hx => by
        obtain hr | hr := List.mem_append.mp hr
        · exact h.ownId r hr x hx
        · rw [List.mem_singleton.mp hr] at hx ⊢
          cases hx
          rfl
      registered := List.Subset.trans h.registered hsub
      liveSubs := List.append_subset.mpr
        ⟨List.Subset.trans h.liveSubs hsub, List.subset_append_right _ _⟩ }

theorem Ok.registration (h : Ok s) {m : E42Request} {newId : UInt16} {req : Req}
    {registry : SubscriptionRegistry} {reallocOk : Bool} (hpc : s.pc = .subForwarded m newId req)
    (ha : s.iapp.registry.register m.xappId.toUInt32 m.ricId.ranFuncId newId reallocOk =
      (true, registry)) :
    Ok { s with
      iapp.registry := registry
      pc := .subRegistered m newId req
      hist.registered := s.hist.registered ++ [req] } := by
  obtain ⟨hreg, hkeys⟩ := h.registry.register ha
  have hproc := h.processing m newId req (by rw [hpc]; rfl)
  exact
    { h with
      processing := fun m' newId' req' heq => by
        cases heq
        exact hproc
      registered := List.append_subset.mpr
        ⟨h.registered, List.cons_subset.mpr ⟨hproc.created, List.nil_subset _⟩⟩
      registry := hreg
      keys := fun k => by
        rw [hkeys k, h.keys k]
        constructor
        · rintro (rfl | ⟨r, hr, hx⟩)
          · exact ⟨req, List.mem_append_right _ List.mem_cons_self, _, hproc.origin,
              by rw [hproc.id]⟩
          · exact ⟨r, List.mem_append_left _ hr, hx⟩
        · rintro ⟨r, hr, x, hx, rfl⟩
          obtain hr | hr := List.mem_append.mp hr
          · exact .inr ⟨r, hr, x, hx, rfl⟩
          · rw [List.mem_singleton.mp hr] at hx ⊢
            rw [hproc.origin] at hx
            cases hx
            rw [hproc.id]
            exact .inl rfl }

theorem Ok.inserted (h : Ok s) {m : E42Request} {newId : UInt16} {req : Req}
    (hpc : s.pc = .subRegistered m newId req) :
    Ok { s with
      iapp.map := Bimap.inserted cmpE2NodeRicReq cmpXappRicGenId s.iapp.map
        ⟨{ m.ricId with ricReqId := newId.toUInt32 }, m.id, .subscription⟩
        ⟨{ m.ricId with ricReqId := newId.toUInt32 }, m.xappId⟩
      pc := .idle
      hist.accepted := s.hist.accepted ++ [req] } := by
  have hproc := h.processing m newId req (by rw [hpc]; rfl)
  rw [hproc.ricId]
  have hnew : Owned s.hist.created ⟨m.ricId, m.id, .subscription⟩ ⟨m.ricId, m.xappId⟩ :=
    ⟨req, hproc.created, hproc.origin, hproc.node, hproc.id, rfl, rfl⟩
  exact
    { h with
      left := fun e he => by
        obtain rfl | he := Bimap.mem_inserted_left.mp he
        · exact hnew
        · exact h.left e he
      right := fun e he => by
        obtain rfl | he := Bimap.mem_inserted_right.mp he
        · exact hnew
        · exact h.right e he
      sorted := OrdAssoc.sorted_insert lawful_cmpXappRicGenId h.sorted
      processing := processing_of_none rfl }

theorem Ok.step (h : Ok s) (hs : step relock s e = .next s') : Ok s' := by
  have hfilter : ∀ p, s.hist.liveSubs.filter p ⊆ s.hist.created := fun p =>
    List.Subset.trans (List.filter_subset_self _) h.liveSubs
  have hdeleted : ∀ w : Worker,
      (if w.ev = .subscriptionDeleteRequest then s.hist.liveSubs.filter (· != w.req)
        else s.hist.liveSubs) ⊆ s.hist.created := by
    intro w
    split
    · exact hfilter _
    · exact h.liveSubs
  cases step_cases hs with
  | ric e ricSys own stepped => exact { h with }
  | setup info lenRf xapps added => exact h.setup added
  | ignored m timer => exact h
  | subscribed m timer newId req ricSys info idle address port forwarded =>
    exact h.subscribed address port forwarded
  | registered reallocOk m newId req registry at_ added => exact h.registration at_ added
  | notRegistered reallocOk m newId req at_ => exact { h with processing := processing_of_none rfl }
  | inserted m newId req at_ => exact h.inserted at_
  | deleteFound xappId ricId n idle found type =>
    exact { h with processing := processing_of_none rfl }
  | deleteForwarded timer xappId node id todo sent ricSys at_ forwarded =>
    exact { h with processing := processing_of_none (Pc.subscribing_deletingOrIdle _ _) }
  | controlForwarded m timer req ricSys idle forwarded =>
    exact { h with processing := processing_of_none rfl }
  | controlAdded picks m req at_ refused => exact { h with processing := processing_of_none rfl }
  | disconnected info xappId idle known =>
    exact
      { h with
        processing := processing_of_none (Pc.subscribing_deletingOrIdle _ _)
        liveSubs := hfilter _ }
  | answered k w sentTo ricSys worker unlocked handled done =>
    exact { h with liveSubs := hdeleted w }
  | forwarded k w x ricSys worker unlocked ev found looked => exact { h with }
  | removed k picks w x map ricSys worker found unlocked rm done =>
    obtain ⟨hl, hr⟩ := MapRicId.rmMapRicId_sublist rm
    exact
      { h with
        left := fun e he => h.left e (hl.subset he)
        right := fun e he => h.right e (hr.subset he)
        sorted := h.sorted.sublist hr
        liveSubs := hdeleted w }
  | indicated node ind sentTo parts iapp sent =>
    obtain ⟨rfl, rfl⟩ := h.forwardAll_eq_next sent
    exact { h with }

/-- In every run the iApp is as `Ok` says. -/
theorem ok (h : (iappMachine relock).Reachable s) : Ok s :=
  h.invariant Ok.init fun _ _ _ _ hp hs => hp.step hs

end Sys

end FlexRic
