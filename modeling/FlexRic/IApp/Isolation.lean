import FlexRic.IApp.Invariants

/-!
# FlexRic.IApp.Isolation

Whose subscriptions a deletion is about.

A disconnection deletes what `find_all_subs_map_ric_id` lists, and those
entries are the xApp's own.  A delete request deletes what
`find_ric_req_map_ric_id` finds, and that search never compares xApp ids:

* `lookup_own`: what it finds is the xApp's own entry exactly when that entry
  comes first among those under the same RIC id;
* `delete_isolated`: in every run whose delete requests meet this, each
  deletion sent for an xApp is of a subscription that this xApp created.
-/

namespace FlexRic

namespace MapRicId

/-- Of the entries under the RIC id of the request, the one with the
smallest xApp id is the request's own. -/
def OwnFirst (map : MapRicId) (x : XappRicId) : Prop :=
  ∀ e ∈ map.right, e.1.ricId = x.ricId → x.xappId ≤ e.1.xappId ∧ ∃ y ∈ map.right, y.1 = x

instance (map : MapRicId) (x : XappRicId) : Decidable (OwnFirst map x) :=
  inferInstanceAs (Decidable (∀ e ∈ map.right, _ → _ ∧ ∃ y ∈ map.right, _))

/-- **The lookup of a delete request.** In a sorted map it returns no entry
of another xApp exactly when the request's own entry comes first. -/
theorem lookup_own {map : MapRicId} {x : XappRicId}
    (hs : OrdAssoc.Sorted cmpXappRicGenId map.right) :
    (∀ e, map.findRicReqEntry x = some e → e.1.xappId = x.xappId) ↔ OwnFirst map x := by
  constructor
  · intro h e he hid
    obtain ⟨f, hf⟩ := OrdAssoc.findIf_isSome (p := eqXappRicGenId x) he
      (eqXappRicGenId_iff.mpr hid.symm)
    obtain ⟨⟨n, hn⟩, hall⟩ := (findRicReqEntry_own hs).mp ⟨f, hf, h f hf⟩
    exact ⟨hall e he hid, (x, n), hn, rfl⟩
  · intro h e he
    have hmem := OrdAssoc.mem_of_findIf he
    have hkey := eqXappRicGenId_iff.mp (OrdAssoc.findIf_key he)
    obtain ⟨-, y, hy, rfl⟩ := h e hmem hkey.symm
    obtain ⟨f, hf, hx⟩ := (findRicReqEntry_own hs).mpr
      ⟨⟨y.2, hy⟩, fun e he hid => (h e he hid).1⟩
    cases he.symm.trans hf
    exact hx

end MapRicId

/-- The deletions the iApp's thread is still to send. -/
def Pc.deletions : Pc → List Deleted
  | .deleting xappId todo => todo.map fun d => ⟨xappId, d.1, d.2⟩
  | _ => []

@[simp] theorem Pc.deletions_deletingOrIdle (xappId : UInt16)
    (todo : List (GlobalE2NodeId × RicGenId)) :
    (Pc.deletingOrIdle xappId todo).deletions = todo.map fun d => ⟨xappId, d.1, d.2⟩ := by
  cases todo <;> rfl

namespace Sys

variable {relock : Relock} {s s' : Sys} {e : Event}

/-- The deletion is of a subscription that the xApp it is sent for created. -/
def OwnDeletion (created : List Req) (d : Deleted) : Prop :=
  ∃ r ∈ created, r.node = d.node ∧ r.id = d.id ∧ ∃ x, r.origin = some x ∧ x.xappId = d.xappId

/-- A delete request finds its own entry first. -/
def OwnLookup (s : Sys) : Event → Prop
  | .e42Delete xappId ricId => s.iapp.map.OwnFirst ⟨ricId, xappId⟩
  | _ => True

instance (s : Sys) : (e : Event) → Decidable (OwnLookup s e)
  | .e42Delete xappId ricId => inferInstanceAs (Decidable (s.iapp.map.OwnFirst ⟨ricId, xappId⟩))
  | .ric _ | .e42Setup .. | .e42Subscribe .. | .iappRegister _ | .iappInsert | .fwdDelete _
    | .e42Control .. | .iappAdd _ | .xappDisconnect _ | .notify _ | .remove ..
    | .indication .. => isTrue trivial

/-- Everything deleted, or about to be, belongs to whom it is deleted for. -/
def Isolated (s : Sys) : Prop :=
  ∀ d ∈ s.hist.deletes ++ s.pc.deletions, OwnDeletion s.hist.created d

theorem Owned.ownDeletion {created : List Req} {n : E2NodeRicId} {x : XappRicId}
    (h : Owned created n x) : OwnDeletion created ⟨x.xappId, n.e2NodeId, n.ricId⟩ := by
  obtain ⟨r, hr, ho, hnode, hid, -⟩ := h
  exact ⟨r, hr, hnode, hid, x, ho, rfl⟩

/-- A step that deletes nothing more keeps the deletions isolated. -/
theorem Isolated.mono (h : Isolated s) (hdel : s'.hist.deletes = s.hist.deletes)
    (hpc : s'.pc.deletions ⊆ s.pc.deletions) (hsub : s.hist.created ⊆ s'.hist.created) :
    Isolated s' := by
  intro d hd
  have hd' : d ∈ s.hist.deletes ++ s.pc.deletions := by
    rw [hdel] at hd
    exact (List.mem_append.mp hd).elim (List.mem_append_left _)
      fun hd => List.mem_append_right _ (hpc hd)
  obtain ⟨r, hr, hown⟩ := h d hd'
  exact ⟨r, hsub hr, hown⟩

/-- What a delete request starts deleting is the xApp's own. -/
theorem Ok.delete_own (h : Ok s) {xappId : UInt16} {ricId : RicGenId} {n : E2NodeRicId}
    (hown : s.iapp.map.OwnFirst ⟨ricId, xappId⟩)
    (hf : s.iapp.map.findRicReqMapRicId ⟨ricId, xappId⟩ = .next n) :
    OwnDeletion s.hist.created
      ⟨xappId, n.e2NodeId, { ricId with ricReqId := n.ricId.ricReqId }⟩ := by
  obtain ⟨y, hy, hmem, hid⟩ := MapRicId.findRicReqMapRicId_mem hf
  have hx : y.xappId = xappId := (MapRicId.lookup_own h.sorted).mpr hown (y, n) hy
  have hn := h.right (y, n) hmem
  obtain ⟨-, -, -, -, -, hric, -⟩ := hn
  have hsame : ({ ricId with ricReqId := n.ricId.ricReqId } : RicGenId) = n.ricId := by
    rw [← hric, hid]
  rw [hsame, ← hx]
  exact (h.right (y, n) hmem).ownDeletion

/-- What a disconnection starts deleting is the xApp's own. -/
theorem Ok.disconnect_own (h : Ok s) {xappId : UInt16} {n : E2NodeRicId}
    (hn : n ∈ s.iapp.map.findAllSubsMapRicId xappId) :
    OwnDeletion s.hist.created ⟨xappId, n.e2NodeId, n.ricId⟩ := by
  obtain ⟨y, hmem, rfl, -⟩ := MapRicId.mem_findAllSubs.mp hn
  exact (h.right (y, n) hmem).ownDeletion

/-- **One step** whose delete request, if it is one, finds its own entry. -/
theorem Isolated.step (h : Isolated s) (hok : Ok s) (hc : OwnLookup s e)
    (hs : step relock s e = .next s') : Isolated s' := by
  have hdone : ∀ d ∈ s.hist.deletes, OwnDeletion s.hist.created d := fun d hd =>
    h d (List.mem_append_left _ hd)
  cases step_cases hs with
  | subscribed m timer newId req ricSys info idle address port forwarded =>
    refine h.mono rfl ?_ (List.subset_append_left _ _)
    dsimp only
    split <;> exact List.nil_subset _
  | registered reallocOk m newId req registry at_ added =>
    exact h.mono rfl (List.nil_subset _) (List.Subset.refl _)
  | deleteFound xappId ricId n idle found type =>
    intro d hd
    obtain hd | hd := List.mem_append.mp hd
    · exact hdone d hd
    · rw [List.mem_singleton.mp hd]
      exact hok.delete_own hc found
  | deleteForwarded timer xappId node id todo sent ricSys at_ forwarded =>
    have hthis : OwnDeletion s.hist.created ⟨xappId, node, id⟩ :=
      h _ (List.mem_append_right _ (by rw [at_]; exact List.mem_cons_self))
    intro d hd
    obtain hd | hd := List.mem_append.mp hd
    · dsimp only at hd
      split at hd
      · obtain hd | hd := List.mem_append.mp hd
        · exact hdone d hd
        · rw [List.mem_singleton.mp hd]
          exact hthis
      · exact hdone d hd
    · rw [Pc.deletions_deletingOrIdle] at hd
      exact h d (List.mem_append_right _ (by rw [at_]; exact List.mem_cons_of_mem _ hd))
  | disconnected info xappId idle known =>
    intro d hd
    obtain hd | hd := List.mem_append.mp hd
    · exact hdone d hd
    · rw [Pc.deletions_deletingOrIdle, List.map_map] at hd
      obtain ⟨n, hn, rfl⟩ := List.mem_map.mp hd
      exact hok.disconnect_own hn
  | indicated node ind sentTo parts iapp sent =>
    exact h.mono rfl (List.Subset.refl _) (List.Subset.refl _)
  | notRegistered | inserted | controlForwarded | controlAdded =>
    exact h.mono rfl (List.nil_subset _) (List.Subset.refl _)
  | ric | setup | ignored | answered | forwarded | removed =>
    exact h.mono rfl (List.Subset.refl _) (List.Subset.refl _)

/-- **Isolation of deletions.** In every run whose delete requests find
their own entry first, a deletion sent for an xApp, be it on its request or
on its disconnection, is of a subscription the xApp created.  In every map
the lookup of a request returns no entry of another xApp exactly when that
entry comes first, and in every run the subscriptions listed for an xApp are
all of its entries. -/
theorem delete_isolated (relock : Relock) (s : Sys) :
    ((iappMachine relock).ReachedBy OwnLookup s →
      ∀ d ∈ s.hist.deletes, OwnDeletion s.hist.created d) ∧
    (∀ (map : MapRicId) (x : XappRicId), OrdAssoc.Sorted cmpXappRicGenId map.right →
      ((∀ e, map.findRicReqEntry x = some e → e.1.xappId = x.xappId) ↔ map.OwnFirst x)) ∧
    ((iappMachine relock).Reachable s → OrdAssoc.Sorted cmpXappRicGenId s.iapp.map.right ∧
      ∀ xappId, s.iapp.map.findAllSubsMapRicId xappId =
        (s.iapp.map.right.filter fun e => e.1.xappId == xappId).map Prod.snd) := by
  refine ⟨fun h => ?_, fun map x hs => MapRicId.lookup_own hs, fun h => ?_⟩
  · have hinit : Isolated (iappMachine relock).init := fun d hd => absurd hd List.not_mem_nil
    have hiso : Isolated s := h.invariant hinit fun s e s' hr hp hc hs =>
      hp.step (ok hr.reachable) hc hs
    exact fun d hd => hiso d (List.mem_append_left _ hd)
  · exact ⟨(ok h).sorted, (ok h).findAllSubs⟩

/-- Two xApps have each a subscription under the RIC id `{1, 0, 142}`, the
xApp 7 at one gNB and the xApp 8 at another. -/
def bothSubscribed : List Event :=
  setUp ++ subscribe ⟨7, .gnb 1, ⟨1, 0, 142⟩⟩ 5 ++ subscribe ⟨8, .gnb 2, ⟨1, 0, 142⟩⟩ 6

/-- The delete request of the xApp 8 deletes the subscription of the xApp 7. -/
theorem delete_not_isolated :
    ¬ ∀ s, (iappMachine .edeadlk).Reachable s →
      ∀ d ∈ s.hist.deletes, OwnDeletion s.hist.created d := by
  intro hclaim
  obtain ⟨s, hr, hs⟩ := Machine.Reachable.exists_of_run (M := iappMachine .edeadlk)
    (bothSubscribed ++ [.e42Delete 8 ⟨1, 0, 142⟩, .fwdDelete (some 7)])
    (fun s => s.hist.deletes.any fun d =>
      s.hist.created.all fun r => r.node != d.node || r.origin.any fun x => x.xappId != d.xappId)
    (by decide)
  obtain ⟨d, hd, hall⟩ := List.any_eq_true.mp hs
  obtain ⟨r, hmem, hnode, -, x, hx, hid⟩ := hclaim s hr d hd
  have := List.all_eq_true.mp hall r hmem
  simp [hnode, hx, hid] at this

/-- The delete request of the xApp 7 deletes its own subscription, although
the xApp 8 has one under the same RIC id. -/
theorem delete_isolated_two_xapps :
    ∃ s : Sys, s.hist.deletes = [⟨7, .gnb 1, ⟨1, 0, 142⟩⟩] ∧
      (∀ d ∈ s.hist.deletes, OwnDeletion s.hist.created d) ∧
      s.iapp.map.findAllSubsMapRicId 8 =
        (s.iapp.map.right.filter fun e => e.1.xappId == 8).map Prod.snd ∧
      ((∀ e, s.iapp.map.findRicReqEntry ⟨⟨1, 0, 142⟩, 8⟩ = some e → e.1.xappId = 8) ↔
        s.iapp.map.OwnFirst ⟨⟨1, 0, 142⟩, 8⟩) := by
  obtain ⟨s, hr, hs⟩ := Machine.ReachedBy.exists_of_run (M := iappMachine .edeadlk)
    (C := OwnLookup) (bothSubscribed ++ [.e42Delete 7 ⟨1, 0, 142⟩, .fwdDelete (some 7)])
    (fun s => s.hist.deletes == [⟨7, .gnb 1, ⟨1, 0, 142⟩⟩]) (by decide)
  have hall := delete_isolated .edeadlk s
  obtain ⟨hsorted, hsubs⟩ := hall.2.2 hr.reachable
  exact ⟨s, by simpa using hs, hall.1 hr, hsubs 8, hall.2.1 s.iapp.map _ hsorted⟩

end Sys

end FlexRic
