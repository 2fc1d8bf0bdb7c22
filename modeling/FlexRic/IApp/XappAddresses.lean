import FlexRic.IApp.Xapps

/-!
# FlexRic.IApp.XappAddresses

Whether the iApp's table of xApp ids and SCTP addresses is a bijection
between the xApps that are there and their associations.

It is a bijection as long as no address sets up a second time.  Its domain
then are the xApps that are there and the ones that have left: nothing
removes an entry (`xapp_addresses`).  An xApp that repeats its setup request
gets a second id for the same address (`retried_setup_not_bijective`).
-/

namespace FlexRic

open Bimap

namespace XappSys

open Sys (Event)

variable {relock : Relock} {s s' : XappSys} {e : Event} {p q : UInt16 × SctpInfo}

/-- A setup request comes from an address nobody has set up under, and a
shutdown from the association of an xApp. -/
def NewAddress (s : XappSys) : Event → Prop
  | .e42Setup info _ => ∀ e ∈ s.sys.iapp.xapps.right, cmpSctpInfo info e.1 ≠ 0
  | .xappDisconnect info => ∃ p ∈ s.connected, sameAddress info p = true
  | _ => True

instance (s : XappSys) : (e : Event) → Decidable (NewAddress s e)
  | .e42Setup .. => inferInstanceAs (Decidable (∀ e ∈ s.sys.iapp.xapps.right, _))
  | .xappDisconnect _ => inferInstanceAs (Decidable (∃ p ∈ s.connected, _))
  | .ric _ | .e42Subscribe .. | .iappRegister _ | .iappInsert | .e42Delete .. | .fwdDelete _
    | .e42Control .. | .iappAdd _ | .notify _ | .remove .. | .indication .. => isTrue trivial

/-- The table is a bijection. -/
abbrev OneToOne (s : XappSys) : Prop := Bijective cmpUint16 cmpSctpInfo s.sys.iapp.xapps

theorem oneToOne_step (hr : (machine relock).Reachable s) (h : s.OneToOne) (hc : NewAddress s e)
    (hs : s.step relock e = .next s') : s'.OneToOne := by
  obtain ⟨sys, hsys, rfl⟩ := step_eq_next.mp hs
  rw [OneToOne, record_sys]
  obtain ⟨info, lenRf, rfl, hadd, -⟩ | ⟨-, hxapps, -⟩ := step_xapps (sys_reachable hr) hsys
  · obtain ⟨hnew, hxapps⟩ := addMapXappsSad_eq_next hadd
    rw [hxapps, Bijective.inserted_iff lawful_cmpUint16 lawful_cmpSctpInfo h]
    refine ⟨fun e he heq => hnew ?_, hc⟩
    rw [show s.sys.iapp.xappId.toUInt16 = e.1 from cmpAsc_eq_zero.mp heq]
    exact List.mem_map_of_mem he
  · rw [hxapps]
    exact h

theorem oneToOne (h : (machine relock).ReachedBy NewAddress s) : s.OneToOne :=
  h.invariant (P := OneToOne) bijective_empty fun _ _ _ hr hp hc hs =>
    oneToOne_step hr.reachable hp hc hs

/-! ## What the lookups find -/

/-- The ids tell the xApps apart. -/
theorem OneToOne.eq_of_id (h : s.OneToOne) (hp : p ∈ s.sys.iapp.xapps.left)
    (hq : q ∈ s.sys.iapp.xapps.left) (hid : p.1 = q.1) : p = q :=
  h.left.eq_of_mem lawful_cmpUint16 hp hq (cmpAsc_eq_zero.mpr hid)

/-- Two entries with one address are one entry. -/
theorem OneToOne.eq_of_address (h : s.OneToOne) (hp : p ∈ s.sys.iapp.xapps.left)
    (hq : q ∈ s.sys.iapp.xapps.left) (hadr : cmpSctpInfo p.2 q.2 = 0) : p = q := by
  have heq := h.right.eq_of_mem lawful_cmpSctpInfo (h.mirror.mem.mp hp) (h.mirror.mem.mp hq) hadr
  exact Prod.ext (Prod.mk.inj heq).2 (Prod.mk.inj heq).1

theorem OneToOne.findMapXappsSad (h : s.OneToOne) (hp : p ∈ s.sys.iapp.xapps.left) :
    s.sys.iapp.xapps.findMapXappsSad p.1 = .next p.2 := by
  obtain ⟨e, he⟩ := OrdAssoc.findIf_isSome (p := (p.1 == ·)) hp (beq_self_eq_true _)
  have hkey : p.1 = e.1 := by simpa using OrdAssoc.findIf_key he
  obtain rfl := h.eq_of_id hp (OrdAssoc.mem_of_findIf he) hkey
  simp [MapXapps.findMapXappsSad, he, Outcome.expect]

theorem OneToOne.findMapXappsXid (h : s.OneToOne) (hp : p ∈ s.sys.iapp.xapps.left) :
    s.sys.iapp.xapps.findMapXappsXid p.2 = .next p.1 := by
  have hmem : (p.2, p.1) ∈ s.sys.iapp.xapps.right := h.mirror.mem.mp hp
  obtain ⟨e, he⟩ := OrdAssoc.findIf_isSome (p := eqSctpInfo p.2) hmem
    (by simp [eqSctpInfo, lawful_cmpSctpInfo.refl])
  have hkey : cmpSctpInfo p.2 e.1 = 0 := by simpa [eqSctpInfo] using OrdAssoc.findIf_key he
  have heq : p = (e.2, e.1) :=
    h.eq_of_address hp (h.mirror.mem.mpr (OrdAssoc.mem_of_findIf he)) hkey
  simp [MapXapps.findMapXappsXid, he, Outcome.expect, congrArg Prod.fst heq]

/-- The xApp leaves: it alone is struck off, and the iApp goes on to delete
its subscriptions and no others. -/
def Leaves (s : XappSys) (p : UInt16 × SctpInfo) (s' : XappSys) : Prop :=
  s'.connected = s.connected.filter (·.1 != p.1) ∧
    s'.sys.pc = .deletingOrIdle p.1
      ((s.sys.iapp.map.right.filter fun e => e.1.xappId == p.1).map fun e => (e.2.e2NodeId, e.2.ricId))

theorem leaves (h : (machine relock).ReachedBy NewAddress s) (hp : p ∈ s.connected)
    (hidle : s.sys.pc = .idle) :
    ∃ s', s.step relock (.xappDisconnect p.2) = .next s' ∧ Leaves s p s' := by
  have hone := oneToOne h
  have hleft : ∀ q ∈ s.connected, q ∈ s.sys.iapp.xapps.left := fun q hq =>
    (left_perm h.reachable).mem_iff.mpr (List.mem_append_left _ hq)
  have hstep : ∃ sys, s.sys.step relock (.xappDisconnect p.2) = .next sys ∧
      sys.pc = .deletingOrIdle p.1
        ((s.sys.iapp.map.findAllSubsMapRicId p.1).map fun n => (n.e2NodeId, n.ricId)) := by
    simp [Sys.step, Sys.xappDisconnect, hidle, Outcome.await, hone.findMapXappsXid (hleft p hp)]
  obtain ⟨sys, hsys, hpc⟩ := hstep
  refine ⟨_, step_eq_next.mpr ⟨sys, hsys, rfl⟩, ?_, ?_⟩
  · refine List.filter_congr fun q hq => ?_
    rw [Bool.eq_iff_iff, bne_iff_ne, Bool.not_eq_true', ← Bool.not_eq_true]
    refine not_congr ⟨fun hadr => ?_, fun hid => ?_⟩
    · rw [hone.eq_of_address (hleft p hp) (hleft q hq) (by simpa [sameAddress, eqSctpInfo] using hadr)]
    · rw [hone.eq_of_id (hleft q hq) (hleft p hp) hid]
      simp [sameAddress, eqSctpInfo, lawful_cmpSctpInfo.refl]
  · rw [record_sys, hpc, (Sys.ok (sys_reachable h.reachable)).findAllSubs, List.map_map]
    rfl

/-- **Addresses of the xApps.** In every run in which no address sets up a
second time, the table is a bijection, and it holds the xApps that are there
and those that have left; so its domain is the xApps that are there if and
only if none has left.  Whoever is there is found under the own address, and
a shutdown is that of the xApp that left. -/
theorem xapp_addresses (relock : Relock) (s : XappSys)
    (h : (machine relock).ReachedBy NewAddress s) :
    s.OneToOne ∧ s.sys.iapp.xapps.left.Perm (s.connected ++ s.departed) ∧
      (s.sys.iapp.xapps.left.Perm s.connected ↔ s.departed = []) ∧
      ∀ p ∈ s.connected, s.sys.iapp.xapps.findMapXappsSad p.1 = .next p.2 ∧
        s.sys.iapp.xapps.findMapXappsXid p.2 = .next p.1 ∧
        (s.sys.pc = .idle →
          ∃ s', s.step relock (.xappDisconnect p.2) = .next s' ∧ Leaves s p s') := by
  have hone := oneToOne h
  have hperm := left_perm h.reachable
  refine ⟨hone, hperm, ⟨fun hconn => ?_, fun hnone => ?_⟩, fun p hp => ?_⟩
  · have hlen := (hperm.symm.trans hconn).length_eq
    rw [List.length_append] at hlen
    exact List.eq_nil_of_length_eq_zero (by omega)
  · rwa [hnone, List.append_nil] at hperm
  · have hleft := hperm.mem_iff.mpr (List.mem_append_left _ hp)
    exact ⟨hone.findMapXappsSad hleft, hone.findMapXappsXid hleft, leaves h hp⟩

/-- An xApp that repeats its setup request gets a second id, and the address
is found under the first one only. -/
theorem retried_setup_not_bijective :
    ¬ ∀ relock s, (machine relock).Reachable s →
      s.OneToOne ∧ s.sys.iapp.xapps.left.Perm s.connected := by
  intro hclaim
  obtain ⟨s, hr, hs⟩ := Machine.Reachable.exists_of_run (M := machine .deadlock)
    [.e42Setup ⟨36001, 1, 2⟩ 1, .e42Setup ⟨36001, 1, 2⟩ 1]
    (fun s => !decide (OrdAssoc.Distinct cmpSctpInfo s.sys.iapp.xapps.right)) (by decide)
  simp only [Bool.not_eq_true', decide_eq_false_iff_not] at hs
  exact hs (hclaim .deadlock s hr).1.right

/-- Of three xApps one leaves; the two others keep their ids and addresses. -/
theorem xapp_addresses_one_left :
    ∃ s : XappSys, s.connected = [(7, ⟨36001, 1, 2⟩), (9, ⟨36003, 1, 2⟩)] ∧ s.OneToOne ∧
      s.sys.iapp.xapps.findMapXappsSad 9 = .next ⟨36003, 1, 2⟩ ∧
      ¬ s.sys.iapp.xapps.left.Perm s.connected := by
  obtain ⟨s, hr, hs⟩ := Machine.ReachedBy.exists_of_run (M := machine .deadlock) (C := NewAddress)
    (Sys.setUp ++ [.e42Setup ⟨36003, 1, 2⟩ 1, .xappDisconnect ⟨36002, 1, 2⟩])
    (fun s => s.connected == [(7, ⟨36001, 1, 2⟩), (9, ⟨36003, 1, 2⟩)] &&
      !decide (s.departed = [])) (by decide)
  simp only [Bool.and_eq_true, beq_iff_eq, Bool.not_eq_true', decide_eq_false_iff_not] at hs
  obtain ⟨hone, -, hdomain, hall⟩ := xapp_addresses .deadlock s hr
  refine ⟨s, hs.1, hone, (hall (9, ⟨36003, 1, 2⟩) ?_).1, fun hperm => hs.2 (hdomain.mp hperm)⟩
  rw [hs.1]
  exact List.mem_cons_of_mem _ List.mem_cons_self

end XappSys

end FlexRic
