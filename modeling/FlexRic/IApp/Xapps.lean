import FlexRic.IApp.Invariants

/-!
# FlexRic.IApp.Xapps

The xApps the iApp serves: which ids were handed out, to whom, and who is
still there.

The iApp keeps the ids with their addresses and a counter; it does not keep
who has left.  `XappSys` records that next to it.

* `sys_reachable`: the record changes nothing about what the iApp does;
* `step_xapps`: only a setup request changes the table and the counter;
* `numbering`: the ids in the table are those the counter has passed, from
  `7` on and modulo `2 ^ 16`.
-/

namespace FlexRic

/-- The iApp and the xApps that were set up, with their addresses. -/
structure XappSys where
  sys : Sys
  /-- those whose association is still there -/
  connected : List (UInt16 × SctpInfo)
  /-- those whose association has been shut down -/
  departed : List (UInt16 × SctpInfo)
  deriving DecidableEq

namespace XappSys

open Sys (Event)

def init : XappSys := ⟨.init, [], []⟩

/-- The xApp has set up under the address. -/
def sameAddress (info : SctpInfo) (p : UInt16 × SctpInfo) : Bool := eqSctpInfo info p.2

/-- Who has come and who has gone with an event. -/
def record (s : XappSys) (sys : Sys) : Event → XappSys
  | .e42Setup info _ => { s with
      sys, connected := s.connected ++ [(s.sys.iapp.xappId.toUInt16, info)] }
  | .xappDisconnect info => { s with
      sys
      connected := s.connected.filter fun p => !sameAddress info p
      departed := s.departed ++ s.connected.filter (sameAddress info) }
  | _ => { s with sys }

def step (relock : Relock) (s : XappSys) (e : Event) : Outcome XappSys := do
  let sys ← s.sys.step relock e
  return s.record sys e

def machine (relock : Relock) : Machine XappSys Event := ⟨init, step relock⟩

/-- The id was handed out. -/
def Assigned (s : XappSys) (xappId : UInt16) : Prop := xappId ∈ s.sys.iapp.xapps.left.map (·.1)

/-- The id was handed out to an xApp whose association is still there. -/
def Connected (s : XappSys) (xappId : UInt16) : Prop := xappId ∈ s.connected.map (·.1)

instance (s : XappSys) (xappId : UInt16) : Decidable (s.Assigned xappId) :=
  inferInstanceAs (Decidable (_ ∈ _))

instance (s : XappSys) (xappId : UInt16) : Decidable (s.Connected xappId) :=
  inferInstanceAs (Decidable (_ ∈ _))

variable {relock : Relock} {s s' : XappSys} {sys : Sys} {e : Event} {xappId : UInt16}
  {info : SctpInfo} {C : XappSys → Event → Prop}

theorem step_eq_next : s.step relock e = .next s' ↔
    ∃ sys, s.sys.step relock e = .next sys ∧ s' = s.record sys e := by
  simp only [step, Outcome.bind_eq_next, Outcome.pure_eq, Outcome.next_inj]
  exact exists_congr fun sys => and_congr_right fun _ => eq_comm

@[simp] theorem record_sys : (s.record sys e).sys = sys := by
  cases e <;> rfl

/-- The iApp under the record does what it does without it. -/
theorem sys_reachable (h : (machine relock).Reachable s) : (iappMachine relock).Reachable s.sys := by
  have hinit : (iappMachine relock).Reachable (machine relock).init.sys := Machine.Reachable.init
  refine Machine.ReachedBy.simulation (f := XappSys.sys) hinit (fun s e s' _ _ hs => ?_) h
  obtain ⟨sys, hsys, rfl⟩ := step_eq_next.mp hs
  exact .inr ⟨e, trivial, by rw [record_sys]; exact hsys⟩

/-- Only a setup request changes the table of the xApps and the counter. -/
theorem step_xapps (hr : (iappMachine relock).Reachable sys) {sys' : Sys}
    (h : sys.step relock e = .next sys') :
    (∃ info lenRf, e = .e42Setup info lenRf ∧
      sys.iapp.xapps.addMapXappsSad sys.iapp.xappId.toUInt16 info = .next sys'.iapp.xapps ∧
      sys'.iapp.xappId = sys.iapp.xappId + 1) ∨
    (∀ info lenRf, e ≠ .e42Setup info lenRf) ∧
      sys'.iapp.xapps = sys.iapp.xapps ∧ sys'.iapp.xappId = sys.iapp.xappId := by
  cases Sys.step_cases h with
  | setup info lenRf xapps added => exact .inl ⟨info, lenRf, rfl, added, rfl⟩
  | indicated node ind sentTo parts iapp sent =>
    obtain ⟨rfl, rfl⟩ := (Sys.ok hr).forwardAll_eq_next sent
    exact .inr ⟨fun _ _ => Event.noConfusion, rfl, rfl⟩
  | _ => exact .inr ⟨fun _ _ => Event.noConfusion, rfl, rfl⟩

/-! ## The table -/

theorem addMapXappsSad_eq_next {m m' : MapXapps} (h : m.addMapXappsSad xappId info = .next m') :
    xappId ∉ m.left.map (·.1) ∧ m' = Bimap.inserted cmpUint16 cmpSctpInfo m xappId info := by
  simp only [MapXapps.addMapXappsSad, Bimap.insert_eq lawful_cmpUint16 lawful_cmpSctpInfo,
    Outcome.bind_eq_next, Outcome.assert_eq_next, Outcome.next_inj] at h
  obtain ⟨-, hnone, rfl⟩ := h
  refine ⟨fun hmem => ?_, rfl⟩
  obtain ⟨e, he, rfl⟩ := List.mem_map.mp hmem
  have hno := OrdAssoc.findIf_eq_none.mp (Option.isNone_iff_eq_none.mp hnone) e he
  simp at hno

theorem mem_keys_inserted {m : MapXapps} {x : UInt16} :
    x ∈ (Bimap.inserted cmpUint16 cmpSctpInfo m xappId info).left.map (·.1) ↔
      x = xappId ∨ x ∈ m.left.map (·.1) := by
  simp only [List.mem_map, Bimap.mem_inserted_left]
  constructor
  · rintro ⟨e, rfl | he, rfl⟩
    · exact .inl rfl
    · exact .inr ⟨e, he, rfl⟩
  · rintro (rfl | ⟨e, he, rfl⟩)
    · exact ⟨_, .inl rfl, rfl⟩
    · exact ⟨e, .inr he, rfl⟩

/-- The counter has handed out `n` ids, and these are in the table. -/
structure Numbered (iapp : E42Iapp) (n : Nat) : Prop where
  counter : iapp.xappId.toNat = 7 + n
  bound : n ≤ 65536
  keys : ∀ x, x ∈ iapp.xapps.left.map (·.1) ↔ ∃ i < n, x = UInt16.ofNat (7 + i)

theorem numbered_init : Numbered Sys.init.iapp 0 where
  counter := rfl
  bound := Nat.zero_le _
  keys x := by
    constructor
    · exact fun hx => absurd hx List.not_mem_nil
    · rintro ⟨i, hi, -⟩
      exact absurd hi (Nat.not_lt_zero i)

theorem Numbered.next_id {iapp : E42Iapp} {n : Nat} (h : Numbered iapp n) :
    iapp.xappId.toUInt16 = UInt16.ofNat (7 + n) := by
  apply UInt16.toNat.inj
  rw [UInt32.toNat_toUInt16, h.counter, UInt16.toNat_ofNat']

/-- The next id is handed out only while there is one left. -/
theorem Numbered.setup {iapp iapp' : E42Iapp} {n : Nat} (h : Numbered iapp n)
    (hadd : iapp.xapps.addMapXappsSad iapp.xappId.toUInt16 info = .next iapp'.xapps)
    (hnext : iapp'.xappId = iapp.xappId + 1) : Numbered iapp' (n + 1) := by
  obtain ⟨hnew, hxapps⟩ := addMapXappsSad_eq_next hadd
  rw [h.next_id] at hnew hxapps
  have hlt : n < 65536 := by
    refine Nat.lt_of_le_of_ne h.bound fun hfull => hnew ((h.keys _).mpr ⟨0, by omega, ?_⟩)
    subst hfull
    rfl
  refine ⟨?_, hlt, fun x => ?_⟩
  · have hcounter := h.counter
    rw [hnext, UInt32.toNat_add, hcounter]
    change (7 + n + 1) % 4294967296 = 7 + (n + 1)
    omega
  · rw [hxapps, mem_keys_inserted, h.keys]
    constructor
    · rintro (rfl | ⟨i, hi, rfl⟩)
      · exact ⟨n, Nat.lt_succ_self n, rfl⟩
      · exact ⟨i, Nat.lt_succ_of_lt hi, rfl⟩
    · rintro ⟨i, hi, rfl⟩
      obtain rfl | hi := Nat.eq_or_lt_of_le (Nat.le_of_lt_succ hi)
      · exact .inl rfl
      · exact .inr ⟨i, hi, rfl⟩

/-- **Numbering.** The counter has handed out some number of ids, and the
table holds exactly these. -/
theorem numbering (h : (machine relock).Reachable s) : ∃ n, Numbered s.sys.iapp n := by
  refine h.invariant (P := fun s => ∃ n, Numbered s.sys.iapp n) ⟨0, numbered_init⟩ ?_
  intro s e s' hr ⟨n, hn⟩ hs
  obtain ⟨sys, hsys, rfl⟩ := step_eq_next.mp hs
  rw [record_sys]
  obtain ⟨info, lenRf, -, hadd, hnext⟩ | ⟨-, hxapps, hid⟩ := step_xapps (sys_reachable hr) hsys
  · exact ⟨n + 1, hn.setup hadd hnext⟩
  · exact ⟨n, hid ▸ hn.counter, hn.bound, hxapps ▸ hn.keys⟩

/-- The ids that were handed out, in terms of the counter. -/
theorem Numbered.mem_keys {iapp : E42Iapp} {n : Nat} (h : Numbered iapp n) (x : UInt16) :
    x ∈ iapp.xapps.left.map (·.1) ↔
      (7 ≤ x.toNat ∧ x.toNat < iapp.xappId.toNat) ∨ 65536 + x.toNat < iapp.xappId.toNat := by
  have hcounter := h.counter
  have hbound := h.bound
  have hx := x.toNat_lt
  rw [h.keys]
  constructor
  · rintro ⟨i, hi, rfl⟩
    rw [UInt16.toNat_ofNat']
    omega
  · rintro (⟨hge, hlt⟩ | hlt)
    · refine ⟨x.toNat - 7, by omega, UInt16.toNat.inj ?_⟩
      rw [UInt16.toNat_ofNat']
      omega
    · refine ⟨x.toNat + 65529, by omega, UInt16.toNat.inj ?_⟩
      rw [UInt16.toNat_ofNat']
      omega

/-- **The gap of the test.** An id passes `valid_xapp_id` without having been
handed out exactly when it is the next one, or one of `0` to `6` that the
counter has not come back to. -/
theorem valid_not_assigned (h : (machine relock).Reachable s) (xappId : UInt16) :
    (s.sys.validXappId xappId = true ∧ ¬ s.Assigned xappId) ↔
      xappId.toUInt32 = s.sys.iapp.xappId ∨
        (xappId < 7 ∧ s.sys.iapp.xappId.toNat ≤ 65536 + xappId.toNat) := by
  obtain ⟨n, hn⟩ := numbering h
  have hcounter := hn.counter
  rw [Assigned, hn.mem_keys, Sys.validXappId, decide_eq_true_eq, UInt32.le_iff_toNat_le,
    UInt16.toNat_toUInt32, UInt16.lt_iff_toNat_lt, ← UInt32.toNat_inj, UInt16.toNat_toUInt32]
  change _ ↔ _ ∨ (_ < 7 ∧ _)
  omega

/-! ## The record -/

theorem left_perm_record (hr : (machine relock).Reachable s)
    (hperm : s.sys.iapp.xapps.left.Perm (s.connected ++ s.departed))
    (hs : s.sys.step relock e = .next sys) :
    sys.iapp.xapps.left.Perm ((s.record sys e).connected ++ (s.record sys e).departed) := by
  obtain ⟨info, lenRf, rfl, hadd, -⟩ | ⟨hno, hxapps, -⟩ := step_xapps (sys_reachable hr) hs
  · obtain ⟨-, hxapps⟩ := addMapXappsSad_eq_next hadd
    rw [hxapps]
    refine (OrdAssoc.insert_perm _ _ _ _).trans ((hperm.cons _).trans ?_)
    rw [record, List.append_assoc]
    exact List.perm_middle.symm
  · rw [hxapps]
    cases e with
    | e42Setup info lenRf => exact absurd rfl (hno info lenRf)
    | xappDisconnect info =>
      refine hperm.trans ?_
      rw [record]
      have hsplit := List.filter_append_perm (sameAddress info) s.connected
      refine (hsplit.symm.append_right s.departed).trans ?_
      rw [List.append_assoc, ← List.append_assoc _ s.departed]
      exact List.perm_append_comm
    | _ => exact hperm

/-- The table holds the xApps that are there and those that have left. -/
theorem left_perm (h : (machine relock).Reachable s) :
    s.sys.iapp.xapps.left.Perm (s.connected ++ s.departed) := by
  refine h.invariant (P := fun s => s.sys.iapp.xapps.left.Perm (s.connected ++ s.departed)) .nil ?_
  intro s e s' hr hperm hs
  obtain ⟨sys, hsys, rfl⟩ := step_eq_next.mp hs
  rw [record_sys]
  exact left_perm_record hr hperm hsys

/-- An xApp that is there has an id that was handed out. -/
theorem Connected.assigned (h : (machine relock).Reachable s) (hx : s.Connected xappId) :
    s.Assigned xappId := by
  obtain ⟨p, hp, rfl⟩ := List.mem_map.mp hx
  exact List.mem_map_of_mem ((left_perm h).mem_iff.mpr (List.mem_append_left _ hp))

end XappSys

end FlexRic
