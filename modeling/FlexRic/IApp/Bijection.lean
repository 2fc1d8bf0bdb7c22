import FlexRic.IApp.Invariants

/-!
# FlexRic.IApp.Bijection

When the two trees of `map_ric_id` hold the same pairs under distinct keys.

The one step that can break it is the insertion of the subscription handler,
which looks for no earlier mapping: `bijective_step` says that the map stays
a bijection exactly when the new id is not in the left tree, and
`map_bijective` carries this over whole runs.
-/

namespace FlexRic

namespace Sys

variable {relock : Relock} {s s' : Sys} {e : Event}

/-- The map is a bijection under the comparators of its two trees. -/
abbrev MapBijective (s : Sys) : Prop :=
  Bimap.Bijective cmpE2NodeRicReq cmpXappRicGenId s.iapp.map

/-- An insertion is under an id that no mapping has. -/
def FreshInsert (s : Sys) : Event → Bool
  | .iappInsert =>
    match s.pc with
    | .subRegistered _ newId _ => s.iapp.map.left.all fun e => e.1.ricId.ricReqId != newId.toUInt32
    | _ => true
  | _ => true

theorem inserted_bijective (h : Ok s) (hb : s.MapBijective) {m : E42Request} {newId : UInt16}
    {req : Req} (hpc : s.pc = .subRegistered m newId req) :
    Bimap.Bijective cmpE2NodeRicReq cmpXappRicGenId
        (Bimap.inserted cmpE2NodeRicReq cmpXappRicGenId s.iapp.map
          ⟨{ m.ricId with ricReqId := newId.toUInt32 }, m.id, .subscription⟩
          ⟨{ m.ricId with ricReqId := newId.toUInt32 }, m.xappId⟩) ↔
      s.FreshInsert .iappInsert = true := by
  rw [hb.inserted_iff lawful_cmpE2NodeRicReq lawful_cmpXappRicGenId]
  simp only [FreshInsert, hpc, List.all_eq_true, bne_iff_ne, ne_eq, cmpE2NodeRicReq_eq_zero,
    cmpXappRicGenId_eq_zero]
  constructor
  · rintro ⟨hl, -⟩ e he heq
    exact hl e he heq.symm
  · intro hl
    refine ⟨fun e he heq => hl e he heq.symm, fun e he heq => ?_⟩
    -- the right entry has its partner in the left tree, under the same RIC id
    have hmem : (e.2, e.1) ∈ s.iapp.map.left := hb.mirror.mem.mpr he
    obtain ⟨-, -, -, -, -, hid, -⟩ := h.right e he
    refine hl _ hmem ?_
    rw [← hid, ← heq]

/-- **One step.** A step from a state with a bijective map leads to one
exactly when it inserts no id the map has already. -/
theorem bijective_step (h : Ok s) (hb : s.MapBijective) (hs : step relock s e = .next s') :
    s'.MapBijective ↔ s.FreshInsert e = true := by
  cases step_cases hs with
  | inserted m newId req at_ => exact inserted_bijective h hb at_
  | removed k picks w x map ricSys worker found unlocked rm done =>
    obtain ⟨n, hr⟩ := MapRicId.rmMapRicId_removed hb rm
    exact iff_of_true (hb.removed hr) rfl
  | indicated node ind sentTo parts iapp sent =>
    obtain ⟨rfl, rfl⟩ := h.forwardAll_eq_next sent
    exact iff_of_true hb rfl
  | _ => exact iff_of_true hb rfl

/-- **`map_ric_id` is a bijection** in every run whose insertions are under
new ids, and extracting by either key of an entry removes that entry from
both trees.  From any reachable state where it is one, a step keeps it
exactly when it inserts under a new id. -/
theorem map_bijective (relock : Relock) (s : Sys) :
    ((iappMachine relock).ReachedBy (fun s e => s.FreshInsert e = true) s →
      s.MapBijective ∧ ∀ n x picks, (n, x) ∈ s.iapp.map.left →
        (∃ map, Bimap.extractLeft cmpE2NodeRicReq cmpXappRicGenId s.iapp.map n picks =
            .next (x, map) ∧ Bimap.RemovedPair s.iapp.map n x map) ∧
          ∃ map, Bimap.extractRight cmpE2NodeRicReq cmpXappRicGenId s.iapp.map x picks =
            .next (n, map) ∧ Bimap.RemovedPair s.iapp.map n x map) ∧
      ∀ e s', (iappMachine relock).Reachable s → s.MapBijective →
        Sys.step relock s e = .next s' → (s'.MapBijective ↔ s.FreshInsert e = true) := by
  constructor
  · intro h
    have hb : s.MapBijective :=
      h.invariant Bimap.bijective_empty fun s e s' hr hp hc hs =>
        (bijective_step (ok hr.reachable) hp hs).mpr hc
    exact ⟨hb, fun n x picks hm => hb.extract lawful_cmpE2NodeRicReq lawful_cmpXappRicGenId hm⟩
  · intro e s' hr hb hs
    exact bijective_step (ok hr) hb hs

/-- The xApps 7 and 8 subscribe at two gNBs, both under their own id 1. -/
def sameIdTwice : List Event :=
  setUp ++ subscribe ⟨7, .gnb 1, ⟨1, 0, 142⟩⟩ 5 ++ subscribe ⟨8, .gnb 2, ⟨1, 0, 142⟩⟩ 6

/-- Two xApps that count their requests from 1 leave the left tree with two
entries under one key. -/
theorem map_not_bijective :
    ¬ ∀ s, (iappMachine .edeadlk).Reachable s → s.MapBijective := by
  intro hclaim
  obtain ⟨s, hr, hs⟩ := Machine.Reachable.exists_of_run (M := iappMachine .edeadlk) sameIdTwice
    (fun s => decide (¬ OrdAssoc.Distinct cmpE2NodeRicReq s.iapp.map.left)) (by decide)
  exact of_decide_eq_true hs (hclaim s hr).left

/-- With ids of their own the map holds both subscriptions and is one. -/
theorem map_bijective_two_xapps :
    ∃ s, s.iapp.map.left.length = 2 ∧ s.MapBijective ∧
      ∀ e s', Sys.step .edeadlk s e = .next s' → (s'.MapBijective ↔ s.FreshInsert e = true) := by
  obtain ⟨s, hr, hs⟩ := Machine.ReachedBy.exists_of_run (M := iappMachine .edeadlk)
    (C := fun s e => s.FreshInsert e = true)
    (setUp ++ subscribe ⟨7, .gnb 1, ⟨1, 0, 142⟩⟩ 5 ++ subscribe ⟨8, .gnb 2, ⟨2, 0, 142⟩⟩ 6)
    (fun s => s.iapp.map.left.length == 2) (by decide)
  have hb := ((map_bijective .edeadlk s).1 hr).1
  exact ⟨s, by simpa using hs, hb, fun e s' => (map_bijective .edeadlk s).2 e s' hr.reachable hb⟩

end Sys

end FlexRic
