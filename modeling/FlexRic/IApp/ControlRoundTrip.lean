import FlexRic.IApp.Invariants

/-!
# FlexRic.IApp.ControlRoundTrip

What becomes of a control request of an xApp.

Its handler takes the write lock of `map_ric_id` and calls `add_map_ric_id`,
which takes it again.  Whatever the second lock does, the mapping is not
entered:

* `no_control_mapping`: no reachable map has a mapping of a control request;
* `Ok.ack_aborts`: so the acknowledge ends the process, unless a subscription
  happens to be mapped under the same request id;
* `deadlock_stays`: where the second lock waits, the iApp's thread and all
  handlers of answers wait for good;
* `control_round_trip`: no control request ever comes back the way it should.
-/

namespace FlexRic

namespace Sys

variable {relock : Relock} {s s' : Sys} {e : Event}

/-- What should become of the control request `w` acknowledges: it is mapped
to the xApp's own request `x`, the acknowledge is forwarded to the xApp under
its own id, and then that mapping is removed and no other. -/
structure RoundTrip (relock : Relock) (s : Sys) (k : Nat) (w : Worker) (x : XappRicId) : Prop where
  mapped : (⟨w.req.id, w.req.node, .control⟩, x) ∈ s.iapp.map.left
  acknowledged : ∃ s₁, step relock s (.notify k) = .next s₁ ∧
    s₁.hist.answers = s.hist.answers ++ [⟨w.req, .controlRequest, some x⟩] ∧
    ∀ picks, ∃ s₂, step relock s₁ (.remove k picks) = .next s₂ ∧
      Bimap.RemovedPair s₁.iapp.map ⟨w.req.id, w.req.node, .control⟩ x s₂.iapp.map

/-- Every mapping is that of a subscription. -/
theorem Ok.no_control_mapping (h : Ok s) : ∀ e ∈ s.iapp.map.left, e.1.ricReqType = .subscription := by
  intro e he
  obtain ⟨-, -, -, -, -, -, htype⟩ := h.left e he
  exact htype

/-- The end of the control handler, under either outcome of the second lock:
the thread goes on without the mapping, or never. -/
theorem iappAdd_eq {m : E42Request} {req : Req} (hpc : s.pc = .ctrlForwarded m req) (picks : Picks) :
    step relock s (.iappAdd picks) =
      match relock with
      | .edeadlk => .next { s with pc := .idle }
      | .deadlock => .blocked := by
  cases relock with
  | edeadlk => simp [step, iappAdd, hpc, MapRicId.addMapRicId]
  | deadlock => simp [step, iappAdd, hpc, MapRicId.addMapRicId]

/-- Where the second lock waits, the iApp's thread never gets further. -/
theorem deadlock_stays {m : E42Request} {req : Req} (hpc : s.pc = .ctrlForwarded m req)
    (hs : step .deadlock s e = .next s') : s'.pc = s.pc := by
  cases step_cases hs with
  | subscribed m timer newId req ricSys info idle address port forwarded =>
    rw [hpc] at idle
    contradiction
  | registered reallocOk m newId req registry at_ added =>
    rw [hpc] at at_
    contradiction
  | notRegistered reallocOk m newId req at_ =>
    rw [hpc] at at_
    contradiction
  | inserted m newId req at_ =>
    rw [hpc] at at_
    contradiction
  | deleteFound xappId ricId n idle found type =>
    rw [hpc] at idle
    contradiction
  | deleteForwarded timer xappId node id todo sent ricSys at_ forwarded =>
    rw [hpc] at at_
    contradiction
  | controlForwarded m timer req ricSys idle forwarded =>
    rw [hpc] at idle
    contradiction
  | controlAdded picks m req at_ refused => cases refused
  | disconnected info xappId idle known =>
    rw [hpc] at idle
    contradiction
  | indicated node ind sentTo parts iapp sent => rfl
  | ric | setup | ignored | answered | forwarded | removed => rfl

/-- While the write lock is held no handler of an answer gets at the map. -/
theorem notify_locked {k : Nat} (hl : s.pc.locked = true) :
    ¬ ∃ s', step relock s (.notify k) = .next s' := by
  rintro ⟨s', hs⟩
  cases step_cases hs with
  | answered k w sentTo ricSys worker unlocked handled done =>
    rw [hl] at unlocked
    contradiction
  | forwarded k w x ricSys worker unlocked ev found looked =>
    rw [hl] at unlocked
    contradiction

/-- **The acknowledge.** With no subscription under its request id, the
handler does not find a mapping and ends the process. -/
theorem ack_aborts (hr : RicSys.ReqsOk s.ricSys) {k : Nat} {w : Worker}
    (hw : s.ricSys.workers[k]? = some w) (hev : w.ev = .controlRequest) (hf : w.found = none)
    (hl : s.pc.locked = false)
    (hnone : ∀ e ∈ s.iapp.map.left, e.1.ricId.ricReqId ≠ w.req.id.ricReqId) :
    (step relock s (.notify k)).Aborts := by
  have hlive : w.req ∈ s.ricSys.live :=
    RicSys.mem_live_of_due (RicSys.mem_due_of_worker hw)
  have hid : w.req.id.ricReqId.toUInt16.toUInt32 = w.req.id.ricReqId :=
    toUInt32_toUInt16 (hr.fits _ hlive)
  have hx : s.iapp.map.findXappMapRicId w.req.id.ricReqId.toUInt16 = none := by
    rw [MapRicId.findXapp_eq_none, hid]
    exact hnone
  simp [step, notify, hw, hf, hl, hev, handleControlAck, hx, Outcome.awaitSome, Outcome.await,
    Outcome.expect]

/-- **No control round trip.** In every reachable state, whatever a second
lock of the map does: no mapping is that of a control request; a handler that
has sent a control request goes on without entering its mapping, or never
goes on; and an acknowledge to be handled does not make its round trip,
ending the process unless a subscription has its request id. -/
theorem control_round_trip (relock : Relock) (s : Sys) (h : (iappMachine relock).Reachable s) :
    (∀ e ∈ s.iapp.map.left, e.1.ricReqType = .subscription) ∧
    (∀ m req, s.pc = .ctrlForwarded m req →
      (relock = .edeadlk ∧ ∀ picks, step relock s (.iappAdd picks) = .next { s with pc := .idle }) ∨
      (relock = .deadlock ∧ (∀ k, ¬ ∃ s', step relock s (.notify k) = .next s') ∧
        ∀ e s', step relock s e = .next s' → s'.pc = s.pc)) ∧
    ∀ k w x, s.ricSys.workers[k]? = some w → w.ev = .controlRequest → w.req.origin = some x →
      ¬ RoundTrip relock s k w x ∧
      (w.found = none → s.pc.locked = false →
        (∀ e ∈ s.iapp.map.left, e.1.ricId.ricReqId ≠ w.req.id.ricReqId) →
        (step relock s (.notify k)).Aborts) := by
  refine ⟨(ok h).no_control_mapping, fun m req hpc => ?_, fun k w x hw hev ho => ⟨?_, ?_⟩⟩
  · cases relock with
    | edeadlk => exact .inl ⟨rfl, fun picks => iappAdd_eq hpc picks⟩
    | deadlock =>
      have hl : s.pc.locked = true := by rw [hpc]; rfl
      exact .inr ⟨rfl, fun k => notify_locked hl, fun e s' hs => deadlock_stays hpc hs⟩
  · intro hround
    have htype := (ok h).no_control_mapping _ hround.mapped
    contradiction
  · intro hf hl hnone
    exact ack_aborts (RicSys.reqsOk (ric_reachable h)) hw hev hf hl hnone

/-- The xApp 7 has sent a control request, its handler is done, and the gNB
has acknowledged it. -/
def controlRequested : List Event :=
  setUp ++ [.e42Control ⟨7, .gnb 1, ⟨1, 0, 142⟩⟩ (some 5), .iappAdd (0, 0), answer 0]

/-- The acknowledge of a single control request finds no mapping. -/
theorem control_no_round_trip :
    ¬ ∀ s, (iappMachine .edeadlk).Reachable s → ∀ k w x, s.ricSys.workers[k]? = some w →
      w.ev = .controlRequest → w.req.origin = some x → RoundTrip .edeadlk s k w x := by
  intro hclaim
  obtain ⟨s, hr, hs⟩ := Machine.Reachable.exists_of_run (M := iappMachine .edeadlk)
    controlRequested
    (fun s => s.iapp.map.left.isEmpty && s.ricSys.workers[0]?.any fun w =>
      w.ev == .controlRequest && w.req.origin == some ⟨⟨1, 0, 142⟩, 7⟩)
    (by decide)
  simp only [Bool.and_eq_true, List.isEmpty_iff, Option.any_eq_true, beq_iff_eq] at hs
  obtain ⟨hempty, w, hw, hev, ho⟩ := hs
  have hmapped := (hclaim s hr 0 w _ hw hev ho).mapped
  rw [hempty] at hmapped
  contradiction

/-- The process ends when that acknowledge is handled. -/
theorem control_ack_ends_process :
    ∃ s w, s.ricSys.workers[0]? = some w ∧ ¬ RoundTrip .edeadlk s 0 w ⟨⟨1, 0, 142⟩, 7⟩ ∧
      (step .edeadlk s (.notify 0)).Aborts := by
  obtain ⟨s, hr, hs⟩ := Machine.Reachable.exists_of_run (M := iappMachine .edeadlk)
    controlRequested
    (fun s => s.iapp.map.left.isEmpty && s.pc == .idle && s.ricSys.workers[0]?.any fun w =>
      w.ev == .controlRequest && w.req.origin == some ⟨⟨1, 0, 142⟩, 7⟩ && w.found.isNone)
    (by decide)
  simp only [Bool.and_eq_true, List.isEmpty_iff, Option.any_eq_true, beq_iff_eq,
    Option.isNone_iff_eq_none] at hs
  obtain ⟨⟨hempty, hpc⟩, w, hw, ⟨hev, ho⟩, hf⟩ := hs
  obtain ⟨hround, haborts⟩ := (control_round_trip .edeadlk s hr).2.2 0 w _ hw hev ho
  refine ⟨s, w, hw, hround, haborts hf (by rw [hpc]; rfl) ?_⟩
  rw [hempty]
  exact fun e he => absurd he List.not_mem_nil

end Sys

end FlexRic
