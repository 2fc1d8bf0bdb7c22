import FlexRic.Ds.Bimap
import FlexRic.E2ap.Ids

/-!
# FlexRic.XApp.Tables

Two tables of an xApp: the active procedures (`act_proc.c`), which give out
the xApp's request ids, and the timers of its requests
(`pending_event_xapp.c`).

The tree of the timers that is searched by request is ordered by
`cmp_pending_event`, which reads the kind of the request and nothing else.

* `rmPendingEventEv_spec`: what the removal of a timer removes;
* `rmPendingEventEv_exact_iff`: when it removes the timer of a given request,
  however the tree is balanced.
-/

namespace FlexRic

/-! ## Active procedures -/

/-- `act_proc_val_e`. -/
inductive ActProcType where
  | ricSubscriptionProcedureActive
  | ricControlProcedureActive
  deriving DecidableEq, Repr

/-- `act_proc_val_t` without the callback. -/
structure ActProcVal where
  type : ActProcType
  id : RicGenId
  e2Node : GlobalE2NodeId
  deriving DecidableEq

/-- `act_proc_t` without its mutex: a registry with its next key. -/
structure ActProc where
  reg : List (UInt32 × ActProcVal)
  keyId : UInt32
  deriving DecidableEq

namespace ActProc

/-- `init_act_proc`. -/
def init : ActProc := ⟨[], 1⟩

/-- `add_act_proc`. -/
def addActProc (p : ActProc) (type : ActProcType) (id : RicGenId) (e2Node : GlobalE2NodeId) :
    UInt32 × ActProc :=
  (p.keyId, ⟨p.reg ++ [(p.keyId, ⟨type, id, e2Node⟩)], p.keyId + 1⟩)

/-- `find_reg`. -/
def findReg (p : ActProc) (key : UInt32) : Outcome (Option (UInt32 × ActProcVal)) := do
  .assert (decide (0 < key)) "Reserved value"
  return p.reg.find? fun b => b.1 == key

/-- The id kept for the key is completed by the key itself. -/
def complete (key : UInt32) (b : UInt32 × ActProcVal) : UInt32 × ActProcVal :=
  if b.1 == key then (b.1, { b.2 with id.ricReqId := key }) else b

/-- `find_act_proc`: the answer and the registry, to which it writes. -/
def findActProc (p : ActProc) (ricReqId : UInt16) : Outcome (Option ActProcVal × ActProc) := do
  match ← p.findReg ricReqId.toUInt32 with
  | none => return (none, p)
  | some b =>
    return (some (complete ricReqId.toUInt32 b).2,
      { p with reg := p.reg.map (complete ricReqId.toUInt32) })

/-- `rm_act_proc`. -/
def rmActProc (p : ActProc) (ricReqId : UInt16) : Outcome ActProc := do
  let _ ← .expect (← p.findReg ricReqId.toUInt32) "ric_req_id key value not found in the registry"
  return { p with reg := p.reg.filter fun b => b.1 != ricReqId.toUInt32 }

/-- The procedures that are active. -/
def keys (p : ActProc) : List UInt32 := p.reg.map Prod.fst

variable {p p' : ActProc} {key : UInt32} {ricReqId : UInt16}

/-- A key is found if it is there. -/
theorem findReg_isSome : (p.reg.find? fun b => b.1 == key).isSome ↔ key ∈ p.keys := by
  rw [List.find?_isSome, keys, List.mem_map]
  simp only [beq_iff_eq]

/-- A procedure is added under the next key. -/
@[simp] theorem keys_addActProc {type : ActProcType} {id : RicGenId} {e2Node : GlobalE2NodeId} :
    (p.addActProc type id e2Node).2.keys = p.keys ++ [p.keyId] := by
  simp [keys, addActProc]

theorem keys_complete : { p with reg := p.reg.map (complete key) }.keys = p.keys := by
  simp only [keys, List.map_map]
  refine List.map_congr_left fun b _ => ?_
  simp only [Function.comp_apply, complete]
  split <;> rfl

/-- Looking a procedure up keeps the registry's keys; an answer is there for
an active procedure only. -/
theorem findActProc_eq_next {ans : Option ActProcVal}
    (h : p.findActProc ricReqId = .next (ans, p')) :
    p'.keys = p.keys ∧ p'.keyId = p.keyId ∧ (ans.isSome ↔ ricReqId.toUInt32 ∈ p.keys) := by
  simp only [findActProc, findReg, Outcome.bind_eq_next, Outcome.pure_eq, Outcome.next_inj] at h
  obtain ⟨b, ⟨⟨⟩, -, hb⟩, h⟩ := h
  rw [← findReg_isSome, hb]
  cases b with
  | none =>
    cases h
    exact ⟨rfl, rfl, Iff.rfl⟩
  | some b =>
    cases h
    exact ⟨keys_complete, rfl, iff_of_true rfl rfl⟩

/-- The id of a procedure that is found is the one it was looked up by. -/
theorem findActProc_id {val : ActProcVal} (h : p.findActProc ricReqId = .next (some val, p')) :
    val.id.ricReqId = ricReqId.toUInt32 := by
  simp only [findActProc, findReg, Outcome.bind_eq_next, Outcome.pure_eq, Outcome.next_inj] at h
  obtain ⟨b, ⟨⟨⟩, -, hb⟩, h⟩ := h
  cases b with
  | none => cases h
  | some b =>
    cases h
    rw [complete, if_pos (List.find?_some hb)]

/-- An active procedure is found. -/
theorem findActProc_of_mem (hpos : 0 < ricReqId.toUInt32) (h : ricReqId.toUInt32 ∈ p.keys) :
    ∃ val p', p.findActProc ricReqId = .next (some val, p') := by
  obtain ⟨b, hb⟩ := Option.isSome_iff_exists.mp (findReg_isSome.mpr h)
  refine ⟨(complete ricReqId.toUInt32 b).2, { p with reg := p.reg.map (complete ricReqId.toUInt32) }, ?_⟩
  simp [findActProc, findReg, hpos, hb, Outcome.assert]

/-- A procedure that is not active is not found. -/
theorem findActProc_of_not_mem (hpos : 0 < ricReqId.toUInt32) (h : ricReqId.toUInt32 ∉ p.keys) :
    p.findActProc ricReqId = .next (none, p) := by
  have hnone : (p.reg.find? fun b => b.1 == ricReqId.toUInt32) = none := by
    rw [← Option.not_isSome_iff_eq_none, findReg_isSome]
    exact h
  simp [findActProc, findReg, hpos, hnone, Outcome.assert]

/-- A procedure is removed by its number. -/
theorem rmActProc_eq_next (h : p.rmActProc ricReqId = .next p') :
    p'.keyId = p.keyId ∧ ∀ k, k ∈ p'.keys ↔ k ∈ p.keys ∧ k ≠ ricReqId.toUInt32 := by
  simp only [rmActProc, Outcome.bind_eq_next, Outcome.pure_eq, Outcome.next_inj] at h
  obtain ⟨-, -, -, -, rfl⟩ := h
  refine ⟨rfl, fun k => ?_⟩
  simp only [keys, List.mem_map, List.mem_filter, bne_iff_ne, ne_eq]
  constructor
  · rintro ⟨b, ⟨hb, hne⟩, rfl⟩
    exact ⟨⟨b, hb, rfl⟩, hne⟩
  · rintro ⟨⟨b, hb, rfl⟩, hne⟩
    exact ⟨b, ⟨hb, hne⟩, rfl⟩

/-- `p'` is `p`, or `p` with a procedure under its next key, which is one
`generate_ric_gen_id` accepts. -/
def Extends (p p' : ActProc) : Prop :=
  p'.keyId = p.keyId ∧ p'.keys = p.keys ∨
    p.keyId < 65536 ∧ p'.keyId = p.keyId + 1 ∧ p'.keys = p.keys ++ [p.keyId]

/-- What every run keeps: no key is the reserved one, and each can be read
back from 16 bits. -/
structure Ok (p : ActProc) : Prop where
  keys : ∀ k ∈ p.keys, 0 < k ∧ k < 65536
  next : 0 < p.keyId

/-- **At the start** nothing is registered. -/
theorem Ok.init : Ok ActProc.init :=
  ⟨fun _ hk => absurd hk List.not_mem_nil, by decide⟩

/-- Fewer keys keep the table. -/
theorem Ok.mono (h : Ok p) (hkeys : p'.keys ⊆ p.keys) (hid : p'.keyId = p.keyId) : Ok p' :=
  ⟨fun k hk => h.keys k (hkeys hk), hid ▸ h.next⟩

/-- New keys keep the table. -/
theorem Ok.extends (h : Ok p) (he : Extends p p') : Ok p' := by
  obtain ⟨hid, hkeys⟩ | ⟨hlt, hid, hkeys⟩ := he
  · exact ⟨hkeys ▸ h.keys, hid ▸ h.next⟩
  · refine ⟨fun k hk => ?_, ?_⟩
    · rw [hkeys] at hk
      obtain hk | hk := List.mem_append.mp hk
      · exact h.keys k hk
      · rw [List.mem_singleton.mp hk]
        exact ⟨h.next, hlt⟩
    · rw [hid, UInt32.lt_iff_toNat_lt, UInt32.toNat_add]
      rw [UInt32.lt_iff_toNat_lt] at hlt
      simp only [UInt32.toNat_ofNat] at *
      omega

end ActProc

/-! ## Timers -/

/-- `pending_event_xapp_t`. -/
structure PendingEventXapp where
  ev : PendingEvent
  id : RicGenId
  waitMs : Nat
  deriving DecidableEq, Repr

/-- `cmp_pending_event` on the members of the right tree: it reads the first
field. -/
def cmpPendingEventXapp : Cmp PendingEventXapp := fun a b => cmpPendingEvent a.ev b.ev

/-- Pending events are ordered by kind. -/
theorem lawful_cmpPendingEventXapp : LawfulCmp cmpPendingEventXapp :=
  lawful_cmpPendingEvent.comap _

/-- Pending events compare as 0 exactly when they are of one kind. -/
@[simp] theorem cmpPendingEventXapp_eq_zero {a b : PendingEventXapp} :
    cmpPendingEventXapp a b = 0 ↔ a.ev = b.ev :=
  cmpPendingEvent_eq_zero

/-- `pending_event_xapp_ds_t` without its mutex. -/
abbrev PendingEventXappDs := Bimap Fd PendingEventXapp

namespace PendingEventXappDs

/-- `add_pending_event`. -/
def addPendingEvent (p : PendingEventXappDs) (fd : Fd) (ev : PendingEventXapp) :
    Outcome PendingEventXappDs := do
  .assert (decide (0 < fd)) "fd > 0"
  Bimap.insert cmpFd cmpPendingEventXapp p fd ev

/-- `rm_pending_event_ev`. -/
def rmPendingEventEv (p : PendingEventXappDs) (ev : PendingEventXapp) (picks : Picks) :
    Outcome (Fd × PendingEventXappDs) := do
  .assert (p.left.length == p.right.length) "Mismatch in the ds"
  let (fd, p') ← Bimap.extractRight cmpFd cmpPendingEventXapp p ev picks
  .assert (p'.left.length == p'.right.length) "Mismatch in the ds"
  .assert (p.left.length == p'.left.length + 1) "sz == bi_map_size(&p->pending) + 1"
  .assert (decide (0 < fd)) "fd != NULL && *fd > 0"
  return (fd, p')

/-- The lookup of a timer's file descriptor in `pend_event`. -/
def findEvent (p : PendingEventXappDs) (fd : Fd) : Outcome PendingEventXapp := do
  let e ← .expect (OrdAssoc.findIf (eqFd fd) p.left) "it != end"
  return e.2

/-- What every run keeps: mirrored trees, each timer once. -/
structure Ok (p : PendingEventXappDs) : Prop where
  pos : ∀ e ∈ p.left, 0 < e.1
  mirror : Bimap.Mirror p.left p.right
  fds : OrdAssoc.Distinct cmpFd p.left

variable {p p' : PendingEventXappDs} {fd : Fd} {ev ev' : PendingEventXapp} {picks : Picks}

theorem Ok.empty : Ok Bimap.empty :=
  ⟨fun _ he => absurd he List.not_mem_nil, .nil, .nil⟩

/-- A timer has a descriptor above 0. -/
theorem addPendingEvent_eq_next (h : p.addPendingEvent fd ev = .next p') :
    0 < fd ∧ p' = Bimap.inserted cmpFd cmpPendingEventXapp p fd ev := by
  simp only [addPendingEvent, Bimap.insert_eq lawful_cmpFd lawful_cmpPendingEventXapp,
    Outcome.bind_eq_next, Outcome.assert_eq_next, decide_eq_true_eq, Outcome.next_inj] at h
  obtain ⟨⟨⟩, hpos, rfl⟩ := h
  exact ⟨hpos, rfl⟩

/-- A new descriptor keeps the table. -/
theorem Ok.inserted (h : Ok p) (hpos : 0 < fd) (hnew : ∀ e ∈ p.left, e.1 ≠ fd) :
    Ok (Bimap.inserted cmpFd cmpPendingEventXapp p fd ev) := by
  refine ⟨fun e he => ?_, h.mirror.insert, ?_⟩
  · obtain rfl | he := Bimap.mem_inserted_left.mp he
    · exact hpos
    · exact h.pos e he
  · refine (OrdAssoc.distinct_insert lawful_cmpFd).mpr ⟨h.fds, fun e he hz => ?_⟩
    exact hnew e he (cmpFd_eq_zero.mp hz).symm

/-- The removal of a descriptor and its event keeps the table. -/
theorem Ok.removed (h : Ok p) (hr : Bimap.RemovedPair p fd ev p') : Ok p' :=
  ⟨fun e he => h.pos e (hr.sublist_first.subset he), hr.mirror h.mirror,
    h.fds.sublist hr.sublist_first⟩

/-- The removal takes out some timer of the same kind, from both trees. -/
theorem rmPendingEventEv_spec (hp : Ok p) (h : p.rmPendingEventEv ev picks = .next (fd, p')) :
    ∃ ev', ev'.ev = ev.ev ∧ Bimap.RemovedPair p fd ev' p' := by
  simp only [rmPendingEventEv, Outcome.bind_eq_next, Outcome.assert_eq_next, Outcome.pure_eq,
    Outcome.next_inj] at h
  obtain ⟨-, -, ⟨fd, q⟩, hx, -, -, -, -, -, -, heq⟩ := h
  cases heq
  obtain ⟨ev', hev, hr⟩ := Bimap.extractRight_spec lawful_cmpFd hp.mirror hp.fds hx
  exact ⟨ev', (cmpPendingEventXapp_eq_zero.mp hev).symm, hr⟩

/-- The removal of a pending event succeeds when there is one. -/
theorem rmPendingEventEv_succeeds (hp : Ok p) (picks : Picks)
    (h : ∃ e ∈ p.left, e.2.ev = ev.ev) :
    ∃ fd p', p.rmPendingEventEv ev picks = .next (fd, p') := by
  obtain ⟨e, he, hev⟩ := h
  have hkey : ∃ x ∈ p.right, cmpPendingEventXapp ev x.1 = 0 :=
    ⟨(e.2, e.1), hp.mirror.mem.mp he, cmpPendingEventXapp_eq_zero.mpr hev.symm⟩
  obtain ⟨fd, p', hx⟩ := Bimap.extractRight_succeeds picks lawful_cmpFd hp.mirror hp.fds hkey
  obtain ⟨ev', -, hr⟩ := Bimap.extractRight_spec lawful_cmpFd hp.mirror hp.fds hx
  have hlen := hp.mirror.length_eq
  have hlen' := (hp.removed hr).mirror.length_eq
  have hone := hr.perm_first.length_eq
  rw [List.length_cons] at hone
  have hpos : 0 < fd := hp.pos _ (hr.perm_first.mem_iff.mpr List.mem_cons_self)
  exact ⟨fd, p', by simp [rmPendingEventEv, hx, hlen, hlen', hone, hpos, Outcome.assert]⟩

/-- The removal of a pending event ends the process when there is none. -/
theorem rmPendingEventEv_aborts (h : ∀ e ∈ p.right, e.1.ev ≠ ev.ev) :
    (p.rmPendingEventEv ev picks).Aborts := by
  have hx : (Bimap.extractRight cmpFd cmpPendingEventXapp p ev picks).Aborts :=
    Bimap.extractRight_aborts.mpr (Bimap.extractFrom_aborts_of_absent fun e he hz =>
      h e he (cmpPendingEventXapp_eq_zero.mp hz).symm)
  rw [rmPendingEventEv, Outcome.bind_aborts, Outcome.assert_aborts]
  cases hlen : p.left.length == p.right.length with
  | false => exact .inl rfl
  | true => exact .inr ⟨⟨⟩, rfl, Outcome.bind_aborts.mpr (.inl hx)⟩

/-- **The right timer.** However the trees are balanced, the removal for a
request takes out the timer `fd` registered for it, exactly when that timer is
pending and no other of the same kind is. -/
theorem rmPendingEventEv_exact_iff (hp : Ok p) (hev : ev'.ev = ev.ev) :
    (∀ picks, ∃ p', p.rmPendingEventEv ev picks = .next (fd, p') ∧
        Bimap.RemovedPair p fd ev' p') ↔
      (fd, ev') ∈ p.left ∧ ∀ e ∈ p.left, e.2.ev = ev.ev → e.1 = fd := by
  constructor
  · intro h
    obtain ⟨p', -, hr⟩ := h (0, 0)
    refine ⟨hr.perm_first.mem_iff.mpr List.mem_cons_self, fun e he hk => ?_⟩
    -- the tree may be balanced so that this timer is met first
    obtain ⟨pick, r, hpick⟩ := OrdAssoc.extract_picks (c := cmpPendingEventXapp) (k := ev)
      (hp.mirror.mem.mp he) (cmpPendingEventXapp_eq_zero.mpr hk.symm)
    obtain ⟨p', hrm, -⟩ := h (pick, 0)
    simp only [rmPendingEventEv, Outcome.bind_eq_next, Outcome.assert_eq_next, Outcome.pure_eq,
      Outcome.next_inj] at hrm
    obtain ⟨-, -, ⟨fd', q⟩, hx, -, -, -, -, -, -, heq⟩ := hrm
    cases heq
    exact (Bimap.extractRight_first hpick hx).symm
  · rintro ⟨hmem, honly⟩ picks
    obtain ⟨fd', p', hrm⟩ := rmPendingEventEv_succeeds hp picks ⟨_, hmem, hev⟩
    obtain ⟨ev'', hk, hr⟩ := rmPendingEventEv_spec hp hrm
    have hmem' := hr.perm_first.mem_iff.mpr List.mem_cons_self
    have hfd : fd' = fd := honly _ hmem' hk
    subst hfd
    have hsame := hp.fds.eq_of_mem lawful_cmpFd hmem hmem' (cmpFd_eq_zero.mpr rfl)
    cases hsame
    exact ⟨p', hrm, hr⟩

end PendingEventXappDs

end FlexRic
