import FlexRic.Lib.Copies
import FlexRic.Sm.TcTypes

/-!
# FlexRic.Sm.TcCopies

Copies of the indication message of the TC service model, and the comparison
that ends them (`sm/tc_sm/ie/tc_data_ie.c`).

`near` is what `eq_float` computes of floats that are not `==`.
-/

namespace FlexRic

namespace Tc

open Plain

/-! ## Comparisons -/

section Comparisons

variable (near : FloatBits → FloatBits → Float → Bool)

/-- `eq_float` (`util/alg_ds/alg/eq_float.c`). -/
def eqFloat (a b : FloatBits) (eps : Float) : Access Bool := do
  Access.assert (!a.isNaN) "isnan(a) == false"
  Access.assert (!b.isNaN) "isnan(b) == false"
  return a.eq b || near a b eps

/-- `eq_tc_sch`, with `eq_tc_sch_rr` and `eq_tc_sch_prio`. -/
def eqTcSch : TcSch → TcSch → Bool
  | .rr _, .rr _ => true
  | .prio m0, .prio m1 => m0.items = m1.items
  | _, _ => false

/-- `eq_tc_mtr`. -/
def eqTcMtr (m0 m1 : TcMtr) : Access Bool :=
  if m0.timeWindowMs ≠ m1.timeWindowMs then
    .done false
  else
    eqFloat near m0.bnd m1.bnd 0.01

/-- `eq_tc_pcr`. -/
def eqTcPcr (m0 m1 : TcPcr) : Access Bool :=
  if m0.type ≠ m1.type then
    .done false
  else if m0.id ≠ m1.id then
    .done false
  else
    eqTcMtr near m0.mtr m1.mtr

/-- `eq_tc_cls_osi_filter`, with `eq_L3_filter` and `eq_L4_filter`. -/
def eqTcClsOsiFilter (m0 m1 : TcClsOsiFilter) : Bool :=
  m0.id = m1.id && m0.l3 = m1.l3 && m0.l4 = m1.l4 && m0.dstQueue = m1.dstQueue

/-- `eq_tc_cls`, with `eq_tc_cls_osi`. -/
def eqTcCls : TcCls → TcCls → Access Bool
  | .rr m0, .rr m1 => .done (m0 = m1)
  | .osi m0, .osi m1 =>
    if m0.len ≠ m1.len then
      .done false
    else
      eqEach (fun m0 m1 => .done (eqTcClsOsiFilter m0 m1)) m0.items m1.items
  | .sto m0, .sto m1 => .done (m0 = m1)
  | _, _ => .done false

/-- `eq_tc_shp`. -/
def eqTcShp (m0 m1 : TcShp) : Access Bool :=
  if m0.id ≠ m1.id then
    .done false
  else if m0.active ≠ m1.active then
    .done false
  else
    eqTcMtr near m0.mtr m1.mtr

/-- `eq_tc_plc`, with `eq_tc_drp` and `eq_tc_mrk`. -/
def eqTcPlc (m0 m1 : TcPlc) : Access Bool :=
  if m0.id ≠ m1.id then
    .done false
  else do
    if ← eqTcMtr near m0.mtr m1.mtr then
      if m0.drp ≠ m1.drp then
        return false
      else if m0.mrk ≠ m1.mrk then
        return false
      else if ← eqFloat near m0.maxRateKbps m1.maxRateKbps 0.01 then
        return m0.active = m1.active && m0.dstId = m1.dstId && m0.devId = m1.devId
      else
        return false
    else
      return false

/-- `eq_tc_queue_fifo`, `eq_tc_queue_codel` and `eq_tc_queue_ecn_codel`. -/
def eqTcQueueStats {α : Type} [DecidableEq α] (m0 m1 : TcQueueStats α) : Access Bool :=
  if m0.cnt ≠ m1.cnt then
    .done false
  else do
    if ← eqFloat near m0.avgSojournTime m1.avgSojournTime 0.001 then
      return m0.bytes = m1.bytes && m0.pkts = m1.pkts && m0.bytesFwd = m1.bytesFwd &&
        m0.pktsFwd = m1.pktsFwd
    else
      return false

/-- `eq_tc_q`. -/
def eqTcQ (m0 m1 : TcQueue) : Access Bool :=
  match m0.u, m1.u with
  | .fifo m0, .fifo m1 => eqTcQueueStats near m0 m1
  | .codel m0, .codel m1 => eqTcQueueStats near m0 m1
  | .ecn m0, .ecn m1 => eqTcQueueStats near m0 m1
  | _, _ => .done false

/-- `shp[i]`, `plc[i]` and `q[i]` of `eq_tc_ind_msg`. -/
def eqTcRow (m0 m1 : TcRow) : Access Bool := do
  Access.assert (← eqTcShp near m0.shp m1.shp) "0 != 0"
  Access.assert (← eqTcPlc near m0.plc m1.plc) "0 != 0"
  Access.assert (← eqTcQ near m0.q m1.q) "0 != 0"
  return true

/-- `eq_tc_ind_msg`. -/
def eqTcIndMsg (m0 m1 : TcIndMsg) : Access Bool := do
  Access.assert (m0.tstamp = m1.tstamp) "0 != 0"
  Access.assert (eqTcSch m0.sch m1.sch) "0 != 0"
  Access.assert (← eqTcPcr near m0.pcr m1.pcr) "0 != 0"
  Access.assert (← eqTcCls m0.cls m1.cls) "0 != 0"
  Access.assert (m0.rows.len = m1.rows.len) "0 != 0"
  eqEach (eqTcRow near) m0.rows.items m1.rows.items

end Comparisons

/-! ## Copies -/

/-- `cp_tc_sch`, with `cp_tc_sch_rr` and `cp_tc_sch_prio`. -/
def cpTcSch : TcSch → TcSch
  | .rr dummy => .rr dummy
  | .prio qPrio => .prio qPrio

/-- `cp_tc_mtr`. -/
def cpTcMtr (src : TcMtr) : TcMtr := { bnd := src.bnd, timeWindowMs := src.timeWindowMs }

/-- `cp_tc_pcr`. -/
def cpTcPcr (src : TcPcr) : TcPcr := { type := src.type, id := src.id, mtr := cpTcMtr src.mtr }

/-- `cp_tc_cls_osi_filter`, with `cp_L3_filter` and `cp_L4_filter`; the line of `l7` is a
comment. -/
def cpTcClsOsiFilter (src : TcClsOsiFilter) : TcClsOsiFilter where
  id := src.id
  dstQueue := src.dstQueue
  l3 := { srcAddr := src.l3.srcAddr, dstAddr := src.l3.dstAddr }
  l4 := { srcPort := src.l4.srcPort, dstPort := src.l4.dstPort, protocol := src.l4.protocol }
  l7 := 0

/-- `cp_tc_cls`, with `cp_tc_cls_osi`. -/
def cpTcCls : TcCls → TcCls
  | .rr dummy => .rr dummy
  | .osi flt => .osi (flt.map cpTcClsOsiFilter)
  | .sto dummy => .sto dummy

/-- What `cp_tc_queue` copies of each kind of queue. -/
def cpTcQueueStats {α : Type} (src : TcQueueStats α) : TcQueueStats α where
  bytes := src.bytes
  pkts := src.pkts
  bytesFwd := src.bytesFwd
  pktsFwd := src.pktsFwd
  avgSojournTime := src.avgSojournTime
  cnt := src.cnt
  lastSojournTime := 0

/-- `cp_tc_queue`, with `cp_tc_drp` and `cp_tc_mrk`; the `id` is not copied. -/
def cpTcQueue (src : TcQueue) : TcQueue where
  id := 0
  u := match src.u with
    | .fifo q => .fifo (cpTcQueueStats q)
    | .codel q => .codel (cpTcQueueStats q)
    | .ecn q => .ecn (cpTcQueueStats q)

/-- `cp_tc_shp`. -/
def cpTcShp (src : TcShp) : Access TcShp := do
  Access.assert (src.active = 0 || src.active = 1) "src->active == 0 || src->active == 1"
  return { mtr := cpTcMtr src.mtr, id := src.id, active := src.active, maxRateKbps := 0 }

/-- `cp_tc_plc`. -/
def cpTcPlc (src : TcPlc) : Access TcPlc := do
  Access.assert (src.active = 0 || src.active = 1) "src->active == 0 || src->active == 1"
  return { id := src.id, mtr := cpTcMtr src.mtr, drp := src.drp, mrk := src.mrk,
           maxRateKbps := src.maxRateKbps, active := src.active, dstId := src.dstId,
           devId := src.devId }

/-- An iteration of `cp_tc_shp_q_plc`. -/
def cpTcRow (src : TcRow) : Access TcRow := do
  let shp ← cpTcShp src.shp
  let plc ← cpTcPlc src.plc
  return { q := cpTcQueue src.q, shp, plc }

/-- `cp_tc_ind_msg`. -/
def cpTcIndMsg (near : FloatBits → FloatBits → Float → Bool) (src : TcIndMsg) :
    Access TcIndMsg := do
  let rows ← src.rows.copyFrom cpTcRow
  let dst : TcIndMsg :=
    { sch := cpTcSch src.sch, pcr := cpTcPcr src.pcr, cls := cpTcCls src.cls, rows,
      tstamp := src.tstamp }
  Access.assert (← eqTcIndMsg near src dst) "eq_tc_ind_msg(src, &dst)"
  return dst

/-! ## What is copied -/

def TcQueueU.avgSojournTime : TcQueueU → FloatBits
  | fifo q => q.avgSojournTime
  | codel q => q.avgSojournTime
  | ecn q => q.avgSojournTime

def TcQueueU.lastSojournTime : TcQueueU → Int64
  | fifo q => q.lastSojournTime
  | codel q => q.lastSojournTime
  | ecn q => q.lastSojournTime

/-- The switches are on or off. -/
def TcRow.Switched (row : TcRow) : Prop :=
  (row.shp.active = 0 ∨ row.shp.active = 1) ∧ (row.plc.active = 0 ∨ row.plc.active = 1)

/-- The floats are numbers. -/
def TcRow.Numbers (row : TcRow) : Prop :=
  row.shp.mtr.bnd.isNaN = false ∧ row.plc.mtr.bnd.isNaN = false ∧
    row.plc.maxRateKbps.isNaN = false ∧ row.q.u.avgSojournTime.isNaN = false

/-- What is not copied is zero. -/
def TcRow.Kept (row : TcRow) : Prop :=
  row.shp.maxRateKbps = 0 ∧ row.q.id = 0 ∧ row.q.u.lastSojournTime = 0

/-- What is not copied of a classifier is zero. -/
def TcCls.Kept : TcCls → Prop
  | osi flt => ∀ f ∈ flt.items, f.l7 = 0
  | _ => True

/-- The message is accepted, and what is not copied of it is zero. -/
def TcIndMsg.Kept (msg : TcIndMsg) : Prop :=
  msg.pcr.mtr.bnd.isNaN = false ∧ msg.cls.Kept ∧
    ∀ row ∈ msg.rows.items, row.Switched ∧ row.Numbers ∧ row.Kept

/-! ## What is compared -/

def TcMtr.Same (m0 m1 : TcMtr) : Prop := m0.timeWindowMs = m1.timeWindowMs ∧ m0.bnd.Same m1.bnd

def TcPcr.Same (m0 m1 : TcPcr) : Prop :=
  m0.type = m1.type ∧ m0.id = m1.id ∧ m0.mtr.Same m1.mtr

def TcCls.Compared : TcCls → TcCls → Prop
  | rr m0, rr m1 => m0 = m1
  | osi m0, osi m1 => List.Forall₂ (fun f0 f1 => eqTcClsOsiFilter f0 f1 = true) m0.items m1.items
  | sto m0, sto m1 => m0 = m1
  | _, _ => False

def TcShp.Compared (m0 m1 : TcShp) : Prop :=
  m0.id = m1.id ∧ m0.active = m1.active ∧ m0.mtr.Same m1.mtr

def TcPlc.Same (m0 m1 : TcPlc) : Prop :=
  m0.id = m1.id ∧ m0.mtr.Same m1.mtr ∧ m0.drp = m1.drp ∧ m0.mrk = m1.mrk ∧
    m0.maxRateKbps.Same m1.maxRateKbps ∧ m0.active = m1.active ∧ m0.dstId = m1.dstId ∧
    m0.devId = m1.devId

def TcQueueStats.Compared {α : Type} (m0 m1 : TcQueueStats α) : Prop :=
  m0.cnt = m1.cnt ∧ m0.avgSojournTime.Same m1.avgSojournTime ∧ m0.bytes = m1.bytes ∧
    m0.pkts = m1.pkts ∧ m0.bytesFwd = m1.bytesFwd ∧ m0.pktsFwd = m1.pktsFwd

def TcQueueU.Compared : TcQueueU → TcQueueU → Prop
  | fifo m0, fifo m1 => m0.Compared m1
  | codel m0, codel m1 => m0.Compared m1
  | ecn m0, ecn m1 => m0.Compared m1
  | _, _ => False

def TcRow.Compared (m0 m1 : TcRow) : Prop :=
  m0.shp.Compared m1.shp ∧ m0.plc.Same m1.plc ∧ m0.q.u.Compared m1.q.u

/-- What `eq_tc_ind_msg` looks at has the same values. -/
structure TcIndMsg.Compared (m0 m1 : TcIndMsg) : Prop where
  tstamp : m0.tstamp = m1.tstamp
  sch : eqTcSch m0.sch m1.sch = true
  pcr : m0.pcr.Same m1.pcr
  cls : m0.cls.Compared m1.cls
  rows : List.Forall₂ TcRow.Compared m0.rows.items m1.rows.items

/-! ## Proofs: comparisons -/

section

variable (near : FloatBits → FloatBits → Float → Bool)

/-- Two floats of one value pass where they are numbers. -/
theorem guards_eqFloat {a b : FloatBits} (eps : Float) (h : a.Same b) :
    Guards (eqFloat near a b eps) (a.isNaN = false) true := by
  unfold eqFloat
  rw [← h.isNaN_eq, ← Bool.not_eq_true']
  refine (guards_assert _ _).last fun hnum => ?_
  rw [Bool.not_eq_true'] at hnum
  rw [hnum, h.eq hnum, Bool.true_or]
  rfl

/-- A meter passes its comparison where its band is a number. -/
theorem guards_eqTcMtr {m0 m1 : TcMtr} (h : m0.Same m1) :
    Guards (eqTcMtr near m0 m1) (m0.bnd.isNaN = false) true := by
  unfold eqTcMtr
  exact guards_passed h.1 (guards_eqFloat near 0.01 h.2)

/-- A pacer passes its comparison where its band is a number. -/
theorem guards_eqTcPcr {m0 m1 : TcPcr} (h : m0.Same m1) :
    Guards (eqTcPcr near m0 m1) (m0.mtr.bnd.isNaN = false) true := by
  unfold eqTcPcr
  exact guards_passed h.1 (guards_passed h.2.1 (guards_eqTcMtr near h.2.2))

/-- Classifiers have no floats. -/
theorem TcCls.Compared.eqTcCls {m0 m1 : TcCls} (h : m0.Compared m1) :
    eqTcCls m0 m1 = .done true := by
  cases m0 <;> cases m1
  case rr.rr => exact congrArg Access.done (decide_eq_true h)
  case osi.osi m0 m1 =>
    have hlen : m0.len = m1.len := congrArg Nat.toUInt32 (List.Forall₂.length_eq h)
    show (if m0.len ≠ m1.len then _ else _) = _
    rw [if_neg (not_not_intro hlen)]
    refine (Arr.guards_eqEach₂ (P := fun _ => True) (fun f0 f1 hf => ?_) h).1 fun _ _ => trivial
    rw [hf]
    exact guards_done true
  case sto.sto => exact congrArg Access.done (decide_eq_true h)
  all_goals exact h.elim

/-- The maximum rate of a shaper is not compared. -/
theorem guards_eqTcShp {m0 m1 : TcShp} (h : m0.Compared m1) :
    Guards (eqTcShp near m0 m1) (m0.mtr.bnd.isNaN = false) true := by
  unfold eqTcShp
  exact guards_passed h.1 (guards_passed h.2.1 (guards_eqTcMtr near h.2.2))

/-- The maximum rate of a policer is compared, and has to be a number. -/
theorem guards_eqTcPlc {m0 m1 : TcPlc} (h : m0.Same m1) :
    Guards (eqTcPlc near m0 m1)
      (m0.mtr.bnd.isNaN = false ∧ m0.maxRateKbps.isNaN = false) true := by
  obtain ⟨hid, hmtr, hdrp, hmrk, hmax, hactive, hdst, hdev⟩ := h
  unfold eqTcPlc
  refine guards_passed hid ((guards_eqTcMtr near hmtr).bind fun _ => ?_)
  rw [if_pos rfl, if_neg (not_not_intro hdrp), if_neg (not_not_intro hmrk)]
  refine (guards_eqFloat near 0.01 hmax).last fun _ => ?_
  simp [hactive, hdst, hdev]

/-- Of a queue the average sojourn time has to be a number; the last one is not compared. -/
theorem guards_eqTcQueueStats {α : Type} [DecidableEq α] {m0 m1 : TcQueueStats α}
    (h : m0.Compared m1) :
    Guards (eqTcQueueStats near m0 m1) (m0.avgSojournTime.isNaN = false) true := by
  obtain ⟨hcnt, havg, hbytes, hpkts, hbytesFwd, hpktsFwd⟩ := h
  unfold eqTcQueueStats
  refine guards_passed hcnt ((guards_eqFloat near 0.001 havg).last fun _ => ?_)
  simp [hbytes, hpkts, hbytesFwd, hpktsFwd]

/-- The id of a queue is not compared. -/
theorem guards_eqTcQ {m0 m1 : TcQueue} (h : m0.u.Compared m1.u) :
    Guards (eqTcQ near m0 m1) (m0.u.avgSojournTime.isNaN = false) true := by
  obtain ⟨id0, u0⟩ := m0
  obtain ⟨id1, u1⟩ := m1
  cases u0 <;> cases u1
  case fifo.fifo => exact guards_eqTcQueueStats near h
  case codel.codel => exact guards_eqTcQueueStats near h
  case ecn.ecn => exact guards_eqTcQueueStats near h
  all_goals exact h.elim

/-- **A row passes** where all of its floats are numbers. -/
theorem guards_eqTcRow {m0 m1 : TcRow} (h : m0.Compared m1) :
    Guards (eqTcRow near m0 m1) m0.Numbers true := by
  have hassert {x : Access Bool} {P : Prop} {y : Access Bool} {Q : Prop}
      (h : Guards x P true) (h' : Guards y Q true) :
      Guards (x >>= fun b => Access.assert b "0 != 0" >>= fun _ => y) (P ∧ Q) true :=
    h.bind fun _ => h'
  refine (hassert (guards_eqTcShp near h.1) (hassert (guards_eqTcPlc near h.2.1)
    (hassert (guards_eqTcQ near h.2.2) (guards_done true)))).iff ?_
  unfold TcRow.Numbers
  rw [and_true, and_assoc]

/-- **Messages that are the same where they are compared** are found equal if their floats are
numbers. -/
theorem guards_eqTcIndMsg {m0 m1 : TcIndMsg} (h : m0.Compared m1) :
    Guards (eqTcIndMsg near m0 m1)
      (m0.pcr.mtr.bnd.isNaN = false ∧ ∀ row ∈ m0.rows.items, row.Numbers) true := by
  have hstamp : Access.assert (m0.tstamp = m1.tstamp) "0 != 0" = .done () :=
    if_pos (decide_eq_true h.tstamp)
  have hsch : Access.assert (eqTcSch m0.sch m1.sch) "0 != 0" = .done () := if_pos h.sch
  have hlen : m0.rows.len = m1.rows.len := congrArg Nat.toUInt32 h.rows.length_eq
  have hrows : Access.assert (m0.rows.len = m1.rows.len) "0 != 0" = .done () :=
    if_pos (decide_eq_true hlen)
  unfold eqTcIndMsg
  rw [Access.bind_of_done hstamp, Access.bind_of_done hsch]
  refine (guards_eqTcPcr near h.pcr).bind fun _ => ?_
  rw [Access.bind_of_done (Access.assert_true _), Access.bind_of_done h.cls.eqTcCls,
    Access.bind_of_done (Access.assert_true _), Access.bind_of_done hrows]
  exact Arr.guards_eqEach₂ (R := TcRow.Compared) (fun _ _ => guards_eqTcRow near) h.rows

/-! ## Proofs: comparisons with a copy -/

/-- The shaper that is made of one. -/
def TcShp.copied (shp : TcShp) : TcShp := { shp with maxRateKbps := 0 }

/-- The row that is made of one. -/
def TcRow.copied (row : TcRow) : TcRow :=
  { shp := row.shp.copied, plc := row.plc, q := cpTcQueue row.q }

/-- The message that is made of one. -/
def TcIndMsg.copied (msg : TcIndMsg) : TcIndMsg where
  sch := cpTcSch msg.sch
  pcr := cpTcPcr msg.pcr
  cls := cpTcCls msg.cls
  rows := msg.rows.map TcRow.copied
  tstamp := msg.tstamp

/-- A meter has the values of itself. -/
theorem TcMtr.same_self (m : TcMtr) : m.Same m := ⟨rfl, FloatBits.same_self _⟩

/-- A copied classifier agrees with its source in what is compared. -/
theorem TcCls.compared_copy (cls : TcCls) : cls.Compared (cpTcCls cls) := by
  cases cls with
  | rr dummy => exact rfl
  | osi flt =>
    show List.Forall₂ _ flt.items (flt.items.map cpTcClsOsiFilter)
    rw [List.forall₂_map_right_iff, List.forall₂_same]
    intro f _
    simp [eqTcClsOsiFilter, cpTcClsOsiFilter]
  | sto dummy => exact rfl

/-- A copied queue agrees with its source in what is compared. -/
theorem TcQueue.compared_copy (q : TcQueue) : q.u.Compared (cpTcQueue q).u := by
  obtain ⟨id, u⟩ := q
  have hself {α : Type} (q : TcQueueStats α) : q.Compared (cpTcQueueStats q) :=
    ⟨rfl, FloatBits.same_self _, rfl, rfl, rfl, rfl⟩
  cases u with
  | fifo q => exact hself q
  | codel q => exact hself q
  | ecn q => exact hself q

/-- A copied row agrees with its source in what is compared. -/
theorem TcRow.compared_copy (row : TcRow) : row.Compared row.copied :=
  ⟨⟨rfl, rfl, row.shp.mtr.same_self⟩, ⟨rfl, row.plc.mtr.same_self, rfl, rfl, FloatBits.same_self _,
    rfl, rfl, rfl⟩, row.q.compared_copy⟩

/-- **A message is the same as its copy** where they are compared. -/
theorem TcIndMsg.compared_copy (msg : TcIndMsg) : msg.Compared msg.copied where
  tstamp := rfl
  sch := by
    show eqTcSch msg.sch (cpTcSch msg.sch) = true
    cases msg.sch with
    | rr dummy => rfl
    | prio qPrio => exact decide_eq_true rfl
  pcr := ⟨rfl, rfl, msg.pcr.mtr.same_self⟩
  cls := msg.cls.compared_copy
  rows := by
    show List.Forall₂ _ msg.rows.items (msg.rows.items.map TcRow.copied)
    rw [List.forall₂_map_right_iff, List.forall₂_same]
    exact fun row _ => row.compared_copy

/-! ## Proofs: copies -/

/-- `active` is asserted to be a truth value. -/
theorem guards_active (active : UInt32) :
    Guards (Access.assert (active = 0 || active = 1) "src->active == 0 || src->active == 1")
      (active = 0 ∨ active = 1) () := by
  refine (guards_assert _ _).iff ?_
  rw [Bool.or_eq_true, decide_eq_true_eq, decide_eq_true_eq]

/-- **A row is copied** where its shaper and its policer are on or off. -/
theorem guards_cpTcRow (row : TcRow) : Guards (cpTcRow row) row.Switched row.copied := by
  have hshp : Guards (cpTcShp row.shp) _ row.shp.copied :=
    (guards_active row.shp.active).last fun _ => rfl
  have hplc : Guards (cpTcPlc row.plc) _ row.plc :=
    (guards_active row.plc.active).last fun _ => rfl
  exact hshp.bind fun _ => hplc.last fun _ => rfl

/-- **What a TC message becomes**, if the switches are on or off and the floats are numbers. -/
theorem guards_cpTcIndMsg (msg : TcIndMsg) :
    Guards (cpTcIndMsg near msg)
      ((∀ row ∈ msg.rows.items, row.Switched) ∧
        msg.pcr.mtr.bnd.isNaN = false ∧ ∀ row ∈ msg.rows.items, row.Numbers) msg.copied := by
  refine (Arr.guards_copyFrom guards_cpTcRow msg.rows).bind fun _ => ?_
  exact (guards_eqTcIndMsg near msg.compared_copy).last fun _ => rfl

/-- The L7 filter is not copied. -/
theorem cpTcClsOsiFilter_eq_self_iff (f : TcClsOsiFilter) :
    cpTcClsOsiFilter f = f ↔ f.l7 = 0 := by
  cases f
  simp [cpTcClsOsiFilter, eq_comm]

/-- A classifier is kept where it has no L7 filter. -/
theorem cpTcCls_eq_self_iff (cls : TcCls) : cpTcCls cls = cls ↔ cls.Kept := by
  cases cls with
  | rr dummy => exact iff_of_true rfl trivial
  | osi flt =>
    show TcCls.osi (flt.map cpTcClsOsiFilter) = .osi flt ↔ ∀ f ∈ flt.items, f.l7 = 0
    rw [TcCls.osi.injEq, Arr.map_eq_self]
    exact forall₂_congr fun f _ => cpTcClsOsiFilter_eq_self_iff f
  | sto dummy => exact iff_of_true rfl trivial

/-- The last sojourn time of a queue is not copied. -/
theorem cpTcQueueStats_eq_self_iff {α : Type} (q : TcQueueStats α) :
    cpTcQueueStats q = q ↔ q.lastSojournTime = 0 := by
  cases q
  simp [cpTcQueueStats, eq_comm]

/-- Neither the id nor the last sojourn time of a queue is copied. -/
theorem cpTcQueue_eq_self_iff (q : TcQueue) :
    cpTcQueue q = q ↔ q.id = 0 ∧ q.u.lastSojournTime = 0 := by
  obtain ⟨id, u⟩ := q
  have hid : (0 : UInt32) = id ↔ id = 0 := eq_comm
  cases u <;>
    simp [cpTcQueue, TcQueueU.lastSojournTime, cpTcQueueStats_eq_self_iff, hid]

/-- **A row is kept where what is not copied is zero.** -/
theorem TcRow.copied_eq_self_iff (row : TcRow) : row.copied = row ↔ row.Kept := by
  have hshp : row.shp.copied = row.shp ↔ row.shp.maxRateKbps = 0 := by
    obtain ⟨id, active, maxRateKbps, mtr⟩ := row.shp
    simp [TcShp.copied, eq_comm]
  unfold TcRow.Kept
  rw [← cpTcQueue_eq_self_iff, ← hshp]
  cases row
  simp [TcRow.copied]

/-- **and an indication** where all of it is. -/
theorem TcIndMsg.copied_eq_self_iff (msg : TcIndMsg) :
    msg.copied = msg ↔ msg.cls.Kept ∧ ∀ row ∈ msg.rows.items, row.Kept := by
  have hsch : cpTcSch msg.sch = msg.sch := by cases msg.sch <;> rfl
  have hrows : msg.rows.map TcRow.copied = msg.rows ↔ ∀ row ∈ msg.rows.items, row.Kept := by
    rw [Arr.map_eq_self]
    exact forall₂_congr fun row _ => row.copied_eq_self_iff
  rw [← hrows, ← cpTcCls_eq_self_iff]
  cases msg
  simp [TcIndMsg.copied, hsch, cpTcPcr, cpTcMtr]

/-- **A TC message is copied** when it is accepted and what is left out is zero. -/
theorem cpTcIndMsg_iff (msg : TcIndMsg) : cpTcIndMsg near msg = .done msg ↔ msg.Kept := by
  rw [(guards_cpTcIndMsg near msg).eq_done_iff, msg.copied_eq_self_iff]
  unfold TcIndMsg.Kept
  constructor
  · rintro ⟨⟨hswitched, hpcr, hnumbers⟩, hcls, hkept⟩
    exact ⟨hpcr, hcls, fun row hrow => ⟨hswitched row hrow, hnumbers row hrow, hkept row hrow⟩⟩
  · rintro ⟨hpcr, hcls, hrows⟩
    exact ⟨⟨fun row hrow => (hrows row hrow).1, hpcr, fun row hrow => (hrows row hrow).2.1⟩,
      hcls, fun row hrow => (hrows row hrow).2.2⟩

end

end Tc

end FlexRic
