import FlexRic.Sm.TcTypes

/-!
# FlexRic.Sm.TcIndPlain

The plain encoder and decoder of TC indications
(`sm/tc_sm/enc/tc_enc_plain.c`, `sm/tc_sm/dec/tc_dec_plain.c`).

* `Cal`: the size that is allocated.
* `Enc`, `Dec`: what is written and read, in the order of the `memcpy` calls,
  with the assertions that the pointer still is inside the buffer.  A field that
  the decoder leaves alone is zero: the message is allocated so.
-/

namespace FlexRic

namespace Tc

open Plain

/-! ## Sizes -/

namespace Cal

def calSchPayload : TcSch → Nat
  | .rr _ => u32.size
  | .prio qPrio => u32.size + u32.size + u32.size * qPrio.items.length

def calMtrPayload (_ : TcMtr) : Nat := u32.size + u32.size

def calPcrPayload (pcr : TcPcr) : Nat := u32.size + u32.size + calMtrPayload pcr.mtr

def calClsPayload : TcCls → Nat
  | .rr _ => u32.size + u32.size
  | .osi flt => u32.size + (u32.size + tcClsOsiFilter.size * flt.items.length)
  | .sto _ => u32.size + u32.size

def calDrpPayload (_ : TcDrp) : Nat := u32.size

def calMrkPayload (_ : TcMrk) : Nat := u32.size

/-- A queue's counters, without its type. -/
def calQStats {α : Type} (cal : α → Nat) (q : TcQueueStats α) : Nat :=
  u32.size + u32.size + u32.size + u32.size + cal q.cnt + u32.size + i64.size

def calQPayload (q : TcQueue) : Nat :=
  match q.u with
  | .fifo q => u32.size + calQStats calDrpPayload q
  | .codel q => u32.size + calQStats calDrpPayload q
  | .ecn q => u32.size + calQStats calMrkPayload q

def calShpPayload (shp : TcShp) : Nat := u32.size + u32.size + u32.size + calMtrPayload shp.mtr

def calPlcPayload (plc : TcPlc) : Nat :=
  u32.size + calMtrPayload plc.mtr + calDrpPayload plc.drp + calMrkPayload plc.mrk + u32.size
    + u32.size + u32.size + u32.size

def calRow (row : TcRow) : Nat :=
  calQPayload row.q + calShpPayload row.shp + calPlcPayload row.plc

def calIndMsgPayload (indMsg : TcIndMsg) : Nat :=
  calSchPayload indMsg.sch + calPcrPayload indMsg.pcr + calClsPayload indMsg.cls + u32.size
    + (indMsg.rows.items.map calRow).sum + i64.size

end Cal

/-! ## Encoder -/

namespace Enc

/-- `tc_enc_sch`; nothing is written of a round robin scheduler. -/
def tcEncSch (sch : TcSch) : Writer := do
  u32.write sch.type
  match sch with
  | .rr _ => pure ()
  | .prio qPrio => do
    u32.write qPrio.len
    forEach u32.write qPrio.items

def tcEncMtr (mtr : TcMtr) : Writer := do
  u32.write mtr.bnd
  u32.write mtr.timeWindowMs

def tcEncPcr (pcr : TcPcr) : Writer := do
  u32.write pcr.type
  u32.write pcr.id
  tcEncMtr pcr.mtr

def tcEncClsRr (dummy : Dummy) : Writer := u32.write dummy

def tcEncClsOsi (flt : Arr TcClsOsiFilter) : Writer := do
  u32.write flt.len
  forEach tcClsOsiFilter.write flt.items

def tcEncClsSto (dummy : Dummy) : Writer := u32.write dummy

def tcEncCls (cls : TcCls) : Writer := do
  u32.write cls.type
  match cls with
  | .rr dummy => tcEncClsRr dummy
  | .osi flt => tcEncClsOsi flt
  | .sto dummy => tcEncClsSto dummy

def tcEncShp (shp : TcShp) : Writer := do
  u32.write shp.id
  u32.write shp.active
  u32.write shp.maxRateKbps
  tcEncMtr shp.mtr

def tcEncDrp (drp : TcDrp) : Writer := u32.write drp.droppedPkts

def tcEncMrk (mrk : TcMrk) : Writer := u32.write mrk.markedPkts

def tcEncPlc (plc : TcPlc) : Writer := do
  u32.write plc.id
  tcEncMtr plc.mtr
  tcEncDrp plc.drp
  tcEncMrk plc.mrk
  u32.write plc.maxRateKbps
  u32.write plc.active
  u32.write plc.dstId
  u32.write plc.devId

def tcEncQStats {α : Type} (enc : α → Writer) (q : TcQueueStats α) : Writer := do
  u32.write q.bytes
  u32.write q.pkts
  u32.write q.bytesFwd
  u32.write q.pktsFwd
  enc q.cnt
  u32.write q.avgSojournTime
  i64.write q.lastSojournTime

def tcEncQFifo (q : TcQueueStats TcDrp) : Writer := tcEncQStats tcEncDrp q

def tcEncQCodel (q : TcQueueStats TcDrp) : Writer := tcEncQStats tcEncDrp q

def tcEncQEcnCodel (q : TcQueueStats TcMrk) : Writer := tcEncQStats tcEncMrk q

/-- `tc_enc_q`; its id is not written. -/
def tcEncQ (q : TcQueue) : Writer := do
  u32.write q.u.type
  match q.u with
  | .fifo q => tcEncQFifo q
  | .codel q => tcEncQCodel q
  | .ecn q => tcEncQEcnCodel q

/-- The assertion behind each part. -/
def inside : Writer := room "iterator out of the chunk of memory"

def row (row : TcRow) : Writer := do
  tcEncShp row.shp
  inside
  tcEncPlc row.plc
  inside
  tcEncQ row.q
  inside

def indMsg (indMsg : TcIndMsg) : Writer := do
  tcEncSch indMsg.sch
  inside
  tcEncPcr indMsg.pcr
  inside
  tcEncCls indMsg.cls
  inside
  u32.write indMsg.rows.len
  inside
  forEach row indMsg.rows.items
  i64.write indMsg.tstamp

def tcEncIndMsgPlain (msg : TcIndMsg) : Access (List Octet) :=
  fill "Mismatch of data layout" (Cal.calIndMsgPayload msg) (indMsg msg)

end Enc

/-! ## Decoder -/

namespace Dec

def tcDecSch : Reader TcSch := do
  let type ← u32.read
  if type = 0 then
    return .rr 0
  else if type = 1 then
    let lenQPrio ← u32.read
    let qPrio ← Arr.read u32.read lenQPrio
    return .prio qPrio
  else
    Pass.refuse "Unknown scheduler type"

def tcDecMtr : Reader TcMtr := do
  let bnd ← u32.read
  let timeWindowMs ← u32.read
  return { timeWindowMs, bnd }

def tcDecPcr : Reader TcPcr := do
  let type ← u32.read
  let id ← u32.read
  let mtr ← tcDecMtr
  return { type, id, mtr }

def tcDecClsOsi : Reader (Arr TcClsOsiFilter) := do
  let len ← u32.read
  Arr.read tcClsOsiFilter.read len

def tcDecCls : Reader TcCls := do
  let type ← u32.read
  if type = 0 then
    let dummy ← u32.read
    return .rr dummy
  else if type = 1 then
    let flt ← tcDecClsOsi
    return .osi flt
  else if type = 2 then
    let dummy ← u32.read
    return .sto dummy
  else
    Pass.refuse "Unknown classifier type"

def tcDecShp : Reader TcShp := do
  let id ← u32.read
  let active ← u32.read
  let maxRateKbps ← u32.read
  let mtr ← tcDecMtr
  return { id, active, maxRateKbps, mtr }

def tcDecDrp : Reader TcDrp := do
  let droppedPkts ← u32.read
  return { droppedPkts }

def tcDecMrk : Reader TcMrk := do
  let markedPkts ← u32.read
  return { markedPkts }

def tcDecPlc : Reader TcPlc := do
  let id ← u32.read
  let mtr ← tcDecMtr
  let drp ← tcDecDrp
  let mrk ← tcDecMrk
  let maxRateKbps ← u32.read
  let active ← u32.read
  let dstId ← u32.read
  let devId ← u32.read
  return { id, mtr, drp, mrk, maxRateKbps, active, dstId, devId }

def tcDecQStats {α : Type} (dec : Reader α) : Reader (TcQueueStats α) := do
  let bytes ← u32.read
  let pkts ← u32.read
  let bytesFwd ← u32.read
  let pktsFwd ← u32.read
  let cnt ← dec
  let avgSojournTime ← u32.read
  let lastSojournTime ← i64.read
  return { bytes, pkts, bytesFwd, pktsFwd, cnt, avgSojournTime, lastSojournTime }

def tcDecQFifo : Reader (TcQueueStats TcDrp) := tcDecQStats tcDecDrp

def tcDecQCodel : Reader (TcQueueStats TcDrp) := tcDecQStats tcDecDrp

def tcDecQEcnCodel : Reader (TcQueueStats TcMrk) := tcDecQStats tcDecMrk

def tcDecQ : Reader TcQueue := do
  let type ← u32.read
  if type = 0 then
    let q ← tcDecQFifo
    return ⟨0, .fifo q⟩
  else if type = 1 then
    let q ← tcDecQCodel
    return ⟨0, .codel q⟩
  else if type = 2 then
    let q ← tcDecQEcnCodel
    return ⟨0, .ecn q⟩
  else
    Pass.refuse "unknown queue type"

/-- The assertion behind each part. -/
def inside : Reader Unit := left "iterator out of memory chunk"

def row : Reader TcRow := do
  let shp ← tcDecShp
  inside
  let plc ← tcDecPlc
  inside
  let q ← tcDecQ
  inside
  return { shp, plc, q }

def indMsg : Reader TcIndMsg := do
  let sch ← tcDecSch
  inside
  let pcr ← tcDecPcr
  inside
  let cls ← tcDecCls
  inside
  let lenQ ← u32.read
  inside
  let rows ← Arr.read row lenQ
  let tstamp ← i64.read
  return { sch, pcr, cls, rows, tstamp }

def tcDecIndMsgPlain (bs : List Octet) : Access TcIndMsg := whole "Data layout mismacth" indMsg bs

end Dec

end Tc

end FlexRic
