import FlexRic.Sm.TcTypes

/-!
# FlexRic.Sm.TcCtrlPlain

Control messages of the TC service model (`sm/tc_sm/ie/tc_data_ie.h`), with
their plain encoder and decoder (`sm/tc_sm/enc/tc_enc_plain.c`,
`sm/tc_sm/dec/tc_dec_plain.c`).

A message has a target, an action and, for most, a variant.  The action is the
same sum for each target (`CtrlAct`), the variant of a classifier and of a queue
the same for each action (`ClsU`, `QueueU`): sizes, encoders and decoders of
these take those of the members.
-/

namespace FlexRic

namespace Tc

open Plain

/-! ## Actions and variants -/

/-- The union under a `tc_ctrl_act_e`. -/
inductive CtrlAct (α μ δ : Type) where
  | add (v : α)
  | mod (v : μ)
  | del (v : δ)
  deriving DecidableEq

/-- The union under a `tc_cls_e`. -/
inductive ClsU (α : Type) where
  | rr (dummy : Dummy)
  | osi (v : α)
  | sto (dummy : Dummy)
  deriving DecidableEq

/-- `tc_ctrl_queue_codel_t`, `tc_ctrl_queue_ecn_codel_t`. -/
structure CtrlQueueCodel where
  targetMs : UInt32
  intervalMs : UInt32
  deriving DecidableEq

/-- The union under a `tc_queue_e`. -/
inductive QueueU where
  | fifo (dummy : Dummy)
  | codel (v : CtrlQueueCodel)
  | ecn (v : CtrlQueueCodel)
  deriving DecidableEq

/-- `tc_ctrl_act_e`. -/
def CtrlAct.act {α μ δ : Type} : CtrlAct α μ δ → UInt32
  | add _ => 0
  | del _ => 1
  | mod _ => 2

/-- `tc_cls_e`. -/
def ClsU.type {α : Type} : ClsU α → UInt32
  | rr _ => 0
  | osi _ => 1
  | sto _ => 2

/-- `tc_queue_e`. -/
def QueueU.type : QueueU → UInt32
  | fifo _ => 0
  | codel _ => 1
  | ecn _ => 2

/-! ## Targets -/

/-- `tc_add_cls_osi_t`. -/
structure AddClsOsi where
  l3 : L3Filter
  l4 : L4Filter
  l7 : Dummy
  dstQueue : Int32
  deriving DecidableEq

/-- `tc_ctrl_cls_t`: a filter, a filter with its id, the id of a filter. -/
abbrev CtrlCls := CtrlAct (ClsU AddClsOsi) (ClsU TcClsOsiFilter) (ClsU UInt32)

/-- `tc_mod_ctrl_plc_t`. -/
structure ModCtrlPlc where
  id : UInt32
  dropRateKbps : UInt32
  devId : UInt32
  devRateKbps : UInt32
  active : UInt32
  deriving DecidableEq

/-- `tc_ctrl_plc_t`. -/
abbrev CtrlPlc := CtrlAct Dummy ModCtrlPlc UInt32

/-- `tc_mod_ctrl_queue_t`. -/
structure ModCtrlQueue where
  id : UInt32
  u : QueueU
  deriving DecidableEq

/-- `tc_del_ctrl_queue_t`; no function looks at its type. -/
structure DelCtrlQueue where
  id : UInt32
  type : UInt32
  deriving DecidableEq

/-- `tc_ctrl_queue_t`. -/
abbrev CtrlQueue := CtrlAct QueueU ModCtrlQueue DelCtrlQueue

/-- `tc_ctrl_sch_t`. -/
abbrev CtrlSch := CtrlAct Dummy TcSch Dummy

/-- `tc_mod_ctrl_shp_t`. -/
structure ModCtrlShp where
  id : UInt32
  timeWindowMs : UInt32
  maxRateKbps : UInt32
  active : UInt32
  deriving DecidableEq

/-- `tc_ctrl_shp_t`. -/
abbrev CtrlShp := CtrlAct Dummy ModCtrlShp UInt32

/-- `tc_pcr_5g_bdp_t`. -/
structure Pcr5gBdp where
  drbSz : UInt32
  tstamp : Int64
  deriving DecidableEq

/-- `tc_mod_ctrl_pcr_t`. -/
inductive ModCtrlPcr where
  | dummy (dummy : Dummy)
  | bdp (bdp : Pcr5gBdp)
  deriving DecidableEq

/-- `tc_pcr_e`. -/
def ModCtrlPcr.type : ModCtrlPcr → UInt32
  | dummy _ => 0
  | bdp _ => 1

/-- `tc_ctrl_pcr_t`. -/
abbrev CtrlPcr := CtrlAct Dummy ModCtrlPcr Dummy

/-- `tc_ctrl_msg_t`. -/
inductive TcCtrlMsg where
  | cls (v : CtrlCls)
  | plc (v : CtrlPlc)
  | q (v : CtrlQueue)
  | sch (v : CtrlSch)
  | shp (v : CtrlShp)
  | pcr (v : CtrlPcr)
  deriving DecidableEq

/-- `tc_ctrl_msg_e`. -/
def TcCtrlMsg.type : TcCtrlMsg → UInt32
  | cls _ => 0
  | plc _ => 1
  | q _ => 2
  | sch _ => 3
  | shp _ => 4
  | pcr _ => 5

/-! ## Sizes -/

namespace CtrlCal

def act {α μ δ : Type} (calAdd : α → Nat) (calMod : μ → Nat) (calDel : δ → Nat) :
    CtrlAct α μ δ → Nat
  | .add v => u32.size + calAdd v
  | .mod v => u32.size + calMod v
  | .del v => u32.size + calDel v

def clsU {α : Type} (calOsi : α → Nat) : ClsU α → Nat
  | .rr _ => u32.size + u32.size
  | .osi v => u32.size + calOsi v
  | .sto _ => u32.size + u32.size

def calDummy (_ : Dummy) : Nat := u32.size

def calTcAddCtrlPayloadClsOsi (_ : AddClsOsi) : Nat :=
  l3Filter.size + l4Filter.size + u32.size + i32.size

def calTcModCtrlPayloadClsOsi (_ : TcClsOsiFilter) : Nat := tcClsOsiFilter.size

def calTcDelCtrlPayloadClsOsi (_ : UInt32) : Nat := u32.size

def calTcCtrlPayloadCls : CtrlCls → Nat :=
  act (clsU calTcAddCtrlPayloadClsOsi) (clsU calTcModCtrlPayloadClsOsi)
    (clsU calTcDelCtrlPayloadClsOsi)

def calTcModCtrlPayloadPlc (_ : ModCtrlPlc) : Nat :=
  u32.size + u32.size + u32.size + u32.size + u32.size

def calTcDelCtrlPayloadPlc (_ : UInt32) : Nat := u32.size

def calTcCtrlPayloadPlc : CtrlPlc → Nat :=
  act calDummy calTcModCtrlPayloadPlc calTcDelCtrlPayloadPlc

def calTcCtrlPayloadQCodel (_ : CtrlQueueCodel) : Nat := u32.size + u32.size

def queueU : QueueU → Nat
  | .fifo _ => u32.size + u32.size
  | .codel v => u32.size + calTcCtrlPayloadQCodel v
  | .ecn v => u32.size + calTcCtrlPayloadQCodel v

def calTcCtrlPayloadQMod (mod : ModCtrlQueue) : Nat := u32.size + queueU mod.u

def calTcCtrlPayloadQDel (_ : DelCtrlQueue) : Nat := u32.size + u32.size

def calTcCtrlPayloadQ : CtrlQueue → Nat := act queueU calTcCtrlPayloadQMod calTcCtrlPayloadQDel

def calTcCtrlPayloadSchMod : TcSch → Nat
  | .rr _ => u32.size + u32.size
  | .prio qPrio => u32.size + (u32.size + qPrio.items.length * u32.size)

def calTcCtrlPayloadSch : CtrlSch → Nat := act calDummy calTcCtrlPayloadSchMod calDummy

def calTcCtrlPayloadShpMod (_ : ModCtrlShp) : Nat := u32.size + u32.size + u32.size + u32.size

def calTcCtrlPayloadShpDel (_ : UInt32) : Nat := u32.size

def calTcCtrlPayloadShp : CtrlShp → Nat :=
  act calDummy calTcCtrlPayloadShpMod calTcCtrlPayloadShpDel

def calTcCtrlPayloadPcrMod : ModCtrlPcr → Nat
  | .dummy _ => u32.size + u32.size
  | .bdp _ => u32.size + (u32.size + i64.size)

def calTcCtrlPayloadPcr : CtrlPcr → Nat := act calDummy calTcCtrlPayloadPcrMod calDummy

def calTcCtrlPayload : TcCtrlMsg → Nat
  | .cls v => u32.size + calTcCtrlPayloadCls v
  | .plc v => u32.size + calTcCtrlPayloadPlc v
  | .q v => u32.size + calTcCtrlPayloadQ v
  | .sch v => u32.size + calTcCtrlPayloadSch v
  | .shp v => u32.size + calTcCtrlPayloadShp v
  | .pcr v => u32.size + calTcCtrlPayloadPcr v

end CtrlCal

/-! ## Encoder -/

namespace CtrlEnc

def act {α μ δ : Type} (encAdd : α → Writer) (encMod : μ → Writer) (encDel : δ → Writer)
    (v : CtrlAct α μ δ) : Writer := do
  u32.write v.act
  match v with
  | .add v => encAdd v
  | .mod v => encMod v
  | .del v => encDel v

def clsU {α : Type} (encOsi : α → Writer) (v : ClsU α) : Writer := do
  u32.write v.type
  match v with
  | .rr dummy => u32.write dummy
  | .osi v => encOsi v
  | .sto dummy => u32.write dummy

/-- `enc_tc_add_ctrl_payload_cls_osi`; the filter of layer 7 is not written. -/
def encTcAddCtrlPayloadClsOsi (osi : AddClsOsi) : Writer := do
  i64.write osi.l3.srcAddr
  i64.write osi.l3.dstAddr
  i32.write osi.l4.srcPort
  i32.write osi.l4.dstPort
  i32.write osi.l4.protocol
  i32.write osi.dstQueue

def encTcCtrlPayloadCls : CtrlCls → Writer :=
  act (clsU encTcAddCtrlPayloadClsOsi) (clsU tcClsOsiFilter.write) (clsU u32.write)

def encTcModCtrlPayloadPlc (mod : ModCtrlPlc) : Writer := do
  u32.write mod.id
  u32.write mod.dropRateKbps
  u32.write mod.devId
  u32.write mod.devRateKbps
  u32.write mod.active

def encTcCtrlPayloadPlc : CtrlPlc → Writer := act u32.write encTcModCtrlPayloadPlc u32.write

def encTcCtrlPayloadQCodel (codel : CtrlQueueCodel) : Writer := do
  u32.write codel.targetMs
  u32.write codel.intervalMs

def queueU (v : QueueU) : Writer := do
  u32.write v.type
  match v with
  | .codel codel => encTcCtrlPayloadQCodel codel
  | .fifo dummy => u32.write dummy
  | .ecn ecn => encTcCtrlPayloadQCodel ecn

def encTcModCtrlPayloadQ (mod : ModCtrlQueue) : Writer := do
  u32.write mod.id
  queueU mod.u

def encTcDelCtrlPayloadQ (del : DelCtrlQueue) : Writer := do
  u32.write del.id
  u32.write del.type

def encTcCtrlPayloadQ : CtrlQueue → Writer := act queueU encTcModCtrlPayloadQ encTcDelCtrlPayloadQ

def encTcModCtrlPayloadSch (mod : TcSch) : Writer := do
  u32.write mod.type
  match mod with
  | .rr dummy => u32.write dummy
  | .prio qPrio => do
    u32.write qPrio.len
    forEach u32.write qPrio.items

def encTcCtrlPayloadSch : CtrlSch → Writer := act u32.write encTcModCtrlPayloadSch u32.write

def encTcModCtrlPayloadShp (mod : ModCtrlShp) : Writer := do
  u32.write mod.id
  u32.write mod.timeWindowMs
  u32.write mod.maxRateKbps
  u32.write mod.active

def encTcCtrlPayloadShp : CtrlShp → Writer := act u32.write encTcModCtrlPayloadShp u32.write

def encTcModCtrlPayloadPcrBdp (bdp : Pcr5gBdp) : Writer := do
  u32.write bdp.drbSz
  i64.write bdp.tstamp

def encTcModCtrlPayloadPcr (mod : ModCtrlPcr) : Writer := do
  u32.write mod.type
  match mod with
  | .dummy dummy => u32.write dummy
  | .bdp bdp => encTcModCtrlPayloadPcrBdp bdp

def encTcCtrlPayloadPcr : CtrlPcr → Writer := act u32.write encTcModCtrlPayloadPcr u32.write

def ctrlMsg (msg : TcCtrlMsg) : Writer := do
  u32.write msg.type
  match msg with
  | .cls v => encTcCtrlPayloadCls v
  | .plc v => encTcCtrlPayloadPlc v
  | .q v => encTcCtrlPayloadQ v
  | .sch v => encTcCtrlPayloadSch v
  | .shp v => encTcCtrlPayloadShp v
  | .pcr v => encTcCtrlPayloadPcr v

def tcEncCtrlMsgPlain (msg : TcCtrlMsg) : Access (List Octet) :=
  fill "it == ba.buf + ba.len" (CtrlCal.calTcCtrlPayload msg) (ctrlMsg msg)

end CtrlEnc

/-! ## Decoder -/

namespace CtrlDec

/-- `msg` is what the assertion says of another action. -/
def act {α μ δ : Type} (msg : String) (decAdd : Reader α) (decMod : Reader μ) (decDel : Reader δ) :
    Reader (CtrlAct α μ δ) := do
  let act ← u32.read
  if act = 0 then
    let v ← decAdd
    return .add v
  else if act = 1 then
    let v ← decDel
    return .del v
  else if act = 2 then
    let v ← decMod
    return .mod v
  else
    Pass.refuse msg

def clsU {α : Type} (decOsi : Reader α) : Reader (ClsU α) := do
  let type ← u32.read
  if type = 0 then
    let dummy ← u32.read
    return .rr dummy
  else if type = 1 then
    let v ← decOsi
    return .osi v
  else if type = 2 then
    let dummy ← u32.read
    return .sto dummy
  else
    Pass.refuse "Unknown classifier type"

def decTcAddCtrlPayloadClsOsi : Reader AddClsOsi := do
  let srcAddr ← i64.read
  let dstAddr ← i64.read
  let srcPort ← i32.read
  let dstPort ← i32.read
  let protocol ← i32.read
  let dstQueue ← i32.read
  return { l3 := { srcAddr, dstAddr }, l4 := { srcPort, dstPort, protocol }, l7 := 0, dstQueue }

def decTcCtrlPayloadCls : Reader CtrlCls :=
  act "Unknown action type" (clsU decTcAddCtrlPayloadClsOsi) (clsU tcClsOsiFilter.read)
    (clsU u32.read)

def decTcModCtrlPayloadPlc : Reader ModCtrlPlc := do
  let id ← u32.read
  let dropRateKbps ← u32.read
  let devId ← u32.read
  let devRateKbps ← u32.read
  let active ← u32.read
  return { id, dropRateKbps, devId, devRateKbps, active }

def decTcCtrlPayloadPlc : Reader CtrlPlc :=
  act "Unknown action type " u32.read decTcModCtrlPayloadPlc u32.read

def decTcCtrlPayloadQCodel : Reader CtrlQueueCodel := do
  let targetMs ← u32.read
  let intervalMs ← u32.read
  return { targetMs, intervalMs }

def queueU : Reader QueueU := do
  let type ← u32.read
  if type = 0 then
    let dummy ← u32.read
    return .fifo dummy
  else if type = 1 then
    let codel ← decTcCtrlPayloadQCodel
    return .codel codel
  else if type = 2 then
    let ecn ← decTcCtrlPayloadQCodel
    return .ecn ecn
  else
    Pass.refuse "Unknown type"

def decTcModCtrlPayloadQ : Reader ModCtrlQueue := do
  let id ← u32.read
  let u ← queueU
  return { id, u }

def decTcDelCtrlPayloadQ : Reader DelCtrlQueue := do
  let id ← u32.read
  let type ← u32.read
  return { id, type }

def decTcCtrlPayloadQ : Reader CtrlQueue :=
  act "Unknown action" queueU decTcModCtrlPayloadQ decTcDelCtrlPayloadQ

def decTcModCtrlPayloadSch : Reader TcSch := do
  let type ← u32.read
  if type = 0 then
    let dummy ← u32.read
    return .rr dummy
  else if type = 1 then
    let lenQPrio ← u32.read
    let qPrio ← Arr.read u32.read lenQPrio
    return .prio qPrio
  else
    Pass.refuse "Unknown scheduler type"

def decTcCtrlPayloadSch : Reader CtrlSch :=
  act "Unknown scheduler action" u32.read decTcModCtrlPayloadSch u32.read

def decTcModCtrlPayloadShp : Reader ModCtrlShp := do
  let id ← u32.read
  let timeWindowMs ← u32.read
  let maxRateKbps ← u32.read
  let active ← u32.read
  return { id, timeWindowMs, maxRateKbps, active }

def decTcCtrlPayloadShp : Reader CtrlShp :=
  act "Unknown shaper type" u32.read decTcModCtrlPayloadShp u32.read

def decTcModCtrlPayloadPcrBdp : Reader Pcr5gBdp := do
  let drbSz ← u32.read
  let tstamp ← i64.read
  return { drbSz, tstamp }

def decTcModCtrlPayloadPcr : Reader ModCtrlPcr := do
  let type ← u32.read
  if type = 0 then
    let dummy ← u32.read
    return .dummy dummy
  else if type = 1 then
    let bdp ← decTcModCtrlPayloadPcrBdp
    return .bdp bdp
  else
    Pass.refuse "unknown pacer type"

def decTcCtrlPayloadPcr : Reader CtrlPcr :=
  act "Unknown pacer action" u32.read decTcModCtrlPayloadPcr u32.read

def ctrlMsg : Reader TcCtrlMsg := do
  let type ← u32.read
  if type = 0 then
    let v ← decTcCtrlPayloadCls
    return .cls v
  else if type = 1 then
    let v ← decTcCtrlPayloadPlc
    return .plc v
  else if type = 2 then
    let v ← decTcCtrlPayloadQ
    return .q v
  else if type = 3 then
    let v ← decTcCtrlPayloadSch
    return .sch v
  else if type = 4 then
    let v ← decTcCtrlPayloadShp
    return .shp v
  else if type = 5 then
    let v ← decTcCtrlPayloadPcr
    return .pcr v
  else
    Pass.refuse "Unknown type"

/-- `tc_dec_ctrl_msg_plain`; of an empty message it reads nothing. -/
def tcDecCtrlMsgPlain (bs : List Octet) : Access TcCtrlMsg :=
  if bs.length > 0 then whole "ctrl_msg + len == it" ctrlMsg bs else .refused "len > 0"

end CtrlDec

end Tc

end FlexRic
