import FlexRic.Lib.Plain

/-!
# FlexRic.Sm.TcTypes

The indication of the TC service model (`sm/tc_sm/ie/tc_data_ie.h`).

A pointer with its length is an array, a union under an enumerator is a sum, and
a `float` is its bits.
-/

namespace FlexRic

namespace Tc

open Plain

/-- A structure whose only field is `dummy`. -/
abbrev Dummy := UInt32

/-! ## Classifier -/

/-- `L3_filter_t`. -/
structure L3Filter where
  srcAddr : Int64
  dstAddr : Int64
  deriving DecidableEq

/-- `L4_filter_t`. -/
structure L4Filter where
  srcPort : Int32
  dstPort : Int32
  protocol : Int32
  deriving DecidableEq

/-- `tc_cls_osi_filter_t`. -/
structure TcClsOsiFilter where
  id : UInt32
  l3 : L3Filter
  l4 : L4Filter
  l7 : Dummy
  dstQueue : Int32
  deriving DecidableEq

def l3Filter : Scalar L3Filter :=
  (i64.pair i64).equiv (fun v => (v.srcAddr, v.dstAddr)) (fun p => ⟨p.1, p.2⟩) fun _ => rfl

def l4Filter : Scalar L4Filter :=
  (i32.pair (i32.pair i32)).equiv (fun v => (v.srcPort, v.dstPort, v.protocol))
    (fun p => ⟨p.1, p.2.1, p.2.2⟩) fun _ => rfl

/-- The structure in memory: the addresses and its end are aligned to eight octets. -/
def tcClsOsiFilter : Scalar TcClsOsiFilter :=
  ((u32.padded 4).pair (l3Filter.pair (l4Filter.pair (u32.pair (i32.padded 4))))).equiv
    (fun v => (v.id, v.l3, v.l4, v.l7, v.dstQueue))
    (fun p => ⟨p.1, p.2.1, p.2.2.1, p.2.2.2.1, p.2.2.2.2⟩) fun _ => rfl

example : tcClsOsiFilter.size = 48 := rfl

/-- `tc_cls_t`. -/
inductive TcCls where
  | rr (dummy : Dummy)
  | osi (flt : Arr TcClsOsiFilter)
  | sto (dummy : Dummy)
  deriving DecidableEq

/-- `tc_cls_e`. -/
def TcCls.type : TcCls → UInt32
  | rr _ => 0
  | osi _ => 1
  | sto _ => 2

/-! ## Policer, queue, scheduler, shaper, pacer -/

/-- `tc_mtr_t`. -/
structure TcMtr where
  timeWindowMs : UInt32
  bnd : FloatBits
  deriving DecidableEq

/-- `tc_drp_t`. -/
structure TcDrp where
  droppedPkts : UInt32
  deriving DecidableEq

/-- `tc_mrk_t`. -/
structure TcMrk where
  markedPkts : UInt32
  deriving DecidableEq

/-- `tc_plc_t`. -/
structure TcPlc where
  id : UInt32
  mtr : TcMtr
  drp : TcDrp
  mrk : TcMrk
  maxRateKbps : FloatBits
  active : UInt32
  dstId : UInt32
  devId : UInt32
  deriving DecidableEq

/-- `tc_queue_fifo_t`, `tc_queue_codel_t` with a dropper, `tc_queue_ecn_codel_t` with a marker. -/
structure TcQueueStats (α : Type) where
  bytes : UInt32
  pkts : UInt32
  bytesFwd : UInt32
  pktsFwd : UInt32
  cnt : α
  avgSojournTime : FloatBits
  lastSojournTime : Int64
  deriving DecidableEq

/-- The union of `tc_queue_t`. -/
inductive TcQueueU where
  | fifo (q : TcQueueStats TcDrp)
  | codel (q : TcQueueStats TcDrp)
  | ecn (q : TcQueueStats TcMrk)
  deriving DecidableEq

/-- `tc_queue_e`. -/
def TcQueueU.type : TcQueueU → UInt32
  | fifo _ => 0
  | codel _ => 1
  | ecn _ => 2

/-- `tc_queue_t`. -/
structure TcQueue where
  id : UInt32
  u : TcQueueU
  deriving DecidableEq

/-- `tc_sch_t`. -/
inductive TcSch where
  | rr (dummy : Dummy)
  | prio (qPrio : Arr UInt32)
  deriving DecidableEq

/-- `tc_sch_e`. -/
def TcSch.type : TcSch → UInt32
  | rr _ => 0
  | prio _ => 1

/-- `tc_shp_t`. -/
structure TcShp where
  id : UInt32
  active : UInt32
  maxRateKbps : UInt32
  mtr : TcMtr
  deriving DecidableEq

/-- `tc_pcr_t`; no function looks at its type. -/
structure TcPcr where
  type : UInt32
  id : UInt32
  mtr : TcMtr
  deriving DecidableEq

/-! ## Message -/

/-- `shp[i]`, `plc[i]` and `q[i]`, of arrays with one length. -/
structure TcRow where
  shp : TcShp
  plc : TcPlc
  q : TcQueue
  deriving DecidableEq

/-- `tc_ind_msg_t`. -/
structure TcIndMsg where
  sch : TcSch
  pcr : TcPcr
  cls : TcCls
  rows : Arr TcRow
  tstamp : Int64
  deriving DecidableEq

end Tc

end FlexRic
