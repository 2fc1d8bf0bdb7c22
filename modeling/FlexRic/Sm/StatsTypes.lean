import FlexRic.Lib.Plain

/-!
# FlexRic.Sm.StatsTypes

The indications of the MAC, RLC, PDCP and GTP service models
(`sm/mac_sm/ie/mac_data_ie.h` and the like).

A `float` and a `double` are their bits.  Each element is copied as the
structure in memory: a scalar with its fields at their offsets.
-/

namespace FlexRic

namespace Stats

open Plain

/-- The bits of a `double`. -/
abbrev DoubleBits := UInt64

/-- `bool`. -/
def bool8 : Scalar Bool where
  size := 1
  octets v := [if v then 1 else 0]
  ofOctets bs := bs.headD 0 != 0
  length_octets _ := rfl
  ofOctets_octets v := by cases v <;> rfl

/-- `int8_t`. -/
def i8 : Scalar Int8 := u8.equiv Int8.toUInt8 UInt8.toInt8 fun _ => rfl

/-! ## MAC -/

/-- An array of five. -/
structure Harq where
  h0 : UInt32
  h1 : UInt32
  h2 : UInt32
  h3 : UInt32
  h4 : UInt32
  deriving DecidableEq

def harq : Scalar Harq :=
  Scalar.equiv (u32.pair <| u32.pair <| u32.pair <| u32.pair u32)
    (fun v => (v.h0, v.h1, v.h2, v.h3, v.h4))
    (fun (h0, h1, h2, h3, h4) => ⟨h0, h1, h2, h3, h4⟩)
    fun _ => rfl

/-- `mac_ue_stats_impl_t`. -/
structure MacUeStatsImpl where
  (dlAggrTbs ulAggrTbs dlAggrBytesSdus ulAggrBytesSdus : UInt64)
  (dlCurrTbs ulCurrTbs dlSchedRb ulSchedRb : UInt64)
  (puschSnr pucchSnr dlBler ulBler : FloatBits)
  (dlHarq ulHarq : Harq)
  (dlNumHarq ulNumHarq rnti dlAggrPrb : UInt32)
  (ulAggrPrb dlAggrSdus ulAggrSdus dlAggrRetxPrb : UInt32)
  (ulAggrRetxPrb bsr : UInt32)
  (frame slot : UInt16)
  (wbCqi dlMcs1 ulMcs1 dlMcs2 : UInt8)
  ulMcs2 : UInt8
  phr : Int8
  inSync : Bool
  pcmax : Int32
  (pmiCqiRi pmiCqiX1 pmiCqiX2 : UInt8)
  rawRssi : FloatBits
  cqi : UInt8
  rsrp : Int64
  nrCellid : UInt64
  deriving DecidableEq

def macUeStatsImpl : Scalar MacUeStatsImpl :=
  Scalar.equiv (u64.pair <| u64.pair <| u64.pair <| u64.pair <| u64.pair <| u64.pair <|
    u64.pair <| u64.pair <| u32.pair <| u32.pair <| u32.pair <| u32.pair <|
    harq.pair <| harq.pair <| u32.pair <| u32.pair <| u32.pair <| u32.pair <|
    u32.pair <| u32.pair <| u32.pair <| u32.pair <| u32.pair <| u32.pair <|
    u16.pair <| u16.pair <| u8.pair <| u8.pair <| u8.pair <| u8.pair <| u8.pair <|
    i8.pair <| (bool8.padded 1).pair <| i32.pair <| u8.pair <| u8.pair <|
    (u8.padded 1).pair <| u32.pair <| (u8.padded 7).pair <| i64.pair u64)
    (fun v => (v.dlAggrTbs, v.ulAggrTbs, v.dlAggrBytesSdus, v.ulAggrBytesSdus, v.dlCurrTbs,
      v.ulCurrTbs, v.dlSchedRb, v.ulSchedRb, v.puschSnr, v.pucchSnr, v.dlBler,
      v.ulBler, v.dlHarq, v.ulHarq, v.dlNumHarq, v.ulNumHarq, v.rnti, v.dlAggrPrb,
      v.ulAggrPrb, v.dlAggrSdus, v.ulAggrSdus, v.dlAggrRetxPrb, v.ulAggrRetxPrb,
      v.bsr, v.frame, v.slot, v.wbCqi, v.dlMcs1, v.ulMcs1, v.dlMcs2, v.ulMcs2,
      v.phr, v.inSync, v.pcmax, v.pmiCqiRi, v.pmiCqiX1, v.pmiCqiX2, v.rawRssi,
      v.cqi, v.rsrp, v.nrCellid))
    (fun (dlAggrTbs, ulAggrTbs, dlAggrBytesSdus, ulAggrBytesSdus, dlCurrTbs, ulCurrTbs,
      dlSchedRb, ulSchedRb, puschSnr, pucchSnr, dlBler, ulBler, dlHarq, ulHarq,
      dlNumHarq, ulNumHarq, rnti, dlAggrPrb, ulAggrPrb, dlAggrSdus, ulAggrSdus,
      dlAggrRetxPrb, ulAggrRetxPrb, bsr, frame, slot, wbCqi, dlMcs1, ulMcs1,
      dlMcs2, ulMcs2, phr, inSync, pcmax, pmiCqiRi, pmiCqiX1, pmiCqiX2, rawRssi,
      cqi, rsrp, nrCellid) =>
      ⟨dlAggrTbs, ulAggrTbs, dlAggrBytesSdus, ulAggrBytesSdus, dlCurrTbs, ulCurrTbs,
      dlSchedRb, ulSchedRb, puschSnr, pucchSnr, dlBler, ulBler, dlHarq, ulHarq,
      dlNumHarq, ulNumHarq, rnti, dlAggrPrb, ulAggrPrb, dlAggrSdus, ulAggrSdus,
      dlAggrRetxPrb, ulAggrRetxPrb, bsr, frame, slot, wbCqi, dlMcs1, ulMcs1,
      dlMcs2, ulMcs2, phr, inSync, pcmax, pmiCqiRi, pmiCqiX1, pmiCqiX2, rawRssi,
      cqi, rsrp, nrCellid⟩)
    fun _ => rfl

example : macUeStatsImpl.size = 208 := rfl

/-- `mac_ind_msg_t`. -/
structure MacIndMsg where
  ueStats : Arr MacUeStatsImpl
  tstamp : Int64
  deriving DecidableEq

/-! ## RLC -/

/-- `rlc_radio_bearer_stats_t`. -/
structure RlcRadioBearerStats where
  (txpduPkts txpduBytes txpduWtMs txpduDdPkts : UInt32)
  (txpduDdBytes txpduRetxPkts txpduRetxBytes txpduSegmented : UInt32)
  (txpduStatusPkts txpduStatusBytes txbufOccBytes txbufOccPkts : UInt32)
  (rxpduPkts rxpduBytes rxpduDupPkts rxpduDupBytes : UInt32)
  (rxpduDdPkts rxpduDdBytes rxpduOwPkts rxpduOwBytes : UInt32)
  (rxpduStatusPkts rxpduStatusBytes rxbufOccBytes rxbufOccPkts : UInt32)
  txsduPkts : UInt32
  txsduBytes : UInt64
  txsduAvgTimeToTx : DoubleBits
  (txsduWtUs rxsduPkts : UInt32)
  rxsduBytes : UInt64
  (rxsduDdPkts rxsduDdBytes rnti : UInt32)
  (mode rbid : UInt8)
  deriving DecidableEq

def rlcRadioBearerStats : Scalar RlcRadioBearerStats :=
  Scalar.equiv (u32.pair <| u32.pair <| u32.pair <| u32.pair <| u32.pair <| u32.pair <|
    u32.pair <| u32.pair <| u32.pair <| u32.pair <| u32.pair <| u32.pair <|
    u32.pair <| u32.pair <| u32.pair <| u32.pair <| u32.pair <| u32.pair <|
    u32.pair <| u32.pair <| u32.pair <| u32.pair <| u32.pair <| u32.pair <|
    (u32.padded 4).pair <| u64.pair <| u64.pair <| u32.pair <| u32.pair <|
    u64.pair <| u32.pair <| u32.pair <| u32.pair <| u8.pair <| u8.padded 2)
    (fun v => (v.txpduPkts, v.txpduBytes, v.txpduWtMs, v.txpduDdPkts, v.txpduDdBytes,
      v.txpduRetxPkts, v.txpduRetxBytes, v.txpduSegmented, v.txpduStatusPkts,
      v.txpduStatusBytes, v.txbufOccBytes, v.txbufOccPkts, v.rxpduPkts,
      v.rxpduBytes, v.rxpduDupPkts, v.rxpduDupBytes, v.rxpduDdPkts, v.rxpduDdBytes,
      v.rxpduOwPkts, v.rxpduOwBytes, v.rxpduStatusPkts, v.rxpduStatusBytes,
      v.rxbufOccBytes, v.rxbufOccPkts, v.txsduPkts, v.txsduBytes,
      v.txsduAvgTimeToTx, v.txsduWtUs, v.rxsduPkts, v.rxsduBytes, v.rxsduDdPkts,
      v.rxsduDdBytes, v.rnti, v.mode, v.rbid))
    (fun (txpduPkts, txpduBytes, txpduWtMs, txpduDdPkts, txpduDdBytes, txpduRetxPkts,
      txpduRetxBytes, txpduSegmented, txpduStatusPkts, txpduStatusBytes,
      txbufOccBytes, txbufOccPkts, rxpduPkts, rxpduBytes, rxpduDupPkts,
      rxpduDupBytes, rxpduDdPkts, rxpduDdBytes, rxpduOwPkts, rxpduOwBytes,
      rxpduStatusPkts, rxpduStatusBytes, rxbufOccBytes, rxbufOccPkts, txsduPkts,
      txsduBytes, txsduAvgTimeToTx, txsduWtUs, rxsduPkts, rxsduBytes, rxsduDdPkts,
      rxsduDdBytes, rnti, mode, rbid) =>
      ⟨txpduPkts, txpduBytes, txpduWtMs, txpduDdPkts, txpduDdBytes, txpduRetxPkts,
      txpduRetxBytes, txpduSegmented, txpduStatusPkts, txpduStatusBytes,
      txbufOccBytes, txbufOccPkts, rxpduPkts, rxpduBytes, rxpduDupPkts,
      rxpduDupBytes, rxpduDdPkts, rxpduDdBytes, rxpduOwPkts, rxpduOwBytes,
      rxpduStatusPkts, rxpduStatusBytes, rxbufOccBytes, rxbufOccPkts, txsduPkts,
      txsduBytes, txsduAvgTimeToTx, txsduWtUs, rxsduPkts, rxsduBytes, rxsduDdPkts,
      rxsduDdBytes, rnti, mode, rbid⟩)
    fun _ => rfl

example : rlcRadioBearerStats.size = 152 := rfl

/-- `rlc_ind_msg_t`. -/
structure RlcIndMsg where
  rb : Arr RlcRadioBearerStats
  tstamp : Int64
  deriving DecidableEq

/-! ## PDCP -/

/-- `pdcp_radio_bearer_stats_t`. -/
structure PdcpRadioBearerStats where
  (txpduPkts txpduBytes txpduSn rxpduPkts : UInt32)
  (rxpduBytes rxpduSn rxpduOoPkts rxpduOoBytes : UInt32)
  (rxpduDdPkts rxpduDdBytes rxpduRoCount txsduPkts : UInt32)
  (txsduBytes rxsduPkts rxsduBytes rnti : UInt32)
  (mode rbid : UInt8)
  deriving DecidableEq

def pdcpRadioBearerStats : Scalar PdcpRadioBearerStats :=
  Scalar.equiv (u32.pair <| u32.pair <| u32.pair <| u32.pair <| u32.pair <| u32.pair <|
    u32.pair <| u32.pair <| u32.pair <| u32.pair <| u32.pair <| u32.pair <|
    u32.pair <| u32.pair <| u32.pair <| u32.pair <| u8.pair <| u8.padded 2)
    (fun v => (v.txpduPkts, v.txpduBytes, v.txpduSn, v.rxpduPkts, v.rxpduBytes, v.rxpduSn,
      v.rxpduOoPkts, v.rxpduOoBytes, v.rxpduDdPkts, v.rxpduDdBytes, v.rxpduRoCount,
      v.txsduPkts, v.txsduBytes, v.rxsduPkts, v.rxsduBytes, v.rnti, v.mode, v.rbid))
    (fun (txpduPkts, txpduBytes, txpduSn, rxpduPkts, rxpduBytes, rxpduSn, rxpduOoPkts,
      rxpduOoBytes, rxpduDdPkts, rxpduDdBytes, rxpduRoCount, txsduPkts, txsduBytes,
      rxsduPkts, rxsduBytes, rnti, mode, rbid) =>
      ⟨txpduPkts, txpduBytes, txpduSn, rxpduPkts, rxpduBytes, rxpduSn, rxpduOoPkts,
      rxpduOoBytes, rxpduDdPkts, rxpduDdBytes, rxpduRoCount, txsduPkts, txsduBytes,
      rxsduPkts, rxsduBytes, rnti, mode, rbid⟩)
    fun _ => rfl

example : pdcpRadioBearerStats.size = 68 := rfl

/-- `pdcp_ind_msg_t`. -/
structure PdcpIndMsg where
  rb : Arr PdcpRadioBearerStats
  tstamp : Int64
  deriving DecidableEq

/-! ## GTP -/

/-- `gtp_ngu_t_stats_t`. -/
structure GtpNguTStats where
  (rnti teidgnb : UInt32)
  (qfi teidupf : UInt8)
  ueContextHasMqr : Bool
  (ueContextRrcUeId ueContextRntiT : UInt32)
  ueContextMqrRsrp : Int64
  (ueContextMqrRsrq ueContextMqrSinr : DoubleBits)
  deriving DecidableEq

def gtpNguTStats : Scalar GtpNguTStats :=
  Scalar.equiv (u32.pair <| u32.pair <| u8.pair <| u8.pair <| (bool8.padded 1).pair <|
    u32.pair <| (u32.padded 4).pair <| i64.pair <| u64.pair u64)
    (fun v => (v.rnti, v.teidgnb, v.qfi, v.teidupf, v.ueContextHasMqr, v.ueContextRrcUeId,
      v.ueContextRntiT, v.ueContextMqrRsrp, v.ueContextMqrRsrq, v.ueContextMqrSinr))
    (fun (rnti, teidgnb, qfi, teidupf, ueContextHasMqr, ueContextRrcUeId,
      ueContextRntiT, ueContextMqrRsrp, ueContextMqrRsrq, ueContextMqrSinr) =>
      ⟨rnti, teidgnb, qfi, teidupf, ueContextHasMqr, ueContextRrcUeId,
      ueContextRntiT, ueContextMqrRsrp, ueContextMqrRsrq, ueContextMqrSinr⟩)
    fun _ => rfl

example : gtpNguTStats.size = 48 := rfl

/-- `gtp_ho_info_t`, packed. -/
structure GtpHoInfo where
  (ueId sourceDu targetDu : UInt32)
  hoComplete : Bool
  deriving DecidableEq

def gtpHoInfo : Scalar GtpHoInfo :=
  Scalar.equiv (u32.pair <| u32.pair <| u32.pair bool8)
    (fun v => (v.ueId, v.sourceDu, v.targetDu, v.hoComplete))
    (fun (ueId, sourceDu, targetDu, hoComplete) =>
      ⟨ueId, sourceDu, targetDu, hoComplete⟩)
    fun _ => rfl

example : gtpHoInfo.size = 13 := rfl

/-- `gtp_ind_msg_t`. -/
structure GtpIndMsg where
  ngut : Arr GtpNguTStats
  tstamp : Int64
  hoInfo : GtpHoInfo
  deriving DecidableEq

end Stats

end FlexRic
