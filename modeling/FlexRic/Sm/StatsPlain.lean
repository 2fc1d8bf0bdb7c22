import FlexRic.Sm.StatsTypes

/-!
# FlexRic.Sm.StatsPlain

The plain decoders of the MAC, RLC, PDCP and GTP service models
(`sm/mac_sm/dec/mac_dec_plain.c` and the like), and the encoder of GTP
(`sm/gtp_sm/enc/gtp_enc_plain.c`).

A message is a number of elements, the elements and what is behind them.
-/

namespace FlexRic

namespace Stats

open Plain

/-- `next_pow2`. -/
def nextPow2 (x : UInt64) : UInt64 :=
  let x := x - 1
  let x := x ||| (x >>> 1)
  let x := x ||| (x >>> 2)
  let x := x ||| (x >>> 4)
  let x := x ||| (x >>> 8)
  let x := x ||| (x >>> 16)
  let x := x ||| (x >>> 32)
  x + 1

/-- Filling the bits below the highest one keeps a number as large, below `2 ^ 40`. -/
theorem le_or_shiftRight {y : UInt64} {m : Nat} (c : UInt64) (h : m ≤ y.toNat ∧ y.toNat < 2 ^ 40) :
    m ≤ (y ||| (y >>> c)).toNat ∧ (y ||| (y >>> c)).toNat < 2 ^ 40 := by
  rw [UInt64.toNat_or]
  refine ⟨Nat.le_trans h.1 Nat.left_le_or, Nat.or_lt_two_pow h.2 ?_⟩
  rw [UInt64.toNat_shiftRight]
  exact Nat.lt_of_le_of_lt (Nat.shiftRight_le _ _) h.2

/-- The power of two is not below the number. -/
theorem le_nextPow2 {x : UInt64} (hpos : 0 < x.toNat) (hlt : x.toNat < 2 ^ 40) :
    x.toNat ≤ (nextPow2 x).toNat := by
  have hone : (1 : UInt64) ≤ x := UInt64.le_iff_toNat_le.mpr hpos
  have hsub : (x - 1).toNat = x.toNat - 1 := UInt64.toNat_sub_of_le x 1 hone
  have hstart : x.toNat - 1 ≤ (x - 1).toNat ∧ (x - 1).toNat < 2 ^ 40 := by
    rw [hsub]
    omega
  have hend := le_or_shiftRight 32 <| le_or_shiftRight 16 <| le_or_shiftRight 8 <|
    le_or_shiftRight 4 <| le_or_shiftRight 2 <| le_or_shiftRight 1 hstart
  unfold nextPow2
  dsimp only
  rw [UInt64.toNat_add]
  generalize UInt64.toNat _ = n at hend ⊢
  have hone' : (1 : UInt64).toNat = 1 := rfl
  omega

/-- A buffer that is long enough passes the comparison. -/
theorem le_nextPow2_length {bs : List Octet} (n : UInt64) (hle : n.toNat ≤ bs.length)
    (hlt : 0 < bs.length ∧ bs.length < 2 ^ 40) : n ≤ nextPow2 bs.length.toUInt64 := by
  have hnat : bs.length.toUInt64.toNat = bs.length := by
    rw [Nat.toUInt64, UInt64.toNat_ofNat', Nat.mod_eq_of_lt (by omega)]
  have hpow := le_nextPow2 (x := bs.length.toUInt64) (by omega) (by omega)
  rw [hnat] at hpow
  exact UInt64.le_iff_toNat_le.mpr (Nat.le_trans hle hpow)

/-! ## Decoders -/

def macDecIndMsg : Reader MacIndMsg := do
  let lenUeStats ← u32.read
  let ueStats ← Arr.read macUeStatsImpl.read lenUeStats
  let tstamp ← i64.read
  return { ueStats, tstamp }

/-- `mac_dec_ind_msg_plain`. -/
def macDecIndMsgPlain (bs : List Octet) : Access MacIndMsg :=
  whole "data layout mismacth" macDecIndMsg bs

def rlcDecIndMsg : Reader RlcIndMsg := do
  let len ← u32.read
  let rb ← Arr.read rlcRadioBearerStats.read len
  let tstamp ← i64.read
  return { rb, tstamp }

/-- `assert(next_pow2(len) >= sizeof(rlc_ind_msg_t) - sizeof(rlc_radio_bearer_stats_t*))`. -/
def rlcLenOk (bs : List Octet) : Bool := nextPow2 bs.length.toUInt64 ≥ 24 - 8

/-- `rlc_dec_ind_msg_plain`. -/
def rlcDecIndMsgPlain (bs : List Octet) : Access RlcIndMsg :=
  if rlcLenOk bs then
    whole "Mismatch of data layout" rlcDecIndMsg bs
  else
    .refused "Less bytes than the case where there are not active Radio bearers! Next pow2 trick used for aligned struct"

def pdcpDecIndMsg : Reader PdcpIndMsg := do
  let len ← u32.read
  let rb ← Arr.read pdcpRadioBearerStats.read len
  let tstamp ← i64.read
  return { rb, tstamp }

/-- `pdcp_dec_ind_msg_plain`. -/
def pdcpDecIndMsgPlain (bs : List Octet) : Access PdcpIndMsg :=
  if bs.length ≥ u32.size + i64.size then
    whole "Data layout mismatch" pdcpDecIndMsg bs
  else
    .refused "len >= sizeof(uint32_t) + sizeof(int64_t)"

def gtpDecIndMsg : Reader GtpIndMsg := do
  let len ← u32.read
  let ngut ← Arr.read gtpNguTStats.read len
  let tstamp ← i64.read
  let hoInfo ← gtpHoInfo.read
  return { ngut, tstamp, hoInfo }

/-- `assert(next_pow2(len) >= sizeof(gtp_ind_msg_t) - sizeof(gtp_ngu_t_stats_t*))`. -/
def gtpLenOk (bs : List Octet) : Bool := nextPow2 bs.length.toUInt64 ≥ 33 - 8

/-- `gtp_dec_ind_msg_plain`. -/
def gtpDecIndMsgPlain (bs : List Octet) : Access GtpIndMsg :=
  if gtpLenOk bs then
    whole "Mismatch of data layout" gtpDecIndMsg bs
  else
    .refused "Less bytes than the case where there are not active Radio bearers! Next pow2 trick used for aligned struct"

/-- The headers of all service models and the control messages of these four are structures of
one `uint32_t`, of which the decoders assert the length. -/
def wordDecPlain (bs : List Octet) : Access UInt32 :=
  if bs.length = u32.size then whole "len" u32.read bs else .refused "len == sizeof"

/-! ## Encoder -/

def gtpEncIndMsg (indMsg : GtpIndMsg) : Writer := do
  u32.write indMsg.ngut.len
  forEach gtpNguTStats.write indMsg.ngut.items
  i64.write indMsg.tstamp
  gtpHoInfo.write indMsg.hoInfo

def gtpIndMsgSize (indMsg : GtpIndMsg) : Nat :=
  u32.size + gtpNguTStats.size * indMsg.ngut.items.length + i64.size + gtpHoInfo.size

/-- `gtp_enc_ind_msg_plain`. -/
def gtpEncIndMsgPlain (indMsg : GtpIndMsg) : Access (List Octet) :=
  fill "Mismatch of data layout" (gtpIndMsgSize indMsg) (gtpEncIndMsg indMsg)

end Stats

end FlexRic
