import FlexRic.Lib.Layout
import FlexRic.Sm.CtrlOutcomes
import FlexRic.Sm.SlicePlain
import FlexRic.Sm.StatsPlain
import FlexRic.Sm.TcCtrlPlain
import FlexRic.Sm.TcIndPlain

/-!
# FlexRic.Sm.DecoderSafety

The plain decoders of network input, and the end of the buffer.

No decoder looks at where the buffer ends before it reads: each goes by the
counts, lengths and enumerators it finds.  What these announce is a layout, one
a message; a decoder stays inside the buffer when and only when the octets are
there.
-/

namespace FlexRic

open Plain

/-! ## MAC, RLC, PDCP, GTP -/

namespace Stats

/-- As many elements of `size` octets as the word in front says, and `tail` octets behind them. -/
def Announced (size tail : Nat) (bs : List Octet) : Prop :=
  4 + (front bs).toNat * size + tail ≤ bs.length

instance (size tail : Nat) (bs : List Octet) : Decidable (Announced size tail bs) :=
  inferInstanceAs (Decidable (_ ≤ _))

/-- A reader of elements and of what is behind them. -/
theorem safe_counted {α : Type} {r : Reader α} {m k : Nat} {msg : String}
    (h : Follows r (.counted m k)) (bs : List Octet) :
    Safe r bs (whole msg r bs) ↔ Announced m k bs :=
  (follows_safe_iff h msg bs).trans Layout.holds_counted

/-- A decoder that checks something first. -/
theorem safe_ite {α : Type} {r : Reader α} {bs : List Octet} {p : Prop} [Decidable p]
    {x : Access α} {msg : String} {q : Prop} (h : Safe r bs x ↔ q) :
    Safe r bs (if p then x else .refused msg) ↔ (p → q) := by
  by_cases hp : p
  · rw [if_pos hp, h]
    exact ⟨fun hq _ => hq, fun hq => hq hp⟩
  · rw [if_neg hp]
    exact iff_of_true (.inl ⟨msg, rfl⟩) fun h => absurd h hp

/-- 208 octets a UE, and the time stamp. The message is not checked before it is read. -/
theorem mac_safe_iff (bs : List Octet) :
    Safe macDecIndMsg bs (macDecIndMsgPlain bs) ↔ Announced 208 8 bs :=
  safe_counted (follows_word fun n =>
    (Arr.follows_read macUeStatsImpl.follows n).bind fun _ => i64.follows.map) bs

/-- 152 octets a bearer; a length that the first assertion refuses is not read. -/
theorem rlc_safe_iff (bs : List Octet) :
    Safe rlcDecIndMsg bs (rlcDecIndMsgPlain bs) ↔ (rlcLenOk bs → Announced 152 8 bs) :=
  safe_ite (safe_counted (follows_word fun n =>
    (Arr.follows_read rlcRadioBearerStats.follows n).bind fun _ => i64.follows.map) bs)

/-- 68 octets a bearer; less than the count and the time stamp is not read. -/
theorem pdcp_safe_iff (bs : List Octet) :
    Safe pdcpDecIndMsg bs (pdcpDecIndMsgPlain bs) ↔ (12 ≤ bs.length → Announced 68 8 bs) :=
  safe_ite (safe_counted (follows_word fun n =>
    (Arr.follows_read pdcpRadioBearerStats.follows n).bind fun _ => i64.follows.map) bs)

/-- 48 octets a tunnel, and the handover behind the time stamp. -/
theorem gtp_safe_iff (bs : List Octet) :
    Safe gtpDecIndMsg bs (gtpDecIndMsgPlain bs) ↔ (gtpLenOk bs → Announced 48 21 bs) := by
  have htail : Follows (i64.read >>= fun _ => gtpHoInfo.read) (.skip 21) :=
    (i64.follows.bind fun _ => gtpHoInfo.follows).skip_add
  refine safe_ite (safe_counted (follows_word fun n =>
    (Arr.follows_read gtpNguTStats.follows n).bind fun ngut => ?_) bs)
  exact (i64.follows.bind fun tstamp => gtpHoInfo.follows.map).skip_add

/-- One word is read where there are as many octets. -/
theorem word_safe (bs : List Octet) : Safe u32.read bs (wordDecPlain bs) :=
  (safe_ite (follows_safe_iff u32.follows "len" bs)).2 fun h => Layout.holds_skip.2 h.ge

end Stats

/-! ## SLICE -/

namespace Slice

/-- A field. -/
def field : Layout := .skip u32.size

def rateLayout : Layout := .seq field field

def staticLayout : Layout := .seq field field

def nvsLayout : Layout := .word fun conf =>
  if conf = 0 then rateLayout else if conf = 1 then field else .stop

def onDemandLayout : Layout := .seq field (.seq field field)

def scn19Layout : Layout := .word fun conf =>
  if conf = 0 then rateLayout else if conf = 1 then staticLayout
  else if conf = 2 then onDemandLayout else .stop

def edfLayout : Layout :=
  .seq field (.seq field (.seq field (.word fun lenOver => .rep lenOver.toNat field)))

def paramsLayout : Layout := .word fun type =>
  if type = 1 then staticLayout else if type = 2 then nvsLayout else if type = 3 then scn19Layout
  else if type = 4 then edfLayout else .stop

/-- A string; the greatest length does not leave room for the octet behind it. -/
def stringLayout (len : UInt32) : Layout :=
  if len = -1 then .never else .skip len.toNat

def sliceLayout : Layout :=
  .seq field (.word fun lenLabel => .seq (stringLayout lenLabel) (.word fun lenSched =>
    .seq (stringLayout lenSched) paramsLayout))

def ulDlLayout : Layout := .word fun lenSchedName => .seq (stringLayout lenSchedName)
  (.word fun lenSlices => .rep lenSlices.toNat sliceLayout)

def sliceConfLayout : Layout := .seq ulDlLayout ulDlLayout

def ueSliceConfLayout : Layout := .word fun lenUeSlice =>
  .rep lenUeSlice.toNat (.seq field (.seq field (.skip u16.size)))

/-- `slice_ind_msg_t`. -/
def indLayout : Layout := .seq sliceConfLayout (.seq ueSliceConfLayout (.skip i64.size))

def delSliceLayout : Layout := .word fun lenDl => .seq (.rep lenDl.toNat field)
  (.word fun lenUl => .rep lenUl.toNat field)

/-- `slice_ctrl_msg_t`. -/
def ctrlLayout : Layout := .word fun type =>
  if type = 0 then sliceConfLayout else if type = 1 then delSliceLayout
  else if type = 2 then ueSliceConfLayout else .stop

theorem rate_follows : Follows Dec.fillRate rateLayout :=
  u32.follows.bind fun _ => u32.follows.map

theorem static_follows : Follows Dec.fillStatic staticLayout :=
  u32.follows.bind fun _ => u32.follows.map

theorem nvs_follows : Follows Dec.fillNvs nvsLayout :=
  follows_word fun _ => follows_ite rate_follows.map (follows_ite u32.follows.map
    (follows_refuse _))

theorem onDemand_follows : Follows Dec.fillOnDemand onDemandLayout :=
  u32.follows.bind fun _ => u32.follows.bind fun _ => u32.follows.map

theorem scn19_follows : Follows Dec.fillScn19 scn19Layout :=
  follows_word fun _ => follows_ite rate_follows.map (follows_ite static_follows.map
    (follows_ite onDemand_follows.map (follows_refuse _)))

theorem edf_follows : Follows Dec.fillEdf edfLayout :=
  u32.follows.bind fun _ => u32.follows.bind fun _ => u32.follows.bind fun _ =>
    follows_word fun n => (Arr.follows_read u32.follows n).map

/-- The parameters follow the word that says which algorithm they are of. -/
theorem params_follows : Follows Dec.fillParams paramsLayout :=
  follows_word fun _ => follows_ite static_follows.map (follows_ite nvs_follows.map
    (follows_ite scn19_follows.map (follows_ite edf_follows.map (follows_refuse _))))

/-- A string is copied into a block of one octet more, which is none for the longest. -/
theorem string_follows (len : UInt32) : Follows (Dec.fillString len) (stringLayout len) := by
  have hlt := len.toNat_lt
  have hsucc : (len + 1).toNat = (len.toNat + 1) % 2 ^ 32 := UInt32.toNat_add len 1
  have hmax : len = -1 ↔ len.toNat = 2 ^ 32 - 1 := UInt32.toNat_inj.symm
  have hpos : len > 0 ↔ 0 < len.toNat := UInt32.lt_iff_toNat_lt
  rw [Dec.fillString, stringLayout]
  by_cases hlen : len = -1
  · have hn := hmax.1 hlen
    have h := Arr.follows_copy (len + 1).toNat len
    rw [if_neg (by omega)] at h
    rwa [if_pos hlen, if_pos (hpos.2 (by omega))]
  · have hn : len.toNat ≠ 2 ^ 32 - 1 := fun h => hlen (hmax.2 h)
    rw [if_neg hlen]
    simp only [hpos]
    split
    · have h := Arr.follows_copy (len + 1).toNat len
      rwa [if_pos (by omega)] at h
    · rename_i hzero
      have h := Arr.follows_copy 0 len
      rwa [if_pos (by omega)] at h

/-- An id, the label, the scheduler, and the parameters. -/
theorem slice_follows : Follows Dec.fillSlice sliceLayout :=
  u32.follows.bind fun _ => follows_word fun lenLabel => (string_follows lenLabel).bind fun _ =>
    follows_word fun lenSched => (string_follows lenSched).bind fun _ => params_follows.map

/-- The slices of one direction, behind their count and the name of the scheduler. -/
theorem ulDl_follows : Follows Dec.fillUlDlSliceConf ulDlLayout :=
  follows_word fun lenSchedName => (string_follows lenSchedName).bind fun _ =>
    follows_word fun n => (Arr.follows_read slice_follows n).map

theorem sliceConf_follows : Follows Dec.fillSliceConf sliceConfLayout :=
  ulDl_follows.bind fun _ => ulDl_follows.map

theorem ueSliceConf_follows : Follows Dec.fillUeSliceConf ueSliceConfLayout :=
  have hassoc : Follows Dec.fillUeSliceAssoc (.seq field (.seq field (.skip u16.size))) :=
    u32.follows.bind fun _ => u32.follows.bind fun _ => u16.follows.map
  follows_word fun n => (Arr.follows_read hassoc n).map

/-- **An indication** is the two configurations, the UEs, and the time stamp. -/
theorem ind_follows : Follows Dec.indMsg indLayout :=
  sliceConf_follows.bind fun _ => ueSliceConf_follows.bind fun _ => i64.follows.map

theorem delSlice_follows : Follows Dec.fillDelSlice delSliceLayout :=
  follows_word fun lenDl => (Arr.follows_read u32.follows lenDl).bind fun _ =>
    follows_word fun lenUl => (Arr.follows_read u32.follows lenUl).map

/-- **A control message** goes by the word in front of it. -/
theorem ctrl_follows : Follows Dec.ctrlMsg ctrlLayout :=
  follows_word fun _ => follows_ite sliceConf_follows.map (follows_ite delSlice_follows.map
    (follows_ite ueSliceConf_follows.map (follows_refuse _)))

end Slice

/-! ## TC -/

namespace Tc

def field : Layout := .skip u32.size

def mtrLayout : Layout := .seq field field

def schLayout : Layout := .word fun type =>
  if type = 0 then .skip 0 else if type = 1 then .word fun lenQPrio => .rep lenQPrio.toNat field
  else .stop

def pcrLayout : Layout := .seq field (.seq field mtrLayout)

def clsLayout : Layout := .word fun type =>
  if type = 0 then field
  else if type = 1 then .word fun len => .rep len.toNat (.skip tcClsOsiFilter.size)
  else if type = 2 then field else .stop

def shpLayout : Layout := .seq field (.seq field (.seq field mtrLayout))

def plcLayout : Layout :=
  .seq field (.seq mtrLayout (.seq field (.seq field (.seq field (.seq field (.seq field field))))))

def qStatsLayout : Layout :=
  .seq field (.seq field (.seq field (.seq field (.seq field (.seq field (.skip i64.size))))))

def qLayout : Layout := .word fun type =>
  if type = 0 then qStatsLayout else if type = 1 then qStatsLayout
  else if type = 2 then qStatsLayout else .stop

def rowLayout : Layout :=
  .seq shpLayout (.seq .more (.seq plcLayout (.seq .more (.seq qLayout .more))))

/-- `tc_ind_msg_t`. -/
def indLayout : Layout :=
  .seq schLayout (.seq .more (.seq pcrLayout (.seq .more (.seq clsLayout (.seq .more
    (.word fun lenQ => .seq .more (.seq (.rep lenQ.toNat rowLayout) (.skip i64.size))))))))

/-- A scheduler goes by its type, and its priorities by their count. -/
theorem sch_follows : Follows Dec.tcDecSch schLayout :=
  follows_word fun _ => follows_ite (follows_pure _) (follows_ite
    (follows_word fun n => (Arr.follows_read u32.follows n).map) (follows_refuse _))

theorem mtr_follows : Follows Dec.tcDecMtr mtrLayout :=
  u32.follows.bind fun _ => u32.follows.map

theorem pcr_follows : Follows Dec.tcDecPcr pcrLayout :=
  u32.follows.bind fun _ => u32.follows.bind fun _ => mtr_follows.map

/-- A classifier goes by its type, and its filters by their count. -/
theorem cls_follows : Follows Dec.tcDecCls clsLayout :=
  have hosi : Follows Dec.tcDecClsOsi
      (.word fun len => .rep len.toNat (.skip tcClsOsiFilter.size)) :=
    follows_word fun n => Arr.follows_read tcClsOsiFilter.follows n
  follows_word fun _ => follows_ite u32.follows.map (follows_ite hosi.map
    (follows_ite u32.follows.map (follows_refuse _)))

theorem shp_follows : Follows Dec.tcDecShp shpLayout :=
  u32.follows.bind fun _ => u32.follows.bind fun _ => u32.follows.bind fun _ => mtr_follows.map

theorem drp_follows : Follows Dec.tcDecDrp field := u32.follows.map

theorem mrk_follows : Follows Dec.tcDecMrk field := u32.follows.map

theorem plc_follows : Follows Dec.tcDecPlc plcLayout :=
  u32.follows.bind fun _ => mtr_follows.bind fun _ => drp_follows.bind fun _ =>
    mrk_follows.bind fun _ => u32.follows.bind fun _ => u32.follows.bind fun _ =>
      u32.follows.bind fun _ => u32.follows.map

/-- The statistics of a queue of any type. -/
theorem qStats_follows {α : Type} {dec : Reader α} (h : Follows dec field) :
    Follows (Dec.tcDecQStats dec) qStatsLayout :=
  u32.follows.bind fun _ => u32.follows.bind fun _ => u32.follows.bind fun _ =>
    u32.follows.bind fun _ => h.bind fun _ => u32.follows.bind fun _ => i64.follows.map

theorem q_follows : Follows Dec.tcDecQ qLayout :=
  follows_word fun _ => follows_ite (qStats_follows drp_follows).map
    (follows_ite (qStats_follows drp_follows).map
      (follows_ite (qStats_follows mrk_follows).map (follows_refuse _)))

/-- The assertion that there is something left is where a message may end. -/
theorem inside_follows : Follows Dec.inside .more := follows_left _

/-- A shaper, a policer and a queue, each behind such an assertion. -/
theorem row_follows : Follows Dec.row rowLayout :=
  shp_follows.bind fun _ => inside_follows.bind fun _ => plc_follows.bind fun _ =>
    inside_follows.bind fun _ => q_follows.bind fun _ => inside_follows.map

/-- **An indication** is a time stamp, the scheduler, the pacer, the classifier, and rows. -/
theorem ind_follows : Follows Dec.indMsg indLayout :=
  sch_follows.bind fun _ => inside_follows.bind fun _ => pcr_follows.bind fun _ =>
    inside_follows.bind fun _ => cls_follows.bind fun _ => inside_follows.bind fun _ =>
      follows_word fun n => inside_follows.bind fun _ =>
        (Arr.follows_read row_follows n).bind fun _ => i64.follows.map

/-! ### Control -/

def actLayout (add mod del : Layout) : Layout := .word fun act =>
  if act = 0 then add else if act = 1 then del else if act = 2 then mod else .stop

def clsULayout (osi : Layout) : Layout := .word fun type =>
  if type = 0 then field else if type = 1 then osi else if type = 2 then field else .stop

def addClsOsiLayout : Layout :=
  .seq (.skip i64.size) (.seq (.skip i64.size) (.seq (.skip i32.size) (.seq (.skip i32.size)
    (.seq (.skip i32.size) (.skip i32.size)))))

def ctrlClsLayout : Layout :=
  actLayout (clsULayout addClsOsiLayout) (clsULayout (.skip tcClsOsiFilter.size))
    (clsULayout field)

def modPlcLayout : Layout := .seq field (.seq field (.seq field (.seq field field)))

def queueULayout : Layout := .word fun type =>
  if type = 0 then field else if type = 1 then .seq field field
  else if type = 2 then .seq field field else .stop

def modSchLayout : Layout := .word fun type =>
  if type = 0 then field else if type = 1 then .word fun lenQPrio => .rep lenQPrio.toNat field
  else .stop

def modShpLayout : Layout := .seq field (.seq field (.seq field field))

def modPcrLayout : Layout := .word fun type =>
  if type = 0 then field else if type = 1 then .seq field (.skip i64.size) else .stop

/-- `tc_ctrl_msg_t`. -/
def ctrlLayout : Layout := .word fun type =>
  if type = 0 then ctrlClsLayout
  else if type = 1 then actLayout field modPlcLayout field
  else if type = 2 then actLayout queueULayout (.seq field queueULayout) (.seq field field)
  else if type = 3 then actLayout field modSchLayout field
  else if type = 4 then actLayout field modShpLayout field
  else if type = 5 then actLayout field modPcrLayout field
  else .stop

/-- To add, to modify or to delete, by the word in front. -/
theorem act_follows {α μ δ : Type} {msg : String} {decAdd : Reader α} {decMod : Reader μ}
    {decDel : Reader δ} {add mod del : Layout} (hadd : Follows decAdd add)
    (hmod : Follows decMod mod) (hdel : Follows decDel del) :
    Follows (CtrlDec.act msg decAdd decMod decDel) (actLayout add mod del) :=
  follows_word fun _ => follows_ite hadd.map (follows_ite hdel.map
    (follows_ite hmod.map (follows_refuse _)))

/-- A control of the classifier goes by the type of the classifier. -/
theorem clsU_follows {α : Type} {decOsi : Reader α} {osi : Layout} (h : Follows decOsi osi) :
    Follows (CtrlDec.clsU decOsi) (clsULayout osi) :=
  follows_word fun _ => follows_ite u32.follows.map (follows_ite h.map
    (follows_ite u32.follows.map (follows_refuse _)))

theorem addClsOsi_follows : Follows CtrlDec.decTcAddCtrlPayloadClsOsi addClsOsiLayout :=
  i64.follows.bind fun _ => i64.follows.bind fun _ => i32.follows.bind fun _ =>
    i32.follows.bind fun _ => i32.follows.bind fun _ => i32.follows.map

theorem modPlc_follows : Follows CtrlDec.decTcModCtrlPayloadPlc modPlcLayout :=
  u32.follows.bind fun _ => u32.follows.bind fun _ => u32.follows.bind fun _ =>
    u32.follows.bind fun _ => u32.follows.map

/-- A queue to add or modify goes by its type. -/
theorem queueU_follows : Follows CtrlDec.queueU queueULayout :=
  have hcodel : Follows CtrlDec.decTcCtrlPayloadQCodel (.seq field field) :=
    u32.follows.bind fun _ => u32.follows.map
  follows_word fun _ => follows_ite u32.follows.map (follows_ite hcodel.map
    (follows_ite hcodel.map (follows_refuse _)))

theorem modSch_follows : Follows CtrlDec.decTcModCtrlPayloadSch modSchLayout :=
  follows_word fun _ => follows_ite u32.follows.map (follows_ite
    (follows_word fun n => (Arr.follows_read u32.follows n).map) (follows_refuse _))

theorem modShp_follows : Follows CtrlDec.decTcModCtrlPayloadShp modShpLayout :=
  u32.follows.bind fun _ => u32.follows.bind fun _ => u32.follows.bind fun _ => u32.follows.map

theorem modPcr_follows : Follows CtrlDec.decTcModCtrlPayloadPcr modPcrLayout :=
  have hbdp : Follows CtrlDec.decTcModCtrlPayloadPcrBdp (.seq field (.skip i64.size)) :=
    u32.follows.bind fun _ => i64.follows.map
  follows_word fun _ => follows_ite u32.follows.map (follows_ite hbdp.map (follows_refuse _))

/-- **A control message** is for one of six targets, which the word in front names. -/
theorem ctrl_follows : Follows CtrlDec.ctrlMsg ctrlLayout := by
  have hcls : Follows CtrlDec.decTcCtrlPayloadCls ctrlClsLayout :=
    act_follows (clsU_follows addClsOsi_follows) (clsU_follows tcClsOsiFilter.follows)
      (clsU_follows u32.follows)
  have hq : Follows CtrlDec.decTcCtrlPayloadQ
      (actLayout queueULayout (.seq field queueULayout) (.seq field field)) :=
    act_follows queueU_follows (u32.follows.bind fun _ => queueU_follows.map)
      (u32.follows.bind fun _ => u32.follows.map)
  have hplc : Follows CtrlDec.decTcCtrlPayloadPlc (actLayout field modPlcLayout field) :=
    act_follows u32.follows modPlc_follows u32.follows
  have hsch : Follows CtrlDec.decTcCtrlPayloadSch (actLayout field modSchLayout field) :=
    act_follows u32.follows modSch_follows u32.follows
  have hshp : Follows CtrlDec.decTcCtrlPayloadShp (actLayout field modShpLayout field) :=
    act_follows u32.follows modShp_follows u32.follows
  have hpcr : Follows CtrlDec.decTcCtrlPayloadPcr (actLayout field modPcrLayout field) :=
    act_follows u32.follows modPcr_follows u32.follows
  exact follows_word fun _ => follows_ite hcls.map (follows_ite hplc.map (follows_ite hq.map
    (follows_ite hsch.map (follows_ite hshp.map (follows_ite hpcr.map (follows_refuse _))))))

end Tc

/-! ## The outcome of a SLICE control -/

namespace CtrlOutcomes

/-- A diagnostic has as many octets as the word in front says. -/
theorem diagnostic_follows (lenDiag : UInt32) :
    Follows (readDiagnostic lenDiag) (.skip lenDiag.toNat) := by
  unfold readDiagnostic
  split
  · have hcopy := Arr.follows_copy lenDiag.toNat lenDiag
    rwa [if_pos (Nat.le_refl _)] at hcopy
  · next hnone =>
    have hzero : lenDiag = 0 := UInt32.le_zero_iff.mp (UInt32.not_lt.mp hnone)
    subst hzero
    exact follows_pure _

/-- The outcome of a control is that word and the diagnostic. -/
theorem ctrlOut_follows : Follows sliceDecCtrlOut (.word fun lenDiag => .skip lenDiag.toNat) :=
  follows_word fun lenDiag => (diagnostic_follows lenDiag).map

/-- What is read past the end is not safe. -/
theorem not_safe_of_past {bs : List Octet}
    (h : sliceDecCtrlOut bs = .overread ∨ sliceDecCtrlOut bs = .overwrite) :
    ¬Safe sliceDecCtrlOut bs (sliceDecCtrlOutPlain bs) := by
  rintro (⟨msg, hmsg⟩ | ⟨a, -, hall⟩)
  · obtain heq | heq := h <;> rw [sliceDecCtrlOutPlain, heq] at hmsg <;> cases hmsg
  · obtain heq | heq := h <;> rw [heq] at hall <;> cases hall

/-- The diagnostic is read by its length, and what is behind it is not looked at. -/
theorem ctrlOut_safe_iff (bs : List Octet) :
    Safe sliceDecCtrlOut bs (sliceDecCtrlOutPlain bs) ↔ 4 + (front bs).toNat = bs.length := by
  have hs := ctrlOut_follows bs
  have hleft : (bs.drop 4).length = bs.length - 4 := List.length_drop
  rw [Layout.span] at hs
  split at hs
  · rw [Layout.span] at hs
    split at hs
    · obtain ⟨a, ha⟩ := hs
      have hdone : sliceDecCtrlOutPlain bs = .done a := by rw [sliceDecCtrlOutPlain, ha]; rfl
      rw [Safe, hdone, ha]
      simp only [reduceCtorEq, exists_false, false_or, Access.done_inj, Prod.mk.injEq,
        exists_eq_left', true_and, List.drop_eq_nil_iff]
      omega
    · exact iff_of_false (not_safe_of_past hs) (by omega)
  · exact iff_of_false (not_safe_of_past hs) (by omega)

end CtrlOutcomes

/-! ## All of them -/

/-- **The plain decoders stay inside their buffer** when and only when it holds what it announces,
or a first check of its length rejects it.  The headers, and control messages of one word, always
do.  The outcome of a SLICE control is nothing more than it announces. -/
theorem decoders_safe_iff (bs : List Octet) :
    (Safe Stats.macDecIndMsg bs (Stats.macDecIndMsgPlain bs) ↔ Stats.Announced 208 8 bs) ∧
    (Safe Stats.rlcDecIndMsg bs (Stats.rlcDecIndMsgPlain bs) ↔
      (Stats.rlcLenOk bs → Stats.Announced 152 8 bs)) ∧
    (Safe Stats.pdcpDecIndMsg bs (Stats.pdcpDecIndMsgPlain bs) ↔
      (12 ≤ bs.length → Stats.Announced 68 8 bs)) ∧
    (Safe Stats.gtpDecIndMsg bs (Stats.gtpDecIndMsgPlain bs) ↔
      (Stats.gtpLenOk bs → Stats.Announced 48 21 bs)) ∧
    (Safe Slice.Dec.indMsg bs (Slice.Dec.sliceDecIndMsgPlain bs) ↔ Slice.indLayout.Holds bs) ∧
    (Safe Slice.Dec.ctrlMsg bs (Slice.Dec.sliceDecCtrlMsgPlain bs) ↔ Slice.ctrlLayout.Holds bs) ∧
    (Safe Tc.Dec.indMsg bs (Tc.Dec.tcDecIndMsgPlain bs) ↔ Tc.indLayout.Holds bs) ∧
    (Safe Tc.CtrlDec.ctrlMsg bs (Tc.CtrlDec.tcDecCtrlMsgPlain bs) ↔
      (0 < bs.length → Tc.ctrlLayout.Holds bs)) ∧
    (Safe CtrlOutcomes.sliceDecCtrlOut bs (CtrlOutcomes.sliceDecCtrlOutPlain bs) ↔
      4 + (front bs).toNat = bs.length) ∧
    Safe u32.read bs (Stats.wordDecPlain bs) :=
  ⟨Stats.mac_safe_iff bs, Stats.rlc_safe_iff bs, Stats.pdcp_safe_iff bs, Stats.gtp_safe_iff bs,
    follows_safe_iff Slice.ind_follows _ bs, follows_safe_iff Slice.ctrl_follows _ bs,
    follows_safe_iff Tc.ind_follows _ bs,
    Stats.safe_ite (follows_safe_iff Tc.ctrl_follows _ bs), CtrlOutcomes.ctrlOut_safe_iff bs,
    Stats.word_safe bs⟩

/-- One RLC bearer is announced in twelve octets. -/
def shortRlc : List Octet := [1, 0, 0, 0, 0, 0, 0, 0, 0, 0, 0, 0]

/-- The bearer is read past the end of the message. -/
theorem decoders_not_safe :
    ¬ ∀ bs, Safe Stats.rlcDecIndMsg bs (Stats.rlcDecIndMsgPlain bs) := by
  intro h
  exact absurd ((Stats.rlc_safe_iff shortRlc).1 (h shortRlc)) (by decide)

end FlexRic
