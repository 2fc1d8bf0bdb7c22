import FlexRic.Sm.TcCtrlPlain

/-!
# FlexRic.Sm.TcCtrlRoundTrip

TC control messages through the plain encoder and decoder.

All but one come back.  The size of a new OSI filter counts the filter of
layer 7, which the encoder does not write: it ends four octets short of the
block and fails its assertion.
-/

namespace FlexRic

namespace Tc

open Plain

variable {k : Nat}

/-! ## Actions and variants -/

/-- Values of a type that come back. -/
def AllCode {α : Type} (cal : α → Nat) (enc : α → Writer) (dec : Reader α) : Prop :=
  ∀ k a, Codes k (cal a) (enc a) dec a

theorem allCode_u32 : AllCode (fun _ => u32.size) u32.write u32.read := fun _ a => u32.codes a

/-- **An action comes back where its members do.** -/
theorem CtrlAct.codes {α μ δ : Type} {calAdd : α → Nat} {calMod : μ → Nat} {calDel : δ → Nat}
    {encAdd : α → Writer} {encMod : μ → Writer} {encDel : δ → Writer} {decAdd : Reader α}
    {decMod : Reader μ} {decDel : Reader δ} {msg : String} (v : CtrlAct α μ δ)
    (hadd : ∀ a, v = add a → Codes k (calAdd a) (encAdd a) decAdd a)
    (hmod : AllCode calMod encMod decMod) (hdel : AllCode calDel encDel decDel) :
    Codes k (CtrlCal.act calAdd calMod calDel v) (CtrlEnc.act encAdd encMod encDel v)
      (CtrlDec.act msg decAdd decMod decDel) v := by
  cases v with
  | add a => exact .of_eq ((u32.codes _).bind (hadd a rfl).map) rfl
  | mod m => exact .of_eq ((u32.codes _).bind (hmod k m).map) rfl
  | del d => exact .of_eq ((u32.codes _).bind (hdel k d).map) rfl

/-- A control of the classifier, by the codec of its variant. -/
theorem ClsU.codes {α : Type} {cal : α → Nat} {enc : α → Writer} {dec : Reader α} (v : ClsU α)
    (h : ∀ a, v = osi a → Codes k (cal a) (enc a) dec a) :
    Codes k (CtrlCal.clsU cal v) (CtrlEnc.clsU enc v) (CtrlDec.clsU dec) v := by
  cases v with
  | rr dummy => exact (u32.codes _).bind (u32.codes dummy).map
  | osi a => exact .of_eq ((u32.codes _).bind (h a rfl).map) rfl
  | sto dummy => exact (u32.codes _).bind (u32.codes dummy).map

theorem CtrlQueueCodel.codes (v : CtrlQueueCodel) :
    Codes k (CtrlCal.calTcCtrlPayloadQCodel v) (CtrlEnc.encTcCtrlPayloadQCodel v)
      CtrlDec.decTcCtrlPayloadQCodel v :=
  (u32.codes _).bind (u32.codes _).map

/-- A queue, by its type. -/
theorem QueueU.codes (v : QueueU) :
    Codes k (CtrlCal.queueU v) (CtrlEnc.queueU v) CtrlDec.queueU v := by
  cases v with
  | fifo dummy => exact (u32.codes _).bind (u32.codes dummy).map
  | codel v => exact .of_eq ((u32.codes _).bind v.codes.map) rfl
  | ecn v => exact .of_eq ((u32.codes _).bind v.codes.map) rfl

/-! ## Targets -/

theorem ModCtrlPlc.codes (v : ModCtrlPlc) :
    Codes k (CtrlCal.calTcModCtrlPayloadPlc v) (CtrlEnc.encTcModCtrlPayloadPlc v)
      CtrlDec.decTcModCtrlPayloadPlc v :=
  .of_eq ((u32.codes _).bind ((u32.codes _).bind ((u32.codes _).bind ((u32.codes _).bind
    (u32.codes _).map)))) rfl

theorem ModCtrlQueue.codes (v : ModCtrlQueue) :
    Codes k (CtrlCal.calTcCtrlPayloadQMod v) (CtrlEnc.encTcModCtrlPayloadQ v)
      CtrlDec.decTcModCtrlPayloadQ v :=
  .of_eq ((u32.codes _).bind v.u.codes.map) rfl

theorem DelCtrlQueue.codes (v : DelCtrlQueue) :
    Codes k (CtrlCal.calTcCtrlPayloadQDel v) (CtrlEnc.encTcDelCtrlPayloadQ v)
      CtrlDec.decTcDelCtrlPayloadQ v :=
  (u32.codes _).bind (u32.codes _).map

/-- A scheduler with its priorities. -/
theorem sch_codes (v : TcSch) :
    Codes k (CtrlCal.calTcCtrlPayloadSchMod v) (CtrlEnc.encTcModCtrlPayloadSch v)
      CtrlDec.decTcModCtrlPayloadSch v := by
  cases v with
  | rr dummy => exact (u32.codes _).bind (u32.codes dummy).map
  | prio qPrio =>
    exact .of_eq ((u32.codes _).bind ((u32.codes _).bind (Arr.codes_scalar u32 qPrio).map)) rfl

theorem ModCtrlShp.codes (v : ModCtrlShp) :
    Codes k (CtrlCal.calTcCtrlPayloadShpMod v) (CtrlEnc.encTcModCtrlPayloadShp v)
      CtrlDec.decTcModCtrlPayloadShp v :=
  .of_eq ((u32.codes _).bind ((u32.codes _).bind ((u32.codes _).bind (u32.codes _).map))) rfl

theorem ModCtrlPcr.codes (v : ModCtrlPcr) :
    Codes k (CtrlCal.calTcCtrlPayloadPcrMod v) (CtrlEnc.encTcModCtrlPayloadPcr v)
      CtrlDec.decTcModCtrlPayloadPcr v := by
  cases v with
  | dummy dummy => exact (u32.codes _).bind (u32.codes dummy).map
  | bdp bdp =>
    have hbdp : Codes k _ (CtrlEnc.encTcModCtrlPayloadPcrBdp bdp)
        CtrlDec.decTcModCtrlPayloadPcrBdp bdp := (u32.codes _).bind (i64.codes _).map
    exact .of_eq ((u32.codes _).bind hbdp.map) rfl

/-! ## Messages -/

namespace TcCtrlMsg

/-- A new OSI filter. -/
def IsAddOsi (msg : TcCtrlMsg) : Prop := ∃ osi, msg = .cls (.add (.osi osi))

/-- As many octets are written as were computed, and what is read is the message. -/
def ComesBack (msg : TcCtrlMsg) : Prop :=
  ∃ bs, CtrlEnc.tcEncCtrlMsgPlain msg = .done bs ∧ bs.length = CtrlCal.calTcCtrlPayload msg ∧
    CtrlDec.tcDecCtrlMsgPlain bs = .done msg

/-- **Every message but a new OSI filter.** -/
theorem codes {msg : TcCtrlMsg} (h : ¬ msg.IsAddOsi) :
    Codes k (CtrlCal.calTcCtrlPayload msg) (CtrlEnc.ctrlMsg msg) CtrlDec.ctrlMsg msg := by
  cases msg with
  | cls v =>
    have hcls : Codes k (CtrlCal.calTcCtrlPayloadCls v) (CtrlEnc.encTcCtrlPayloadCls v)
        CtrlDec.decTcCtrlPayloadCls v := by
      refine v.codes (fun a ha => a.codes fun osi hosi => ?_)
        (fun _ m => m.codes fun flt _ => tcClsOsiFilter.codes flt)
        (fun _ d => d.codes fun id _ => u32.codes id)
      exact absurd ⟨osi, by rw [ha, hosi]⟩ h
    exact .of_eq ((u32.codes _).bind hcls.map) rfl
  | plc v =>
    have hplc : Codes k _ (CtrlEnc.encTcCtrlPayloadPlc v) CtrlDec.decTcCtrlPayloadPlc v :=
      v.codes (fun a _ => u32.codes a) (fun _ m => m.codes) allCode_u32
    exact .of_eq ((u32.codes _).bind hplc.map) rfl
  | q v =>
    have hq : Codes k _ (CtrlEnc.encTcCtrlPayloadQ v) CtrlDec.decTcCtrlPayloadQ v :=
      v.codes (fun a _ => a.codes) (fun _ m => m.codes) fun _ d => d.codes
    exact .of_eq ((u32.codes _).bind hq.map) rfl
  | sch v =>
    have hsch : Codes k _ (CtrlEnc.encTcCtrlPayloadSch v) CtrlDec.decTcCtrlPayloadSch v :=
      v.codes (fun a _ => u32.codes a) (fun _ m => sch_codes m) allCode_u32
    exact .of_eq ((u32.codes _).bind hsch.map) rfl
  | shp v =>
    have hshp : Codes k _ (CtrlEnc.encTcCtrlPayloadShp v) CtrlDec.decTcCtrlPayloadShp v :=
      v.codes (fun a _ => u32.codes a) (fun _ m => m.codes) allCode_u32
    exact .of_eq ((u32.codes _).bind hshp.map) rfl
  | pcr v =>
    have hpcr : Codes k _ (CtrlEnc.encTcCtrlPayloadPcr v) CtrlDec.decTcCtrlPayloadPcr v :=
      v.codes (fun a _ => u32.codes a) (fun _ m => m.codes) allCode_u32
    exact .of_eq ((u32.codes _).bind hpcr.map) rfl

/-- The filter of layer 7 is counted and not written. -/
theorem enc_addOsi (osi : AddClsOsi) :
    CtrlEnc.tcEncCtrlMsgPlain (.cls (.add (.osi osi))) = .refused "it == ba.buf + ba.len" := by
  have hosi : Codes u32.size _ (CtrlEnc.encTcAddCtrlPayloadClsOsi osi)
      CtrlDec.decTcAddCtrlPayloadClsOsi { osi with l7 := 0 } :=
    (i64.codes _).bind ((i64.codes _).bind ((i32.codes _).bind ((i32.codes _).bind
      ((i32.codes _).bind (i32.codes _).map))))
  have hmsg : Codes u32.size _ (CtrlEnc.ctrlMsg (.cls (.add (.osi osi)))) CtrlDec.ctrlMsg
      (.cls (.add (.osi { osi with l7 := 0 }))) :=
    (u32.codes _).bind (Codes.map (g := TcCtrlMsg.cls)
      ((u32.codes _).bind (Codes.map (g := CtrlAct.add) ((u32.codes _).bind hosi.map))))
  exact hmsg.mismatch (Nat.le_refl 48) (by decide) _

/-- **A control message comes back** unless it adds filters. -/
theorem comesBack {msg : TcCtrlMsg} (h : ¬ msg.IsAddOsi) : msg.ComesBack := by
  obtain ⟨bs, hfill, hlen, hdec⟩ := (codes h).whole "it == ba.buf + ba.len" "ctrl_msg + len == it"
  refine ⟨bs, hfill, hlen, ?_⟩
  have hpos : bs.length > 0 := by
    rw [hlen]
    cases msg <;> exact Nat.add_pos_left (by decide) _
  rw [CtrlDec.tcDecCtrlMsgPlain, if_pos hpos, hdec]

end TcCtrlMsg

/-- **TC control messages come back**, of any target, action and variant, but for a new OSI
filter. -/
theorem tc_ctrl_roundTrip (msg : TcCtrlMsg) : msg.ComesBack ↔ ¬ msg.IsAddOsi := by
  refine ⟨?_, TcCtrlMsg.comesBack⟩
  rintro ⟨bs, henc, -, -⟩ ⟨osi, rfl⟩
  rw [TcCtrlMsg.enc_addOsi] at henc
  cases henc

/-- A new OSI filter that matches everything is not sent. -/
theorem tc_ctrl_not_roundTrip :
    ¬ (TcCtrlMsg.cls (.add (.osi ⟨⟨-1, -1⟩, ⟨-1, -1, -1⟩, 0, 0⟩))).ComesBack := by
  rintro ⟨bs, henc, -, -⟩
  rw [TcCtrlMsg.enc_addOsi] at henc
  cases henc

end Tc

end FlexRic
