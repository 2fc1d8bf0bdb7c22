import FlexRic.Sm.TcIndPlain

/-!
# FlexRic.Sm.TcIndRoundTrip

TC indications through the plain encoder and decoder.

What is read back is the message `sent`: the one without the ids of its queues
and without the field of a round robin scheduler, which are not written.
-/

namespace FlexRic

namespace Tc

open Plain

variable {k : Nat}

/-! ## What is sent -/

def TcSch.sent : TcSch → TcSch
  | rr _ => rr 0
  | prio qPrio => prio qPrio

def TcQueue.sent (q : TcQueue) : TcQueue := { q with id := 0 }

def TcRow.sent (row : TcRow) : TcRow := { row with q := row.q.sent }

def TcIndMsg.sent (msg : TcIndMsg) : TcIndMsg :=
  { msg with sch := msg.sch.sent, rows := msg.rows.map TcRow.sent }

/-! ## Parts -/

/-- A scheduler comes back as it is sent: the dummy of a round robin is not. -/
theorem TcSch.codes (sch : TcSch) :
    Codes k (Cal.calSchPayload sch) (Enc.tcEncSch sch) Dec.tcDecSch sch.sent := by
  cases sch with
  | rr dummy => exact .of_eq ((u32.codes _).bind (codes_pure _)) rfl
  | prio qPrio =>
    refine .of_eq ((u32.codes _).bind ((u32.codes _).bind (Arr.codes_scalar u32 qPrio).map)) ?_
    rw [Cal.calSchPayload, Nat.mul_comm, Nat.add_assoc]

theorem TcMtr.codes (mtr : TcMtr) :
    Codes k (Cal.calMtrPayload mtr) (Enc.tcEncMtr mtr) Dec.tcDecMtr mtr :=
  (u32.codes _).bind (u32.codes _).map

theorem TcPcr.codes (pcr : TcPcr) :
    Codes k (Cal.calPcrPayload pcr) (Enc.tcEncPcr pcr) Dec.tcDecPcr pcr :=
  .of_eq ((u32.codes _).bind ((u32.codes _).bind pcr.mtr.codes.map)) rfl

theorem TcCls.codes (cls : TcCls) :
    Codes k (Cal.calClsPayload cls) (Enc.tcEncCls cls) Dec.tcDecCls cls := by
  cases cls with
  | rr dummy => exact (u32.codes _).bind (u32.codes dummy).map
  | osi flt =>
    have hflt : Codes k _ (Enc.tcEncClsOsi flt) Dec.tcDecClsOsi flt :=
      (u32.codes _).bind (Arr.codes_scalar tcClsOsiFilter flt)
    refine .of_eq ((u32.codes _).bind hflt.map) ?_
    rw [Cal.calClsPayload, Nat.mul_comm]
  | sto dummy => exact (u32.codes _).bind (u32.codes dummy).map

theorem TcShp.codes (shp : TcShp) :
    Codes k (Cal.calShpPayload shp) (Enc.tcEncShp shp) Dec.tcDecShp shp :=
  .of_eq ((u32.codes _).bind ((u32.codes _).bind ((u32.codes _).bind shp.mtr.codes.map))) rfl

theorem TcDrp.codes (drp : TcDrp) :
    Codes k (Cal.calDrpPayload drp) (Enc.tcEncDrp drp) Dec.tcDecDrp drp :=
  (u32.codes _).map

theorem TcMrk.codes (mrk : TcMrk) :
    Codes k (Cal.calMrkPayload mrk) (Enc.tcEncMrk mrk) Dec.tcDecMrk mrk :=
  (u32.codes _).map

theorem TcPlc.codes (plc : TcPlc) :
    Codes k (Cal.calPlcPayload plc) (Enc.tcEncPlc plc) Dec.tcDecPlc plc :=
  .of_eq ((u32.codes _).bind (plc.mtr.codes.bind (plc.drp.codes.bind (plc.mrk.codes.bind
    ((u32.codes _).bind ((u32.codes _).bind ((u32.codes _).bind (u32.codes _).map))))))) rfl

/-- The statistics of a queue, by the codec of what is special in them. -/
theorem TcQueueStats.codes {α : Type} {cal : α → Nat} {enc : α → Writer} {dec : Reader α}
    (h : ∀ k a, Codes k (cal a) (enc a) dec a) (q : TcQueueStats α) :
    Codes k (Cal.calQStats cal q) (Enc.tcEncQStats enc q) (Dec.tcDecQStats dec) q :=
  .of_eq ((u32.codes _).bind ((u32.codes _).bind ((u32.codes _).bind ((u32.codes _).bind
    ((h _ q.cnt).bind ((u32.codes _).bind (i64.codes _).map))))))
    (by simp only [Cal.calQStats, Nat.add_assoc])

/-- A queue comes back without its id. -/
theorem TcQueue.codes (q : TcQueue) :
    Codes k (Cal.calQPayload q) (Enc.tcEncQ q) Dec.tcDecQ q.sent := by
  obtain ⟨id, u⟩ := q
  cases u with
  | fifo q => exact .of_eq ((u32.codes _).bind (q.codes fun _ drp => drp.codes).map) rfl
  | codel q => exact .of_eq ((u32.codes _).bind (q.codes fun _ drp => drp.codes).map) rfl
  | ecn q => exact .of_eq ((u32.codes _).bind (q.codes fun _ mrk => mrk.codes).map) rfl

/-- The assertion behind a part, where there is more to come. -/
theorem inside_codes (hk : 0 < k) : Codes k 0 Enc.inside Dec.inside () := codes_left hk

/-- A row comes back; something has to be left behind it, or it would be the end. -/
theorem TcRow.codes (row : TcRow) (hk : 0 < k) :
    Codes k (Cal.calRow row) (Enc.row row) Dec.row row.sent := by
  refine .of_eq (row.shp.codes.bind ((inside_codes ?_).bind (row.plc.codes.bind
    ((inside_codes ?_).bind (row.q.codes.bind (inside_codes ?_).map))))) ?_
  · omega
  · omega
  · omega
  · rw [Cal.calRow]
    omega

/-- **The octets that are computed are written, and the message that is sent comes of them.** -/
theorem TcIndMsg.codes (msg : TcIndMsg) :
    Codes 0 (Cal.calIndMsgPayload msg) (Enc.indMsg msg) Dec.indMsg msg.sent := by
  have hi64 : 0 < i64.size := by decide
  have hrow (row : TcRow) (k' : Nat) (hk' : k' ≥ i64.size + 0) :
      Codes k' (Cal.calRow row) (Enc.row row) Dec.row row.sent := row.codes (by omega)
  have hrows : Codes (i64.size + 0) _ (forEach Enc.row msg.rows.items) _
      (msg.rows.map TcRow.sent) := Arr.codes_map fun row _ => hrow row
  refine .of_eq (msg.sch.codes.bind ((inside_codes ?_).bind (msg.pcr.codes.bind
    ((inside_codes ?_).bind (msg.cls.codes.bind ((inside_codes ?_).bind ((u32.codes _).bind
      ((inside_codes ?_).bind (hrows.bind (i64.codes msg.tstamp).map))))))))) ?_
  · omega
  · omega
  · omega
  · omega
  · rw [Cal.calIndMsgPayload]
    omega

/-! ## Messages -/

namespace TcIndMsg

/-- As many octets are written as were computed, and what is read is the message. -/
def ComesBack (msg : TcIndMsg) : Prop :=
  ∃ bs, Enc.tcEncIndMsgPlain msg = .done bs ∧ bs.length = Cal.calIndMsgPayload msg ∧
    Dec.tcDecIndMsgPlain bs = .done msg

/-- An indication comes back where it is what is sent of it. -/
theorem comesBack_iff_sent (msg : TcIndMsg) : msg.ComesBack ↔ msg.sent = msg := by
  obtain ⟨bs, hfill, hlen, hdec⟩ := msg.codes.whole "Mismatch of data layout" "Data layout mismacth"
  constructor
  · rintro ⟨bs', henc, -, hback⟩
    obtain rfl : bs = bs' := Access.done_inj.1 (hfill.symm.trans henc)
    exact Access.done_inj.1 (hdec.symm.trans hback)
  · intro hsent
    rw [hsent] at hdec
    exact ⟨bs, hfill, hlen, hdec⟩

/-- The ids of the queues and the field of a round robin scheduler are zero. -/
def Unnumbered (msg : TcIndMsg) : Prop :=
  (∀ dummy, msg.sch = .rr dummy → dummy = 0) ∧ ∀ row ∈ msg.rows.items, row.q.id = 0

/-- A scheduler is sent whole but for the dummy of a round robin. -/
theorem sch_sent_eq_iff (sch : TcSch) : sch.sent = sch ↔ ∀ dummy, sch = .rr dummy → dummy = 0 := by
  cases sch with
  | rr dummy => simp [TcSch.sent, eq_comm]
  | prio qPrio => simp [TcSch.sent]

/-- A row is sent whole but for the id of its queue. -/
theorem row_sent_eq_iff (row : TcRow) : row.sent = row ↔ row.q.id = 0 := by
  obtain ⟨shp, plc, ⟨id, u⟩⟩ := row
  simp [TcRow.sent, TcQueue.sent, eq_comm]

/-- **and an indication** where these are zero. -/
theorem sent_eq_iff (msg : TcIndMsg) : msg.sent = msg ↔ msg.Unnumbered := by
  obtain ⟨sch, pcr, cls, rows, tstamp⟩ := msg
  have hrows : rows.map TcRow.sent = rows ↔ ∀ row ∈ rows.items, row.sent = row := by
    rw [Arr.ext_iff]
    exact ⟨fun h => List.map_eq_map_iff.1 (h.trans (List.map_id _).symm),
      fun h => (List.map_congr_left h).trans (List.map_id _)⟩
  simp [sent, Unnumbered, sch_sent_eq_iff, hrows, row_sent_eq_iff]

end TcIndMsg

/-- **TC indications come back** when and only when nothing is in the fields that are not
written: the ids of the queues, and the field of a round robin scheduler. -/
theorem tc_ind_roundTrip (msg : TcIndMsg) : msg.ComesBack ↔ msg.Unnumbered :=
  msg.comesBack_iff_sent.trans msg.sent_eq_iff

/-- One queue with the id 7. -/
def queueMsg : TcIndMsg where
  sch := .rr 0
  pcr := ⟨1, 0, 0, 0⟩
  cls := .rr 0
  rows := ⟨[⟨⟨0, 1, 0, 0, 0⟩, ⟨0, ⟨0, 0⟩, ⟨0⟩, ⟨0⟩, 0, 1, 0, 0⟩,
    ⟨7, .fifo ⟨0, 0, 0, 0, ⟨0⟩, 0, 0⟩⟩⟩], by decide⟩
  tstamp := 0

/-- The id of the queue is lost. -/
theorem tc_ind_not_roundTrip : ¬ queueMsg.ComesBack := by
  rw [TcIndMsg.comesBack_iff_sent]
  decide

end Tc

end FlexRic
