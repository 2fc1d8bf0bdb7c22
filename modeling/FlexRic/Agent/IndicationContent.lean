import FlexRic.Agent.E2Agent
import FlexRic.Sm.StatsPlain
import Mathlib.Tactic.Ring

/-!
# FlexRic.Agent.IndicationContent

What the event loop does to the bytes of an aperiodic indication, between the
service model's `on_indication` and the encoder of E2AP
(`print_exp_indication_data` and `generate_aindication` of `agent/e2_agent.c`).

* The last 13 bytes of the message are taken for a handover, and stored at the
  place it has in a `gtp_ind_msg_t`, which is not the place it has in the bytes.
* `aperiodic_content_iff`: which messages stay as they are, and which GTP
  messages come back.
-/

namespace FlexRic

open Plain Stats

/-! ## The loop -/

/-- `sm_ind_data_t`; the message and the process id can be `NULL`. -/
structure SmIndData where
  indHdr : List Octet
  indMsg : Option (List Octet)
  callProcessId : Option (List Octet)
  deriving DecidableEq

/-- `ric_indication_t` of an aperiodic event, with its bytes. -/
structure RicIndicationBytes where
  ricId : RicGenId
  actionId : UInt8
  hdr : List Octet
  msg : Option (List Octet)
  callProcessId : Option (List Octet)
  deriving DecidableEq

/-- `offsetof(gtp_ind_msg_t, ho_info)`: a pointer, a `uint32_t` and an `int64_t`, packed. -/
def hoInfoOffset : Nat := 8 + 4 + 8

/-- `extract_handover_info`. -/
def extractHandoverInfo (buffer : List Octet) : Access GtpHoInfo :=
  if buffer.length < 13 then
    .done { ueId := 0, sourceDu := 0, targetDu := 0, hoComplete := false }
  else do
    let words ← load (buffer.length - 13) 12 buffer
    let last ← load (buffer.length - 13 + 12) 1 buffer
    return gtpHoInfo.ofOctets (words ++ last)

/-- `msg->ho_info = ho_info`, of the bytes of a message. -/
def storeHandover (msg : List Octet) : Access (List Octet) := do
  let hoInfo ← extractHandoverInfo msg
  store hoInfoOffset (gtpHoInfo.octets hoInfo) msg

/-- `print_exp_indication_data`; there is no value where the condition does not match. -/
def printExpIndicationData : Option SmIndData → Access (Option SmIndData)
  | some { indHdr, indMsg := some msg, callProcessId } => do
    let msg ← storeHandover msg
    return some { indHdr, indMsg := some msg, callProcessId }
  | exp => .done exp

/-- `generate_aindication`, with the bytes. -/
def generateAindicationBytes (data : SmIndData) (aiEv : AindEvent) : RicIndicationBytes where
  ricId := aiEv.ricId
  actionId := aiEv.actionId
  hdr := data.indHdr
  msg := data.indMsg
  callProcessId := data.callProcessId

/-- What the loop encodes and sends, if anything, of what `on_indication` returned. -/
def aperiodicIndication (exp : Option SmIndData) (aiEv : AindEvent) :
    Access (Option RicIndicationBytes) := do
  match ← printExpIndicationData exp with
  | none => return none
  | some data => return some (generateAindicationBytes data aiEv)

/-! ## Untouched, in bounds, and back -/

/-- What is sent is what the service model made. -/
def Untouched (exp : Option SmIndData) (aiEv : AindEvent) : Prop :=
  aperiodicIndication exp aiEv = .done (exp.map fun data => generateAindicationBytes data aiEv)

/-- Each access to the message is below its length. -/
def InBounds (exp : Option SmIndData) (aiEv : AindEvent) : Prop :=
  ∃ out, aperiodicIndication exp aiEv = .done out

/-- A GTP message is encoded, sent, and decoded to itself. -/
def GtpArrives (msg : GtpIndMsg) (hdr : List Octet) (aiEv : AindEvent) : Prop :=
  ∃ bs bs' : List Octet, gtpEncIndMsgPlain msg = .done bs ∧
    aperiodicIndication (some ⟨hdr, some bs, none⟩) aiEv =
      .done (some (generateAindicationBytes ⟨hdr, some bs', none⟩ aiEv)) ∧
    gtpDecIndMsgPlain bs' = .done msg

/-! ## The conditions -/

/-- The handover that the last 13 bytes are taken for. -/
def trailingHandover (msg : List Octet) : GtpHoInfo :=
  gtpHoInfo.ofOctets (msg.drop (msg.length - 13))

/-- There are 33 bytes, and the last 13 of them are those at the place of the handover in the
structure. -/
def Overlays (msg : List Octet) : Prop :=
  33 ≤ msg.length ∧ (msg.drop hoInfoOffset).take 13 = gtpHoInfo.octets (trailingHandover msg)

instance (msg : List Octet) : Decidable (Overlays msg) := inferInstanceAs (Decidable (_ ∧ _))

/-- The fields of a bearer that lie there hold the handover: the UE and the target, which runs
into the measurement behind the padding. -/
def CarriesHandover (ngut : GtpNguTStats) (hoInfo : GtpHoInfo) : Prop :=
  ngut.ueContextRntiT = hoInfo.ueId ∧
    (i64.octets ngut.ueContextMqrRsrp).take 5 =
      u32.octets hoInfo.targetDu ++ bool8.octets hoInfo.hoComplete

/-- There is a bearer, and the first one holds the handover. -/
def GtpOverlays (msg : GtpIndMsg) : Prop :=
  ∃ ngut ∈ msg.ngut.items.head?, CarriesHandover ngut msg.hoInfo

/-! ## Proofs: any service model -/

/-- The handover information has thirteen octets. -/
theorem length_octets_hoInfo (hoInfo : GtpHoInfo) : (gtpHoInfo.octets hoInfo).length = 13 :=
  gtpHoInfo.length_octets hoInfo

/-- The handover information is read off the end of a message that has thirteen octets. -/
theorem extractHandoverInfo_eq {msg : List Octet} (h : 13 ≤ msg.length) :
    extractHandoverInfo msg = .done (trailingHandover msg) := by
  have hwords : load (msg.length - 13) 12 msg =
      .done ((msg.drop (msg.length - 13)).take 12) := if_pos (by omega)
  have hlast : load (msg.length - 13 + 12) 1 msg =
      .done ((msg.drop (msg.length - 13 + 12)).take 1) := if_pos (by omega)
  have hlen : (msg.drop (msg.length - 13 + 12)).length ≤ 1 := by
    rw [List.length_drop]
    omega
  have happend : (msg.drop (msg.length - 13)).take 12 ++ (msg.drop (msg.length - 13 + 12)).take 1 =
      msg.drop (msg.length - 13) := by
    rw [List.take_of_length_le hlen, ← List.drop_drop, List.take_append_drop]
  unfold extractHandoverInfo
  rw [if_neg (by omega), Access.bind_of_done hwords, Access.bind_of_done hlast, happend]
  rfl

/-- The reading of the handover information always ends. -/
theorem extractHandoverInfo_done (msg : List Octet) :
    ∃ hoInfo, extractHandoverInfo msg = .done hoInfo := by
  by_cases h : msg.length < 13
  · exact ⟨_, if_pos h⟩
  · exact ⟨_, extractHandoverInfo_eq (by omega)⟩

/-- The thirteen octets at the end of a message are written at their fixed place. -/
theorem storeHandover_of_length {msg : List Octet} (h : 13 ≤ msg.length) :
    storeHandover msg = store hoInfoOffset (gtpHoInfo.octets (trailingHandover msg)) msg :=
  Access.bind_of_done (extractHandoverInfo_eq h)

/-- The structure has to fit into the message. -/
theorem storeHandover_done_iff (msg : List Octet) :
    (∃ out, storeHandover msg = .done out) ↔ 33 ≤ msg.length := by
  obtain ⟨hoInfo, hho⟩ := extractHandoverInfo_done msg
  have hlen := length_octets_hoInfo hoInfo
  unfold storeHandover
  rw [Access.bind_of_done hho, store, hlen, hoInfoOffset]
  by_cases h : 33 ≤ msg.length
  · rw [if_pos h]
    exact iff_of_true ⟨_, rfl⟩ h
  · rw [if_neg h]
    refine iff_of_false ?_ h
    rintro ⟨out, hout⟩
    cases hout

/-- **A message stays as it is** where it holds the handover twice. -/
theorem storeHandover_eq_self_iff (msg : List Octet) :
    storeHandover msg = .done msg ↔ Overlays msg := by
  by_cases h : 33 ≤ msg.length
  · have hlen := length_octets_hoInfo (trailingHandover msg)
    rw [storeHandover_of_length (by omega), store_eq_self_iff, hlen]
    rfl
  · refine iff_of_false (fun hself => ?_) fun ho => h ho.1
    exact h ((storeHandover_done_iff msg).mp ⟨msg, hself⟩)

/-- **What an aperiodic indication carries**: the message of the service model, with the handover
written into it. -/
theorem aperiodicIndication_eq (hdr msg : List Octet) (cpid : Option (List Octet))
    (aiEv : AindEvent) :
    aperiodicIndication (some ⟨hdr, some msg, cpid⟩) aiEv =
      storeHandover msg >>= fun msg' =>
        .done (some (generateAindicationBytes ⟨hdr, some msg', cpid⟩ aiEv)) := by
  have hprint : printExpIndicationData (some ⟨hdr, some msg, cpid⟩) =
      storeHandover msg >>= fun msg' => .done (some ⟨hdr, some msg', cpid⟩) := rfl
  unfold aperiodicIndication
  rw [hprint, Access.bind_bind]
  rfl

/-- What becomes of a message. -/
theorem aperiodicIndication_eq_done_iff {hdr msg msg' : List Octet} {cpid : Option (List Octet)}
    {aiEv : AindEvent} :
    aperiodicIndication (some ⟨hdr, some msg, cpid⟩) aiEv =
        .done (some (generateAindicationBytes ⟨hdr, some msg', cpid⟩ aiEv)) ↔
      storeHandover msg = .done msg' := by
  rw [aperiodicIndication_eq]
  cases h : storeHandover msg with
  | done out =>
    show Access.done (some (generateAindicationBytes ⟨hdr, some out, cpid⟩ aiEv)) = _ ↔ _
    simp [generateAindicationBytes]
  | refused m => exact iff_of_false (fun h => by cases h) fun h => by cases h
  | overread => exact iff_of_false (fun h => by cases h) fun h => by cases h
  | overwrite => exact iff_of_false (fun h => by cases h) fun h => by cases h

/-- A message is not changed if what is written is what was there. -/
theorem untouched_iff (exp : Option SmIndData) (aiEv : AindEvent) :
    Untouched exp aiEv ↔ ∀ data ∈ exp, ∀ msg ∈ data.indMsg, Overlays msg := by
  cases exp with
  | none => exact iff_of_true rfl fun _ h => by cases h
  | some data =>
    obtain ⟨hdr, indMsg, cpid⟩ := data
    cases indMsg with
    | none =>
      refine iff_of_true rfl fun data hdata msg hmsg => ?_
      cases hdata
      cases hmsg
    | some msg =>
      refine aperiodicIndication_eq_done_iff.trans ((storeHandover_eq_self_iff msg).trans ?_)
      simp

/-- A message has to reach behind the place that is written. -/
theorem inBounds_iff (exp : Option SmIndData) (aiEv : AindEvent) :
    InBounds exp aiEv ↔ ∀ data ∈ exp, ∀ msg ∈ data.indMsg, 33 ≤ msg.length := by
  cases exp with
  | none => exact iff_of_true ⟨_, rfl⟩ fun _ h => by cases h
  | some data =>
    obtain ⟨hdr, indMsg, cpid⟩ := data
    cases indMsg with
    | none =>
      refine iff_of_true ⟨_, rfl⟩ fun data hdata msg hmsg => ?_
      cases hdata
      cases hmsg
    | some msg =>
      have hdone : InBounds (some ⟨hdr, some msg, cpid⟩) aiEv ↔
          ∃ out, storeHandover msg = .done out := by
        unfold InBounds
        rw [aperiodicIndication_eq]
        constructor
        · rintro ⟨out, hout⟩
          obtain ⟨msg', hmsg', -⟩ := Access.bind_eq_done.mp hout
          exact ⟨msg', hmsg'⟩
        · rintro ⟨msg', hmsg'⟩
          exact ⟨_, Access.bind_of_done hmsg'⟩
      rw [hdone, storeHandover_done_iff]
      simp

/-! ## Proofs: GTP -/

/-- The bytes of a GTP message. -/
def gtpOctets (msg : GtpIndMsg) : List Octet :=
  u32.octets msg.ngut.len ++ (msg.ngut.items.flatMap gtpNguTStats.octets ++
    (i64.octets msg.tstamp ++ gtpHoInfo.octets msg.hoInfo))

/-- A GTP message has the size it says. -/
theorem length_gtpOctets (msg : GtpIndMsg) : (gtpOctets msg).length = gtpIndMsgSize msg := by
  have hflat (xs : List GtpNguTStats) :
      (xs.flatMap gtpNguTStats.octets).length = gtpNguTStats.size * xs.length := by
    induction xs with
    | nil => rfl
    | cons x xs ih =>
      rw [List.flatMap_cons, List.length_append, ih, Scalar.length_octets, List.length_cons]
      ring
  unfold gtpOctets gtpIndMsgSize
  rw [List.length_append, List.length_append, List.length_append, hflat, Scalar.length_octets,
    Scalar.length_octets, Scalar.length_octets]
  omega

/-- The encoder of a GTP message writes its octets. -/
theorem gtpEncIndMsgPlain_eq (msg : GtpIndMsg) :
    gtpEncIndMsgPlain msg = .done (gtpOctets msg) := by
  have hbearers := writes_forEach (k := (i64.octets msg.tstamp ++
    gtpHoInfo.octets msg.hoInfo).length + 0) (w := gtpNguTStats.write) (g := gtpNguTStats.octets)
    (fun x k => writes_put _) msg.ngut.items
  exact ((writes_put _).bind (hbearers.bind ((writes_put _).bind (writes_put _)))).fill
    (length_gtpOctets msg) _

/-! ### The first bearer -/

/-- What lies before the place of the handover in a bearer. -/
def ngutFront (ngut : GtpNguTStats) : List Octet :=
  u32.octets ngut.rnti ++ (u32.octets ngut.teidgnb ++ (u8.octets ngut.qfi ++
    (u8.octets ngut.teidupf ++ ((bool8.padded 1).octets ngut.ueContextHasMqr ++
      u32.octets ngut.ueContextRrcUeId))))

/-- What lies at that place. -/
def ngutSlot (ngut : GtpNguTStats) : List Octet :=
  (u32.padded 4).octets ngut.ueContextRntiT ++ (i64.octets ngut.ueContextMqrRsrp).take 5

/-- What lies behind it. -/
def ngutBack (ngut : GtpNguTStats) : List Octet :=
  (i64.octets ngut.ueContextMqrRsrp).drop 5 ++ (u64.octets ngut.ueContextMqrRsrq ++
    u64.octets ngut.ueContextMqrSinr)

/-- The handover information falls into one slot of the first bearer. -/
theorem octets_ngut (ngut : GtpNguTStats) :
    gtpNguTStats.octets ngut = ngutFront ngut ++ (ngutSlot ngut ++ ngutBack ngut) := by
  have hrsrp : (i64.octets ngut.ueContextMqrRsrp).take 5 ++ ((i64.octets
      ngut.ueContextMqrRsrp).drop 5 ++ (u64.octets ngut.ueContextMqrRsrq ++
        u64.octets ngut.ueContextMqrSinr)) =
      i64.octets ngut.ueContextMqrRsrp ++ (u64.octets ngut.ueContextMqrRsrq ++
        u64.octets ngut.ueContextMqrSinr) := by
    rw [← List.append_assoc, List.take_append_drop]
  unfold ngutFront ngutSlot ngutBack
  simp only [List.append_assoc, hrsrp]
  rfl

/-- The bearer with a handover at that place. -/
def overlaid (ngut : GtpNguTStats) (hoInfo : GtpHoInfo) : GtpNguTStats :=
  { ngut with
    ueContextRntiT := hoInfo.ueId
    ueContextMqrRsrp := i64.ofOctets (u32.octets hoInfo.targetDu ++
      bool8.octets hoInfo.hoComplete ++ (i64.octets ngut.ueContextMqrRsrp).drop 5) }

/-- The bearer is read back with the handover information in place of that slot. -/
theorem ofOctets_overlaid (ngut : GtpNguTStats) (hoInfo : GtpHoInfo) :
    gtpNguTStats.ofOctets (ngutFront ngut ++ (gtpHoInfo.octets hoInfo ++ ngutBack ngut)) =
      overlaid ngut hoInfo := by
  have hoctets : ngutFront ngut ++ (gtpHoInfo.octets hoInfo ++ ngutBack ngut) =
      u32.octets ngut.rnti ++ (u32.octets ngut.teidgnb ++ (u8.octets ngut.qfi ++
        (u8.octets ngut.teidupf ++ ((bool8.padded 1).octets ngut.ueContextHasMqr ++
          (u32.octets ngut.ueContextRrcUeId ++
            ((u32.octets hoInfo.ueId ++ u32.octets hoInfo.sourceDu) ++
              ((u32.octets hoInfo.targetDu ++ bool8.octets hoInfo.hoComplete ++
                (i64.octets ngut.ueContextMqrRsrp).drop 5) ++
                (u64.octets ngut.ueContextMqrRsrq ++
                  u64.octets ngut.ueContextMqrSinr)))))))) := by
    have hho : gtpHoInfo.octets hoInfo = u32.octets hoInfo.ueId ++ (u32.octets hoInfo.sourceDu ++
        (u32.octets hoInfo.targetDu ++ bool8.octets hoInfo.hoComplete)) := rfl
    unfold ngutFront ngutBack
    simp only [hho, List.append_assoc]
  have hslot : (u32.octets hoInfo.ueId ++ u32.octets hoInfo.sourceDu).length =
      (u32.padded 4).size := by
    rw [List.length_append, u32.length_octets, u32.length_octets]
    rfl
  have hrsrp : (u32.octets hoInfo.targetDu ++ bool8.octets hoInfo.hoComplete ++
      (i64.octets ngut.ueContextMqrRsrp).drop 5).length = i64.size := by
    rw [List.length_append, List.length_append, List.length_drop, u32.length_octets,
      bool8.length_octets, i64.length_octets]
    rfl
  rw [hoctets]
  unfold gtpNguTStats Scalar.equiv
  dsimp only
  rw [Scalar.pair_ofOctets _ _ (u32.length_octets _),
    Scalar.pair_ofOctets _ _ (u32.length_octets _),
    Scalar.pair_ofOctets _ _ (u8.length_octets _), Scalar.pair_ofOctets _ _ (u8.length_octets _),
    Scalar.pair_ofOctets _ _ ((bool8.padded 1).length_octets _),
    Scalar.pair_ofOctets _ _ (u32.length_octets _), Scalar.pair_ofOctets _ _ hslot,
    Scalar.pair_ofOctets _ _ hrsrp, Scalar.pair_ofOctets _ _ (u64.length_octets _),
    Scalar.padded_ofOctets _ (u32.length_octets _)]
  simp only [Scalar.ofOctets_octets]
  rfl

/-- A number is read from one sequence of eight octets. -/
theorem ofOctets_i64_eq_iff {bs : List Octet} (h : bs.length = 8) (v : Int64) :
    i64.ofOctets bs = v ↔ bs = i64.octets v := by
  have hback : i64.octets (i64.ofOctets bs) = bs := by
    have hlt : Octets.combine bs < 256 ^ bs.length := Octets.combine_lt bs
    show Octets.split 8 ((Octets.combine bs).toUInt64.toInt64.toUInt64).toNat = bs
    rw [h] at hlt
    rw [UInt64.toUInt64_toInt64, Nat.toUInt64, UInt64.toNat_ofNat',
      Nat.mod_eq_of_lt (Nat.lt_of_lt_of_eq hlt (by decide)), ← h, Octets.split_combine]
  constructor
  · rintro rfl
    exact hback.symm
  · rintro rfl
    exact i64.ofOctets_octets v

/-- The bearer is as it was where it carries the handover. -/
theorem overlaid_eq_self_iff (ngut : GtpNguTStats) (hoInfo : GtpHoInfo) :
    overlaid ngut hoInfo = ngut ↔ CarriesHandover ngut hoInfo := by
  have hlen : (u32.octets hoInfo.targetDu ++ bool8.octets hoInfo.hoComplete ++
      (i64.octets ngut.ueContextMqrRsrp).drop 5).length = 8 := by
    rw [List.length_append, List.length_append, List.length_drop, u32.length_octets,
      bool8.length_octets, i64.length_octets]
    rfl
  have hrsrp : u32.octets hoInfo.targetDu ++ bool8.octets hoInfo.hoComplete ++
      (i64.octets ngut.ueContextMqrRsrp).drop 5 = i64.octets ngut.ueContextMqrRsrp ↔
      (i64.octets ngut.ueContextMqrRsrp).take 5 =
        u32.octets hoInfo.targetDu ++ bool8.octets hoInfo.hoComplete := by
    conv_lhs => rhs; rw [← List.take_append_drop 5 (i64.octets ngut.ueContextMqrRsrp)]
    rw [List.append_cancel_right_eq, eq_comm]
  have hsplit : overlaid ngut hoInfo = ngut ↔ hoInfo.ueId = ngut.ueContextRntiT ∧
      i64.ofOctets (u32.octets hoInfo.targetDu ++ bool8.octets hoInfo.hoComplete ++
        (i64.octets ngut.ueContextMqrRsrp).drop 5) = ngut.ueContextMqrRsrp := by
    cases ngut
    simp [overlaid]
  rw [hsplit, ofOctets_i64_eq_iff hlen, hrsrp, eq_comm]
  rfl

/-! ### The message -/

/-- What is sent of a message whose first bearer is `ngut`. -/
def overlaidOctets (msg : GtpIndMsg) (ngut : GtpNguTStats) (rest : List GtpNguTStats) :
    List Octet :=
  u32.octets msg.ngut.len ++ ((ngutFront ngut ++ (gtpHoInfo.octets msg.hoInfo ++ ngutBack ngut)) ++
    rest.flatMap gtpNguTStats.octets ++ (i64.octets msg.tstamp ++ gtpHoInfo.octets msg.hoInfo))

/-- The handover information of a GTP message is at its end. -/
theorem trailingHandover_gtpOctets (msg : GtpIndMsg) :
    trailingHandover (gtpOctets msg) = msg.hoInfo := by
  have hlen := length_octets_hoInfo msg.hoInfo
  have hdrop : (gtpOctets msg).drop ((gtpOctets msg).length - 13) = gtpHoInfo.octets msg.hoInfo := by
    unfold gtpOctets
    rw [← List.append_assoc, ← List.append_assoc]
    refine List.drop_left' ?_
    generalize _ ++ i64.octets msg.tstamp = front
    rw [List.length_append, hlen]
    omega
  rw [trailingHandover, hdrop, gtpHoInfo.ofOctets_octets]

theorem thirteen_le_length_gtpOctets (msg : GtpIndMsg) : 13 ≤ (gtpOctets msg).length := by
  have hsize : gtpHoInfo.size = 13 := rfl
  rw [length_gtpOctets, gtpIndMsgSize, hsize]
  omega

theorem length_ngutSlot (ngut : GtpNguTStats) : (ngutSlot ngut).length = 13 := by
  unfold ngutSlot
  rw [List.length_append, List.length_take]
  simp only [Scalar.length_octets]
  rfl

/-- **What is sent of a message with a bearer.** -/
theorem storeHandover_gtpOctets {msg : GtpIndMsg} {ngut : GtpNguTStats}
    {rest : List GtpNguTStats} (h : msg.ngut.items = ngut :: rest) :
    storeHandover (gtpOctets msg) = .done (overlaidOctets msg ngut rest) := by
  have hfront : (u32.octets msg.ngut.len ++ ngutFront ngut).length = hoInfoOffset := by
    unfold ngutFront
    simp only [List.length_append, Scalar.length_octets]
    rfl
  have hslot : (ngutSlot ngut).length = (gtpHoInfo.octets msg.hoInfo).length := by
    rw [length_ngutSlot, length_octets_hoInfo]
  have hsplit : gtpOctets msg = (u32.octets msg.ngut.len ++ ngutFront ngut) ++ (ngutSlot ngut ++
      (ngutBack ngut ++ (rest.flatMap gtpNguTStats.octets ++
        (i64.octets msg.tstamp ++ gtpHoInfo.octets msg.hoInfo)))) := by
    unfold gtpOctets
    rw [h, List.flatMap_cons, octets_ngut]
    simp only [List.append_assoc]
  rw [storeHandover_of_length (thirteen_le_length_gtpOctets msg), trailingHandover_gtpOctets, hsplit,
    store_append hfront hslot]
  unfold overlaidOctets
  simp only [List.append_assoc]

/-- A message without bearers is too short. -/
theorem not_gtpArrives_of_nil {msg : GtpIndMsg} (h : msg.ngut.items = []) (hdr : List Octet)
    (aiEv : AindEvent) : ¬ GtpArrives msg hdr aiEv := by
  rintro ⟨bs, bs', henc, hsent, -⟩
  rw [gtpEncIndMsgPlain_eq, Access.done_inj] at henc
  subst henc
  rw [aperiodicIndication_eq_done_iff] at hsent
  have hlen := (storeHandover_done_iff _).mp ⟨bs', hsent⟩
  rw [length_gtpOctets, gtpIndMsgSize, h] at hlen
  exact absurd hlen (by decide)

/-- The message whose first bearer is overlaid. -/
def overlaidMsg (msg : GtpIndMsg) : GtpIndMsg :=
  { msg with
    ngut :=
      { items := msg.ngut.items.modifyHead fun ngut => overlaid ngut msg.hoInfo
        bound := by
          rw [List.length_modifyHead]
          exact msg.ngut.bound } }

/-- The lengths are not written over. -/
theorem gtpLenOk_overlaidOctets {msg : GtpIndMsg} {ngut : GtpNguTStats}
    {rest : List GtpNguTStats} (h : msg.ngut.items = ngut :: rest) :
    gtpLenOk (overlaidOctets msg ngut rest) = true := by
  have hlen : (overlaidOctets msg ngut rest).length = gtpIndMsgSize msg := by
    have hstore := storeHandover_gtpOctets h
    rw [storeHandover_of_length (thirteen_le_length_gtpOctets msg)] at hstore
    rw [length_of_store hstore, length_gtpOctets]
  have hsize : gtpIndMsgSize msg = 4 + 48 * msg.ngut.items.length + 8 + 13 := rfl
  have hbound := msg.ngut.bound
  have h25 : (25 : UInt64).toNat = 25 := rfl
  exact decide_eq_true (le_nextPow2_length 25 (by omega) (by omega))

/-- **What is decoded of it.** -/
theorem gtpDecIndMsgPlain_overlaid {msg : GtpIndMsg} {ngut : GtpNguTStats}
    {rest : List GtpNguTStats} (h : msg.ngut.items = ngut :: rest) :
    gtpDecIndMsgPlain (overlaidOctets msg ngut rest) = .done (overlaidMsg msg) := by
  have hitems : overlaid ngut msg.hoInfo :: rest = (overlaidMsg msg).ngut.items := by
    show _ = msg.ngut.items.modifyHead _
    rw [h]
    rfl
  have hcount : (overlaid ngut msg.hoInfo :: rest).length = msg.ngut.len.toNat := by
    rw [msg.ngut.toNat_len, h]
    rfl
  have hlen : (ngutFront ngut ++ (gtpHoInfo.octets msg.hoInfo ++ ngutBack ngut)).length =
      gtpNguTStats.size := by
    rw [← gtpNguTStats.length_octets ngut, octets_ngut]
    simp only [List.length_append, length_ngutSlot, length_octets_hoInfo]
  have hfirst (k : Nat) : Reads k gtpNguTStats.read
      (ngutFront ngut ++ (gtpHoInfo.octets msg.hoInfo ++ ngutBack ngut))
      (overlaid ngut msg.hoInfo) := by
    rw [← ofOctets_overlaid]
    exact gtpNguTStats.reads hlen
  have hbearers (k : Nat) : Reads k (Arr.read gtpNguTStats.read msg.ngut.len)
      ((ngutFront ngut ++ (gtpHoInfo.octets msg.hoInfo ++ ngutBack ngut)) ++
        rest.flatMap gtpNguTStats.octets) (overlaidMsg msg).ngut := by
    have htimes := reads_times_cons (k := k) hfirst
      (fun k => reads_times (fun ngut k => gtpNguTStats.reads_octets ngut) rfl) hcount
    have hngut : (overlaidMsg msg).ngut = ⟨overlaid ngut msg.hoInfo :: rest, by
        rw [hcount]; exact msg.ngut.len.toNat_lt⟩ := Arr.ext hitems.symm
    rw [hngut]
    exact htimes.map
  have hmsg : Reads 0 gtpDecIndMsg (overlaidOctets msg ngut rest) (overlaidMsg msg) :=
    (u32.reads_octets _).bind ((hbearers _).bind ((i64.reads_octets _).bind
      (gtpHoInfo.reads_octets _).map))
  unfold gtpDecIndMsgPlain
  rw [if_pos (gtpLenOk_overlaidOctets h)]
  exact hmsg.whole _

/-- **The GTP messages that come back** are those that the overlay does not change. -/
theorem gtpArrives_iff (msg : GtpIndMsg) (hdr : List Octet) (aiEv : AindEvent) :
    GtpArrives msg hdr aiEv ↔ GtpOverlays msg := by
  cases hitems : msg.ngut.items with
  | nil =>
    refine iff_of_false (not_gtpArrives_of_nil hitems hdr aiEv) ?_
    unfold GtpOverlays
    rw [hitems]
    rintro ⟨ngut, hngut, -⟩
    cases hngut
  | cons ngut rest =>
    have harrives : GtpArrives msg hdr aiEv ↔
        gtpDecIndMsgPlain (overlaidOctets msg ngut rest) = .done msg := by
      constructor
      · rintro ⟨bs, bs', henc, hsent, hdec⟩
        rw [gtpEncIndMsgPlain_eq, Access.done_inj] at henc
        subst henc
        rw [aperiodicIndication_eq_done_iff, storeHandover_gtpOctets hitems,
          Access.done_inj] at hsent
        rwa [hsent]
      · intro hdec
        exact ⟨_, _, gtpEncIndMsgPlain_eq msg,
          aperiodicIndication_eq_done_iff.mpr (storeHandover_gtpOctets hitems), hdec⟩
    have hself : overlaidMsg msg = msg ↔ overlaid ngut msg.hoInfo = ngut := by
      obtain ⟨⟨items, hbound⟩, tstamp, hoInfo⟩ := msg
      subst hitems
      simp [overlaidMsg]
    rw [harrives, gtpDecIndMsgPlain_overlaid hitems, Access.done_inj, hself, overlaid_eq_self_iff]
    unfold GtpOverlays
    rw [hitems]
    simp

/-- **The content of aperiodic indications.** Whatever a service model makes, its bytes are sent
as they are exactly where the message has at least 33 bytes and already holds its last 13 at the
place of the handover, and no access is past its end exactly where it has 33; a GTP message is
decoded to itself exactly where it has a bearer that carries the handover. -/
theorem aperiodic_content_iff (exp : Option SmIndData) (aiEv : AindEvent) (msg : GtpIndMsg)
    (hdr : List Octet) :
    (Untouched exp aiEv ↔ ∀ data ∈ exp, ∀ msg ∈ data.indMsg, Overlays msg) ∧
    (InBounds exp aiEv ↔ ∀ data ∈ exp, ∀ msg ∈ data.indMsg, 33 ≤ msg.length) ∧
    (GtpArrives msg hdr aiEv ↔ GtpOverlays msg) :=
  ⟨untouched_iff exp aiEv, inBounds_iff exp aiEv, gtpArrives_iff msg hdr aiEv⟩

/-- A message of RAN control of 40 bytes. -/
def fortyBytes : List Octet := (List.range 40).map UInt8.ofNat

/-- The loop writes into it. -/
theorem aperiodic_content_changed :
    ¬ ∀ exp aiEv, Untouched exp aiEv := by
  intro h
  have hsent := h (some ⟨[], some fortyBytes, none⟩) ⟨⟨1021, 0, 3⟩, 3, 0, some 0⟩
  exact absurd ((untouched_iff _ _).mp hsent _ rfl _ rfl) (by decide)

end FlexRic
