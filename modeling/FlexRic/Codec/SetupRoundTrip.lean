import FlexRic.Codec.SetupLists

/-!
# FlexRic.Codec.SetupRoundTrip

The E2 setup messages through encoder, runtime and decoder.

* `E2SetupRequest.Survives`, `E2SetupResponse.Survives`: the messages that come
  back.  The limits in them are those of the decoder, which are not those of
  the encoder.
* `setupRequest_roundTrip`, `setupResponse_roundTrip`: no others do.
-/

namespace FlexRic

open Outcome

/-! ## E2 setup request -/

/-- The request as it comes back. -/
def E2SetupRequest.canon (sr : E2SetupRequest) : E2SetupRequest := { sr with id := sr.id.canon }

/-- The setup requests that come back: the id fits, there are fewer RAN functions
and components than the encoder takes, and every component has an id of its
interface type. -/
def E2SetupRequest.Survives (sr : E2SetupRequest) : Prop :=
  sr.id.Survives ∧ sr.ranFuncItem.length < maxNumRanFuncId ∧ sr.compConfAdd.length < 1024 ∧
    ∀ c ∈ sr.compConfAdd, c.id.type = c.interfaceType

instance (sr : E2SetupRequest) : Decidable sr.Survives := inferInstanceAs (Decidable (_ ∧ _))

theorem id_of_encRanFunctionItem {src : RanFunction} {ie : Ie RanFunctionItem}
    (h : encRanFunctionItem src = next ie) : ie.id = .ranFunctionItem := by
  simp only [encRanFunctionItem, bind_eq_next, pure_eq, next_inj] at h
  obtain ⟨_, -, _, -, rfl⟩ := h
  rfl

theorem id_of_encComponent {src : NodeComponentConfigAdd} {ie : Ie ConfigAdditionItem}
    (h : e2apEncNodeComponentConfAddition src = next ie) :
    ie.id = .e2NodeComponentConfigAdditionItem := by
  simp only [e2apEncNodeComponentConfAddition, bind_eq_next, pure_eq, next_inj] at h
  obtain ⟨_, -, _, -, _, -, rfl⟩ := h
  rfl

/-- **A setup request comes back exactly when it survives.** -/
theorem setupRequest_roundTrip {sr : E2SetupRequest} {pdu : SetupPdu}
    (henc : e2apEncSetupRequestAsnPdu sr = next pdu) (hsat : pdu.satisfies = true) :
    e2apDecSetupMsg pdu.opened = next (.request sr.canon) ↔ sr.Survives := by
  simp only [e2apEncSetupRequestAsnPdu, bind_eq_next, assert_eq_next, pure_eq, next_inj] at henc
  obtain ⟨-, hnode, -, -, n, hn, fs, hfs, -, hpos, cs, hcs, rfl⟩ := henc
  -- every element has the id of its table
  have hfsId : fs.map (Ie.opened .ranFunctionItem) = fs := Ie.map_opened fun ie hie => by
    obtain ⟨src, -, hsrc⟩ := exists_of_mem_walk hfs hie
    exact id_of_encRanFunctionItem hsrc
  have hcsId : cs.map (Ie.opened .e2NodeComponentConfigAdditionItem) = cs :=
    Ie.map_opened fun ie hie => by
      obtain ⟨src, -, hsrc⟩ := exists_of_mem_walk hcs hie
      exact id_of_encComponent hsrc
  have hfsSat := functions_satisfy hsat
  have hfsBack := walk_roundTrip hfs fun src ie hie hsrc => ranFunctionItem_back hsrc (hfsSat ie hie)
  have hcsBack := walk_roundTrip_iff hcs fun src ie _ hsrc => configAddition_back hsrc
  simp only [SetupPdu.opened, Procedure.mapValues, Option.map_some, mapValues_setupRequestIes,
    hfsId, hcsId, e2apDecSetupMsg, bind_eq_next, pure_eq, next_inj, SetupMsg.request.injEq,
    exists_eq_right]
  have hnBack : decGlobalE2NodeId n = next sr.canon.id ↔ sr.id.Survives :=
    globalE2NodeId_back hnode hn
  rw [decSetupRequest_iff, E2SetupRequest.Survives, walk_length hfs, walk_length hcs, hnBack]
  constructor
  · rintro ⟨-, hid, ⟨⟨-, hlen⟩, hcomp⟩, hfun, -⟩
    exact ⟨hid, hfun, hlen, hcsBack.mp hcomp⟩
  · rintro ⟨hid, hfun, hlen, hcomp⟩
    exact ⟨rfl, hid, ⟨⟨of_decide_eq_true hpos, hlen⟩, hcsBack.mpr hcomp⟩, hfun, hfsBack⟩

/-! ## E2 setup response -/

/-- The setup responses that come back: the RIC id fits, no function is rejected,
there are fewer accepted functions and components than the encoder takes, and
every component has an id of its interface type. -/
def E2SetupResponse.Survives (sr : E2SetupResponse) : Prop :=
  sr.id.Survives ∧ sr.accepted.length < maxNumRanFuncId ∧ sr.rejected = [] ∧
    sr.compConfigAddAck.length < maxNumE2NodeComponents ∧
    ∀ c ∈ sr.compConfigAddAck, c.id.type = c.interfaceType

instance (sr : E2SetupResponse) : Decidable sr.Survives := inferInstanceAs (Decidable (_ ∧ _))

theorem id_of_encAcceptedItem {src : UInt16} {ie : Ie Int} (h : encAcceptedItem src = next ie) :
    ie.id = .ranFunctionIdItem := by
  obtain rfl := next_inj.mp h
  rfl

theorem id_of_encAck {src : NodeCompConfigAddAck} {ie : Ie ConfigAdditionAckItem}
    (h : e2apEncNodeComponentConfAdditionAck src = next ie) :
    ie.id = .e2NodeComponentConfigAdditionAckItem := by
  simp only [e2apEncNodeComponentConfAdditionAck, bind_eq_next, pure_eq, next_inj] at h
  obtain ⟨_, -, _, -, rfl⟩ := h
  rfl

/-- Rejected functions do not get through the runtime. -/
theorem rejected_opened {srs : List RejectedRanFunction} {rs : List (Ie RanFunctionIdCauseItem)}
    (h : walk encRejectedItem srs = next rs) :
    walk decRejectedItem (rs.map (Ie.opened .ranFunctionIeCauseItem)) = next srs ↔ srs = [] := by
  constructor
  · intro hdec
    cases rs with
    | nil => exact List.eq_nil_of_length_eq_zero (walk_length h).symm
    | cons ie rs =>
      obtain ⟨src, -, hsrc⟩ := exists_of_mem_walk h List.mem_cons_self
      exact absurd hdec (walk_stops List.mem_cons_self (rejectedItem_lost hsrc) srs)
  · rintro rfl
    obtain rfl := next_inj.mp h
    rfl

/-- A RIC id comes back exactly when it fits. -/
theorem globalRicId_back (id : GlobalRicId) :
    (plmnidToMccMnc (encGlobalRicId id).plmnIdentity = id.plmn ∧
      bitStringToMacroEnbId (encGlobalRicId id).ricId = next id.doubleWord) ↔ id.Survives := by
  rw [encGlobalRicId, plmn_roundTrip, macroEnbId_roundTrip, GlobalRicId.Survives]

/-- **A setup response comes back exactly when it survives.** -/
theorem setupResponse_roundTrip {sr : E2SetupResponse} {pdu : SetupPdu}
    (henc : e2apEncSetupResponseAsnPdu sr = next pdu) (hsat : pdu.satisfies = true) :
    e2apDecSetupMsg pdu.opened = next (.response sr) ↔ sr.Survives := by
  simp only [e2apEncSetupResponseAsnPdu, bind_eq_next, assert_eq_next, pure_eq, next_inj] at henc
  obtain ⟨-, -, -, -, -, -, as, has, rs, hrs, -, -, ks, hks, rfl⟩ := henc
  have hasId : as.map (Ie.opened .ranFunctionIdItem) = as := Ie.map_opened fun ie hie => by
    obtain ⟨src, -, hsrc⟩ := exists_of_mem_walk has hie
    exact id_of_encAcceptedItem hsrc
  have hksId : ks.map (Ie.opened .e2NodeComponentConfigAdditionAckItem) = ks :=
    Ie.map_opened fun ie hie => by
      obtain ⟨src, -, hsrc⟩ := exists_of_mem_walk hks hie
      exact id_of_encAck hsrc
  have hasSat := accepted_satisfy hsat
  have hasBack := walk_roundTrip has fun src ie hie hsrc => acceptedItem_back hsrc (hasSat ie hie)
  have hksBack := walk_roundTrip_iff hks fun src ie _ hsrc => configAdditionAck_back hsrc
  simp only [SetupPdu.opened, Procedure.mapValues, Option.map_some, mapValues_setupResponseIes,
    hasId, hksId, e2apDecSetupMsg, bind_eq_next, pure_eq, next_inj, SetupMsg.response.injEq,
    exists_eq_right]
  rw [decSetupResponse_iff, E2SetupResponse.Survives, walk_length has, walk_length hks,
    globalRicId_back, rejected_opened hrs]
  constructor
  · rintro ⟨-, -, hid, ⟨hlen, hack⟩, hrej, hacc, -⟩
    exact ⟨hid, hacc, hrej, hlen, hksBack.mp hack⟩
  · rintro ⟨hid, hacc, hrej, hlen, hack⟩
    have hrs0 : rs = [] := by
      rw [hrej] at hrs
      exact (next_inj.mp hrs).symm
    refine ⟨.inr ?_, rfl, hid, ⟨hlen, hksBack.mpr hack⟩, hrej, hacc, hasBack⟩
    rw [hrs0, List.map_nil]

/-- A response handed to the decoder as it was built: rejected functions alone
come back, but not beside accepted ones, which make a fifth element. -/
theorem setupResponse_direct {sr : E2SetupResponse} {pdu : SetupPdu}
    (henc : e2apEncSetupResponseAsnPdu sr = next pdu) (hsat : pdu.satisfies = true) :
    e2apDecSetupMsg pdu = next (.response sr) ↔
      (sr.accepted = [] ∨ sr.rejected = []) ∧ sr.id.Survives ∧
        sr.accepted.length < maxNumRanFuncId ∧
        sr.compConfigAddAck.length < maxNumE2NodeComponents ∧
        ∀ c ∈ sr.compConfigAddAck, c.id.type = c.interfaceType := by
  simp only [e2apEncSetupResponseAsnPdu, bind_eq_next, assert_eq_next, pure_eq, next_inj] at henc
  obtain ⟨-, -, -, -, -, -, as, has, rs, hrs, -, -, ks, hks, rfl⟩ := henc
  have hasSat := accepted_satisfy hsat
  have hrsSat := rejected_satisfy hsat
  have hasBack := walk_roundTrip has fun src ie hie hsrc => acceptedItem_back hsrc (hasSat ie hie)
  have hrsBack := walk_roundTrip hrs fun src ie hie hsrc => rejectedItem_back hsrc (hrsSat ie hie)
  have hksBack := walk_roundTrip_iff hks fun src ie _ hsrc => configAdditionAck_back hsrc
  have hasNil : as = [] ↔ sr.accepted = [] := by
    rw [← List.length_eq_zero_iff, walk_length has, List.length_eq_zero_iff]
  have hrsNil : rs = [] ↔ sr.rejected = [] := by
    rw [← List.length_eq_zero_iff, walk_length hrs, List.length_eq_zero_iff]
  simp only [e2apDecSetupMsg, bind_eq_next, pure_eq, next_inj, SetupMsg.response.injEq,
    exists_eq_right]
  rw [decSetupResponse_iff, walk_length has, walk_length hks, globalRicId_back, hasNil, hrsNil]
  constructor
  · rintro ⟨hfour, -, hid, ⟨hlen, hack⟩, -, hacc, -⟩
    exact ⟨hfour, hid, hacc, hlen, hksBack.mp hack⟩
  · rintro ⟨hfour, hid, hacc, hlen, hack⟩
    exact ⟨hfour, rfl, hid, ⟨hlen, hksBack.mpr hack⟩, hrsBack, hacc, hasBack⟩

/-! ## Setup messages -/

/-- The message as it comes back. -/
def SetupMsg.canon : SetupMsg → SetupMsg
  | request sr => request sr.canon
  | response sr => response sr

/-- The setup messages that come back. -/
def SetupMsg.Survives : SetupMsg → Prop
  | request sr => sr.Survives
  | response sr => sr.Survives

instance : (msg : SetupMsg) → Decidable msg.Survives
  | .request sr => inferInstanceAs (Decidable sr.Survives)
  | .response sr => inferInstanceAs (Decidable sr.Survives)

/-- **Round trip of the E2 setup messages**: what the encoder accepts and the
runtime encodes, the other side decodes to the same message exactly when the
message survives. -/
theorem setupMsg_roundTrip {Buf : Type} (rt : Asn1c SetupPdu Buf)
    (hrt : rt.Sound SetupPdu.satisfies SetupPdu.opened) (msg : SetupMsg) (pdu : SetupPdu)
    (b : Buf) (henc : e2apEncSetupMsg msg = next pdu) (hsat : pdu.satisfies = true)
    (hb : rt.e2apEncAsnPduBa pdu = next b) :
    rt.e2apMsgDecAsn e2apDecSetupMsg b = next msg.canon ↔ msg.Survives := by
  rw [hrt.e2apMsgDecAsn_eq hsat hb]
  cases msg with
  | request sr => exact setupRequest_roundTrip henc hsat
  | response sr => exact setupResponse_roundTrip henc hsat

/-! ### Worked messages -/

/-- A runtime whose encodings are the PDUs themselves. -/
def directRuntime : Asn1c SetupPdu SetupPdu where
  encode := some
  length := fun _ => 64
  decode := fun pdu => some pdu.opened

theorem directRuntime_sound : directRuntime.Sound SetupPdu.satisfies SetupPdu.opened where
  length_pos := fun _ _ _ => Nat.zero_lt_succ 63
  decodesBack := fun _ _ _ h => by
    cases h
    rfl

/-- An F1 component of a node, as both messages carry it. -/
def f1Component : NodeComponentConfigAdd := ⟨.f1, .f1 7, [1], [2]⟩

/-- The setup request of a DU with one RAN function. -/
def duRequest : E2SetupRequest where
  transId := 1
  id := ⟨.gNBDU, ⟨505, 1, 2⟩, ⟨3584, 4⟩, some 7, by decide⟩
  ranFuncItem := [⟨[42], 147, 0, [49, 46, 51]⟩]
  compConfAdd := [f1Component]

/-- The PDU of `duRequest`. -/
def duRequestPdu : SetupPdu :=
  .initiatingMessage ⟨procedureCodeE2Setup, .reject, some (setupRequestIes 1
    (.gNB ⟨[5, 245, 16], ⟨[0, 0, 224, 0], 4⟩, none, some 7⟩)
    [⟨.ranFunctionItem, .reject, some ⟨147, [42], 0, [49, 46, 51]⟩⟩]
    [⟨.e2NodeComponentConfigAdditionItem, .reject, some ⟨3, .f1 7, [1], [2]⟩⟩])⟩

theorem setupMsg_roundTrip_du :
    directRuntime.e2apMsgDecAsn e2apDecSetupMsg duRequestPdu =
      next (SetupMsg.canon (.request duRequest)) :=
  (setupMsg_roundTrip directRuntime directRuntime_sound (.request duRequest) duRequestPdu
    duRequestPdu rfl (by decide) rfl).mpr (by decide)

/-- The setup response that accepts one RAN function and rejects another. -/
def mixedResponse : E2SetupResponse where
  transId := 1
  id := ⟨⟨505, 1, 2⟩, 1⟩
  accepted := [147]
  rejected := [⟨148, .misc 3⟩]
  compConfigAddAck := [⟨.f1, .f1 7, .success, none⟩]

/-- The PDU of `mixedResponse`. -/
def mixedResponsePdu : SetupPdu :=
  .successfulOutcome ⟨procedureCodeE2Setup, .reject, some (setupResponseIes 1
    ⟨[5, 245, 16], ⟨[0, 0, 16], 4⟩⟩
    [⟨.ranFunctionIdItem, .ignore, some 147⟩]
    [⟨.ranFunctionIdItem, .ignore, some ⟨148, .misc 3⟩⟩]
    [⟨.e2NodeComponentConfigAdditionAckItem, .reject, some ⟨3, .f1 7, 0, none⟩⟩])⟩

/-- The encoder takes `mixedResponse`, and the decoder aborts on it. -/
theorem mixedResponse_aborts :
    e2apEncSetupMsg (.response mixedResponse) = next mixedResponsePdu ∧
      mixedResponsePdu.satisfies = true ∧
      (directRuntime.e2apMsgDecAsn e2apDecSetupMsg mixedResponsePdu).Aborts :=
  ⟨rfl, by decide, aborts_of_aborted (by decide)⟩

/-- Not every setup message the encoder takes is decoded to the same message. -/
theorem setupMsg_not_roundTrip :
    ¬ ∀ (Buf : Type) (rt : Asn1c SetupPdu Buf), rt.Sound SetupPdu.satisfies SetupPdu.opened →
      ∀ (msg : SetupMsg) (pdu : SetupPdu) (b : Buf), e2apEncSetupMsg msg = next pdu →
        pdu.satisfies = true → rt.e2apEncAsnPduBa pdu = next b →
          rt.e2apMsgDecAsn e2apDecSetupMsg b = next msg.canon := by
  intro h
  obtain ⟨henc, hsat, habort⟩ := mixedResponse_aborts
  exact not_aborts_of_next (h SetupPdu directRuntime directRuntime_sound (.response mixedResponse)
    mixedResponsePdu mixedResponsePdu henc hsat rfl) habort

end FlexRic
