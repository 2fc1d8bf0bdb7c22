import FlexRic.Rc.MessageTransfer

/-!
# FlexRic.Rc.Messages

The indications and controls between a node and the RIC, from one value to the other.

* `RcMessage.IdentitiesBack`: the identities of UEs and cells in it come back.
* `RcMessage.RoundTrips`: the encoder returns, and the decoder hands over the same message.
-/

namespace FlexRic

namespace Rc

open Outcome Codec Ue

/-- The runtime, for the five structures. -/
structure MessageRuntime (Buf : Type) where
  indHdr : Asn1c IndicationHeaderAsn Buf
  indMsg : Asn1c IndicationMessageAsn Buf
  ctrlHdr : Asn1c ControlHeaderAsn Buf
  ctrlMsg : Asn1c ControlMessageAsn Buf
  ctrlOut : Asn1c ControlOutcomeAsn Buf

/-- The runtime encodes what is within the constraints, and decodes it back. -/
structure MessageRuntime.Exact {Buf : Type} (rt : MessageRuntime Buf) : Prop where
  indHdr : rt.indHdr.Exact IndicationHeaderAsn.satisfies id
  indMsg : rt.indMsg.Exact IndicationMessageAsn.satisfies id
  ctrlHdr : rt.ctrlHdr.Exact ControlHeaderAsn.satisfies id
  ctrlMsg : rt.ctrlMsg.Exact ControlMessageAsn.satisfies id
  ctrlOut : rt.ctrlOut.Exact ControlOutcomeAsn.satisfies id

/-- An indication header or message, or a control header, message or outcome. -/
inductive RcMessage where
  | indHdr (m : IndHdr)
  | indMsg (m : IndMsg)
  | ctrlHdr (m : CtrlHdr)
  | ctrlMsg (m : CtrlMsg)
  | ctrlOut (m : CtrlOut)

namespace RcMessage

/-- The UEs that the message names. -/
def ues : RcMessage → List UeId
  | indHdr m => m.ues
  | indMsg m => m.ues
  | ctrlHdr m => m.ues
  | _ => []

/-- The cells that the message names. -/
def cells : RcMessage → List CellGlobalId
  | indMsg m => m.cells
  | _ => []

/-- Each of them comes back from its own codec. -/
structure IdentitiesBack (m : RcMessage) : Prop where
  ues : ∀ ue ∈ m.ues, Back encUeIdAsn decUeIdAsn ue
  cells : ∀ id ∈ m.cells, Back encCellGlobalIdAsn decCellGlobalIdAsn id

/-- What the encoder and the constraints want. -/
def Sendable : RcMessage → Prop
  | indHdr m => m.Sendable
  | indMsg m => m.Sendable
  | ctrlHdr m => m.Sendable
  | ctrlMsg m => m.Sendable
  | ctrlOut m => m.Sendable

/-- The encoding fits the buffer it is written to. -/
def Fits {Buf : Type} (rt : MessageRuntime Buf) : RcMessage → Prop
  | indHdr m => FitsInto 1024 rt.indHdr (indHdrPdu m)
  | indMsg m => FitsInto (128 * 1024) rt.indMsg (indMsgPdu m)
  | ctrlHdr m => FitsInto (16 * 1024) rt.ctrlHdr (ctrlHdrPdu m)
  | ctrlMsg m => FitsInto (16 * 1024) rt.ctrlMsg (ctrlMsgPdu m)
  | ctrlOut m => FitsInto (16 * 1024) rt.ctrlOut (ctrlOutPdu m)

/-- The encoder returns, and the decoder hands over the message. -/
def RoundTrips {Buf : Type} (rt : MessageRuntime Buf) : RcMessage → Prop
  | indHdr m => ∃ b, rcEncIndHdrAsn rt.indHdr m = next b ∧ rcDecIndHdrAsn rt.indHdr b = next m
  | indMsg m => ∃ b, rcEncIndMsgAsn rt.indMsg m = next b ∧ rcDecIndMsgAsn rt.indMsg b = next m
  | ctrlHdr m => ∃ b, rcEncCtrlHdrAsn rt.ctrlHdr m = next b ∧ rcDecCtrlHdrAsn rt.ctrlHdr b = next m
  | ctrlMsg m => ∃ b, rcEncCtrlMsgAsn rt.ctrlMsg m = next b ∧ rcDecCtrlMsgAsn rt.ctrlMsg b = next m
  | ctrlOut m => ∃ b, rcEncCtrlOutAsn rt.ctrlOut m = next b ∧ rcDecCtrlOutAsn rt.ctrlOut b = next m

end RcMessage

/-- What arrives as it is comes back where it is sent. -/
theorem back_iff {Pdu Buf α : Type} {rt : Asn1c Pdu Buf} {n : Nat} {sat : Pdu → Bool}
    {o : Outcome Pdu} {dec : Pdu → Outcome α} {x : α} {S : Prop} (hrt : rt.Exact sat id)
    (h : Conveys o sat dec x S True) :
    (∃ b, o >>= encodeInto n rt = next b ∧ decodeFrom rt b >>= dec = next x) ↔
      S ∧ FitsInto n rt o := by
  rw [roundTrips_iff hrt h x, and_iff_left ⟨trivial, rfl⟩]

/-- **A message comes back** exactly when it is sent and fits. -/
theorem rcMessage_roundTrip {Buf : Type} (rt : MessageRuntime Buf) (hrt : rt.Exact)
    (m : RcMessage) (hids : m.IdentitiesBack) : m.RoundTrips rt ↔ m.Sendable ∧ m.Fits rt := by
  cases m with
  | indHdr m => exact back_iff hrt.indHdr (conveys_indHdr m hids.ues)
  | indMsg m => exact back_iff hrt.indMsg (conveys_indMsg m hids.ues hids.cells)
  | ctrlHdr m => exact back_iff hrt.ctrlHdr (conveys_ctrlHdr m hids.ues)
  | ctrlMsg m => exact back_iff hrt.ctrlMsg (conveys_ctrlMsg m)
  | ctrlOut m => exact back_iff hrt.ctrlOut (conveys_ctrlOut m)

/-! ### Worked messages -/

/-- An encoding that is the structure. -/
inductive PlainMessage where
  | indHdr (pdu : IndicationHeaderAsn)
  | indMsg (pdu : IndicationMessageAsn)
  | ctrlHdr (pdu : ControlHeaderAsn)
  | ctrlMsg (pdu : ControlMessageAsn)
  | ctrlOut (pdu : ControlOutcomeAsn)

/-- A runtime whose encodings are the structures. -/
def plainMessages : MessageRuntime PlainMessage where
  indHdr := plainRuntime IndicationHeaderAsn.satisfies .indHdr fun
    | .indHdr pdu => some pdu
    | _ => none
  indMsg := plainRuntime IndicationMessageAsn.satisfies .indMsg fun
    | .indMsg pdu => some pdu
    | _ => none
  ctrlHdr := plainRuntime ControlHeaderAsn.satisfies .ctrlHdr fun
    | .ctrlHdr pdu => some pdu
    | _ => none
  ctrlMsg := plainRuntime ControlMessageAsn.satisfies .ctrlMsg fun
    | .ctrlMsg pdu => some pdu
    | _ => none
  ctrlOut := plainRuntime ControlOutcomeAsn.satisfies .ctrlOut fun
    | .ctrlOut pdu => some pdu
    | _ => none

theorem plainMessages_exact : plainMessages.Exact where
  indHdr := plainRuntime_exact fun _ => rfl
  indMsg := plainRuntime_exact fun _ => rfl
  ctrlHdr := plainRuntime_exact fun _ => rfl
  ctrlMsg := plainRuntime_exact fun _ => rfl
  ctrlOut := plainRuntime_exact fun _ => rfl

/-- A report of one parameter, which is a list of structures. -/
def reportOfLst (l : List LstRanParam) : RcMessage := .indMsg (.frmt1 ⟨[⟨1, .lst l⟩]⟩)

theorem reportOfLst_back (l : List LstRanParam) : (reportOfLst l).IdentitiesBack :=
  ⟨fun _ h => (nomatch h), fun _ h => (nomatch h)⟩

/-- A structure of a structure of an integer in a list comes back. -/
theorem rcMessage_roundTrip_nested :
    (reportOfLst [⟨[⟨2, .strct [⟨3, .flagTrue (.intRan 5)⟩]⟩]⟩]).RoundTrips plainMessages := by
  refine (rcMessage_roundTrip plainMessages plainMessages_exact _ (reportOfLst_back _)).mpr
    ⟨⟨rfl, fun p hp => ?_⟩, fun _ _ _ h => ?_⟩
  · obtain rfl := List.mem_singleton.mp hp
    simp [SeqRanParam.Sendable, RanParamValType.Sendable, LstsSendable, LstRanParam.Sendable,
      AllSendable, sized]
  · simp [plainMessages, plainRuntime]

/-- The empty list is not encoded. -/
theorem rcMessage_not_roundTrip :
    ¬ ∀ (Buf : Type) (rt : MessageRuntime Buf), rt.Exact →
      ∀ m : RcMessage, m.IdentitiesBack → m.RoundTrips rt := by
  intro h
  obtain ⟨b, henc, -⟩ := h _ plainMessages plainMessages_exact _ (reportOfLst_back [])
  have habort : rcEncIndMsgAsn plainMessages.indMsg (.frmt1 ⟨[⟨1, .lst []⟩]⟩) =
      .abort "er.encoded > -1" := rfl
  rw [habort] at henc
  cases henc

end Rc

end FlexRic
