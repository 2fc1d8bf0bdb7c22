import FlexRic.Codec.Paths

/-!
# FlexRic.Codec.AnswerPaths

What the answer of a node has become at the xApp that asked.

* `forwardAnswer`: what RIC and iApp make of an answer.  The answers to a
  deletion and to a control request are built anew.
* `answerPath`: the answer through both transfers.
* `Maps`: whose request an answer is for.
* `Answers`: which xApp an answer reaches, and as what.
-/

namespace FlexRic.Codec

open Outcome

/-! ## What is forwarded -/

/-- The end of the two handlers of the iApp that answer with the mapping alone:
the ids are compared, and the xApp's address is looked up. -/
def answerXapp (iapp : E42Iapp) (src : RicGenId) (x : XappRicId) (msg : RicMsg) :
    Outcome (Option (UInt16 × RicMsg)) := do
  Outcome.assert (src.ranFuncId == x.ricId.ranFuncId)
    "src->ric_id.ran_func_id == x.ric_id.ran_func_id"
  Outcome.assert (src.ricInstId == x.ricId.ricInstId)
    "src->ric_id.ric_inst_id == x.ric_id.ric_inst_id"
  let _ ← iapp.xapps.findMapXappsSad x.xappId
  return some (x.xappId, msg)

/-- What RIC and iApp make of an answer of a node, and the xApp it goes to.  The
answers to a deletion and to a control request are built anew, with the id that
the xApp gave and nothing else. -/
def forwardAnswer (ric : NearRic) (iapp : E42Iapp) (picks : Picks) :
    RicMsg → Outcome (Option (UInt16 × RicMsg))
  | .subscriptionResponse r => do
    let _ ← ric.handleAnswer .subscriptionRequest r.ricId ⟨r.admitted, r.notAdmitted.length⟩ picks
    let x ← Sys.routeSubscriptionResponse iapp r.ricId
    return x.map fun x => (x.xappId, .subscriptionResponse { r with ricId := x.ricId })
  | .subscriptionDeleteResponse d => do
    let _ ← ric.handleAnswer .subscriptionDeleteRequest d.ricId ⟨[], 0⟩ picks
    match iapp.map.findXappMapRicId d.ricId.ricReqId.toUInt16 with
    | none => return none
    | some x => answerXapp iapp d.ricId x (.subscriptionDeleteResponse ⟨x.ricId⟩)
  | .controlAcknowledge a => do
    let _ ← ric.handleAnswer .controlRequest a.ricId ⟨[], 0⟩ picks
    let x ← Outcome.expect (iapp.map.findXappMapRicId a.ricId.ricReqId.toUInt16)
      "RIC Req Id not found!"
    answerXapp iapp a.ricId x (.controlAcknowledge ⟨x.ricId, none, none⟩)
  | _ => .blocked

/-- An answer of a node, as the xApp it goes to receives it. -/
def answerPath {Buf : Type} (rt : Asn1c RicPdu Buf) (ric : NearRic) (iapp : E42Iapp)
    (picks : Picks) (msg : RicMsg) : Outcome (Option (UInt16 × RicMsg)) :=
  relay rt (forwardAnswer ric iapp picks) msg

/-! ## The RIC's timer, the iApp's map -/

/-- The RIC stops the timer of the request. -/
def StopsTimer (ric : NearRic) (ev : PendingEvent) (id : RicGenId) (picks : Picks) : Prop :=
  ∃ r, ric.stopPendingEvent ⟨ev, id⟩ picks = next r

/-- The iApp maps the request to one of an xApp, for the same RAN function and
RIC instance. -/
def Maps (iapp : E42Iapp) (src : RicGenId) (x : XappRicId) : Prop :=
  iapp.map.findXappMapRicId src.ricReqId.toUInt16 = some x ∧
    src.ranFuncId = x.ricId.ranFuncId ∧ src.ricInstId = x.ricId.ricInstId

/-- The timer of a request that is pending is stopped. -/
theorem stopsTimer_of_pending {ric : NearRic} {ev : PendingEvent} {id : RicGenId} (fd : Fd)
    (picks : Picks) (hm : Bimap.Bijective cmpFd cmpPendingEventRic ric.pending) (hpos : 0 < fd)
    (h : (fd, ⟨ev, id⟩) ∈ ric.pending.left) : StopsTimer ric ev id picks := by
  obtain ⟨pending, hx, -⟩ : ∃ pending, Bimap.extractRight cmpFd cmpPendingEventRic ric.pending
      ⟨ev, id⟩ picks = next (fd, pending) ∧ Bimap.RemovedPair ric.pending fd ⟨ev, id⟩ pending :=
    (hm.extract lawful_cmpFd lawful_cmpPendingEventRic h).2
  exact ⟨(fd, { ric with pending }), by simp [NearRic.stopPendingEvent, hx, hpos]⟩

theorem checkAdmission_iff {resp : NearRic.Admission} :
    NearRic.checkAdmission resp = next ⟨⟩ ↔ resp.lenNa = 0 ∧ resp.admitted = [0] := by
  obtain ⟨admitted, lenNa⟩ := resp
  simp only [NearRic.checkAdmission, bind_eq_next, assert_eq_next, beq_iff_eq]
  constructor
  · rintro ⟨⟨⟩, hna, ⟨⟩, hlen, hhead⟩
    obtain ⟨a, rfl⟩ := List.length_eq_one_iff.mp hlen
    exact ⟨hna, by simpa using hhead⟩
  · rintro ⟨rfl, rfl⟩
    exact ⟨⟨⟩, rfl, ⟨⟩, rfl, rfl⟩

theorem handleAnswer_iff (ric : NearRic) (ev : PendingEvent) (id : RicGenId)
    (resp : NearRic.Admission) (picks : Picks) :
    (∃ r, ric.handleAnswer ev id resp picks = next r) ↔
      StopsTimer ric ev id picks ∧
        (ev = .subscriptionRequest → resp.lenNa = 0 ∧ resp.admitted = [0]) := by
  simp only [NearRic.handleAnswer, StopsTimer, bind_eq_next]
  constructor
  · rintro ⟨r, s, hs, h⟩
    refine ⟨⟨s, hs⟩, fun hev => ?_⟩
    simp only [hev, if_true, bind_eq_next] at h
    obtain ⟨⟨⟩, hcheck, -⟩ := h
    exact checkAdmission_iff.mp hcheck
  · rintro ⟨⟨s, hs⟩, hresp⟩
    -- of the three answers only the subscription response is checked
    by_cases hev : ev = .subscriptionRequest
    · have hcheck := checkAdmission_iff.mpr (hresp hev)
      refine ⟨(s.1, s.2), s, hs, ?_⟩
      simp only [hev, if_true, bind_eq_next]
      exact ⟨⟨⟩, hcheck, rfl⟩
    · exact ⟨(s.1, s.2), s, hs, by simp [hev]⟩

/-- Of an id that is mapped only the number is the xApp's own. -/
theorem Maps.ricId_eq {iapp : E42Iapp} {src : RicGenId} {x : XappRicId} (h : Maps iapp src x) :
    { src with ricReqId := x.ricId.ricReqId } = x.ricId := by
  obtain ⟨-, hfunc, hinst⟩ := h
  obtain ⟨⟨req, inst, func⟩, xappId⟩ := x
  obtain ⟨req', inst', func'⟩ := src
  simp_all

/-- To whom a subscription response goes. -/
theorem routeSubscriptionResponse_iff {iapp : E42Iapp} {src : RicGenId} {y : XappRicId} :
    Sys.routeSubscriptionResponse iapp src = next (some y) ↔
      Maps iapp src y ∧ HasPort iapp y.xappId := by
  constructor
  · intro h
    -- the handler gives up for four reasons, and a split stands for each
    simp only [Sys.routeSubscriptionResponse] at h
    split at h
    · cases h
    · next x hx =>
      split at h
      · cases h
      · next hfunc =>
        split at h
        · cases h
        · next hinst =>
          simp only [bne_iff_ne, ne_eq, not_not] at hfunc hinst
          simp only [bind_eq_next] at h
          obtain ⟨info, hinfo, h⟩ := h
          split at h
          · cases h
          · next hport =>
            have hmaps : Maps iapp src x := ⟨hx, hfunc, hinst⟩
            rw [hmaps.ricId_eq] at h
            obtain rfl := Option.some.inj (next_inj.mp h)
            exact ⟨hmaps, info, hinfo, by simpa using hport⟩
  · rintro ⟨hmaps, info, hinfo, hport⟩
    obtain ⟨hx, hfunc, hinst⟩ := hmaps
    simp [Sys.routeSubscriptionResponse, hx, hfunc, hinst, hinfo, hport]

/-- The xApp has an address in the table. -/
def HasAddress (iapp : E42Iapp) (xappId : UInt16) : Prop :=
  ∃ info, iapp.xapps.findMapXappsSad xappId = next info

theorem answerXapp_iff {iapp : E42Iapp} {src : RicGenId} {x : XappRicId} {msg fwd : RicMsg}
    {xappId : UInt16} :
    answerXapp iapp src x msg = next (some (xappId, fwd)) ↔
      (src.ranFuncId = x.ricId.ranFuncId ∧ src.ricInstId = x.ricId.ricInstId) ∧
        HasAddress iapp x.xappId ∧ x.xappId = xappId ∧ msg = fwd := by
  simp only [answerXapp, HasAddress, bind_eq_next, assert_eq_next, beq_iff_eq, pure_eq, next_inj,
    Option.some.injEq, Prod.mk.injEq]
  constructor
  · rintro ⟨⟨⟩, hfunc, ⟨⟩, hinst, info, hinfo, hx, hmsg⟩
    exact ⟨⟨hfunc, hinst⟩, ⟨info, hinfo⟩, hx, hmsg⟩
  · rintro ⟨⟨hfunc, hinst⟩, ⟨info, hinfo⟩, hx, hmsg⟩
    exact ⟨⟨⟩, hfunc, ⟨⟩, hinst, info, hinfo, hx, hmsg⟩

/-- When RIC and iApp forward a subscription response. -/
theorem forward_subscriptionResponse_iff {ric : NearRic} {iapp : E42Iapp} {picks : Picks}
    {r : RicSubscriptionResponse} {xappId : UInt16} {fwd : RicMsg} :
    forwardAnswer ric iapp picks (.subscriptionResponse r) = next (some (xappId, fwd)) ↔
      (StopsTimer ric .subscriptionRequest r.ricId picks ∧
          r.notAdmitted.length = 0 ∧ r.admitted = [0]) ∧
        ∃ x, (Maps iapp r.ricId x ∧ HasPort iapp x.xappId) ∧ x.xappId = xappId ∧
          .subscriptionResponse { r with ricId := x.ricId } = fwd := by
  have hstops := handleAnswer_iff ric .subscriptionRequest r.ricId
    ⟨r.admitted, r.notAdmitted.length⟩ picks
  simp only [forall_const] at hstops
  rw [← hstops]
  simp only [forwardAnswer, ← routeSubscriptionResponse_iff, bind_eq_next, pure_eq,
    next_inj]
  constructor
  · rintro ⟨s, hs, x, hx, hmap⟩
    obtain ⟨x, rfl, hfwd⟩ := Option.map_eq_some_iff.mp hmap
    obtain ⟨hid, hmsg⟩ := Prod.mk.injEq .. ▸ hfwd
    exact ⟨⟨s, hs⟩, x, hx, hid, hmsg⟩
  · rintro ⟨⟨s, hs⟩, x, hx, rfl, rfl⟩
    exact ⟨s, hs, some x, hx, rfl⟩

/-- When RIC and iApp forward the response to a deletion. -/
theorem forward_deleteResponse_iff {ric : NearRic} {iapp : E42Iapp} {picks : Picks}
    {d : RicSubscriptionDelete} {xappId : UInt16} {fwd : RicMsg} :
    forwardAnswer ric iapp picks (.subscriptionDeleteResponse d) = next (some (xappId, fwd)) ↔
      StopsTimer ric .subscriptionDeleteRequest d.ricId picks ∧
        ∃ x, Maps iapp d.ricId x ∧ HasAddress iapp x.xappId ∧ x.xappId = xappId ∧
          .subscriptionDeleteResponse ⟨x.ricId⟩ = fwd := by
  have hstops := handleAnswer_iff ric .subscriptionDeleteRequest d.ricId ⟨[], 0⟩ picks
  simp only [reduceCtorEq, false_implies, and_true] at hstops
  rw [← hstops]
  simp only [forwardAnswer, bind_eq_next, pure_eq]
  constructor
  · rintro ⟨s, hs, h⟩
    split at h
    · cases h
    · next x hx =>
      obtain ⟨hmatch, haddr, hid, hmsg⟩ := answerXapp_iff.mp h
      exact ⟨⟨s, hs⟩, x, ⟨hx, hmatch⟩, haddr, hid, hmsg⟩
  · rintro ⟨⟨s, hs⟩, x, ⟨hx, hmatch⟩, haddr, hid, hmsg⟩
    have hanswer := answerXapp_iff.mpr ⟨hmatch, haddr, hid, hmsg⟩
    exact ⟨s, hs, by simp [hx, hanswer]⟩

/-- When RIC and iApp forward a control acknowledgement. -/
theorem forward_controlAcknowledge_iff {ric : NearRic} {iapp : E42Iapp} {picks : Picks}
    {a : RicControlAcknowledge} {xappId : UInt16} {fwd : RicMsg} :
    forwardAnswer ric iapp picks (.controlAcknowledge a) = next (some (xappId, fwd)) ↔
      StopsTimer ric .controlRequest a.ricId picks ∧
        ∃ x, Maps iapp a.ricId x ∧ HasAddress iapp x.xappId ∧ x.xappId = xappId ∧
          .controlAcknowledge ⟨x.ricId, none, none⟩ = fwd := by
  have hstops := handleAnswer_iff ric .controlRequest a.ricId ⟨[], 0⟩ picks
  simp only [reduceCtorEq, false_implies, and_true] at hstops
  rw [← hstops]
  simp only [forwardAnswer, bind_eq_next, expect_eq_next]
  constructor
  · rintro ⟨s, hs, x, hx, h⟩
    obtain ⟨hmatch, haddr, hid, hmsg⟩ := answerXapp_iff.mp h
    exact ⟨⟨s, hs⟩, x, ⟨hx, hmatch⟩, haddr, hid, hmsg⟩
  · rintro ⟨⟨s, hs⟩, x, ⟨hx, hmatch⟩, haddr, hid, hmsg⟩
    have hanswer := answerXapp_iff.mpr ⟨hmatch, haddr, hid, hmsg⟩
    exact ⟨s, hs, x, hx, hanswer⟩

/-- A mapped id fits a message if its number does. -/
theorem Maps.fits {iapp : E42Iapp} {src : RicGenId} {x : XappRicId} (h : Maps iapp src x)
    (hsrc : RicGenIdFits src) (hx : IdFits x.ricId) : RicGenIdFits x.ricId :=
  ⟨idFits_iff.mp hx, h.2.1 ▸ hsrc.2⟩

/-! ## Where an answer arrives -/

/-- What an answer of a node has become at the xApp it reaches, and when it
reaches one: it is the answer to a request that the RIC waits for, and that is
mapped to one of the xApp. -/
def Answers (ric : NearRic) (iapp : E42Iapp) (picks : Picks) (xappId : UInt16)
    (received : RicMsg) : RicMsg → Prop
  | .subscriptionResponse r =>
    r.Encodable ∧ r.admitted = [0] ∧ StopsTimer ric .subscriptionRequest r.ricId picks ∧
      ∃ x, Maps iapp r.ricId x ∧ HasPort iapp x.xappId ∧ IdFits x.ricId ∧ x.xappId = xappId ∧
        received = .subscriptionResponse ⟨x.ricId, [0], []⟩
  | .subscriptionDeleteResponse d =>
    RicGenIdFits d.ricId ∧ StopsTimer ric .subscriptionDeleteRequest d.ricId picks ∧
      ∃ x, Maps iapp d.ricId x ∧ HasAddress iapp x.xappId ∧ IdFits x.ricId ∧ x.xappId = xappId ∧
        received = .subscriptionDeleteResponse ⟨x.ricId⟩
  | .controlAcknowledge a =>
    (RicGenIdFits a.ricId ∧ (∀ b ∈ a.callProcessId, 0 < b.length) ∧
        ∀ b ∈ a.controlOutcome, 0 < b.length) ∧
      StopsTimer ric .controlRequest a.ricId picks ∧
      ∃ x, Maps iapp a.ricId x ∧ HasAddress iapp x.xappId ∧ IdFits x.ricId ∧ x.xappId = xappId ∧
        received = .controlAcknowledge ⟨x.ricId, none, none⟩
  | _ => False

/-- The whole path of a subscription response, from the node to the xApp. -/
theorem answerPath_subscriptionResponse {Buf : Type} {rt : Asn1c RicPdu Buf}
    (hrt : rt.Exact RicPdu.satisfies RicPdu.opened) {ric : NearRic} {iapp : E42Iapp}
    {picks : Picks} {r : RicSubscriptionResponse} {received : RicMsg} {xappId : UInt16} :
    answerPath rt ric iapp picks (.subscriptionResponse r) = next (some (xappId, received)) ↔
      Answers ric iapp picks xappId received (.subscriptionResponse r) ∧
        FitsBuffer rt (.subscriptionResponse r) ∧ FitsBuffer rt received := by
  obtain ⟨ricId, admitted, notAdmitted⟩ := r
  rw [answerPath, relay_iff hrt, Answers]
  constructor
  · rintro ⟨arrived, fwd, ⟨harrives, hfits⟩, hfwd, hreceives, hfitsFwd⟩
    obtain ⟨hr, rfl⟩ := subscriptionResponse_arrives.mp harrives
    obtain ⟨⟨hstops, -, hadm⟩, x, ⟨hmaps, hport⟩, hid, rfl⟩ :=
      forward_subscriptionResponse_iff.mp hfwd
    obtain ⟨⟨⟨hreq, -⟩, -⟩, rfl⟩ := subscriptionResponse_arrives.mp hreceives
    obtain rfl : admitted = [0] := hadm
    exact ⟨⟨hr, rfl, hstops, x, hmaps, hport, idFits_iff.mpr hreq, hid, rfl⟩, hfits, hfitsFwd⟩
  · rintro ⟨⟨hr, hadm, hstops, x, hmaps, hport, hx, hid, rfl⟩, hfits, hfitsFwd⟩
    obtain rfl : admitted = [0] := hadm
    have harrives := subscriptionResponse_arrives.mpr ⟨hr, rfl⟩
    have hfwd := (forward_subscriptionResponse_iff (r := ⟨ricId, [0], []⟩)).mpr
      ⟨⟨hstops, rfl, rfl⟩, x, ⟨hmaps, hport⟩, hid, rfl⟩
    have hsent : RicSubscriptionResponse.Encodable ⟨x.ricId, [0], []⟩ :=
      ⟨⟨idFits_iff.mp hx, hmaps.2.1 ▸ hr.1.2⟩, by simp, by simp, by simp⟩
    have hreceives := subscriptionResponse_arrives.mpr ⟨hsent, rfl⟩
    exact ⟨_, _, ⟨harrives, hfits⟩, hfwd, hreceives, hfitsFwd⟩

/-- The whole path of the response to a deletion, from the node to the xApp. -/
theorem answerPath_deleteResponse {Buf : Type} {rt : Asn1c RicPdu Buf}
    (hrt : rt.Exact RicPdu.satisfies RicPdu.opened) {ric : NearRic} {iapp : E42Iapp}
    {picks : Picks} {d : RicSubscriptionDelete} {received : RicMsg} {xappId : UInt16} :
    answerPath rt ric iapp picks (.subscriptionDeleteResponse d) =
        next (some (xappId, received)) ↔
      Answers ric iapp picks xappId received (.subscriptionDeleteResponse d) ∧
        FitsBuffer rt (.subscriptionDeleteResponse d) ∧ FitsBuffer rt received := by
  rw [answerPath, relay_iff hrt, Answers]
  constructor
  · rintro ⟨arrived, fwd, ⟨harrives, hfits⟩, hfwd, hreceives, hfitsFwd⟩
    obtain ⟨hd, rfl⟩ := subscriptionDeleteResponse_arrives.mp harrives
    obtain ⟨hstops, x, hmaps, haddr, hid, rfl⟩ := forward_deleteResponse_iff.mp hfwd
    obtain ⟨hx, rfl⟩ := subscriptionDeleteResponse_arrives.mp hreceives
    exact ⟨⟨hd, hstops, x, hmaps, haddr, idFits_of_ricGenIdFits hx, hid, rfl⟩, hfits, hfitsFwd⟩
  · rintro ⟨⟨hd, hstops, x, hmaps, haddr, hx, hid, rfl⟩, hfits, hfitsFwd⟩
    have harrives := subscriptionDeleteResponse_arrives.mpr ⟨hd, rfl⟩
    have hfwd := forward_deleteResponse_iff.mpr ⟨hstops, x, hmaps, haddr, hid, rfl⟩
    have hsent : RicGenIdFits x.ricId := hmaps.fits hd hx
    have hreceives : RicMsg.Arrives (.subscriptionDeleteResponse ⟨x.ricId⟩)
        (.subscriptionDeleteResponse ⟨x.ricId⟩) :=
      subscriptionDeleteResponse_arrives.mpr ⟨hsent, rfl⟩
    exact ⟨_, _, ⟨harrives, hfits⟩, hfwd, hreceives, hfitsFwd⟩

/-- The whole path of a control acknowledgement, from the node to the xApp. -/
theorem answerPath_controlAcknowledge {Buf : Type} {rt : Asn1c RicPdu Buf}
    (hrt : rt.Exact RicPdu.satisfies RicPdu.opened) {ric : NearRic} {iapp : E42Iapp}
    {picks : Picks} {a : RicControlAcknowledge} {received : RicMsg} {xappId : UInt16} :
    answerPath rt ric iapp picks (.controlAcknowledge a) = next (some (xappId, received)) ↔
      Answers ric iapp picks xappId received (.controlAcknowledge a) ∧
        FitsBuffer rt (.controlAcknowledge a) ∧ FitsBuffer rt received := by
  rw [answerPath, relay_iff hrt, Answers]
  constructor
  · rintro ⟨arrived, fwd, ⟨harrives, hfits⟩, hfwd, hreceives, hfitsFwd⟩
    obtain ⟨ha, rfl⟩ := controlAcknowledge_arrives.mp harrives
    obtain ⟨hstops, x, hmaps, haddr, hid, rfl⟩ := forward_controlAcknowledge_iff.mp hfwd
    obtain ⟨⟨hx, -⟩, rfl⟩ := controlAcknowledge_arrives.mp hreceives
    exact ⟨⟨ha, hstops, x, hmaps, haddr, idFits_of_ricGenIdFits hx, hid, rfl⟩, hfits, hfitsFwd⟩
  · rintro ⟨⟨ha, hstops, x, hmaps, haddr, hx, hid, rfl⟩, hfits, hfitsFwd⟩
    have harrives := controlAcknowledge_arrives.mpr ⟨ha, rfl⟩
    have hfwd := forward_controlAcknowledge_iff.mpr ⟨hstops, x, hmaps, haddr, hid, rfl⟩
    have hsent : RicGenIdFits x.ricId := hmaps.fits ha.1 hx
    have hreceives : RicMsg.Arrives (.controlAcknowledge ⟨x.ricId, none, none⟩)
        (.controlAcknowledge ⟨x.ricId, none, none⟩) :=
      controlAcknowledge_arrives.mpr ⟨⟨hsent, by simp, by simp⟩, rfl⟩
    exact ⟨_, _, ⟨harrives, hfits⟩, hfwd, hreceives, hfitsFwd⟩

/-- Nothing else is forwarded: what arrives is of the kind that was sent. -/
theorem forwardAnswer_other {ric : NearRic} {iapp : E42Iapp} {picks : Picks}
    {msg arrived : RicMsg} {r : UInt16 × RicMsg} (harrives : msg.Arrives arrived)
    (hfwd : forwardAnswer ric iapp picks arrived = next (some r)) :
    (∃ m, msg = .subscriptionResponse m) ∨ (∃ m, msg = .subscriptionDeleteResponse m) ∨
      ∃ m, msg = .controlAcknowledge m := by
  obtain ⟨pdu, -, -, hdec⟩ := harrives
  cases msg
  case subscriptionResponse m => exact .inl ⟨m, rfl⟩
  case subscriptionDeleteResponse m => exact .inr (.inl ⟨m, rfl⟩)
  case controlAcknowledge m => exact .inr (.inr ⟨m, rfl⟩)
  all_goals
    simp only [decoderOf, bind_eq_next, next_inj] at hdec
    obtain ⟨_, -, rfl⟩ := hdec
    simp [forwardAnswer] at hfwd

/-- **Where the answers of the nodes arrive.**  An answer comes to the xApp of
the request, under the number that the xApp gave; the refused actions of a
subscription, and the call process id and the outcome of a control request, do
not come with it. -/
theorem answers_reach_xapp {Buf : Type} (rt : Asn1c RicPdu Buf)
    (hrt : rt.Exact RicPdu.satisfies RicPdu.opened) (ric : NearRic) (iapp : E42Iapp)
    (picks : Picks) (msg received : RicMsg) (xappId : UInt16) :
    answerPath rt ric iapp picks msg = next (some (xappId, received)) ↔
      Answers ric iapp picks xappId received msg ∧ FitsBuffer rt msg ∧
        FitsBuffer rt received := by
  constructor
  · intro h
    obtain ⟨arrived, fwd, ⟨harrives, -⟩, hfwd, -⟩ := (relay_iff hrt).mp h
    obtain ⟨m, rfl⟩ | ⟨m, rfl⟩ | ⟨m, rfl⟩ := forwardAnswer_other harrives hfwd
    · exact (answerPath_subscriptionResponse hrt).mp h
    · exact (answerPath_deleteResponse hrt).mp h
    · exact (answerPath_controlAcknowledge hrt).mp h
  · rintro ⟨hanswers, hfits⟩
    cases msg
    case subscriptionResponse m =>
      exact (answerPath_subscriptionResponse hrt).mpr ⟨hanswers, hfits⟩
    case subscriptionDeleteResponse m =>
      exact (answerPath_deleteResponse hrt).mpr ⟨hanswers, hfits⟩
    case controlAcknowledge m =>
      exact (answerPath_controlAcknowledge hrt).mpr ⟨hanswers, hfits⟩
    all_goals exact hanswers.elim

/-- A RIC that waits for the answer to a control request. -/
def answerRic : NearRic :=
  { pathRic with pending := ⟨[(9, ⟨.controlRequest, ⟨3, 0, 147⟩⟩)],
      [(⟨.controlRequest, ⟨3, 0, 147⟩⟩, 9)]⟩ }

/-- An iApp that maps the control request to a request of its xApp. -/
def answerIapp : E42Iapp :=
  { pathIapp with map := ⟨[(⟨⟨3, 0, 147⟩, cuCpSeen, .control⟩, ⟨⟨1022, 0, 147⟩, 7⟩)],
      [(⟨⟨1022, 0, 147⟩, 7⟩, ⟨⟨3, 0, 147⟩, cuCpSeen, .control⟩)]⟩ }

/-- The outcome of the control request is lost. -/
theorem answers_reach_xapp_outcome :
    answerPath ricRuntime answerRic answerIapp (0, 0)
        (.controlAcknowledge ⟨⟨3, 0, 147⟩, none, some [5]⟩) =
      next (some (7, .controlAcknowledge ⟨⟨1022, 0, 147⟩, none, none⟩)) := by
  have hstops : StopsTimer answerRic .controlRequest ⟨3, 0, 147⟩ (0, 0) := by
    refine stopsTimer_of_pending 9 _ ⟨.refl _, ?_, ?_⟩ (by decide) (by decide)
    · simp [answerRic, OrdAssoc.Distinct]
    · simp [answerRic, OrdAssoc.Distinct]
  exact (answers_reach_xapp ricRuntime ricRuntime_exact answerRic answerIapp (0, 0) _ _ _).mpr
    ⟨⟨by simp [RicGenIdFits], hstops, ⟨⟨1022, 0, 147⟩, 7⟩, ⟨rfl, rfl, rfl⟩, ⟨_, rfl⟩, by decide,
      rfl, rfl⟩, fitsBuffer_ricRuntime _, fitsBuffer_ricRuntime _⟩

end FlexRic.Codec
