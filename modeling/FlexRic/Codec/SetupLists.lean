import FlexRic.Codec.SetupItems

/-!
# FlexRic.Codec.SetupLists

The lists of elements of the setup messages: how the runtime opens them, what
their constraints say, and what the decoder returns for them.

`decSetupRequest_iff` and `decSetupResponse_iff` are about any lists in the
order in which the encoder puts them, whatever is in them.
-/

namespace FlexRic

open Outcome

/-! ## Lists of elements -/

section Elements

variable {V W : Type}

theorem listIe_nil (id : ProtocolIeId) (value : List (Ie V) → W) : listIe id value [] = [] := rfl

theorem listIe_cons (id : ProtocolIeId) (value : List (Ie V) → W) (ie : Ie V) (ies : List (Ie V)) :
    listIe id value (ie :: ies) = [⟨id, .reject, some (value (ie :: ies))⟩] := rfl

/-- Opening the types of an optional list opens those of its elements. -/
theorem map_listIe {id : ProtocolIeId} {value : List (Ie V) → W} {f : W → W} {g : Ie V → Ie V}
    (h : ∀ items, f (value items) = value (items.map g)) (items : List (Ie V)) :
    (listIe id value items).map (fun ie => { ie with value := ie.value.map f }) =
      listIe id value (items.map g) := by
  cases items with
  | nil => rfl
  | cons ie ies =>
    rw [List.map_cons, listIe_cons, listIe_cons]
    simp [h]

/-- The elements of an optional list satisfy their constraints. -/
theorem of_satisfies_listIe {id : ProtocolIeId} {value : List (Ie V) → W}
    {p : ProtocolIeId → W → Bool} {items : List (Ie V)} {q : V → Bool}
    (hp : p id (value items) = true → items.all (Ie.satisfies q) = true)
    (h : (listIe id value items).all (fun ie => ie.satisfies (p ie.id)) = true) :
    ∀ ie ∈ items, ie.satisfies q = true := by
  cases items with
  | nil => simp
  | cons ie ies =>
    rw [listIe_cons] at h
    exact List.all_eq_true.mp (hp (by simpa [Ie.satisfies] using h))

end Elements

/-! ## E2 setup request -/

theorem mapValues_setupRequestIes (t : UInt8) (n : GlobalE2NodeIdIe)
    (fs : List (Ie RanFunctionItem)) (cs : List (Ie ConfigAdditionItem)) :
    (setupRequestIes t n fs cs).map
        (fun ie => { ie with value := ie.value.map E2SetupRequestValue.opened }) =
      setupRequestIes t n (fs.map (Ie.opened .ranFunctionItem))
        (cs.map (Ie.opened .e2NodeComponentConfigAdditionItem)) := by
  simp only [setupRequestIes, setupRequestLists, List.map_cons, List.map_append, List.map_nil,
    Option.map_some]
  rw [map_listIe (f := E2SetupRequestValue.opened) (g := Ie.opened .ranFunctionItem) fun _ => rfl]
  rfl

/-- The RAN functions of a request satisfy their constraints. -/
theorem functions_satisfy {t : UInt8} {n : GlobalE2NodeIdIe} {fs : List (Ie RanFunctionItem)}
    {cs : List (Ie ConfigAdditionItem)}
    (h : SetupPdu.satisfies (.initiatingMessage ⟨procedureCodeE2Setup, .reject,
      some (setupRequestIes t n fs cs)⟩) = true) :
    ∀ ie ∈ fs, ie.satisfies RanFunctionItem.satisfies = true := by
  simp only [SetupPdu.satisfies, Procedure.satisfies, Option.any_some, setupRequestIes,
    setupRequestLists, List.all_cons, List.all_append, Bool.and_eq_true] at h
  refine of_satisfies_listIe (p := E2SetupRequestValue.satisfies) ?_ h.2.2.2.1
  exact fun hp => (Bool.and_eq_true_iff.mp hp).2

/-- The body of the loop at the RAN functions. -/
theorem decSetupRequestIe_functions {s s' : SetupRequestArrays} {fs : List (Ie RanFunctionItem)} :
    decSetupRequestIe s ⟨.ranFunctionsAdded, .reject, some (.ranFunctionsList fs)⟩ = next s' ↔
      fs.length < maxNumRanFuncId ∧ s.ranFuncItem = none ∧
        ∃ l, walk decRanFunctionItem fs = next l ∧ { s with ranFuncItem := some l } = s' := by
  simp [decSetupRequestIe, Ie.read_mk]

/-- The body of the loop at the node components. -/
theorem decSetupRequestIe_components {s s' : SetupRequestArrays}
    {cs : List (Ie ConfigAdditionItem)} :
    decSetupRequestIe s
        ⟨.e2NodeComponentConfigAddition, .reject, some (.configAdditionList cs)⟩ = next s' ↔
      (0 < cs.length ∧ cs.length < 1024) ∧ s.compConfAdd = none ∧
        ∃ l, walk e2apDecNodeComponentConfAddition cs = next l ∧
          { s with compConfAdd := some l } = s' := by
  simp [decSetupRequestIe, Ie.read_mk, and_assoc]

/-- The loop over the lists of a setup request, the last one first. -/
theorem fold_decSetupRequestIe {fs : List (Ie RanFunctionItem)} {cs : List (Ie ConfigAdditionItem)}
    {sfs : List RanFunction} {scs : List NodeComponentConfigAdd} :
    (∃ s, fold decSetupRequestIe ⟨none, none⟩ (setupRequestLists fs cs).reverse = next s ∧
        s.ranFuncItem.getD [] = sfs ∧ s.compConfAdd.getD [] = scs) ↔
      ((0 < cs.length ∧ cs.length < 1024) ∧
        walk e2apDecNodeComponentConfAddition cs = next scs) ∧
      (fs.length < maxNumRanFuncId ∧ walk decRanFunctionItem fs = next sfs) := by
  have hpos : 0 < maxNumRanFuncId := by decide
  rcases fs with _ | ⟨f, fs⟩
  · simp [setupRequestLists, listIe_nil, decSetupRequestIe_components, hpos, and_assoc]
  · simp [setupRequestLists, listIe_cons, decSetupRequestIe_components,
      decSetupRequestIe_functions, and_assoc, -walk_cons_eq_next]

/-- **What the decoder returns for the elements of a setup request.** -/
theorem decSetupRequest_iff {t : UInt8} {n : GlobalE2NodeIdIe} {fs : List (Ie RanFunctionItem)}
    {cs : List (Ie ConfigAdditionItem)} {sr : E2SetupRequest} :
    e2apDecSetupRequest ⟨procedureCodeE2Setup, .reject, some (setupRequestIes t n fs cs)⟩ =
        next sr ↔
      t = sr.transId ∧ decGlobalE2NodeId n = next sr.id ∧
      ((0 < cs.length ∧ cs.length < 1024) ∧
        walk e2apDecNodeComponentConfAddition cs = next sr.compConfAdd) ∧
      (fs.length < maxNumRanFuncId ∧ walk decRanFunctionItem fs = next sr.ranFuncItem) := by
  obtain ⟨st, sid, sfs, scs⟩ := sr
  have hlen : (setupRequestLists fs cs).length + 2 < 5 := by
    cases fs <;> simp [setupRequestLists, listIe_nil, listIe_cons]
  rw [← fold_decSetupRequestIe]
  simp [e2apDecSetupRequest, setupRequestIes, expect, Ie.read_mk, decTransId_back, hlen,
    and_left_comm]

/-! ## E2 setup response -/

theorem mapValues_setupResponseIes (t : UInt8) (r : GlobalRicIdIe) (as : List (Ie Int))
    (rs : List (Ie RanFunctionIdCauseItem)) (ks : List (Ie ConfigAdditionAckItem)) :
    (setupResponseIes t r as rs ks).map
        (fun ie => { ie with value := ie.value.map E2SetupResponseValue.opened }) =
      setupResponseIes t r (as.map (Ie.opened .ranFunctionIdItem))
        (rs.map (Ie.opened .ranFunctionIeCauseItem))
        (ks.map (Ie.opened .e2NodeComponentConfigAdditionAckItem)) := by
  simp only [setupResponseIes, setupResponseLists, List.map_cons, List.map_append, List.map_nil,
    Option.map_some]
  rw [map_listIe (f := E2SetupResponseValue.opened) (g := Ie.opened .ranFunctionIdItem)
      fun _ => rfl,
    map_listIe (f := E2SetupResponseValue.opened) (g := Ie.opened .ranFunctionIeCauseItem)
      fun _ => rfl]
  rfl

/-- The accepted functions of a response satisfy their constraints. -/
theorem accepted_satisfy {t : UInt8} {r : GlobalRicIdIe} {as : List (Ie Int)}
    {rs : List (Ie RanFunctionIdCauseItem)} {ks : List (Ie ConfigAdditionAckItem)}
    (h : SetupPdu.satisfies (.successfulOutcome ⟨procedureCodeE2Setup, .reject,
      some (setupResponseIes t r as rs ks)⟩) = true) :
    ∀ ie ∈ as, ie.satisfies isRanFunctionId = true := by
  simp only [SetupPdu.satisfies, Procedure.satisfies, Option.any_some, setupResponseIes,
    setupResponseLists, List.all_cons, List.all_append, Bool.and_eq_true] at h
  refine of_satisfies_listIe (p := E2SetupResponseValue.satisfies) ?_ h.2.2.2.1
  exact fun hp => (Bool.and_eq_true_iff.mp hp).2

/-- The rejected functions of a response satisfy their constraints. -/
theorem rejected_satisfy {t : UInt8} {r : GlobalRicIdIe} {as : List (Ie Int)}
    {rs : List (Ie RanFunctionIdCauseItem)} {ks : List (Ie ConfigAdditionAckItem)}
    (h : SetupPdu.satisfies (.successfulOutcome ⟨procedureCodeE2Setup, .reject,
      some (setupResponseIes t r as rs ks)⟩) = true) :
    ∀ ie ∈ rs, ie.satisfies RanFunctionIdCauseItem.satisfies = true := by
  simp only [SetupPdu.satisfies, Procedure.satisfies, Option.any_some, setupResponseIes,
    setupResponseLists, List.all_cons, List.all_append, Bool.and_eq_true] at h
  refine of_satisfies_listIe (p := E2SetupResponseValue.satisfies) ?_ h.2.2.2.2.1
  exact fun hp => (Bool.and_eq_true_iff.mp hp).2

/-- The body of the loop at the accepted functions. -/
theorem decSetupResponseIe_accepted {s s' : SetupResponseArrays} {as : List (Ie Int)} :
    decSetupResponseIe s ⟨.ranFunctionsAccepted, .reject, some (.ranFunctionsIdList as)⟩ =
        next s' ↔
      as.length < maxNumRanFuncId ∧ s.accepted = none ∧
        ∃ l, walk decAcceptedItem as = next l ∧ { s with accepted := some l } = s' := by
  simp [decSetupResponseIe, Ie.read_mk]

/-- The body of the loop at the rejected functions. -/
theorem decSetupResponseIe_rejected {s s' : SetupResponseArrays}
    {rs : List (Ie RanFunctionIdCauseItem)} :
    decSetupResponseIe s ⟨.ranFunctionsRejected, .reject, some (.ranFunctionsIdCauseList rs)⟩ =
        next s' ↔
      s.rejected = none ∧
        ∃ l, walk decRejectedItem rs = next l ∧ { s with rejected := some l } = s' := by
  simp [decSetupResponseIe, Ie.read_mk]

/-- The body of the loop at the acknowledgements. -/
theorem decSetupResponseIe_acks {s s' : SetupResponseArrays}
    {ks : List (Ie ConfigAdditionAckItem)} :
    decSetupResponseIe s
        ⟨.e2NodeComponentConfigAdditionAck, .reject, some (.configAdditionAckList ks)⟩ =
        next s' ↔
      ks.length < maxNumE2NodeComponents ∧ s.compConfigAddAck = none ∧
        ∃ l, walk e2apDecNodeComponentConfAdditionAck ks = next l ∧
          { s with compConfigAddAck := some l } = s' := by
  simp [decSetupResponseIe, Ie.read_mk]

/-- The loop over the lists of a setup response, the last one first. -/
theorem fold_decSetupResponseIe {as : List (Ie Int)} {rs : List (Ie RanFunctionIdCauseItem)}
    {ks : List (Ie ConfigAdditionAckItem)} {sas : List UInt16} {srs : List RejectedRanFunction}
    {sks : List NodeCompConfigAddAck} :
    (∃ s, fold decSetupResponseIe ⟨none, none, none⟩ (setupResponseLists as rs ks).reverse =
          next s ∧
        s.accepted.getD [] = sas ∧ s.rejected.getD [] = srs ∧ s.compConfigAddAck.getD [] = sks) ↔
      (ks.length < maxNumE2NodeComponents ∧
        walk e2apDecNodeComponentConfAdditionAck ks = next sks) ∧
      walk decRejectedItem rs = next srs ∧
      (as.length < maxNumRanFuncId ∧ walk decAcceptedItem as = next sas) := by
  have hpos : 0 < maxNumRanFuncId := by decide
  rcases as with _ | ⟨a, as⟩ <;> rcases rs with _ | ⟨r', rs⟩ <;>
    simp [setupResponseLists, listIe_nil, listIe_cons, decSetupResponseIe_accepted,
      decSetupResponseIe_rejected, decSetupResponseIe_acks, hpos, and_assoc,
      -walk_cons_eq_next]
  case nil.nil => exact fun _ _ => and_comm
  case cons.nil =>
    intro _ _
    rw [← and_assoc]
    exact and_comm

/-- **What the decoder returns for the elements of a setup response.**  With
accepted and rejected functions both there are five elements, which is one more
than it takes. -/
theorem decSetupResponse_iff {t : UInt8} {r : GlobalRicIdIe} {as : List (Ie Int)}
    {rs : List (Ie RanFunctionIdCauseItem)} {ks : List (Ie ConfigAdditionAckItem)}
    {sr : E2SetupResponse} :
    e2apDecSetupResponse ⟨procedureCodeE2Setup, .reject, some (setupResponseIes t r as rs ks)⟩ =
        next sr ↔
      (as = [] ∨ rs = []) ∧ t = sr.transId ∧
      (plmnidToMccMnc r.plmnIdentity = sr.id.plmn ∧
        bitStringToMacroEnbId r.ricId = next sr.id.doubleWord) ∧
      (ks.length < maxNumE2NodeComponents ∧
        walk e2apDecNodeComponentConfAdditionAck ks = next sr.compConfigAddAck) ∧
      walk decRejectedItem rs = next sr.rejected ∧
      (as.length < maxNumRanFuncId ∧ walk decAcceptedItem as = next sr.accepted) := by
  obtain ⟨st, ⟨splmn, sdw⟩, sas, srs, sks⟩ := sr
  have hlen : (setupResponseLists as rs ks).length + 2 < 5 ↔ as = [] ∨ rs = [] := by
    cases as <;> cases rs <;> simp [setupResponseLists, listIe_nil, listIe_cons]
  rw [← fold_decSetupResponseIe]
  simp [e2apDecSetupResponse, setupResponseIes, expect, Ie.read_mk, decTransId_back, hlen,
    and_assoc, and_left_comm]

end FlexRic
