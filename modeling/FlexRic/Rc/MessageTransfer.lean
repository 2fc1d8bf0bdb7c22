import FlexRic.Rc.ActionTransfer
import FlexRic.Rc.MessageCodec
import FlexRic.Ue.RoundTrip

/-!
# FlexRic.Rc.MessageTransfer

Which indications and controls are encoded, and that all of these come back.

* `Sendable`: the asserted ids are not 0, the arrays have the sizes of the generated structures,
  what is not implemented is not there, and an action has its message.
* The identities of UEs and cells are taken to come back (`IdentitiesBack`); their constraints are
  the messages' own.
-/

namespace FlexRic

namespace Rc

open Outcome Codec Kpm Ue

/-! ## Identities -/

/-- What comes back is conveyed within its constraints. -/
theorem conveys_back {α β : Type} {enc : α → Outcome β} {dec : β → Outcome α} {P : α → Bool}
    {sat : β → Bool} {x : α} (hback : Back enc dec x) (hmeets : Meets enc P sat) :
    Conveys (enc x) sat dec x (P x = true) True := by
  obtain ⟨y, hy, hdec⟩ := hback
  rw [hy, ← hmeets hy]
  exact conveys_constrained hdec

/-- **A UE identity is conveyed** where its octets come back. -/
theorem conveys_ueId {ue : UeId} (h : Back encUeIdAsn decUeIdAsn ue) :
    Conveys (encUeIdAsn ue) UeIdAsn.satisfies decUeIdAsn ue (ue.expressible = true) True :=
  conveys_back h ueId_meets

/-- A cell identity is conveyed where its octets come back. -/
theorem conveys_cellGlobalId {id : CellGlobalId}
    (h : Back encCellGlobalIdAsn decCellGlobalIdAsn id) :
    Conveys (encCellGlobalIdAsn id) CgiAsn.satisfies decCellGlobalIdAsn id True True :=
  (conveys_back h cellGlobalId_meets).iff (iff_of_true rfl trivial) Iff.rfl

/-! ## Arrays -/

section

variable {α β : Type} {enc : α → Outcome β} {sat : β → Bool} {dec : β → Outcome α}
  {S D : α → Prop} {n : Nat} {xs : List α}

/-- **An array that may be empty**, of which neither side asserts the size. -/
theorem conveys_walk_array (h : ∀ x ∈ xs, Conveys (enc x) sat dec x (S x) (D x)) :
    Conveys (walk enc xs) (isArray n sat) (walk dec) xs
      (below (n + 1) xs = true ∧ ∀ x ∈ xs, S x) (∀ x ∈ xs, D x) :=
  (conveys_walk h).within fun ys hys => by rw [below, below, walk_length hys]

/-- An array that may be empty, of which the decoder asserts the size. -/
theorem conveys_walk_belowWalk (h : ∀ x ∈ xs, Conveys (enc x) sat dec x (S x) (D x)) :
    Conveys (walk enc xs) (isArray n sat) (belowWalk (n + 1) dec) xs
      (below (n + 1) xs = true ∧ ∀ x ∈ xs, S x) (∀ x ∈ xs, D x) :=
  ((conveys_walk_array h).checks fun _ _ hsat =>
    iff_true_intro ((Bool.and_eq_true _ _ ▸ hsat).1)).iff Iff.rfl (and_iff_right trivial)

/-- An array that may be empty, of which both sides assert the size. -/
theorem conveys_belowWalk (h : ∀ x ∈ xs, Conveys (enc x) sat dec x (S x) (D x)) :
    Conveys (belowWalk (n + 1) enc xs) (isArray n sat) (belowWalk (n + 1) dec) xs
      (below (n + 1) xs = true ∧ ∀ x ∈ xs, S x) (∀ x ∈ xs, D x) :=
  ((conveys_walk_belowWalk h).guard _ _).iff
    (and_congr_right fun hlen => and_iff_right hlen) Iff.rfl

end

/-! ## Indication headers -/

namespace IndHdr

/-- The UEs it names. -/
def ues : IndHdr → List UeId
  | frmt1 _ => []
  | frmt2 f => [f.ueId]
  | frmt3 f => f.ueId.toList

/-- The ids are not 0. -/
def Sendable : IndHdr → Prop
  | frmt1 f => ∀ id ∈ f.evTriggerId, 0 < id
  | frmt2 f => f.ueId.expressible = true ∧ 0 < f.insIndId
  | frmt3 f => (∀ id ∈ f.evTriggerCond, 0 < id) ∧ ∀ ue ∈ f.ueId, ue.expressible = true

end IndHdr

/-- **An indication header arrives as it is.** -/
theorem conveys_indHdr (m : IndHdr) (hues : ∀ ue ∈ m.ues, Back encUeIdAsn decUeIdAsn ue) :
    Conveys (indHdrPdu m) IndicationHeaderAsn.satisfies indHdrOfPdu m m.Sendable True := by
  cases m with
  | frmt1 f =>
    exact Conveys.always (conveys_one (conveys_opt fun id _ => conveys_id id) rfl
      (fun y => by cases y <;> rfl) (fun _ => rfl) rfl) Iff.rfl fun _ _ => trivial
  | frmt2 f =>
    obtain ⟨ue, style, ind⟩ := f
    have hdec (y₁ : UeIdAsn) (y₂ : Int) : indHdrOfPdu (.format2 y₁ style.toNat y₂) =
        decUeIdAsn y₁ >>= fun z₁ => decIdOpen y₂ >>= fun z₂ => next (.frmt2 ⟨z₁, style, z₂⟩) := by
      rw [indHdrOfPdu, longToU32_back]
      rfl
    exact Conveys.always (conveys_two (conveys_ueId (hues ue (List.mem_singleton.mpr rfl)))
      (conveys_idOpen ind) rfl (fun _ _ => (Bool.and_true _).symm) hdec rfl) Iff.rfl
      ⟨trivial, trivial⟩
  | frmt3 f =>
    have hue (ue : UeId) (hue : ue ∈ f.ueId) :=
      conveys_ueId (hues ue (Option.mem_toList.mpr hue))
    exact Conveys.always (conveys_two (conveys_opt fun id _ => conveys_id id) (conveys_opt hue) rfl
      (fun y _ => by cases y <;> rfl) (fun _ _ => rfl) rfl) Iff.rfl
      ⟨fun _ _ => trivial, fun _ _ => trivial⟩

/-! ## Indication messages -/

/-- From 1 to 65535 parameters of a UE. -/
def SeqUeId.Sendable (m : SeqUeId) : Prop :=
  m.ueId.expressible = true ∧ sized 65536 m.seqRanParam = true ∧ ∀ p ∈ m.seqRanParam, p.Sendable

/-- A UE's report: its identity and its parameters. -/
theorem conveys_seqUeId (m : SeqUeId) (hue : Back encUeIdAsn decUeIdAsn m.ueId) :
    Conveys (encIndMsgFrmt2It m) IndMsgFormat2ItemAsn.satisfies decSeqUeId m m.Sendable True :=
  Conveys.always (conveys_two (conveys_ueId hue)
    (conveys_sized_sized fun p _ => conveys_ranParamStruct p) rfl (fun _ _ => rfl) (fun _ _ => rfl)
    rfl) Iff.rfl ⟨trivial, fun _ _ => trivial⟩

/-- The cell alone. -/
def SeqCellInfo.Sendable (m : SeqCellInfo) : Prop :=
  m.cellCtxInfo = none ∧ m.cellDel = none ∧ m.neighbourRelaTbl = none

/-- A cell's report has the id alone. -/
theorem conveys_seqCellInfo (m : SeqCellInfo)
    (hcell : Back encCellGlobalIdAsn decCellGlobalIdAsn m.cellGlobalId) :
    Conveys (encIndMsgFrmt3It m) (·.cellGlobalId.satisfies) decIndMsgFrmt3It m m.Sendable True :=
  Conveys.always (conveys_four (conveys_cellGlobalId hcell) (conveys_absent m.cellCtxInfo)
    (conveys_absent m.cellDel) (conveys_absent m.neighbourRelaTbl) rfl
    (fun _ _ _ _ => (Bool.and_true _).symm) (fun _ _ _ _ => rfl) rfl) (and_iff_right trivial)
    ⟨trivial, trivial, trivial, trivial⟩

/-- The UE and its cell alone. -/
def SeqUeInfo.Sendable (m : SeqUeInfo) : Prop := m.ueId.expressible = true ∧ m.ueCtxInfo = none

/-- A UE of format 4 is conveyed with its cell. -/
theorem conveys_seqUeInfo (m : SeqUeInfo) (hue : Back encUeIdAsn decUeIdAsn m.ueId)
    (hcell : Back encCellGlobalIdAsn decCellGlobalIdAsn m.cellGlobalId) :
    Conveys (encIndMsgFrmt4ItUe m) IndMsgFormat4ItemUeAsn.satisfies decIndMsgFrmt4ItUeInfo m
      m.Sendable True :=
  Conveys.always (conveys_three (conveys_ueId hue) (conveys_absent m.ueCtxInfo)
    (conveys_cellGlobalId hcell) rfl (fun _ _ _ => by simp [IndMsgFormat4ItemUeAsn.satisfies])
    (fun _ _ _ => rfl) rfl) (by simp [SeqUeInfo.Sendable]) ⟨trivial, trivial, trivial⟩

/-- The cell alone. -/
def SeqCellInfo2.Sendable (m : SeqCellInfo2) : Prop :=
  m.cellCtxInfo = none ∧ m.neighbourRelaTbl = none

/-- A cell of format 4 is conveyed. -/
theorem conveys_seqCellInfo2 (m : SeqCellInfo2)
    (hcell : Back encCellGlobalIdAsn decCellGlobalIdAsn m.cellGlobalId) :
    Conveys (encIndMsgFrmt4ItCell m) (·.cellGlobalId.satisfies) decIndMsgFrmt4ItDellInfo m
      m.Sendable True :=
  Conveys.always (conveys_three (conveys_cellGlobalId hcell) (conveys_absent m.cellCtxInfo)
    (conveys_absent m.neighbourRelaTbl) rfl (fun _ _ _ => (Bool.and_true _).symm)
    (fun _ _ _ => rfl) rfl) (and_iff_right trivial) ⟨trivial, trivial, trivial⟩

/-- An id above 0. -/
def RanParamReq.Sendable (m : RanParamReq) : Prop := 0 < m.ranParamId ∧ m.ranParam.Sendable

/-- A requested parameter. -/
theorem conveys_ranParamReq (m : RanParamReq) :
    Conveys (encIndMsgFrmt6Ran m) StructItemAsn.satisfies decRanParamReq m m.Sendable True :=
  Conveys.always (conveys_two (conveys_paramIdBelow m.ranParamId)
    (conveys_ranParamValueType m.ranParam) rfl
    (fun _ _ => by rw [StructItemAsn.satisfies, Bool.true_and]) (fun _ _ => rfl) rfl) Iff.rfl
    ⟨trivial, trivial⟩

/-- Up to 65535 parameters. -/
def SeqInsIndAct2.Sendable (m : SeqInsIndAct2) : Prop :=
  0 < m.insIndId ∧ below 65536 m.ranParamReq = true ∧ ∀ p ∈ m.ranParamReq, p.Sendable

/-- An insert indication is conveyed where it is sendable. -/
theorem conveys_seqInsIndAct2 (m : SeqInsIndAct2) :
    Conveys (encIndMsgFrmt6IndIt m) IndMsgFormat6IndicationAsn.satisfies decSeqInsIndAct m
      m.Sendable True :=
  Conveys.always (conveys_two (conveys_id m.insIndId)
    (conveys_walk_array fun p _ => conveys_ranParamReq p) rfl (fun _ _ => (Bool.true_and _).symm)
    (fun _ _ => rfl) rfl) Iff.rfl ⟨trivial, fun _ _ => trivial⟩

/-- From 1 to 63 insert indications. -/
def SeqInsStyle2.Sendable (m : SeqInsStyle2) : Prop :=
  sized 64 m.seqInsIndAct = true ∧ ∀ i ∈ m.seqInsIndAct, i.Sendable

/-- A style of 1 to 63 insert indications is conveyed. -/
theorem conveys_seqInsStyle2 (m : SeqInsStyle2) :
    Conveys (encIndMsgFrmt6It m) IndMsgFormat6StyleAsn.satisfies decSeqInsStyle m m.Sendable
      True := by
  have hdec (y : List IndMsgFormat6IndicationAsn) : decSeqInsStyle ⟨m.indInsStyle.toNat, y⟩ =
      sizedWalk 64 decSeqInsIndAct y >>= fun z => next ⟨m.indInsStyle, z⟩ := by
    rw [decSeqInsStyle, longToU32_back]
    rfl
  exact Conveys.always (conveys_one (conveys_sized_sized fun i _ => conveys_seqInsIndAct2 i) rfl
    (fun _ => rfl) hdec rfl) Iff.rfl fun _ _ => trivial

namespace IndMsg

/-- The UEs that an indication message names. -/
def ues : IndMsg → List UeId
  | frmt2 f => f.seqUeId.map (·.ueId)
  | frmt4 f => f.seqUeInfo.map (·.ueId)
  | _ => []

/-- The cells that an indication message names. -/
def cells : IndMsg → List CellGlobalId
  | frmt3 f => f.seqCellInfo.map (·.cellGlobalId)
  | frmt4 f => f.seqUeInfo.map (·.cellGlobalId) ++ f.seqCellInfo2.map (·.cellGlobalId)
  | _ => []

/-- The arrays of formats 4 and 5 may be empty, the others may not. -/
def Sendable : IndMsg → Prop
  | frmt1 f => sized 65536 f.seqRanParam = true ∧ ∀ p ∈ f.seqRanParam, p.Sendable
  | frmt2 f => sized 65536 f.seqUeId = true ∧ ∀ u ∈ f.seqUeId, u.Sendable
  | frmt3 f => sized 65536 f.seqCellInfo = true ∧ ∀ c ∈ f.seqCellInfo, c.Sendable
  | frmt4 f => (below 65536 f.seqUeInfo = true ∧ ∀ u ∈ f.seqUeInfo, u.Sendable) ∧
      below 65536 f.seqCellInfo2 = true ∧ ∀ c ∈ f.seqCellInfo2, c.Sendable
  | frmt5 f => below 65536 f.seqRanParam = true ∧ ∀ p ∈ f.seqRanParam, p.Sendable
  | frmt6 f => sized 64 f.seqInsStyle = true ∧ ∀ s ∈ f.seqInsStyle, s.Sendable

end IndMsg

/-- **An indication message arrives as it is.** -/
theorem conveys_indMsg (m : IndMsg) (hues : ∀ ue ∈ m.ues, Back encUeIdAsn decUeIdAsn ue)
    (hcells : ∀ id ∈ m.cells, Back encCellGlobalIdAsn decCellGlobalIdAsn id) :
    Conveys (indMsgPdu m) IndicationMessageAsn.satisfies indMsgOfPdu m m.Sendable True := by
  cases m with
  | frmt1 f =>
    exact Conveys.always (conveys_one (conveys_sized_sized fun p _ => conveys_ranParamStruct p) rfl
      (fun _ => rfl) (fun _ => rfl) rfl) Iff.rfl fun _ _ => trivial
  | frmt2 f =>
    have hue (u : SeqUeId) (hu : u ∈ f.seqUeId) :=
      conveys_seqUeId u (hues u.ueId (List.mem_map_of_mem hu))
    exact Conveys.always (conveys_one (conveys_sized_sized hue) rfl (fun _ => rfl) (fun _ => rfl)
      rfl) Iff.rfl fun _ _ => trivial
  | frmt3 f =>
    have hcell (c : SeqCellInfo) (hc : c ∈ f.seqCellInfo) :=
      conveys_seqCellInfo c (hcells c.cellGlobalId (List.mem_map_of_mem hc))
    exact Conveys.always (conveys_one (conveys_sized_sized hcell) rfl (fun _ => rfl) (fun _ => rfl)
      rfl) Iff.rfl fun _ _ => trivial
  | frmt4 f =>
    have hue (u : SeqUeInfo) (hu : u ∈ f.seqUeInfo) :=
      conveys_seqUeInfo u (hues u.ueId (List.mem_map_of_mem hu))
        (hcells u.cellGlobalId (List.mem_append_left _ (List.mem_map_of_mem hu)))
    have hcell (c : SeqCellInfo2) (hc : c ∈ f.seqCellInfo2) :=
      conveys_seqCellInfo2 c
        (hcells c.cellGlobalId (List.mem_append_right _ (List.mem_map_of_mem hc)))
    exact Conveys.always (conveys_two (conveys_walk_belowWalk hue) (conveys_walk_belowWalk hcell)
      rfl (fun _ _ => rfl) (fun _ _ => rfl) rfl) Iff.rfl ⟨fun _ _ => trivial, fun _ _ => trivial⟩
  | frmt5 f =>
    exact Conveys.always (conveys_one (conveys_walk_belowWalk fun p _ => conveys_ranParamStruct p)
      rfl (fun _ => rfl) (fun _ => rfl) rfl) Iff.rfl fun _ _ => trivial
  | frmt6 f =>
    exact Conveys.always (conveys_one (conveys_sized_sized fun s _ => conveys_seqInsStyle2 s) rfl
      (fun _ => rfl) (fun _ => rfl) rfl) Iff.rfl fun _ _ => trivial

/-! ## Control headers -/

namespace CtrlHdr

/-- The UEs it names. -/
def ues : CtrlHdr → List UeId
  | frmt1 f => [f.ueId]
  | frmt2 f => f.ueId.toList

/-- An id above 0, and no decision. -/
def Sendable : CtrlHdr → Prop
  | frmt1 f => f.ueId.expressible = true ∧ 0 < f.ctrlActId ∧ f.ricCtrlDecision = none
  | frmt2 f => (∀ ue ∈ f.ueId, ue.expressible = true) ∧ f.ricCtrlDec = none

end CtrlHdr

/-- **A control header arrives as it is.** -/
theorem conveys_ctrlHdr (m : CtrlHdr) (hues : ∀ ue ∈ m.ues, Back encUeIdAsn decUeIdAsn ue) :
    Conveys (ctrlHdrPdu m) ControlHeaderAsn.satisfies ctrlHdrOfPdu m m.Sendable True := by
  cases m with
  | frmt1 f =>
    obtain ⟨ue, style, act, decision⟩ := f
    have hdec (y₁ : UeIdAsn) (y₂ : Int) (y₃ : Option Unread) :
        ctrlHdrOfPdu (.format1 y₁ style.toNat y₂ y₃) = decUeIdAsn y₁ >>= fun z₁ =>
          decId y₂ >>= fun z₂ => decAbsent y₃ >>= fun z₃ =>
            next (.frmt1 ⟨z₁, style, z₂, z₃⟩) := by
      rw [ctrlHdrOfPdu, longToU32_back]
      rfl
    exact Conveys.always (conveys_three (conveys_ueId (hues ue (List.mem_singleton.mpr rfl)))
      (conveys_id act) (conveys_absent decision) rfl (fun _ _ _ => (Bool.and_true _).symm) hdec rfl)
      Iff.rfl ⟨trivial, trivial, trivial⟩
  | frmt2 f =>
    have hue (ue : UeId) (hue : ue ∈ f.ueId) :=
      conveys_ueId (hues ue (Option.mem_toList.mpr hue))
    exact Conveys.always (conveys_two (conveys_opt hue) (conveys_absent f.ricCtrlDec) rfl
      (fun _ _ => (Bool.and_true _).symm) (fun _ _ => rfl) rfl) Iff.rfl
      ⟨fun _ _ => trivial, trivial⟩

/-! ## Control messages -/

/-- Up to 65535 parameters. -/
def CtrlMsgFrmt1.Sendable (m : CtrlMsgFrmt1) : Prop :=
  below 65536 m.ranParam = true ∧ ∀ p ∈ m.ranParam, p.Sendable

/-- **Format 1 is conveyed**, an empty message too. -/
theorem conveys_ctrlMsgFrmt1 (m : CtrlMsgFrmt1) :
    Conveys (encCtrlMsgFrmt1 m) (isArray 65535 StructItemAsn.satisfies) decCtrlMsgFrmt1 m
      m.Sendable True :=
  Conveys.always (conveys_one (conveys_belowWalk fun p _ => conveys_seqRanParam p)
    (bind_next _).symm (fun _ => rfl) (fun _ => rfl) rfl) Iff.rfl fun _ _ => trivial

/-- An id above 0, and a message. -/
def SeqCtrlAct.Sendable (m : SeqCtrlAct) : Prop :=
  0 < m.ctrlActId ∧ ∃ f, m.ctrlMsgFrmt1 = some f ∧ f.Sendable

/-- An action is conveyed with its message of format 1 or none. -/
theorem conveys_seqCtrlAct (m : SeqCtrlAct) :
    Conveys (encCtrlMsgFrmt2CtrlActIt m) CtrlMsgFormat2ActionAsn.satisfies decCtrlMsgSeqCtrlAct m
      m.Sendable True := by
  obtain ⟨id, f⟩ := m
  have hmsg : Conveys (expect f "src->ctrl_msg_frmt_1 != NULL" >>= encCtrlMsgFrmt1)
      (isArray 65535 StructItemAsn.satisfies)
      (fun y => decCtrlMsgFrmt1 y >>= fun z => next (some z)) f
      (∃ f', f = some f' ∧ f'.Sendable) True := by
    cases f with
    | none =>
      exact ⟨by simp [expect], fun y hy => by simp [expect] at hy⟩
    | some f =>
      exact (conveys_one (conveys_ctrlMsgFrmt1 f) (bind_next _).symm (fun _ => rfl) (fun _ => rfl)
        rfl).iff (by simp) Iff.rfl
  have hdec (y₁ : Int) (y₂ : List StructItemAsn) : decCtrlMsgSeqCtrlAct ⟨y₁, y₂⟩ =
      decId y₁ >>= fun z₁ => (decCtrlMsgFrmt1 y₂ >>= fun z => next (some z)) >>= fun z₂ =>
        next ⟨z₁, z₂⟩ := by
    simp only [decCtrlMsgSeqCtrlAct, bind_bind, next_bind, pure_eq]
  have henc : encCtrlMsgFrmt2CtrlActIt ⟨id, f⟩ = encId id >>= fun y₁ =>
      (expect f "src->ctrl_msg_frmt_1 != NULL" >>= encCtrlMsgFrmt1) >>= fun y₂ =>
        next ⟨y₁, y₂⟩ := by
    simp only [encCtrlMsgFrmt2CtrlActIt, bind_bind, pure_eq]
  exact (conveys_two (conveys_id id) hmsg henc (fun _ _ => (Bool.true_and _).symm) hdec
    rfl).always Iff.rfl ⟨trivial, trivial⟩

/-- From 1 to 63 actions. -/
def SeqCtrlSma.Sendable (m : SeqCtrlSma) : Prop :=
  sized 64 m.seqCtrlAct = true ∧ ∀ a ∈ m.seqCtrlAct, a.Sendable

/-- A style of 1 to 63 actions is conveyed. -/
theorem conveys_seqCtrlSma (m : SeqCtrlSma) :
    Conveys (encCtrlMsgFrmt2It m) CtrlMsgFormat2StyleAsn.satisfies decCtrlMsgSeqCtrlSma m
      m.Sendable True := by
  have hdec (y : List CtrlMsgFormat2ActionAsn) : decCtrlMsgSeqCtrlSma ⟨m.ctrlStyle.toNat, y⟩ =
      sizedWalk 64 decCtrlMsgSeqCtrlAct y >>= fun z => next ⟨m.ctrlStyle, z⟩ := by
    rw [decCtrlMsgSeqCtrlSma, longToU32_back]
    rfl
  exact Conveys.always (conveys_one (conveys_sized_sized fun a _ => conveys_seqCtrlAct a) rfl
    (fun _ => rfl) hdec rfl) Iff.rfl fun _ _ => trivial

/-- From 1 to 63 styles. -/
def CtrlMsg.Sendable : CtrlMsg → Prop
  | .frmt1 f => f.Sendable
  | .frmt2 f => sized 64 f.action = true ∧ ∀ s ∈ f.action, s.Sendable

/-- **A control message arrives as it is.** -/
theorem conveys_ctrlMsg (m : CtrlMsg) :
    Conveys (ctrlMsgPdu m) ControlMessageAsn.satisfies ctrlMsgOfPdu m m.Sendable True := by
  cases m with
  | frmt1 f =>
    exact conveys_one (conveys_ctrlMsgFrmt1 f) rfl (fun _ => rfl) (fun _ => rfl) rfl
  | frmt2 f =>
    exact Conveys.always (conveys_one (conveys_sized_sized fun s _ => conveys_seqCtrlSma s) rfl
      (fun _ => rfl) (fun _ => rfl) rfl) Iff.rfl fun _ _ => trivial

/-! ## Control outcomes -/

/-- An id above 0. -/
def SeqRanParam2.Sendable (m : SeqRanParam2) : Prop := 0 < m.ranParamId

/-- A parameter of an outcome, however its id is decoded. -/
theorem conveys_outcomeParam {dec : UInt64 → Outcome UInt32} (m : SeqRanParam2)
    (hid : Conveys (encParamId m.ranParamId) (fun _ => true) dec m.ranParamId (0 < m.ranParamId)
      True) :
    Conveys (encCtrlOutFrmt1It m) (·.ranParameterValue.satisfies) (decOutcomeParam dec) m
      m.Sendable True :=
  Conveys.always (conveys_two hid (conveys_ranParamVal m.ranParamValue) rfl
    (fun _ _ => (Bool.true_and _).symm) (fun _ _ => rfl) rfl) (and_iff_left trivial)
    ⟨trivial, trivial⟩

/-- From 1 to 255 parameters. -/
def SeqCtrlActOut.Sendable (m : SeqCtrlActOut) : Prop :=
  0 < m.ctrlActId ∧ sized 256 m.ranParam = true ∧ ∀ p ∈ m.ranParam, p.Sendable

/-- The outcome of an action is conveyed. -/
theorem conveys_seqCtrlActOut (m : SeqCtrlActOut) :
    Conveys (encCtrlOutFrmt2CtrlOut m) CtrlOutFormat2OutcomeAsn.satisfies decCtrlOutFrmt2CtrlOutIt m
      m.Sendable True := by
  have hparams := conveys_sized_within (m := 255) (n := 65535) (by decide) fun p
    (_ : p ∈ m.ranParam) => conveys_outcomeParam p (conveys_paramIdBelow p.ranParamId)
  exact Conveys.always (conveys_two (conveys_id m.ctrlActId) hparams rfl
    (fun _ _ => (Bool.true_and _).symm) (fun _ _ => rfl) rfl) Iff.rfl ⟨trivial, fun _ _ => trivial⟩

/-- From 1 to 63 outcomes. -/
def SeqCtrlStyMulOut.Sendable (m : SeqCtrlStyMulOut) : Prop :=
  sized 64 m.seqCtrlActOut = true ∧ ∀ o ∈ m.seqCtrlActOut, o.Sendable

/-- The outcomes of a style are conveyed. -/
theorem conveys_seqCtrlStyMulOut (m : SeqCtrlStyMulOut) :
    Conveys (encCtrlOutFrmt2It m) CtrlOutFormat2StyleAsn.satisfies decCtrlOutFrmt2StyIt m
      m.Sendable True := by
  have hdec (y : List CtrlOutFormat2OutcomeAsn) : decCtrlOutFrmt2StyIt ⟨m.indCtrlStyle.toNat, y⟩ =
      sizedWalk 64 decCtrlOutFrmt2CtrlOutIt y >>= fun z => next ⟨m.indCtrlStyle, z⟩ := by
    rw [decCtrlOutFrmt2StyIt, longToU32_back]
    rfl
  exact Conveys.always (conveys_one (conveys_walk_sized fun o _ => conveys_seqCtrlActOut o) rfl
    (fun _ => rfl) hdec rfl) Iff.rfl fun _ _ => trivial

/-- Up to 255 parameters, or from 1 to 63 styles. -/
def CtrlOut.Sendable : CtrlOut → Prop
  | .frmt1 f => below 256 f.ranParam = true ∧ ∀ p ∈ f.ranParam, p.Sendable
  | .frmt2 f => sized 64 f.seqCtrlStyMulOut = true ∧ ∀ s ∈ f.seqCtrlStyMulOut, s.Sendable
  | .frmt3 f => below 256 f.ranParam = true ∧ ∀ p ∈ f.ranParam, p.Sendable

/-- **A control outcome arrives as it is.** -/
theorem conveys_ctrlOut (m : CtrlOut) :
    Conveys (ctrlOutPdu m) ControlOutcomeAsn.satisfies ctrlOutOfPdu m m.Sendable True := by
  cases m with
  | frmt1 f =>
    exact Conveys.always (conveys_one (conveys_belowWalk fun p _ =>
      conveys_outcomeParam p (conveys_paramId p.ranParamId)) rfl (fun _ => rfl) (fun _ => rfl) rfl)
      Iff.rfl fun _ _ => trivial
  | frmt2 f =>
    exact Conveys.always (conveys_one (conveys_sized_sized fun s _ => conveys_seqCtrlStyMulOut s)
      rfl (fun _ => rfl) (fun _ => rfl) rfl) Iff.rfl fun _ _ => trivial
  | frmt3 f =>
    exact Conveys.always (conveys_one (conveys_belowWalk fun p _ => conveys_ranParamStruct p) rfl
      (fun _ => rfl) (fun _ => rfl) rfl) Iff.rfl fun _ _ => trivial

end Rc

end FlexRic
