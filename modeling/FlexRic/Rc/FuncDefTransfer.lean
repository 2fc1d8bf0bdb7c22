import FlexRic.Rc.FuncDefCodec
import FlexRic.Rc.ParamTransfer

/-!
# FlexRic.Rc.FuncDefTransfer

Which RAN function definitions come back from the wire.

* `Sendable`: what the encoder and the constraints want, part by part.
* `FuncDef.Decodable`: what the decoder wants besides, the lengths of the names of the RAN
  parameters of insert indications.
* `funcDef_roundTrip`: a definition comes back exactly when it is both and fits the buffer.
-/

namespace FlexRic

namespace Rc

open Outcome Codec Kpm

/-! ## Arrays -/

section

variable {α β : Type} {enc : α → Outcome β} {sat : β → Bool} {dec : β → Outcome α}
  {S D : α → Prop} {n c : Nat} {xs : List α}

/-- The decoder asserts a bound that the constraint implies. -/
theorem conveys_nonempty_below (hn : n < c)
    (h : ∀ x ∈ xs, Conveys (enc x) sat dec x (S x) (D x)) :
    Conveys (encNonempty (walk enc) xs) (Option.all (isSequence n sat)) (decBelow c dec) xs
      (below (n + 1) xs = true ∧ ∀ x ∈ xs, S x) (∀ x ∈ xs, D x) := by
  have hbelow (ys : List β) (hsat : isSequence n sat ys = true) : below c ys = true := by
    simp only [isSequence, sized, Bool.and_eq_true, decide_eq_true_eq] at hsat
    rw [below, decide_eq_true_eq]
    omega
  refine (conveys_nonempty fun _ => (conveys_walk_walk h).checks fun ys _ hsat =>
    iff_true_intro (hbelow ys hsat)).iff below_of_sized ?_
  cases xs <;> simp

/-- A list whose length the encoder asserts is conveyed below that bound. -/
theorem conveys_below {sats : Option (List β) → Bool} {decs : Option (List β) → Outcome (List α)}
    {Ss Ds : Prop} (hn : n < c)
    (h : Conveys (encNonempty (walk enc) xs) sats decs xs (below (n + 1) xs = true ∧ Ss) Ds) :
    Conveys (encBelow c enc xs) sats decs xs (below (n + 1) xs = true ∧ Ss) Ds := by
  refine (h.guard (below c xs) _).iff ?_ Iff.rfl
  rw [and_iff_right_iff_imp]
  intro hx
  rw [below, decide_eq_true_eq] at hx ⊢
  omega

end

/-! ## Names and RAN parameters -/

/-- A name from 1 to 150 octets. -/
def IsName (s : Bytes) : Prop := sized 151 s = true

/-- An id above 0, a name and a definition. -/
def SeqRanParam3.Sendable (p : SeqRanParam3) : Prop :=
  0 < p.id ∧ IsName p.name ∧ ∀ d ∈ p.defn, d.Sendable

/-- **A RAN parameter arrives as it is.** -/
theorem conveys_namedParam {decId : UInt64 → Outcome UInt32} (p : SeqRanParam3)
    (hid : Conveys (encParamId p.id) (fun _ => true) decId p.id (0 < p.id) True) :
    Conveys (encNamedParam p) NamedParamAsn.satisfies (decNamedParam decId) p p.Sendable True :=
  Conveys.always (conveys_three hid (conveys_sizedText 151 p.name)
    (conveys_opt fun d _ => conveys_ranParamDef d) rfl (fun _ _ _ => (Bool.true_and _).symm)
    (fun _ _ _ => rfl) rfl) Iff.rfl ⟨trivial, trivial, fun _ _ => trivial⟩

/-- A named parameter is conveyed; the decoder asserts that its id has 32 bits. -/
theorem conveys_namedParamBelow (p : SeqRanParam3) :
    Conveys (encNamedParam p) NamedParamAsn.satisfies (decNamedParam decParamIdBelow) p p.Sendable
      True :=
  conveys_namedParam p (conveys_paramIdBelow p.id)

/-- A named parameter is conveyed; the decoder does not bound its id. -/
theorem conveys_namedParamOpen (p : SeqRanParam3) :
    Conveys (encNamedParam p) NamedParamAsn.satisfies (decNamedParam decParamId) p p.Sendable
      True :=
  conveys_namedParam p (conveys_paramId p.id)

/-- **The optional RAN parameters of an event trigger** or a breakpoint are conveyed below 65536
of them. -/
theorem conveys_paramsBelow (ps : List SeqRanParam3) :
    Conveys (encNonempty (walk encNamedParam) ps) (namedParams 65535)
      (decNonempty (walk (decNamedParam decParamIdBelow))) ps
      (below 65536 ps = true ∧ ∀ p ∈ ps, p.Sendable) True :=
  Conveys.always (conveys_nonempty_walk fun p _ => conveys_namedParamBelow p) Iff.rfl
    fun _ _ => trivial

/-- The optional RAN parameters of anything else are conveyed up to `n` of them. -/
theorem conveys_paramsOpen {n c c' : Nat} (hc : n < c) (hc' : n < c') (ps : List SeqRanParam3) :
    Conveys (encBelow c encNamedParam ps) (namedParams n) (decBelow c' (decNamedParam decParamId))
      ps (below (n + 1) ps = true ∧ ∀ p ∈ ps, p.Sendable) True :=
  Conveys.always (conveys_below hc (conveys_nonempty_below hc' fun p _ => conveys_namedParamOpen p))
    Iff.rfl fun _ _ => trivial

/-! ## Event triggers -/

/-- A trigger style is conveyed if its name is. -/
theorem conveys_evTrgStyle (s : SeqEvTrgStyle) :
    Conveys (encRanFuncDefEvTrgStyIt s) (fun _ => true) decSeqEvTrgStyle s (IsName s.name)
      True := by
  have hdec (y : Bytes) : decSeqEvTrgStyle ⟨s.style.toNat, y, s.format.toNat⟩ =
      sizedText 151 y >>= fun z => next ⟨s.style, z, s.format⟩ := by
    simp only [decSeqEvTrgStyle, longToU32_back, pure_eq]
  exact conveys_one (conveys_sizedText 151 s.name) rfl (fun _ => rfl) hdec rfl

/-- An id above 0, a name and parameters. -/
def CallProcBreak.Sendable (b : CallProcBreak) : Prop :=
  0 < b.id ∧ IsName b.name ∧ below 65536 b.param = true ∧ ∀ p ∈ b.param, p.Sendable

/-- A breakpoint: its id, its name and its parameters. -/
theorem conveys_callProcBreak (b : CallProcBreak) :
    Conveys (encCallProcBreak b) BreakpointAsn.satisfies decCallProcBreak b b.Sendable True :=
  Conveys.always (conveys_three (conveys_id b.id) (conveys_sizedText 151 b.name)
    (conveys_paramsBelow b.param) rfl (fun _ _ _ => (Bool.true_and _).symm) (fun _ _ _ => rfl) rfl)
    Iff.rfl ⟨trivial, trivial, trivial⟩

/-- A name that the decoder would take with one octet more. -/
theorem conveys_callProcName (s : Bytes) :
    Conveys (sizedText 150 s) (fun _ => true) (sizedText 151) s (sized 150 s = true) True := by
  refine conveys_asserted (fun _ => rfl) fun hs => ?_
  have hlonger : sized 151 s = true := by
    simp only [sized, Bool.and_eq_true, decide_eq_true_eq] at hs ⊢
    omega
  rw [sizedText, assert_of hlonger]
  rfl

/-- A name of up to 149 octets. -/
def SeqCallProcType.Sendable (c : SeqCallProcType) : Prop :=
  0 < c.id ∧ sized 150 c.name = true ∧
    sized 65536 c.callProcBreak = true ∧ ∀ b ∈ c.callProcBreak, b.Sendable

/-- A call process with its breakpoints. -/
theorem conveys_callProcType (c : SeqCallProcType) :
    Conveys (encSeqCallProcType c) CallProcessAsn.satisfies decSeqCallProcType c c.Sendable True :=
  Conveys.always (conveys_three (conveys_id c.id) (conveys_callProcName c.name)
    (conveys_sized_sized fun b _ => conveys_callProcBreak b) rfl
    (fun _ _ _ => (Bool.true_and _).symm) (fun _ _ _ => rfl) rfl) Iff.rfl
    ⟨trivial, trivial, fun _ _ => trivial⟩

/-- From 1 to 63 styles, and up to 65535 of each of the rest. -/
def RanFuncDefEvTrig.Sendable (d : RanFuncDefEvTrig) : Prop :=
  (sized 64 d.seqEvTrgStyle = true ∧ ∀ s ∈ d.seqEvTrgStyle, IsName s.name) ∧
    (below 65536 d.seqRanParamL2Var = true ∧ ∀ p ∈ d.seqRanParamL2Var, p.Sendable) ∧
    (below 65536 d.seqCallProcType = true ∧ ∀ c ∈ d.seqCallProcType, c.Sendable) ∧
    (below 65536 d.seqRanParamIdUe = true ∧ ∀ p ∈ d.seqRanParamIdUe, p.Sendable) ∧
    below 65536 d.seqRanParamIdCell = true ∧ ∀ p ∈ d.seqRanParamIdCell, p.Sendable

/-- **The event triggers are conveyed**, all five arrays. -/
theorem conveys_funcDefEvTrig (d : RanFuncDefEvTrig) :
    Conveys (encRanFuncDefEvTrg d) FuncDefEvTrgAsn.satisfies decRanFunDefEvTrg d d.Sendable True :=
  Conveys.always (conveys_five (conveys_sized_sized fun s _ => conveys_evTrgStyle s)
    (conveys_paramsBelow d.seqRanParamL2Var)
    (conveys_nonempty_walk fun c _ => conveys_callProcType c)
    (conveys_paramsBelow d.seqRanParamIdUe) (conveys_paramsBelow d.seqRanParamIdCell) rfl
    (fun _ _ _ _ _ => rfl) (fun _ _ _ _ _ => rfl) rfl) Iff.rfl
    ⟨fun _ _ => trivial, trivial, fun _ _ => trivial, trivial, trivial⟩

/-! ## Reports -/

def SeqReportSty.Sendable (s : SeqReportSty) : Prop :=
  IsName s.name ∧ below 65536 s.ranParam = true ∧ ∀ p ∈ s.ranParam, p.Sendable

/-- A report style is conveyed where it is sendable. -/
theorem conveys_reportSty (s : SeqReportSty) :
    Conveys (encSeqReportSty s) ReportItemAsn.satisfies decSeqReportSty s s.Sendable True := by
  have hdec (y₁ : Bytes) (y₂ : Option (List NamedParamAsn)) :
      decSeqReportSty ⟨s.reportType.toNat, y₁, s.evTrigType.toNat, s.actFrmtType.toNat,
        s.indHdrType.toNat, s.indMsgType.toNat, y₂⟩ =
      sizedText 151 y₁ >>= fun z₁ => decBelow 65536 decSeqRanParamReport y₂ >>= fun z₂ =>
        next ⟨s.reportType, z₁, s.evTrigType, s.actFrmtType, s.indHdrType, s.indMsgType, z₂⟩ := by
    simp only [decSeqReportSty, longToU32_back, pure_eq]
  exact Conveys.always (conveys_two (conveys_sizedText 151 s.name)
    (conveys_paramsOpen (n := 65535) (by decide) (by decide) s.ranParam) rfl (fun _ _ => rfl) hdec
    rfl) Iff.rfl ⟨trivial, trivial⟩

/-- From 1 to 63 styles. -/
def RanFuncDefReport.Sendable (d : RanFuncDefReport) : Prop :=
  sized 64 d.seqReportSty = true ∧ ∀ s ∈ d.seqReportSty, s.Sendable

/-- **and the reports**, 1 to 63 styles. -/
theorem conveys_funcDefReport (d : RanFuncDefReport) :
    Conveys (encRanFuncDefReport d) (isSequence 63 ReportItemAsn.satisfies) decRanFuncDefReport d
      d.Sendable True :=
  Conveys.always (conveys_one (conveys_sized_sized fun s _ => conveys_reportSty s)
    (bind_next _).symm (fun _ => rfl) (fun _ => rfl) rfl) Iff.rfl fun _ _ => trivial

/-! ## Inserts -/

/-- An id above 0, and a name of any length. -/
def SeqRanParam3.SendableAnyName (p : SeqRanParam3) : Prop :=
  0 < p.id ∧ ∀ d ∈ p.defn, d.Sendable

/-- **The RAN parameter of an insert indication** is refused where its name is not of a length. -/
theorem conveys_insIndParam (p : SeqRanParam3) :
    Conveys (encSeqInsInd3 p) NamedParamAsn.satisfies decSeqInsInd3 p p.SendableAnyName
      (sized 151 p.name = true) := by
  have hname : Conveys (next p.name) (fun _ => true) (sizedText 151) p.name True
      (sized 151 p.name = true ∧ True) :=
    Conveys.checks (conveys_next rfl rfl) fun y hy _ => by rw [next_inj.mp hy]
  have henc : encSeqInsInd3 p = encParamId p.id >>= fun y₁ => next p.name >>= fun y₂ =>
      opt encRanParamDef p.defn >>= fun y₃ => next ⟨y₁, y₂, y₃⟩ := rfl
  exact Conveys.iff (conveys_three (conveys_paramId p.id) hname
    (conveys_opt fun d _ => conveys_ranParamDef d) henc (fun _ _ _ => (Bool.true_and _).symm)
    (fun _ _ _ => rfl) rfl) (and_congr_right fun _ => and_iff_right trivial) (by simp)

def SeqInsInd.Sendable (i : SeqInsInd) : Prop :=
  0 < i.id ∧ IsName i.name ∧ below 65536 i.seqInsInd = true ∧
    ∀ p ∈ i.seqInsInd, p.SendableAnyName

/-- The parameters of an insert indication have names of the lengths of names. -/
def SeqInsInd.Decodable (i : SeqInsInd) : Prop := ∀ p ∈ i.seqInsInd, sized 151 p.name = true

/-- An insert indication; the decoder asserts more of its parameters than the encoder. -/
theorem conveys_insInd (i : SeqInsInd) :
    Conveys (encSeqInsInd i) NamedListAsn.satisfies decSeqInsInd i i.Sendable i.Decodable :=
  Conveys.iff (conveys_three (conveys_idOpen i.id) (conveys_sizedText 151 i.name)
    (conveys_below (by decide) (conveys_nonempty_walk fun p _ => conveys_insIndParam p)) rfl
    (fun _ _ _ => (Bool.true_and _).symm) (fun _ _ _ => rfl) rfl) Iff.rfl
    (by rw [true_and, true_and, SeqInsInd.Decodable])

def SeqInsSty.Sendable (s : SeqInsSty) : Prop :=
  IsName s.name ∧ below 65536 s.seqInsInd = true ∧ ∀ i ∈ s.seqInsInd, i.Sendable

def SeqInsSty.Decodable (s : SeqInsSty) : Prop := ∀ i ∈ s.seqInsInd, i.Decodable

/-- An insert style is conveyed where it is sendable and decodable. -/
theorem conveys_insSty (s : SeqInsSty) :
    Conveys (encSeqInsSty s) InsertItemAsn.satisfies decSeqInsSty s s.Sendable s.Decodable := by
  have hdec (y₁ : Bytes) (y₂ : Option (List NamedListAsn)) :
      decSeqInsSty ⟨s.styleType.toNat, y₁, s.evTrigStyleType.toNat, s.actDefFrmtType.toNat, y₂,
        s.indHdrFrmtType.toNat, s.indMsgFrmtType.toNat, s.callProcIdType.toNat⟩ =
      sizedText 151 y₁ >>= fun z₁ => decBelow 65536 decSeqInsInd y₂ >>= fun z₂ =>
        next ⟨s.styleType, z₁, s.evTrigStyleType, s.actDefFrmtType, z₂, s.indHdrFrmtType,
          s.indMsgFrmtType, s.callProcIdType⟩ := by
    simp only [decSeqInsSty, longToU32_back, pure_eq]
  exact Conveys.iff (conveys_two (conveys_sizedText 151 s.name)
    (conveys_nonempty_below (n := 65535) (by decide) fun i _ => conveys_insInd i) rfl
    (fun _ _ => rfl) hdec rfl) Iff.rfl (by rw [true_and, SeqInsSty.Decodable])

/-- From 1 to 63 styles. -/
def RanFuncDefInsert.Sendable (d : RanFuncDefInsert) : Prop :=
  sized 64 d.seqInsSty = true ∧ ∀ s ∈ d.seqInsSty, s.Sendable

def RanFuncDefInsert.Decodable (d : RanFuncDefInsert) : Prop := ∀ s ∈ d.seqInsSty, s.Decodable

/-- **and the inserts**, decoded where every indication is. -/
theorem conveys_funcDefInsert (d : RanFuncDefInsert) :
    Conveys (encRanFuncDefInsert d) (isSequence 63 InsertItemAsn.satisfies) decRanFuncDefInsert d
      d.Sendable d.Decodable :=
  conveys_one (conveys_sized_sized fun s _ => conveys_insSty s) (bind_next _).symm (fun _ => rfl)
    (fun _ => rfl) rfl

/-! ## Controls -/

def SeqCtrlAct2.Sendable (a : SeqCtrlAct2) : Prop :=
  0 < a.id ∧ IsName a.name ∧ below 65536 a.assocRanParam = true ∧ ∀ p ∈ a.assocRanParam, p.Sendable

/-- A control action is conveyed where it is sendable. -/
theorem conveys_ctrlAct (a : SeqCtrlAct2) :
    Conveys (encRanFuncDefCtrlActIt a) NamedListAsn.satisfies decRanFuncCtrlAct a a.Sendable
      True :=
  Conveys.always (conveys_three (conveys_id a.id) (conveys_sizedText 151 a.name)
    (conveys_paramsOpen (n := 65535) (by decide) (by decide) a.assocRanParam) rfl
    (fun _ _ _ => (Bool.true_and _).symm) (fun _ _ _ => rfl) rfl) Iff.rfl
    ⟨trivial, trivial, trivial⟩

/-- Up to 255 outcome parameters, and no call process id. -/
def SeqCtrlStyle.Sendable (s : SeqCtrlStyle) : Prop :=
  IsName s.name ∧ (below 65536 s.seqCtrlAct = true ∧ ∀ a ∈ s.seqCtrlAct, a.Sendable) ∧
    s.callProcIdType = none ∧ below 256 s.ranParamCtrlOut = true ∧
    ∀ p ∈ s.ranParamCtrlOut, p.Sendable

/-- A control style is conveyed where it is sendable. -/
theorem conveys_ctrlStyle (s : SeqCtrlStyle) :
    Conveys (encRanFuncDefCtrlIt s) ControlItemAsn.satisfies decRanFuncCtrlIt s s.Sendable True := by
  have hdec (y₁ : Bytes) (y₂ : Option (List NamedListAsn)) (y₃ : Option Unread)
      (y₄ : Option (List NamedParamAsn)) :
      decRanFuncCtrlIt ⟨s.styleType.toNat, y₁, y₂, s.hdr.toNat, s.msg.toNat, y₃, s.outFrmt.toNat,
        y₄⟩ =
      sizedText 151 y₁ >>= fun z₁ => decBelow 65536 decRanFuncCtrlAct y₂ >>= fun z₂ =>
        decAbsent y₃ >>= fun z₃ => decBelow 256 decRanParamCtrlOut y₄ >>= fun z₄ =>
        next ⟨s.styleType, z₁, z₂, s.hdr, s.msg, z₃, s.outFrmt, z₄⟩ := by
    simp only [decRanFuncCtrlIt, longToU32_back, pure_eq]
  exact Conveys.always (conveys_four (conveys_sizedText 151 s.name)
    (conveys_below (by decide)
      (conveys_nonempty_below (n := 65535) (by decide) fun a _ => conveys_ctrlAct a))
    (conveys_absent s.callProcIdType)
    (conveys_paramsOpen (n := 255) (by decide) (by decide) s.ranParamCtrlOut) rfl
    (fun _ _ _ _ => rfl) hdec rfl) Iff.rfl ⟨trivial, fun _ _ => trivial, trivial, trivial⟩

/-- From 1 to 63 styles. -/
def RanFuncDefCtrl.Sendable (d : RanFuncDefCtrl) : Prop :=
  sized 64 d.seqCtrlStyle = true ∧ ∀ s ∈ d.seqCtrlStyle, s.Sendable

/-- **and the controls.** -/
theorem conveys_funcDefCtrl (d : RanFuncDefCtrl) :
    Conveys (encRanFuncDefCtrl d) (isSequence 63 ControlItemAsn.satisfies) decRanFuncDefCtrl d
      d.Sendable True :=
  Conveys.always (conveys_one (conveys_sized_sized fun s _ => conveys_ctrlStyle s)
    (bind_next _).symm (fun _ => rfl) (fun _ => rfl) rfl) Iff.rfl fun _ _ => trivial

/-! ## Policies -/

def SeqPolAction.Sendable (a : SeqPolAction) : Prop :=
  IsName a.name ∧ (below 65536 a.seqAssocRpAction = true ∧ ∀ p ∈ a.seqAssocRpAction, p.Sendable) ∧
    below 65536 a.seqAssocRpPolicy = true ∧ ∀ p ∈ a.seqAssocRpPolicy, p.Sendable

/-- A policy action is conveyed where it is sendable. -/
theorem conveys_polAction (a : SeqPolAction) :
    Conveys (encRanFuncDefPolAct a) PolicyActionItemAsn.satisfies decSeqPolActionIt a a.Sendable
      True := by
  have hdec (y₁ : Bytes) (y₂ y₃ : Option (List NamedParamAsn)) :
      decSeqPolActionIt ⟨a.actionId.toNat, y₁, a.frmtType.toNat, y₂, y₃⟩ =
      sizedText 151 y₁ >>= fun z₁ => decBelow 65536 decPolActRanParamIt y₂ >>= fun z₂ =>
        decBelow 65536 decPolCndRanParamIt y₃ >>= fun z₃ =>
        next ⟨a.actionId, z₁, a.frmtType, z₂, z₃⟩ := by
    simp only [decSeqPolActionIt, longToU32_back, pure_eq]
  exact Conveys.always (conveys_three (conveys_sizedText 151 a.name)
    (conveys_paramsOpen (n := 65535) (by decide) (by decide) a.seqAssocRpAction)
    (conveys_paramsOpen (n := 65535) (by decide) (by decide) a.seqAssocRpPolicy) rfl
    (fun _ _ _ => rfl) hdec rfl) Iff.rfl ⟨trivial, trivial, trivial⟩

def SeqPolicySty.Sendable (s : SeqPolicySty) : Prop :=
  IsName s.name ∧ below 65536 s.seqPolAction = true ∧ ∀ a ∈ s.seqPolAction, a.Sendable

/-- A policy style is conveyed where it is sendable. -/
theorem conveys_policySty (s : SeqPolicySty) :
    Conveys (encRanFuncDefPolIt s) PolicyItemAsn.satisfies decRanFuncDefPolicyIt s s.Sendable
      True := by
  have hdec (y₁ : Bytes) (y₂ : Option (List PolicyActionItemAsn)) :
      decRanFuncDefPolicyIt ⟨s.styleType.toNat, y₁, s.evTrgStyleType.toNat, y₂⟩ =
      sizedText 151 y₁ >>= fun z₁ => decBelow 65536 decSeqPolActionIt y₂ >>= fun z₂ =>
        next ⟨s.styleType, z₁, s.evTrgStyleType, z₂⟩ := by
    simp only [decRanFuncDefPolicyIt, longToU32_back, pure_eq]
  exact Conveys.always (conveys_two (conveys_sizedText 151 s.name)
    (conveys_below (by decide)
      (conveys_nonempty_below (n := 65535) (by decide) fun a _ => conveys_polAction a)) rfl
    (fun _ _ => rfl) hdec rfl) Iff.rfl ⟨trivial, fun _ _ => trivial⟩

/-- From 1 to 63 styles. -/
def RanFuncDefPolicy.Sendable (d : RanFuncDefPolicy) : Prop :=
  sized 64 d.seqPolicySty = true ∧ ∀ s ∈ d.seqPolicySty, s.Sendable

/-- **and the policies.** -/
theorem conveys_funcDefPolicy (d : RanFuncDefPolicy) :
    Conveys (encRanFuncDefPolicy d) (isSequence 63 PolicyItemAsn.satisfies) decRanFuncDefPolicy d
      d.Sendable True :=
  Conveys.always (conveys_one (conveys_sized_sized fun s _ => conveys_policySty s)
    (bind_next _).symm (fun _ => rfl) (fun _ => rfl) rfl) Iff.rfl fun _ _ => trivial

/-! ## Function definitions -/

/-- No instance. -/
def NameSendable (n : RanFunctionName) : Prop := n.instanceNo.isNone = true

/-- The name, the OID and the description of the function. -/
theorem conveys_ranFuncName (n : RanFunctionName) :
    Conveys (encRanFuncName n) (fun _ => true) (fun y => next (decRanFuncName y)) n (NameSendable n)
      True := by
  obtain ⟨name, oid, description, instanceNo⟩ := n
  cases instanceNo with
  | none =>
    have htexts : Conveys (next (⟨name, oid, description, none⟩ : RanFunctionNameAsn))
        (fun _ => true) (fun y => next (decRanFuncName y)) ⟨name, oid, description, none⟩ True True :=
      conveys_next rfl rfl
    exact htexts.iff (iff_of_true trivial rfl) Iff.rfl
  | some instanceNo =>
    exact ⟨iff_of_false (fun ⟨_, hy, _⟩ => nomatch hy) fun h => (nomatch h),
      fun _ hy => nomatch hy⟩

namespace FuncDef

/-- What the encoder and the constraints want. -/
def Sendable (d : FuncDef) : Prop :=
  NameSendable d.name ∧ (∀ e ∈ d.evTrig, e.Sendable) ∧ (∀ r ∈ d.report, r.Sendable) ∧
    (∀ i ∈ d.insert, i.Sendable) ∧ (∀ c ∈ d.ctrl, c.Sendable) ∧ ∀ p ∈ d.policy, p.Sendable

/-- What the decoder wants besides. -/
def Decodable (d : FuncDef) : Prop := ∀ i ∈ d.insert, i.Decodable

end FuncDef

/-- **A function definition arrives as it is** where the decoder takes it. -/
theorem conveys_funcDef (d : FuncDef) :
    Conveys (funcDefPdu d) FunctionDefinitionAsn.satisfies funcDefOfPdu d d.Sendable
      d.Decodable :=
  Conveys.iff (conveys_six (conveys_ranFuncName d.name)
    (conveys_opt fun e _ => conveys_funcDefEvTrig e)
    (conveys_opt fun r _ => conveys_funcDefReport r)
    (conveys_opt fun i _ => conveys_funcDefInsert i)
    (conveys_opt fun c _ => conveys_funcDefCtrl c)
    (conveys_opt fun p _ => conveys_funcDefPolicy p) rfl (fun _ _ _ _ _ _ => rfl)
    (fun _ _ _ _ _ _ => rfl) rfl) Iff.rfl (by simp [FuncDef.Decodable])

/-! ## The round trip -/

namespace FuncDef

/-- The encoding fits 16 KiB. -/
def Fits {Buf : Type} (rt : Asn1c FunctionDefinitionAsn Buf) (d : FuncDef) : Prop :=
  FitsInto (16 * 1024) rt (funcDefPdu d)

/-- The definition is encoded, and the decoder returns it. -/
def RoundTrips {Buf : Type} (rt : Asn1c FunctionDefinitionAsn Buf) (d : FuncDef) : Prop :=
  ∃ b, rcEncFuncDefAsn rt d = next b ∧ rcDecFuncDefAsn rt b = next d

end FuncDef

/-- **A function definition comes back** exactly when it is sent, fits the buffer and is decoded. -/
theorem funcDef_roundTrip {Buf : Type} (rt : Asn1c FunctionDefinitionAsn Buf)
    (hrt : rt.Exact FunctionDefinitionAsn.satisfies id) (d : FuncDef) :
    d.RoundTrips rt ↔ (d.Sendable ∧ d.Fits rt) ∧ d.Decodable :=
  (roundTrips_iff hrt (conveys_funcDef d) d).trans (and_congr_right' (and_iff_left rfl))

/-! ### Worked definitions -/

/-- `RC`, with one event trigger style and one call process type of a name of `n` octets. -/
def callProcess (n : Nat) : FuncDef where
  name := ⟨[82, 67], [49], [82, 67], none⟩
  evTrig := some ⟨[⟨1, [65], 1⟩], [], [⟨1, List.replicate n 65, [⟨1, [66], []⟩]⟩], [], []⟩
  report := none
  insert := none
  ctrl := none
  policy := none

/-- The definition comes back where the name is short. -/
theorem funcDef_roundTrip_short :
    (callProcess 1).RoundTrips (plainRuntime FunctionDefinitionAsn.satisfies id some) := by
  refine (funcDef_roundTrip _ (plainRuntime_exact fun _ => rfl) (callProcess 1)).mpr
    ⟨⟨⟨rfl, ?_, nofun, nofun, nofun, nofun⟩, ?_⟩, nofun⟩
  · rintro e ⟨⟩
    refine ⟨⟨rfl, ?_⟩, ⟨rfl, nofun⟩, ⟨rfl, ?_⟩, ⟨rfl, nofun⟩, rfl, nofun⟩
    · rintro s hs
      obtain rfl := List.mem_singleton.mp hs
      exact rfl
    · rintro c hc
      obtain rfl := List.mem_singleton.mp hc
      refine ⟨by decide, rfl, rfl, fun b hb => ?_⟩
      obtain rfl := List.mem_singleton.mp hb
      exact ⟨by decide, rfl, rfl, nofun⟩
  · exact fun _ _ _ _ => (by decide : 64 ≤ 16 * 1024)

/-- With a name of 150 octets, it is not encoded. -/
theorem funcDef_not_roundTrip :
    ¬ ∀ (Buf : Type) (rt : Asn1c FunctionDefinitionAsn Buf),
      rt.Exact FunctionDefinitionAsn.satisfies id → (callProcess 150).RoundTrips rt := by
  intro h
  have hrt : (plainRuntime FunctionDefinitionAsn.satisfies id some).Exact
      FunctionDefinitionAsn.satisfies id := plainRuntime_exact fun _ => rfl
  obtain ⟨⟨hsent, -⟩, -⟩ := (roundTrips_iff hrt (conveys_funcDef _) _).mp (h _ _ hrt)
  obtain ⟨-, hev, -⟩ := hsent
  obtain ⟨-, -, ⟨-, hprocs⟩, -⟩ := hev _ rfl
  obtain ⟨-, hname, -⟩ := hprocs _ (List.mem_singleton.mpr rfl)
  simp [sized] at hname

end Rc

end FlexRic
