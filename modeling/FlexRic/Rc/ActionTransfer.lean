import FlexRic.Rc.ActionCodec
import FlexRic.Rc.ParamTransfer

/-!
# FlexRic.Rc.ActionTransfer

Which action definitions are encoded within their constraints, and what arrives of them.

* `Sendable`: what the encoder and the constraints want, format by format.
* `Decodable`: what the decoder takes of that.  It is all of it, but for policy actions of 65535
  parameters.
-/

namespace FlexRic

namespace Rc

open Outcome Codec

/-! ## Defined parameters -/

/-- An id and a definition, under any name. -/
theorem conveys_definedParam {γ : Type} (mk : UInt32 → Option RanParamDef → γ) (id : UInt32)
    (defn : Option RanParamDef) :
    Conveys (encDefinedParam id defn) DefinedParamAsn.satisfies
      (fun y => decDefinedParam y >>= fun z => next (mk z.1 z.2)) (mk id defn)
      (0 < id ∧ ∀ d ∈ defn, d.Sendable) True := by
  have hdec (y₁ : UInt64) (y₂ : Option DefinitionAsn) :
      (decDefinedParam ⟨y₁, y₂⟩ >>= fun z => next (mk z.1 z.2)) =
        decParamId y₁ >>= fun z₁ => opt decRanParamDef y₂ >>= fun z₂ => next (mk z₁ z₂) := by
    simp only [decDefinedParam, bind_bind, pure_eq, next_bind]
  exact Conveys.always (conveys_two (conveys_paramId id)
    (conveys_opt fun d _ => conveys_ranParamDef d) rfl (fun _ _ => (Bool.true_and _).symm) hdec rfl)
    Iff.rfl ⟨trivial, fun _ _ => trivial⟩

/-- An id above 0. -/
def ParamReportDef.Sendable (m : ParamReportDef) : Prop :=
  0 < m.ranParamId ∧ ∀ d ∈ m.ranParamDef, d.Sendable

/-- A parameter to report, with its definition. -/
theorem conveys_paramReportDef (m : ParamReportDef) :
    Conveys (cpRcActDefFrmt1It m) DefinedParamAsn.satisfies decParamReportDef m m.Sendable True :=
  conveys_definedParam ParamReportDef.mk m.ranParamId m.ranParamDef

/-- From 1 to 65535 reports. -/
def ActDefFrmt1.Sendable (m : ActDefFrmt1) : Prop :=
  sized 65536 m.paramReportDef = true ∧ ∀ p ∈ m.paramReportDef, p.Sendable

/-- **Format 1**: 1 to 65535 parameters. -/
theorem conveys_actDefFrmt1 (m : ActDefFrmt1) :
    Conveys (encActDefFrmt1 m) (isSequence 65535 DefinedParamAsn.satisfies) decActDefFrmt1 m
      m.Sendable True :=
  Conveys.always (conveys_one (conveys_sized_sized fun p _ => conveys_paramReportDef p)
    (bind_next _).symm (fun _ => rfl) (fun _ => rfl) rfl) Iff.rfl fun _ _ => trivial

/-! ## Policies -/

/-- An array of which the encoder asserts that there is an element. -/
theorem conveys_atLeastOne {α β : Type} {enc : α → Outcome β} {sat : β → Bool} {dec : β → Outcome α}
    {S D : α → Prop} {n : Nat} {m : String} {xs : List α}
    (h : ∀ x ∈ xs, Conveys (enc x) sat dec x (S x) (D x)) :
    Conveys (assert (decide (0 < xs.length)) m >>= fun _ => walk enc xs) (isSequence n sat)
      (sizedWalk (n + 1) dec) xs (sized (n + 1) xs = true ∧ ∀ x ∈ xs, S x) (∀ x ∈ xs, D x) := by
  refine ((conveys_walk_sized h).guard _ m).iff ?_ Iff.rfl
  rw [and_iff_right_iff_imp]
  exact fun hx => ((Bool.and_eq_true _ _).mp hx.1).1

/-- A parameter of a policy. -/
theorem conveys_seqRanParam (p : SeqRanParam) :
    Conveys (cpRicPolicyActionRanParam p) StructItemAsn.satisfies decSeqRanParam p p.Sendable
      True := by
  obtain ⟨id, val⟩ := p
  refine Conveys.always (conveys_two (conveys_paramIdBelow id) (conveys_ranParamValueType val)
    (by rw [cpRicPolicyActionRanParam, encRanParamStruct]; rfl)
    (fun _ _ => by rw [StructItemAsn.satisfies, Bool.true_and]) (fun _ _ => rfl) rfl) ?_
    ⟨trivial, trivial⟩
  rw [SeqRanParam.Sendable]

/-- Up to 65535 parameters. -/
def PolicyAction.Sendable (m : PolicyAction) : Prop :=
  0 < m.policyActId ∧ (below 65536 m.seqRanParam = true ∧ ∀ p ∈ m.seqRanParam, p.Sendable) ∧
    m.polDec = none

/-- The decoder takes one parameter less than is sent. -/
def PolicyAction.Decodable (m : PolicyAction) : Prop := below 65535 m.seqRanParam = true

/-- **A policy action arrives** unless it is a full one. -/
theorem conveys_policyAction (m : PolicyAction) :
    Conveys (cpRicPolicyAction m) PolicyActionAsn.satisfies decPolicyAction m m.Sendable
      m.Decodable := by
  have hparams := conveys_nonempty_sized (n := 65535) (m := 65534)
    fun p (_ : p ∈ m.seqRanParam) => conveys_seqRanParam p
  refine Conveys.iff (conveys_three (conveys_id m.policyActId) hparams (conveys_absent m.polDec) rfl
    (fun _ _ _ => by simp [PolicyActionAsn.satisfies]) (fun _ _ _ => rfl) rfl) Iff.rfl ?_
  simp [PolicyAction.Decodable]

def PolicyCond.Sendable (m : PolicyCond) : Prop := m.polAct.Sendable ∧ m.pol = none

/-- A policy: the decoder takes one parameter less than the encoder writes. -/
theorem conveys_policyCond (m : PolicyCond) :
    Conveys (cpRcActDefFrmt2It m) (·.ricPolicyAction.satisfies) decPolicyCond m m.Sendable
      m.polAct.Decodable :=
  Conveys.iff (conveys_two (conveys_policyAction m.polAct) (conveys_absent m.pol) rfl
    (fun _ _ => (Bool.and_true _).symm) (fun _ _ => rfl) rfl) Iff.rfl (and_iff_left trivial)

/-- From 1 to 65535 policies. -/
def ActDefFrmt2.Sendable (m : ActDefFrmt2) : Prop :=
  sized 65536 m.policyCond = true ∧ ∀ c ∈ m.policyCond, c.Sendable

def ActDefFrmt2.Decodable (m : ActDefFrmt2) : Prop := ∀ c ∈ m.policyCond, c.polAct.Decodable

/-- **Format 2** is decoded where each of its policies is. -/
theorem conveys_actDefFrmt2 (m : ActDefFrmt2) :
    Conveys (encActDefFrmt2 m) (isSequence 65535 (·.ricPolicyAction.satisfies)) decActDefFrmt2 m
      m.Sendable m.Decodable :=
  conveys_one (conveys_atLeastOne fun c _ => conveys_policyCond c) (bind_next _).symm
    (fun _ => rfl) (fun _ => rfl) rfl

/-! ## Inserts -/

/-- An id above 0. -/
def RanParamIns.Sendable (m : RanParamIns) : Prop := 0 < m.ranId ∧ ∀ d ∈ m.defn, d.Sendable

/-- A parameter to insert. -/
theorem conveys_ranParamIns (m : RanParamIns) :
    Conveys (cpRcActDefFrmt3It m) DefinedParamAsn.satisfies decRanParamIns m m.Sendable True :=
  conveys_definedParam RanParamIns.mk m.ranId m.defn

/-- From 1 to 65535 parameters, and no UE identity. -/
def ActDefFrmt3.Sendable (m : ActDefFrmt3) : Prop :=
  0 < m.id ∧ (sized 65536 m.ranParam = true ∧ ∀ p ∈ m.ranParam, p.Sendable) ∧ m.ueId = none

/-- **Format 3**, without a UE identity. -/
theorem conveys_actDefFrmt3 (m : ActDefFrmt3) :
    Conveys (encActDefFrmt3 m) ActDefFormat3Asn.satisfies decActDefFrmt3 m m.Sendable True :=
  Conveys.always (conveys_three (conveys_id m.id)
    (conveys_atLeastOne fun p _ => conveys_ranParamIns p) (conveys_absent m.ueId) rfl
    (fun _ _ _ => by simp [ActDefFormat3Asn.satisfies]) (fun _ _ _ => rfl) rfl) Iff.rfl
    ⟨trivial, fun _ _ => trivial, trivial⟩

/-- An id above 0. -/
def RanParamInsInd.Sendable (m : RanParamInsInd) : Prop :=
  0 < m.ranParamId ∧ ∀ d ∈ m.ranParamDef, d.Sendable

theorem conveys_ranParamInsInd (m : RanParamInsInd) :
    Conveys (encRanParamInsInd m) DefinedParamAsn.satisfies decRanParamInsInd m m.Sendable True :=
  conveys_definedParam RanParamInsInd.mk m.ranParamId m.ranParamDef

/-- From 1 to 65535 parameters. -/
def SeqInsIndActDef.Sendable (m : SeqInsIndActDef) : Prop :=
  0 < m.indId ∧ sized 65536 m.ranParamInsInd = true ∧ ∀ p ∈ m.ranParamInsInd, p.Sendable

/-- An indication of a style. -/
theorem conveys_seqInsIndActDef (m : SeqInsIndActDef) :
    Conveys (encSeqInsIndActDef m) ActDefFormat4IndicationAsn.satisfies decSeqInsIndActDef m
      m.Sendable True :=
  Conveys.always (conveys_two (conveys_idOpen m.indId)
    (conveys_sized_sized fun p _ => conveys_ranParamInsInd p) rfl
    (fun _ _ => (Bool.true_and _).symm) (fun _ _ => rfl) rfl) Iff.rfl ⟨trivial, fun _ _ => trivial⟩

/-- From 1 to 63 insert indications. -/
def SeqInsStyle.Sendable (m : SeqInsStyle) : Prop :=
  sized 64 m.seqInsIndActDef = true ∧ ∀ i ∈ m.seqInsIndActDef, i.Sendable

/-- A style of 1 to 63 indications. -/
theorem conveys_seqInsStyle (m : SeqInsStyle) :
    Conveys (cpSeqInsStyles m) ActDefFormat4StyleAsn.satisfies decSeqInsStyles m m.Sendable
      True := by
  have hdec (y : List ActDefFormat4IndicationAsn) : decSeqInsStyles ⟨m.reqInsertStyle.toNat, y⟩ =
      sizedWalk 64 decSeqInsIndActDef y >>= fun z => next ⟨m.reqInsertStyle, z⟩ := by
    rw [decSeqInsStyles, longToU32_back]
    rfl
  exact Conveys.always (conveys_one (conveys_sized_sized fun i _ => conveys_seqInsIndActDef i) rfl
    (fun _ => rfl) hdec rfl) Iff.rfl fun _ _ => trivial

/-- From 1 to 4 insert styles, and no UE identity. -/
def ActDefFrmt4.Sendable (m : ActDefFrmt4) : Prop :=
  (sized 5 m.seqInsStyle = true ∧ ∀ s ∈ m.seqInsStyle, s.Sendable) ∧ m.ueId = none

/-- **Format 4**, without a UE identity. -/
theorem conveys_actDefFrmt4 (m : ActDefFrmt4) :
    Conveys (encActDefFrmt4 m) ActDefFormat4Asn.satisfies decActDefFrmt4 m m.Sendable True :=
  Conveys.always (conveys_two
    (conveys_sized_within (m := 4) (by decide) fun s _ => conveys_seqInsStyle s)
    (conveys_absent m.ueId) rfl (fun _ _ => (Bool.and_true _).symm) (fun _ _ => rfl) rfl) Iff.rfl
    ⟨fun _ _ => trivial, trivial⟩

/-! ## Action definitions -/

namespace ActDefFormat

/-- What the encoder and the constraints want. -/
def Sendable : ActDefFormat → Prop
  | frmt1 f => f.Sendable
  | frmt2 f => f.Sendable
  | frmt3 f => f.Sendable
  | frmt4 f => f.Sendable

/-- What the decoder takes of it. -/
def Decodable : ActDefFormat → Prop
  | frmt2 f => f.Decodable
  | _ => True

end ActDefFormat

/-- The format is conveyed with the definition. -/
theorem conveys_actDefFormat (f : ActDefFormat) :
    Conveys (encActDefFormat f) ActDefFormatsAsn.satisfies decActDefFormat f f.Sendable
      f.Decodable := by
  cases f with
  | frmt1 f => exact conveys_one (conveys_actDefFrmt1 f) rfl (fun _ => rfl) (fun _ => rfl) rfl
  | frmt2 f => exact conveys_one (conveys_actDefFrmt2 f) rfl (fun _ => rfl) (fun _ => rfl) rfl
  | frmt3 f => exact conveys_one (conveys_actDefFrmt3 f) rfl (fun _ => rfl) (fun _ => rfl) rfl
  | frmt4 f => exact conveys_one (conveys_actDefFrmt4 f) rfl (fun _ => rfl) (fun _ => rfl) rfl

/-- **An action definition arrives as it is** where the decoder takes it. -/
theorem conveys_actionDef (m : ActionDef) :
    Conveys (actionDefPdu m) ActionDefinitionAsn.satisfies actionDefOfPdu m m.format.Sendable
      m.format.Decodable := by
  have hdec (y : ActDefFormatsAsn) : actionDefOfPdu ⟨m.ricStyleType.toNat, y⟩ =
      decActDefFormat y >>= fun z => next ⟨m.ricStyleType, z⟩ := by
    rw [actionDefOfPdu, longToU32_back]
    rfl
  exact conveys_one (conveys_actDefFormat m.format) rfl (fun _ => rfl) hdec rfl

end Rc

end FlexRic
