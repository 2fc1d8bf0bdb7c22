import FlexRic.Rc.EventTriggerTransfer
import FlexRic.Rc.FuncDefCopies
import FlexRic.Rc.FuncDefTransfer

/-!
# FlexRic.Rc.Domains

The values that the codec carries, next to those that are copied, compared and released.

* A change of UE ids is carried with any id, and copied with an id in its range.
* A test is carried with any real number, and compared with itself if that is a number.
* A RAN parameter of a function definition is carried with its definition, and neither copied nor
  compared with one.
* All else that is carried is copied, compared and released (`eventTrigger_served`,
  `funcDef_served`).
-/

namespace FlexRic

namespace Rc

open Outcome

/-! ## Event triggers -/

mutual

/-- What is sent of a test is copied and released, but not always compared. -/
theorem ranParamTest_sent : ∀ t : RanParamTest, t.Sendable → t.Copyable ∧ t.Releasable
  | ⟨id, test⟩, h => by
    rw [RanParamTest.Sendable] at h
    rw [RanParamTest.Copyable, RanParamTest.Releasable]
    exact ⟨⟨h.1, (ranParamTestType_sent test h.2).1⟩, (ranParamTestType_sent test h.2).2⟩

theorem ranParamTestType_sent : ∀ t : RanParamTestType, t.Sendable → t.Copyable ∧ t.Releasable
  | .lst ts, h => by
    rw [RanParamTestType.Sendable] at h
    rw [RanParamTestType.Copyable, RanParamTestType.Releasable]
    exact ⟨⟨h.1, (tests_sent ts h.2).1⟩, h.1, (tests_sent ts h.2).2⟩
  | .strct ts, h => by
    rw [RanParamTestType.Sendable] at h
    rw [RanParamTestType.Copyable, RanParamTestType.Releasable]
    exact ⟨⟨h.1, (tests_sent ts h.2).1⟩, h.1, (tests_sent ts h.2).2⟩
  | .flagTrue v, _ => by
    rw [RanParamTestType.Copyable, RanParamTestType.Releasable]
    exact ⟨trivial, trivial⟩
  | .flagFalse v, h => by
    rw [RanParamTestType.Sendable] at h
    rw [RanParamTestType.Copyable, RanParamTestType.Releasable]
    exact ⟨h, h⟩

theorem tests_sent : ∀ ts : List RanParamTest, TestsSendable ts →
    TestsCopyable ts ∧ TestsReleasable ts
  | [], _ => ⟨trivial, trivial⟩
  | t :: ts, h => by
    rw [TestsSendable] at h
    rw [TestsCopyable, TestsReleasable]
    exact ⟨⟨(ranParamTest_sent t h.1).1, (tests_sent ts h.2).1⟩, (ranParamTest_sent t h.1).2,
      (tests_sent ts h.2).2⟩

end

namespace UeInfoChngTrigger

/-- An id in its range, and tests that are compared with themselves. -/
def Shared : UeInfoChngTrigger → Prop
  | rrcState _ => True
  | ueIdChng i => ueIdInRange i = true
  | l2State ts => ∀ t ∈ ts, t.Comparable

theorem served {m : UeInfoChngTrigger} (h : m.Sendable) :
    (m.Copyable ∧ m.Comparable ∧ m.Releasable) ↔ m.Shared := by
  cases m with
  | rrcState s => exact iff_of_true ⟨h, h.2, h⟩ trivial
  | ueIdChng i => exact ⟨fun h => h.1, fun h => ⟨h, trivial, h⟩⟩
  | l2State ts =>
    exact ⟨fun h => h.2.1, fun hts => ⟨⟨h.1, fun t ht => (ranParamTest_sent t (h.2 t ht)).1⟩, hts,
      h.1, fun t ht => (ranParamTest_sent t (h.2 t ht)).2⟩⟩

end UeInfoChngTrigger

theorem ueInfoChng_served {m : UeInfoChng} (h : m.Sendable) :
    (m.Copyable ∧ m.Comparable ∧ m.Releasable) ↔ m.trigger.Shared := by
  rw [← UeInfoChngTrigger.served h.2.1]
  constructor
  · exact fun ⟨hc, he, hf⟩ => ⟨hc.2.1, he.2.1, hf.1⟩
  · exact fun ⟨hc, he, hf⟩ => ⟨⟨h.1, hc, h.2.2⟩, ⟨h.1, he, h.2.2⟩, hf, h.2.2⟩

/-- Each change of a UE is shared. -/
def EventTrigger.Shared : EventTrigger → Prop
  | frmt4 f => ∀ c ∈ f.ueInfoChng, c.trigger.Shared
  | _ => True

theorem evTrgFrmt1_comparable {f : EvTrgFrmt1} (h : f.Copyable) : f.Comparable :=
  ⟨h.1, fun e he => (h.2.1 e he).2, h.2.2⟩

theorem evTrgFrmt3_sent {f : EvTrgFrmt3} (h : f.Sendable) : f.sent.Copyable := by
  refine ⟨?_, fun c hc => ?_⟩
  · rw [EvTrgFrmt3.sent, sized, List.length_map]
    exact h.1
  · obtain ⟨c', hc', rfl⟩ := List.mem_map.mp hc
    exact ⟨h.2 c' hc', rfl⟩

theorem evTrgFrmt3_releasable {f : EvTrgFrmt3} (h : f.Copyable) : f.Releasable := by
  have hpos := ((Bool.and_eq_true _ _).mp h.1).1
  exact ⟨of_decide_eq_true hpos, fun c hc => (h.2 c hc).2⟩

/-- **What arrives of an event trigger** is copied, compared and released exactly when it is
shared. -/
theorem eventTrigger_served {m : EventTrigger} (h : m.Sendable) :
    (m.sent.Copyable ∧ m.sent.Comparable ∧ m.sent.Releasable) ↔ m.Shared := by
  cases m with
  | frmt1 f => exact iff_of_true ⟨h, evTrgFrmt1_comparable h, evTrgFrmt1_comparable h⟩ trivial
  | frmt2 f => exact iff_of_true ⟨h, h, h⟩ trivial
  | frmt3 f =>
    have hsent := evTrgFrmt3_sent h
    exact iff_of_true ⟨hsent, hsent, evTrgFrmt3_releasable hsent⟩ trivial
  | frmt4 f =>
    constructor
    · exact fun ⟨hc, he, hf⟩ c hcs =>
        (ueInfoChng_served (h.2 c hcs)).mp ⟨hc.2 c hcs, he.2 c hcs, hf.2 c hcs⟩
    · exact fun hs => ⟨⟨h.1, fun c hc => ((ueInfoChng_served (h.2 c hc)).mpr (hs c hc)).1⟩,
        ⟨h.1, fun c hc => ((ueInfoChng_served (h.2 c hc)).mpr (hs c hc)).2.1⟩,
        h.1, fun c hc => ((ueInfoChng_served (h.2 c hc)).mpr (hs c hc)).2.2⟩
  | frmt5 f => exact iff_of_true ⟨h, h, h⟩ trivial

/-! ## Function definitions -/

/-- What is sent of a part is released, and copied exactly when it is plain. -/
structure Carried (copyable plain releasable : Prop) : Prop where
  copied : copyable ↔ plain
  released : releasable

/-- No RAN parameter with a definition. -/
def ParamsPlain (ps : List SeqRanParam3) : Prop := ∀ p ∈ ps, p.defn = none

theorem params_carried {ps : List SeqRanParam3}
    (h : ∀ p ∈ ps, 0 < p.id ∧ sized 151 p.name = true ∧ ∀ d ∈ p.defn, d.Sendable) :
    Carried (ParamsCopyable ps) (ParamsPlain ps) (ParamsReleasable ps) where
  copied := forall₂_congr fun p hp =>
    ⟨fun hc => hc.2.2, fun hdefn => ⟨(h p hp).1, (h p hp).2.1, hdefn⟩⟩
  released := fun p hp => ⟨(h p hp).2.1, fun d hd q hq => ((h p hp).2.2 d hd).2 q hq⟩

theorem sentParams_carried {ps : List SeqRanParam3} (h : ∀ p ∈ ps, p.Sendable) :
    Carried (ParamsCopyable ps) (ParamsPlain ps) (ParamsReleasable ps) :=
  params_carried h

/-- An array of parts. -/
theorem all_carried {α : Type} {xs : List α} {C P R : α → Prop}
    (h : ∀ x ∈ xs, Carried (C x) (P x) (R x)) :
    Carried (∀ x ∈ xs, C x) (∀ x ∈ xs, P x) (∀ x ∈ xs, R x) where
  copied := forall₂_congr fun x hx => (h x hx).copied
  released := fun x hx => (h x hx).released

/-- An optional part. -/
theorem opt_carried {α : Type} {o : Option α} {C P R : α → Prop}
    (h : ∀ x ∈ o, Carried (C x) (P x) (R x)) :
    Carried (∀ x ∈ o, C x) (∀ x ∈ o, P x) (∀ x ∈ o, R x) where
  copied := forall₂_congr fun x hx => (h x hx).copied
  released := fun x hx => (h x hx).released

theorem callProcBreak_carried {b : CallProcBreak} (h : b.Sendable) :
    Carried b.Copyable (ParamsPlain b.param) b.Releasable := by
  obtain ⟨hid, hname, -, hps⟩ := h
  have hparams := sentParams_carried hps
  exact ⟨⟨fun hc => hparams.copied.mp hc.2.2, fun hp => ⟨hid, hname, hparams.copied.mpr hp⟩⟩,
    hid, hname, hparams.released⟩

theorem callProcType_carried {c : SeqCallProcType} (h : c.Sendable) :
    Carried c.Copyable (∀ b ∈ c.callProcBreak, ParamsPlain b.param) c.Releasable := by
  obtain ⟨hid, hname, hsize, hbs⟩ := h
  have hbreaks := all_carried fun b hb => callProcBreak_carried (hbs b hb)
  have hname' : sized 151 c.name = true := by
    simp only [sized, Bool.and_eq_true, decide_eq_true_eq] at hname ⊢
    omega
  exact ⟨⟨fun hc => hbreaks.copied.mp hc.2.2.2,
    fun hp => ⟨hid, hname', hsize, hbreaks.copied.mpr hp⟩⟩, hid, hname', hsize, hbreaks.released⟩

/-- No RAN parameter with a definition. -/
def RanFuncDefEvTrig.Plain (d : RanFuncDefEvTrig) : Prop :=
  ParamsPlain d.seqRanParamL2Var ∧
    (∀ c ∈ d.seqCallProcType, ∀ b ∈ c.callProcBreak, ParamsPlain b.param) ∧
    ParamsPlain d.seqRanParamIdUe ∧ ParamsPlain d.seqRanParamIdCell

theorem funcDefEvTrig_carried {d : RanFuncDefEvTrig} (h : d.Sendable) :
    Carried d.Copyable d.Plain d.Releasable := by
  obtain ⟨⟨hsty, hnames⟩, ⟨hl2, hl2s⟩, ⟨hcp, hcps⟩, ⟨hue, hues⟩, hcell, hcells⟩ := h
  have h1 := sentParams_carried hl2s
  have h2 := all_carried fun c hc => callProcType_carried (hcps c hc)
  have h3 := sentParams_carried hues
  have h4 := sentParams_carried hcells
  refine ⟨⟨fun hc => ?_, fun ⟨hp1, hp2, hp3, hp4⟩ => ?_⟩, ?_⟩
  · exact ⟨h1.copied.mp hc.l2Var, h2.copied.mp hc.callProcs, h3.copied.mp hc.idUe,
      h4.copied.mp hc.idCell⟩
  · exact ⟨⟨hsty, hnames, h1.copied.mpr hp1, h2.copied.mpr hp2,
      h3.copied.mpr hp3, h4.copied.mpr hp4⟩, hl2, hcp, hue, hcell⟩
  · exact ⟨hsty, hnames, h1.released, h2.released, h3.released, h4.released⟩

def RanFuncDefReport.Plain (d : RanFuncDefReport) : Prop :=
  ∀ s ∈ d.seqReportSty, ParamsPlain s.ranParam

theorem funcDefReport_carried {d : RanFuncDefReport} (h : d.Sendable) :
    Carried d.Copyable d.Plain d.Releasable := by
  have hstyle (s : SeqReportSty) (hs : s.Sendable) :
      Carried s.Copyable (ParamsPlain s.ranParam) s.Releasable := by
    obtain ⟨hname, hlen, hps⟩ := hs
    have hparams := sentParams_carried hps
    exact ⟨⟨fun hc => hparams.copied.mp hc.2.2, fun hp => ⟨hname, hlen, hparams.copied.mpr hp⟩⟩,
      hname, hlen, hparams.released⟩
  have hall := all_carried fun s hs => hstyle s (h.2 s hs)
  exact ⟨⟨fun hc => hall.copied.mp hc.2, fun hp => ⟨h.1, hall.copied.mpr hp⟩⟩, h.1, hall.released⟩

def RanFuncDefInsert.Plain (d : RanFuncDefInsert) : Prop :=
  ∀ s ∈ d.seqInsSty, ∀ i ∈ s.seqInsInd, ParamsPlain i.seqInsInd

theorem insInd_carried {i : SeqInsInd} (h : i.Sendable) (hdec : i.Decodable) :
    Carried i.Copyable (ParamsPlain i.seqInsInd) i.Releasable := by
  obtain ⟨hid, hname, hlen, hps⟩ := h
  have hparams := params_carried fun p hp => ⟨(hps p hp).1, hdec p hp, (hps p hp).2⟩
  exact ⟨⟨fun hc => hparams.copied.mp hc.2.2.2,
    fun hp => ⟨hid, hname, hlen, hparams.copied.mpr hp⟩⟩, hid, hname, hlen, hparams.released⟩

theorem funcDefInsert_carried {d : RanFuncDefInsert} (h : d.Sendable) (hdec : d.Decodable) :
    Carried d.Copyable d.Plain d.Releasable := by
  have hstyle (s : SeqInsSty) (hs : s.Sendable) (hdec : s.Decodable) :
      Carried s.Copyable (∀ i ∈ s.seqInsInd, ParamsPlain i.seqInsInd) s.Releasable := by
    obtain ⟨hname, hlen, his⟩ := hs
    have hinds := all_carried fun i hi => insInd_carried (his i hi) (hdec i hi)
    exact ⟨⟨fun hc => hinds.copied.mp hc.2.2, fun hp => ⟨hname, hlen, hinds.copied.mpr hp⟩⟩,
      hname, hinds.released⟩
  have hall := all_carried fun s hs => hstyle s (h.2 s hs) (hdec s hs)
  exact ⟨⟨fun hc => hall.copied.mp hc.2, fun hp => ⟨h.1, hall.copied.mpr hp⟩⟩, h.1, hall.released⟩

/-- Fewer than 65535 actions, and no RAN parameter with a definition. -/
def SeqCtrlStyle.Plain (s : SeqCtrlStyle) : Prop :=
  below 65535 s.seqCtrlAct = true ∧ (∀ a ∈ s.seqCtrlAct, ParamsPlain a.assocRanParam) ∧
    ParamsPlain s.ranParamCtrlOut

theorem ctrlAct_carried {a : SeqCtrlAct2} (h : a.Sendable) :
    Carried a.Copyable (ParamsPlain a.assocRanParam) a.Releasable := by
  obtain ⟨hid, hname, hlen, hps⟩ := h
  have hparams := sentParams_carried hps
  exact ⟨⟨fun hc => hparams.copied.mp hc.2.2.2,
    fun hp => ⟨hid, hname, hlen, hparams.copied.mpr hp⟩⟩, hid, hname, hlen, hparams.released⟩

theorem ctrlStyle_carried {s : SeqCtrlStyle} (h : s.Sendable) :
    Carried s.Copyable s.Plain s.Releasable := by
  obtain ⟨hname, ⟨hlen, has⟩, hcall, hout, hps⟩ := h
  have hacts := all_carried fun a ha => ctrlAct_carried (has a ha)
  have houts := sentParams_carried hps
  refine ⟨⟨fun hc => ?_, fun ⟨hfew, hp1, hp2⟩ => ?_⟩, ?_⟩
  · exact ⟨hc.actsFewer, hacts.copied.mp hc.acts, houts.copied.mp hc.outs⟩
  · exact ⟨⟨hname, hlen, hacts.copied.mpr hp1, hcall, hout, houts.copied.mpr hp2⟩, hfew⟩
  · exact ⟨hname, hlen, hacts.released, hcall, hout, houts.released⟩

def RanFuncDefCtrl.Plain (d : RanFuncDefCtrl) : Prop := ∀ s ∈ d.seqCtrlStyle, s.Plain

theorem funcDefCtrl_carried {d : RanFuncDefCtrl} (h : d.Sendable) :
    Carried d.Copyable d.Plain d.Releasable := by
  have hall := all_carried fun s hs => ctrlStyle_carried (h.2 s hs)
  exact ⟨⟨fun hc => hall.copied.mp hc.2, fun hp => ⟨h.1, hall.copied.mpr hp⟩⟩, h.1, hall.released⟩

def RanFuncDefPolicy.Plain (d : RanFuncDefPolicy) : Prop :=
  ∀ s ∈ d.seqPolicySty, ∀ a ∈ s.seqPolAction,
    ParamsPlain a.seqAssocRpAction ∧ ParamsPlain a.seqAssocRpPolicy

theorem polAction_carried {a : SeqPolAction} (h : a.Sendable) :
    Carried a.Copyable (ParamsPlain a.seqAssocRpAction ∧ ParamsPlain a.seqAssocRpPolicy)
      a.Releasable := by
  obtain ⟨hname, ⟨hlen, hps⟩, hlen', hps'⟩ := h
  have h1 := sentParams_carried hps
  have h2 := sentParams_carried hps'
  exact ⟨⟨fun hc => ⟨h1.copied.mp hc.2.2.1, h2.copied.mp hc.2.2.2.2⟩,
    fun hp => ⟨hname, hlen, h1.copied.mpr hp.1, hlen', h2.copied.mpr hp.2⟩⟩,
    hname, hlen, h1.released, hlen', h2.released⟩

theorem funcDefPolicy_carried {d : RanFuncDefPolicy} (h : d.Sendable) :
    Carried d.Copyable d.Plain d.Releasable := by
  have hstyle (s : SeqPolicySty) (hs : s.Sendable) :
      Carried s.Copyable (∀ a ∈ s.seqPolAction,
        ParamsPlain a.seqAssocRpAction ∧ ParamsPlain a.seqAssocRpPolicy) s.Releasable := by
    obtain ⟨hname, hlen, has⟩ := hs
    have hacts := all_carried fun a ha => polAction_carried (has a ha)
    exact ⟨⟨fun hc => hacts.copied.mp hc.2.2, fun hp => ⟨hname, hlen, hacts.copied.mpr hp⟩⟩,
      hname, hlen, hacts.released⟩
  have hall := all_carried fun s hs => hstyle s (h.2 s hs)
  exact ⟨⟨fun hc => hall.copied.mp hc.2, fun hp => ⟨h.1, hall.copied.mpr hp⟩⟩, h.1, hall.released⟩

namespace FuncDef

/-- The texts of the name are of their lengths, no control style has 65535 actions, and no RAN
parameter a definition. -/
structure Shared (d : FuncDef) : Prop where
  name : sized 151 d.name.name = true ∧ sized 1001 d.name.oid = true ∧
    sized 151 d.name.description = true
  evTrig : ∀ e ∈ d.evTrig, e.Plain
  report : ∀ r ∈ d.report, r.Plain
  insert : ∀ i ∈ d.insert, i.Plain
  ctrl : ∀ c ∈ d.ctrl, c.Plain
  policy : ∀ p ∈ d.policy, p.Plain

end FuncDef

theorem funcDef_comparable {d : FuncDef} (h : d.Copyable) : d.Comparable where
  evTrig := fun e he => (h.evTrig e he).toComparable
  report := fun r hr => (h.report r hr).2
  insert := h.insert
  ctrl := fun c hc => ⟨(h.ctrl c hc).1, fun s hs => ((h.ctrl c hc).2 s hs).toComparable⟩
  policy := h.policy

/-- **A function definition that arrives** is copied, compared and released exactly when it is
shared. -/
theorem funcDef_served {d : FuncDef} (h : d.Sendable) (hdec : d.Decodable) :
    (d.Copyable ∧ d.Comparable ∧ d.Releasable) ↔ d.Shared := by
  obtain ⟨hname, hev, hrep, hins, hctrl, hpol⟩ := h
  have h1 := opt_carried fun e he => funcDefEvTrig_carried (hev e he)
  have h2 := opt_carried fun r hr => funcDefReport_carried (hrep r hr)
  have h3 := opt_carried fun i hi => funcDefInsert_carried (hins i hi) (hdec i hi)
  have h4 := opt_carried fun c hc => funcDefCtrl_carried (hctrl c hc)
  have h5 := opt_carried fun p hp => funcDefPolicy_carried (hpol p hp)
  constructor
  · rintro ⟨hc, -, -⟩
    exact ⟨⟨hc.name.name, hc.name.oid, hc.name.description⟩, h1.copied.mp hc.evTrig,
      h2.copied.mp hc.report, h3.copied.mp hc.insert, h4.copied.mp hc.ctrl, h5.copied.mp hc.policy⟩
  · intro hs
    have hc : d.Copyable := ⟨⟨hs.name.1, hs.name.2.1, hs.name.2.2,
      Option.isNone_iff_eq_none.mp hname⟩, h1.copied.mpr hs.evTrig, h2.copied.mpr hs.report,
      h3.copied.mpr hs.insert, h4.copied.mpr hs.ctrl, h5.copied.mpr hs.policy⟩
    exact ⟨hc, funcDef_comparable hc, h1.released, h2.released, h3.released, h4.released,
      h5.released⟩

/-! ## Delivered values -/

/-- The runtime, for the structures of triggers and function definitions. -/
structure DomainRuntime (Buf : Type) where
  eventTrigger : Asn1c EventTriggerAsn Buf
  funcDef : Asn1c FunctionDefinitionAsn Buf

/-- The runtime encodes what is within the constraints, and decodes it back. -/
structure DomainRuntime.Exact {Buf : Type} (rt : DomainRuntime Buf) : Prop where
  eventTrigger : rt.eventTrigger.Exact EventTriggerAsn.satisfies id
  funcDef : rt.funcDef.Exact FunctionDefinitionAsn.satisfies id

/-- An event trigger, or a function definition. -/
inductive RcValue where
  | trigger (m : EventTrigger)
  | funcDef (d : FuncDef)

namespace RcValue

/-- One side encodes `v`, the other one decodes `v'` of it. -/
def Delivered {Buf : Type} (rt : DomainRuntime Buf) : RcValue → RcValue → Prop
  | trigger m, trigger m' => ∃ b, rcEncEventTriggerAsn rt.eventTrigger m = next b ∧
      rcDecEventTriggerAsn rt.eventTrigger b = next m'
  | funcDef d, funcDef d' => ∃ b, rcEncFuncDefAsn rt.funcDef d = next b ∧
      rcDecFuncDefAsn rt.funcDef b = next d'
  | _, _ => False

/-- The copy is the value, the comparison finds it equal to itself, and it is released. -/
def Served (rr : Reread) : RcValue → Prop
  | trigger m => cpEventTrigger m = next m ∧ eqEventTrigger rr m m = next true ∧
      (freeEventTrigger m).Returns
  | funcDef d => cpFuncDef d = next d ∧ eqFuncDef d d = next true ∧ (freeFuncDef d).Returns

/-- The value is in all the domains. -/
def Shared : RcValue → Prop
  | trigger m => m.Shared
  | funcDef d => d.Shared

end RcValue

/-- A value that yields itself, one that is equal to itself and one that is released. -/
theorem served_iff {α : Type} {cp : Outcome α} {eq : Outcome Bool} {free : Outcome PUnit.{1}}
    {x : α} {C E R : Prop} (hcp : cp.Yields C x) (heq : eq.Yields E true)
    (hfree : free.Yields R ⟨⟩) :
    (cp = next x ∧ eq = next true ∧ free.Returns) ↔ C ∧ E ∧ R := by
  rw [hcp x, heq true, hfree.returns, and_iff_left rfl, and_iff_left rfl]

/-- **The values with one domain**: what the other side made of `v` is copied, compared and released
exactly when `v` is shared. -/
theorem rc_domains {Buf : Type} (rt : DomainRuntime Buf) (hrt : rt.Exact) (rr : Reread)
    (v v' : RcValue) (h : v.Delivered rt v') : v'.Served rr ↔ v.Shared := by
  cases v with
  | trigger m =>
    cases v' with
    | trigger m' =>
      obtain ⟨b, henc, hdec⟩ := h
      obtain ⟨hsent, -⟩ := (encoded_iff hrt.eventTrigger (conveys_eventTrigger m)).mp ⟨b, henc⟩
      obtain ⟨-, rfl⟩ := (yields_decoded hrt.eventTrigger (conveys_eventTrigger m) henc m').mp hdec
      exact (served_iff (yields_cpEventTrigger _) (yields_eqEventTrigger rr _)
        (yields_freeEventTrigger _)).trans (eventTrigger_served hsent)
    | funcDef d' => exact h.elim
  | funcDef d =>
    cases v' with
    | trigger m' => exact h.elim
    | funcDef d' =>
      obtain ⟨b, henc, hdec⟩ := h
      obtain ⟨hsent, -⟩ := (encoded_iff hrt.funcDef (conveys_funcDef d)).mp ⟨b, henc⟩
      obtain ⟨hdecodable, rfl⟩ :=
        (yields_decoded hrt.funcDef (conveys_funcDef d) henc d').mp hdec
      exact (served_iff (yields_cpFuncDef d) (yields_eqFuncDef d) (yields_freeFuncDef d)).trans
        (funcDef_served hsent hdecodable)

/-! ### Worked values -/

/-- A runtime whose encodings are the structures. -/
def plainDomains : DomainRuntime (EventTriggerAsn ⊕ FunctionDefinitionAsn) where
  eventTrigger := plainRuntime EventTriggerAsn.satisfies .inl Sum.getLeft?
  funcDef := plainRuntime FunctionDefinitionAsn.satisfies .inr Sum.getRight?

theorem plainDomains_exact : plainDomains.Exact where
  eventTrigger := plainRuntime_exact fun _ => rfl
  funcDef := plainRuntime_exact fun _ => rfl

/-- Nothing is read as another format. -/
def noReread : Reread := ⟨fun _ => none, fun _ => none, fun _ => none, fun _ => none, fun _ => none⟩

/-- A change of the UE ids. -/
def ueIdChange (id : UInt16) : RcValue := .trigger (.frmt4 ⟨[⟨1, .ueIdChng id, none, none⟩]⟩)

theorem rc_domains_ueId : (ueIdChange 3).Served noReread :=
  (rc_domains plainDomains plainDomains_exact noReread (ueIdChange 3) (ueIdChange 3)
    ⟨_, rfl, rfl⟩).mpr fun c hc => by
      obtain rfl := List.mem_singleton.mp hc
      exact (by decide : ueIdInRange 3 = true)

/-- One report style with one RAN parameter, and maybe its definition. -/
def reportParam (defn : Option RanParamDef) : RcValue :=
  .funcDef ⟨⟨[82, 67], [49], [82, 67], none⟩, none,
    some ⟨[⟨1, [65], 1, 1, 1, 1, [⟨1, [66], defn⟩]⟩]⟩, none, none, none⟩

/-- The definition of a RAN parameter is carried, and asserted away by the copy. -/
theorem rc_domains_differ :
    ¬ ∀ (Buf : Type) (rt : DomainRuntime Buf), rt.Exact → ∀ (rr : Reread) (v v' : RcValue),
      v.Delivered rt v' → v'.Served rr := by
  intro h
  have hserved := h _ plainDomains plainDomains_exact noReread
    (reportParam (some (.lst [⟨1, [67], none⟩]))) (reportParam (some (.lst [⟨1, [67], none⟩])))
    ⟨_, rfl, rfl⟩
  exact absurd hserved.1 nofun

end Rc

end FlexRic
