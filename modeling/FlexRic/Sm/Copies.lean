import FlexRic.Sm.SliceCopies
import FlexRic.Sm.StatsCopies
import FlexRic.Sm.TcCopies

/-!
# FlexRic.Sm.Copies

Copies of the indications of the MAC, RLC, PDCP, SLICE, TC and GTP service models
(`cp_mac_ind_data` and the like, `cp_sm_ag_if_rd_ind` of
`sm/agent_if/read/sm_ag_if_rd.c`).

`copies_faithful_iff` says of which messages and of which indications the copy is
equal to the source.
-/

namespace FlexRic

open Plain Stats Slice Tc

/-- `mac_ind_data_t` and the like; the header and the process id hold a `dummy`. -/
structure IndData (M : Type) where
  hdr : UInt32
  msg : M
  procId : Option UInt32
  deriving DecidableEq

/-- `sm_ag_if_rd_ind_t` of the plain service models. -/
inductive SmAgIfRdInd where
  | mac (ind : IndData MacIndMsg)
  | rlc (ind : IndData RlcIndMsg)
  | pdcp (ind : IndData PdcpIndMsg)
  | slice (ind : IndData SliceIndMsg)
  | tc (ind : IndData TcIndMsg)
  | gtp (ind : IndData GtpIndMsg)
  deriving DecidableEq

/-! ## Copies -/

section Copies

variable {M : Type}

/-- What the copies of the indication data have in common. -/
def cpIndData (cpMsg : M → Access M) (cpCallProcId : UInt32 → Access UInt32)
    (src : IndData M) : Access (IndData M) := do
  let msg ← cpMsg src.msg
  match src.procId with
  | none => return { hdr := src.hdr, msg, procId := none }
  | some p =>
    let procId ← cpCallProcId p
    return { hdr := src.hdr, msg, procId := some procId }

/-- `cp_mac_call_proc_id` and those of RLC, PDCP and GTP. -/
def cpCallProcId (src : UInt32) : Access UInt32 := .done src

/-- `cp_slice_call_proc_id`. -/
def cpSliceCallProcId (_src : UInt32) : Access UInt32 := .refused "Not implemented"

/-- `cp_tc_call_proc_id`. -/
def cpTcCallProcId (_src : UInt32) : Access UInt32 := .refused "Not implememnted"

end Copies

def cpMacIndData : IndData MacIndMsg → Access (IndData MacIndMsg) :=
  cpIndData cpMacIndMsg cpCallProcId

def cpRlcIndData : IndData RlcIndMsg → Access (IndData RlcIndMsg) :=
  cpIndData cpRlcIndMsg cpCallProcId

def cpPdcpIndData : IndData PdcpIndMsg → Access (IndData PdcpIndMsg) :=
  cpIndData cpPdcpIndMsg cpCallProcId

def cpSliceIndData : IndData SliceIndMsg → Access (IndData SliceIndMsg) :=
  cpIndData cpSliceIndMsg cpSliceCallProcId

def cpTcIndData (near : FloatBits → FloatBits → Float → Bool) :
    IndData TcIndMsg → Access (IndData TcIndMsg) :=
  cpIndData (cpTcIndMsg near) cpTcCallProcId

def cpGtpIndData : IndData GtpIndMsg → Access (IndData GtpIndMsg) :=
  cpIndData cpGtpIndMsg cpCallProcId

/-- `cp_sm_ag_if_rd_ind`. -/
def cpSmAgIfRdInd (near : FloatBits → FloatBits → Float → Bool) :
    SmAgIfRdInd → Access SmAgIfRdInd
  | .mac d => do return .mac (← cpMacIndData d)
  | .rlc d => do return .rlc (← cpRlcIndData d)
  | .pdcp d => do return .pdcp (← cpPdcpIndData d)
  | .slice d => do return .slice (← cpSliceIndData d)
  | .tc d => do return .tc (← cpTcIndData near d)
  | .gtp d => do return .gtp (← cpGtpIndData d)

/-! ## What is equal, and what is copied -/

/-- Equal in every field, if the messages are. -/
def IndData.Same {M : Type} (same : M → M → Prop) (d d' : IndData M) : Prop :=
  d.hdr = d'.hdr ∧ same d.msg d'.msg ∧ d.procId = d'.procId

/-- Equal in every field; the floats of MAC, which are computed with, in their values. -/
def SmAgIfRdInd.Same : SmAgIfRdInd → SmAgIfRdInd → Prop
  | mac d, mac d' => d.Same MacIndMsg.Same d'
  | ind, ind' => ind = ind'

/-- The copy of the message alone is equal to it. -/
def SmAgIfRdInd.MsgCopied (near : FloatBits → FloatBits → Float → Bool) :
    SmAgIfRdInd → Prop
  | mac d => ∃ out, cpMacIndMsg d.msg = .done out ∧ out.Same d.msg
  | rlc d => cpRlcIndMsg d.msg = .done d.msg
  | pdcp d => cpPdcpIndMsg d.msg = .done d.msg
  | slice d => cpSliceIndMsg d.msg = .done d.msg
  | tc d => cpTcIndMsg near d.msg = .done d.msg
  | gtp d => cpGtpIndMsg d.msg = .done d.msg

/-- The copy of the indication is equal to it. -/
def SmAgIfRdInd.Copied (near : FloatBits → FloatBits → Float → Bool) (ind : SmAgIfRdInd) :
    Prop :=
  ∃ out, cpSmAgIfRdInd near ind = .done out ∧ out.Same ind

/-- The message has no field that is lost, changed or refused. -/
def SmAgIfRdInd.MsgKept : SmAgIfRdInd → Prop
  | mac d => d.msg.Kept
  | rlc _ => True
  | pdcp d => d.msg.Plausible
  | slice d => d.msg.Numbers
  | tc d => d.msg.Kept
  | gtp _ => True

/-- There is no process id of those that are not implemented. -/
def SmAgIfRdInd.ProcIdKept : SmAgIfRdInd → Prop
  | slice d => d.procId = none
  | tc d => d.procId = none
  | _ => True

/-! ## Proofs -/

section Proofs

variable {M : Type} {same : M → M → Prop} {cpMsg : M → Access M}
  {cpProcId : UInt32 → Access UInt32} {d : IndData M}

/-- Without a process id the copy of the message decides. -/
theorem cpIndData_of_none {msg : M} (hmsg : cpMsg d.msg = .done msg) (hproc : d.procId = none) :
    cpIndData cpMsg cpProcId d = .done { hdr := d.hdr, msg, procId := none } := by
  unfold cpIndData
  rw [Access.bind_of_done hmsg, hproc]
  rfl

/-- With one, its copy is made last. -/
theorem cpIndData_of_some {msg : M} {p : UInt32} (hmsg : cpMsg d.msg = .done msg)
    (hproc : d.procId = some p) :
    cpIndData cpMsg cpProcId d =
      cpProcId p >>= fun p' => .done { hdr := d.hdr, msg, procId := some p' } := by
  unfold cpIndData
  rw [Access.bind_of_done hmsg, hproc]
  rfl

/-- An indication is copied where its message and its process id are. -/
theorem cpIndData_iff :
    (∃ out, cpIndData cpMsg cpProcId d = .done out ∧ out.Same same d) ↔
      (∃ msg, cpMsg d.msg = .done msg ∧ same msg d.msg) ∧
        ∀ p, d.procId = some p → cpProcId p = .done p := by
  constructor
  · rintro ⟨out, hout, hhdr, hsame, hprocId⟩
    obtain ⟨msg, hmsg, -⟩ := Access.bind_eq_done.mp hout
    cases hproc : d.procId with
    | none =>
      rw [cpIndData_of_none hmsg hproc, Access.done_inj] at hout
      subst hout
      refine ⟨⟨msg, hmsg, hsame⟩, fun p hp => by cases hp⟩
    | some p =>
      rw [cpIndData_of_some hmsg hproc] at hout
      obtain ⟨p', hp', hout⟩ := Access.bind_eq_done.mp hout
      rw [Access.done_inj] at hout
      subst hout
      rw [hproc] at hprocId
      have heq : p' = p := Option.some.inj hprocId
      refine ⟨⟨msg, hmsg, hsame⟩, fun q hq => ?_⟩
      rw [← Option.some.inj hq, hp', heq]
  · rintro ⟨⟨msg, hmsg, hsame⟩, hprocId⟩
    cases hproc : d.procId with
    | none => exact ⟨_, cpIndData_of_none hmsg hproc, rfl, hsame, hproc.symm⟩
    | some p =>
      refine ⟨{ hdr := d.hdr, msg, procId := some p }, ?_, rfl, hsame, hproc.symm⟩
      rw [cpIndData_of_some hmsg hproc, Access.bind_of_done (hprocId p hproc)]

/-- Messages that are compared by `=` make data that are. -/
theorem same_eq_iff {out : IndData M} : out.Same (· = ·) d ↔ out = d := by
  cases out
  cases d
  unfold IndData.Same
  rw [IndData.mk.injEq]

/-- What is handed over and is `a` is `a`. -/
theorem exists_done_eq {x : Access M} {a : M} : (∃ out, x = .done out ∧ out = a) ↔ x = .done a := by
  constructor
  · rintro ⟨out, hout, rfl⟩
    exact hout
  · intro h
    exact ⟨a, h, rfl⟩

/-- What an indication is, is what its service model's is. -/
theorem exists_wrapped_iff {x : Access (IndData M)} {wrap : IndData M → SmAgIfRdInd}
    (hsame : ∀ out, (wrap out).Same (wrap d) ↔ out.Same same d) :
    (∃ out, (x >>= fun o => .done (wrap o)) = .done out ∧ out.Same (wrap d)) ↔
      ∃ out, x = .done out ∧ out.Same same d := by
  constructor
  · rintro ⟨out, hout, h⟩
    obtain ⟨o, ho, hw⟩ := Access.bind_eq_done.mp hout
    rw [Access.done_inj] at hw
    subst hw
    exact ⟨o, ho, (hsame o).mp h⟩
  · rintro ⟨o, ho, h⟩
    exact ⟨wrap o, Access.bind_of_done ho, (hsame o).mpr h⟩

/-- Service models that copy the process id. -/
theorem copied_iff (wrap : IndData M → SmAgIfRdInd)
    (hsame : ∀ out, (wrap out).Same (wrap d) ↔ out = d) :
    (∃ out, (cpIndData cpMsg cpCallProcId d >>= fun o => .done (wrap o)) = .done out ∧
      out.Same (wrap d)) ↔ cpMsg d.msg = .done d.msg := by
  rw [exists_wrapped_iff fun out => (hsame out).trans same_eq_iff.symm, cpIndData_iff,
    exists_done_eq]
  exact and_iff_left fun _ _ => rfl

/-- Service models that do not. -/
theorem copied_iff_of_refused {msg : String} (wrap : IndData M → SmAgIfRdInd)
    (hsame : ∀ out, (wrap out).Same (wrap d) ↔ out = d) :
    (∃ out, (cpIndData cpMsg (fun _ => .refused msg) d >>= fun o => .done (wrap o)) =
        .done out ∧ out.Same (wrap d)) ↔
      cpMsg d.msg = .done d.msg ∧ d.procId = none := by
  rw [exists_wrapped_iff fun out => (hsame out).trans same_eq_iff.symm, cpIndData_iff,
    exists_done_eq, Option.eq_none_iff_forall_ne_some]
  exact and_congr_right fun _ => forall_congr' fun p => imp_congr_right fun _ =>
    iff_of_false (fun h => by cases h) id

end Proofs

/-- **Which messages are copied as they are**, service model by service model. -/
theorem msgCopied_iff (near : FloatBits → FloatBits → Float → Bool) (ind : SmAgIfRdInd) :
    ind.MsgCopied near ↔ ind.MsgKept := by
  cases ind with
  | mac d => exact cpMacIndMsg_iff d.msg
  | rlc d => exact iff_of_true rfl trivial
  | pdcp d => exact (guards_cpPdcpIndMsg d.msg).eq_done_iff.trans (and_iff_left rfl)
  | slice d => exact (guards_cpSliceIndMsg d.msg).eq_done_iff.trans (and_iff_left rfl)
  | tc d => exact cpTcIndMsg_iff near d.msg
  | gtp d => exact iff_of_true rfl trivial

/-- The header is always copied; the process id, where its copy is written. -/
theorem copied_iff_msgCopied (near : FloatBits → FloatBits → Float → Bool) (ind : SmAgIfRdInd) :
    ind.Copied near ↔ ind.MsgCopied near ∧ ind.ProcIdKept := by
  cases ind with
  | mac d =>
    refine (exists_wrapped_iff fun _ => Iff.rfl).trans (cpIndData_iff.trans ?_)
    exact and_congr_right fun _ => iff_of_true (fun _ _ => rfl) trivial
  | rlc d =>
    refine (copied_iff .rlc fun out => ?_).trans (and_iff_left trivial).symm
    exact Iff.of_eq (SmAgIfRdInd.rlc.injEq out d)
  | pdcp d =>
    refine (copied_iff .pdcp fun out => ?_).trans (and_iff_left trivial).symm
    exact Iff.of_eq (SmAgIfRdInd.pdcp.injEq out d)
  | slice d =>
    exact copied_iff_of_refused .slice fun out => Iff.of_eq (SmAgIfRdInd.slice.injEq out d)
  | tc d => exact copied_iff_of_refused .tc fun out => Iff.of_eq (SmAgIfRdInd.tc.injEq out d)
  | gtp d =>
    refine (copied_iff .gtp fun out => ?_).trans (and_iff_left trivial).symm
    exact Iff.of_eq (SmAgIfRdInd.gtp.injEq out d)

/-- **Copies are equal to their source** when and only when nothing that is in it is lost,
changed or refused. -/
theorem copies_faithful_iff (near : FloatBits → FloatBits → Float → Bool) (ind : SmAgIfRdInd) :
    (ind.MsgCopied near ↔ ind.MsgKept) ∧ (ind.Copied near ↔ ind.MsgKept ∧ ind.ProcIdKept) := by
  rw [copied_iff_msgCopied, msgCopied_iff]
  exact ⟨Iff.rfl, Iff.rfl⟩

/-- A row of the TC service model, whose queue is the seventh. -/
def seventhQueue : TcRow where
  shp := { id := 7, active := 1, maxRateKbps := 0, mtr := { timeWindowMs := 0, bnd := 0 } }
  plc :=
    { id := 7, mtr := { timeWindowMs := 0, bnd := 0 }, drp := { droppedPkts := 0 },
      mrk := { markedPkts := 0 }, maxRateKbps := 0, active := 1, dstId := 0, devId := 0 }
  q :=
    { id := 7,
      u := .fifo
        { bytes := 0, pkts := 0, bytesFwd := 0, pktsFwd := 0, cnt := { droppedPkts := 0 },
          avgSojournTime := 0, lastSojournTime := 0 } }

def seventhTc : SmAgIfRdInd :=
  .tc
    { hdr := 0
      msg :=
        { sch := .rr 0, pcr := { type := 0, id := 0, mtr := { timeWindowMs := 0, bnd := 0 } },
          cls := .rr 0, rows := ⟨[seventhQueue], by decide⟩, tstamp := 0 }
      procId := none }

/-- The copy has it as the zeroth. -/
theorem copies_not_faithful :
    ¬ ∀ (near : FloatBits → FloatBits → Float → Bool) (ind : SmAgIfRdInd), ind.Copied near := by
  intro h
  have hcopied := (copied_iff_msgCopied (fun _ _ _ => true) seventhTc).mp (h _ _)
  have hkept := (msgCopied_iff (fun _ _ _ => true) seventhTc).mp hcopied.1
  have hid := (hkept.2.2 seventhQueue List.mem_cons_self).2.2.2.1
  exact absurd hid (by decide)

end FlexRic
