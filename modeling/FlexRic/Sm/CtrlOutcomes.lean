import FlexRic.Lib.Plain

/-!
# FlexRic.Sm.CtrlOutcomes

The outcomes of control requests, which an E2 node encodes and an xApp decodes
(`sm/slice_sm/enc/slice_enc_plain.c`, `sm/slice_sm/dec/slice_dec_plain.c`, and the like
of TC and PDCP).

* TC and PDCP copy the structure, which is one answer code.
* SLICE writes the diagnostic only: the answer code that is read is always the one of
  success (`ctrlOut_roundTrip`).
-/

namespace FlexRic

namespace CtrlOutcomes

open Plain

/-! ## Outcomes -/

/-- `SLICE_CTRL_OUT_OK`, the first enumerator of `slice_ctrl_out_e`. -/
def sliceCtrlOutOk : UInt32 := 0

/-- `SLICE_CTRL_OUT_ERROR`. -/
def sliceCtrlOutError : UInt32 := 1

/-- `slice_ctrl_out_t`; the diagnostic has its length in `len_diag`. -/
structure SliceCtrlOut where
  ans : UInt32
  diagnostic : Arr Octet
  deriving DecidableEq

/-- An outcome, by its service model; `pdcp_ctrl_out_t` and `tc_ctrl_out_t` have an answer code
only. -/
inductive CtrlOut where
  | slice (out : SliceCtrlOut)
  | pdcp (ans : UInt32)
  | tc (out : UInt32)
  deriving DecidableEq

/-! ## Encoders and decoders -/

/-- `slice_enc_ctrl_out_plain`. -/
def sliceEncCtrlOutPlain (ctrl : SliceCtrlOut) : Access (List Octet) :=
  fill "it == ba.buf + ba.len" (u32.size + ctrl.diagnostic.items.length) do
    u32.write ctrl.diagnostic.len
    put ctrl.diagnostic.items

/-- The diagnostic, where there is one. -/
def readDiagnostic (lenDiag : UInt32) : Reader (Arr Octet) :=
  if lenDiag > 0 then Arr.copy lenDiag.toNat lenDiag else return ⟨[], by decide⟩

/-- `ret.ans` keeps the zero that `ret` starts with. -/
def sliceDecCtrlOut : Reader SliceCtrlOut := do
  let lenDiag ← u32.read
  let diagnostic ← readDiagnostic lenDiag
  return { ans := 0, diagnostic }

/-- `slice_dec_ctrl_out_plain`. -/
def sliceDecCtrlOutPlain (bs : List Octet) : Access SliceCtrlOut :=
  (sliceDecCtrlOut bs).bind fun p => return p.1

/-- `pdcp_enc_ctrl_out_plain` and `tc_enc_ctrl_out_plain`. -/
def encAnsPlain (ans : UInt32) : Access (List Octet) :=
  fill "it == ba.buf + ba.len" u32.size (u32.write ans)

/-- `pdcp_dec_ctrl_out_plain` and `tc_dec_ctrl_out_plain`. -/
def decAnsPlain (msg : String) (bs : List Octet) : Access UInt32 :=
  if bs.length = 0 then .refused "len > 0"
  else if bs.length ≠ u32.size then .refused msg
  else (u32.read bs).bind fun p => return p.1

def pdcpDecCtrlOutPlain := decAnsPlain "len == sizeof( pdcp_ctrl_out_t )"

def tcDecCtrlOutPlain := decAnsPlain "len == sizeof(tc_ctrl_out_e)"

/-- What the E2 node sends. -/
def CtrlOut.enc : CtrlOut → Access (List Octet)
  | slice out => sliceEncCtrlOutPlain out
  | pdcp ans => encAnsPlain ans
  | tc out => encAnsPlain out

/-- What the xApp makes of it. -/
def CtrlOut.decoded (out : CtrlOut) : Access CtrlOut := do
  let bs ← out.enc
  match out with
  | slice _ => do
    let out ← sliceDecCtrlOutPlain bs
    return slice out
  | pdcp _ => do
    let ans ← pdcpDecCtrlOutPlain bs
    return pdcp ans
  | tc _ => do
    let out ← tcDecCtrlOutPlain bs
    return tc out

/-! ## Round trip -/

/-- A diagnostic without an octet is not read, and comes back as such. -/
theorem diagnostic_codes {k : Nat} (diagnostic : Arr Octet) :
    Codes k diagnostic.items.length (put diagnostic.items) (readDiagnostic diagnostic.len)
      diagnostic := by
  unfold readDiagnostic
  split
  · exact Arr.codes_copy diagnostic diagnostic.toNat_len.ge
  · next h =>
    have hnil : diagnostic.items = [] := by
      rw [gt_iff_lt, UInt32.lt_iff_toNat_lt, diagnostic.toNat_len] at h
      exact List.eq_nil_of_length_eq_zero (Nat.eq_zero_of_not_pos h)
    obtain ⟨items, bound⟩ := diagnostic
    obtain rfl : items = [] := hnil
    exact ⟨[], rfl, writes_put [], fun _ _ => rfl⟩

/-- **What comes of a SLICE outcome**: its diagnostic, and success. -/
theorem decoded_slice (out : SliceCtrlOut) :
    (CtrlOut.slice out).decoded = .done (.slice ⟨sliceCtrlOutOk, out.diagnostic⟩) := by
  have hcodes : Codes 0 (u32.size + out.diagnostic.items.length)
      (do
        u32.write out.diagnostic.len
        put out.diagnostic.items) sliceDecCtrlOut ⟨sliceCtrlOutOk, out.diagnostic⟩ :=
    (u32.codes _).bind (diagnostic_codes out.diagnostic).map
  obtain ⟨bs, hlen, hw, hr⟩ := hcodes
  have henc : sliceEncCtrlOutPlain out = .done bs := hw.fill hlen _
  have hread := hr [] (Nat.le_refl 0)
  rw [List.append_nil] at hread
  have hdec : sliceDecCtrlOutPlain bs = .done ⟨sliceCtrlOutOk, out.diagnostic⟩ := by
    rw [sliceDecCtrlOutPlain, hread]
    rfl
  rw [CtrlOut.decoded, CtrlOut.enc, Access.bind_of_done henc]
  exact Access.bind_of_done hdec

/-- An answer code of four octets passes both assertions of its decoder. -/
theorem decAnsPlain_enc (ans : UInt32) (msg : String) :
    ∃ bs, encAnsPlain ans = .done bs ∧ decAnsPlain msg bs = .done ans := by
  obtain ⟨bs, hlen, hw, hr⟩ := u32.codes (k := 0) ans
  have hread := hr [] (Nat.le_refl 0)
  rw [List.append_nil] at hread
  refine ⟨bs, hw.fill hlen _, ?_⟩
  rw [decAnsPlain, if_neg (by rw [hlen]; decide), if_neg (not_not_intro hlen), hread]
  rfl

/-- An outcome of TC or PDCP, or a success of SLICE. -/
def CtrlOut.Survives : CtrlOut → Prop
  | slice out => out.ans = sliceCtrlOutOk
  | pdcp _ | tc _ => True

/-- **Outcomes through the plain codec.** An outcome comes back, answer code and diagnostic, if and
only if it is not an error of SLICE. -/
theorem ctrlOut_roundTrip (out : CtrlOut) : out.decoded = .done out ↔ out.Survives := by
  cases out with
  | slice out =>
    rw [decoded_slice, Access.done_inj]
    constructor
    · intro h
      injection h with h
      rw [CtrlOut.Survives, ← h]
    · intro h
      obtain ⟨ans, diagnostic⟩ := out
      obtain rfl : ans = sliceCtrlOutOk := h
      rfl
  | pdcp ans =>
    obtain ⟨bs, henc, hdec⟩ := decAnsPlain_enc ans "len == sizeof( pdcp_ctrl_out_t )"
    refine iff_of_true ?_ trivial
    rw [CtrlOut.decoded, CtrlOut.enc, Access.bind_of_done henc]
    exact Access.bind_of_done hdec
  | tc ans =>
    obtain ⟨bs, henc, hdec⟩ := decAnsPlain_enc ans "len == sizeof(tc_ctrl_out_e)"
    refine iff_of_true ?_ trivial
    rw [CtrlOut.decoded, CtrlOut.enc, Access.bind_of_done henc]
    exact Access.bind_of_done hdec

/-- An error without a diagnostic is read as a success. -/
theorem error_read_as_ok :
    (CtrlOut.slice ⟨sliceCtrlOutError, ⟨[], by decide⟩⟩).decoded =
        .done (.slice ⟨sliceCtrlOutOk, ⟨[], by decide⟩⟩) ∧
      (CtrlOut.slice ⟨sliceCtrlOutError, ⟨[], by decide⟩⟩).decoded ≠
        .done (.slice ⟨sliceCtrlOutError, ⟨[], by decide⟩⟩) := by
  decide

end CtrlOutcomes

end FlexRic
