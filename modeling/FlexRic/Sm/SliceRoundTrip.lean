import FlexRic.Sm.SlicePlain

/-!
# FlexRic.Sm.SliceRoundTrip

SLICE messages through the plain encoder and decoder.

For each type, what is written has the size that is computed and is read as the
value: `Codes`, one lemma a level.  What a decoder hands over has strings that
fit (`gives`), so that a longer one cannot come back.
-/

namespace FlexRic

namespace Slice

open Plain

variable {k : Nat}

/-! ## Algorithms -/

theorem StaticSlice.codes (sta : StaticSlice) :
    Codes k (Cal.calStatic sta) (Enc.fillStatic sta) Dec.fillStatic sta :=
  have h := (u32.codes sta.posHigh).bind (u32.codes sta.posLow).map
  h.room (Nat.add_pos_left (Nat.succ_pos _) k)

theorem NvsRate.codes (nvs : NvsRate) :
    Codes k (u32.size + u32.size) (Enc.fillRate nvs) Dec.fillRate nvs :=
  (u32.codes _).bind (u32.codes _).map

theorem NvsSlice.codes (nvs : NvsSlice) :
    Codes k (Cal.calNvs nvs) (Enc.fillNvs nvs) Dec.fillNvs nvs := by
  cases nvs with
  | rate nvs => exact .of_eq ((u32.codes _).bind nvs.codes.map) rfl
  | capacity pctReserved => exact (u32.codes _).bind (u32.codes pctReserved).map

theorem Scn19OnDemand.codes (scn : Scn19OnDemand) :
    Codes k (u32.size + (u32.size + u32.size)) (Enc.fillOnDemand scn) Dec.fillOnDemand scn :=
  (u32.codes _).bind ((u32.codes _).bind (u32.codes _).map)

theorem Scn19Slice.codes (scn : Scn19Slice) :
    Codes k (Cal.calScn19 scn) (Enc.fillScn19 scn) Dec.fillScn19 scn := by
  cases scn with
  | dynamic nvs => exact .of_eq ((u32.codes _).bind nvs.codes.map) rfl
  | fixed sta => exact .of_eq ((u32.codes _).bind sta.codes.map) rfl
  | onDemand scn => exact .of_eq ((u32.codes _).bind scn.codes.map) rfl

theorem EdfSlice.codes (edf : EdfSlice) :
    Codes k (Cal.calEdf edf) (Enc.fillEdf edf) Dec.fillEdf edf :=
  .of_eq ((u32.codes _).bind ((u32.codes _).bind ((u32.codes _).bind ((u32.codes _).bind
    (Arr.codes fun _ _ _ _ => u32.codes _).map))))
    (by simp only [Cal.calEdf, Nat.add_assoc])

/-- Parameters with an algorithm come back; without one, there is no size. -/
theorem SliceParams.codes {par : SliceParams} (h : par ≠ none) :
    ∃ n, Cal.calParams par = .done n ∧ Codes k n (Enc.fillParams par) Dec.fillParams par := by
  cases par with
  | none => exact absurd rfl h
  | sta s => exact ⟨_, rfl, (u32.codes _).bind s.codes.map⟩
  | nvs n => exact ⟨_, rfl, (u32.codes _).bind n.codes.map⟩
  | scn19 s => exact ⟨_, rfl, (u32.codes _).bind s.codes.map⟩
  | edf e => exact ⟨_, rfl, (u32.codes _).bind e.codes.map⟩

/-! ## Strings -/

/-- One octet more than the string has still is a `uint32_t`. -/
def StringFits (xs : Arr Octet) : Prop := xs.items.length < 2 ^ 32 - 1

instance (xs : Arr Octet) : Decidable (StringFits xs) := inferInstanceAs (Decidable (_ < _))

/-- A string comes back where its length and one more still is a `uint32_t`. -/
theorem fillString_codes {xs : Arr Octet} (h : StringFits xs) :
    Codes k xs.items.length (put xs.items) (Dec.fillString xs.len) xs := by
  have hlt : xs.items.length < 2 ^ 32 - 1 := h
  have hlen := xs.toNat_len
  have hsucc : (xs.len + 1).toNat = (xs.len.toNat + 1) % 2 ^ 32 := UInt32.toNat_add xs.len 1
  rw [Dec.fillString]
  split
  · exact Arr.codes_copy xs (by omega)
  · rename_i hzero
    have hle : ¬ 0 < xs.len.toNat := fun hpos => hzero (UInt32.lt_iff_toNat_lt.2 hpos)
    exact Arr.codes_copy xs (by omega)

/-- **A string of `2 ^ 32 - 1` octets is not handed over**: the block for it is empty. -/
theorem fillString_gives (len : UInt32) : Gives (Dec.fillString len) StringFits := by
  rw [Dec.fillString]
  intro s xs s' h
  have hlt := len.toNat_lt
  have hsucc : (len + 1).toNat = (len.toNat + 1) % 2 ^ 32 := UInt32.toNat_add len 1
  split at h
  · obtain ⟨hlen, hle⟩ := Arr.gives_copy _ _ s xs s' h
    rw [StringFits, hlen]
    omega
  · obtain ⟨hlen, hle⟩ := Arr.gives_copy _ _ s xs s' h
    rw [StringFits, hlen]
    omega

/-! ## Slices -/

namespace FrSlice

/-- One of the algorithms the union has a member for. -/
def WellFormed (slc : FrSlice) : Prop := slc.params ≠ .none

def StringsFit (slc : FrSlice) : Prop := StringFits slc.label ∧ StringFits slc.sched

/-- No slice that is decoded has a longer string. -/
theorem gives : Gives Dec.fillSlice StringsFit :=
  .skip fun _ => .skip fun len => (fillString_gives len).bind fun _ hlabel =>
    .skip fun len => (fillString_gives len).bind fun _ hsched =>
      .skip fun _ => gives_pure ⟨hlabel, hsched⟩

end FrSlice

/-- **The slices of an array**, one behind the other. -/
theorem slices_codes {xs : List FrSlice} (h : ∀ slc ∈ xs, slc.WellFormed ∧ slc.StringsFit)
    {m : Nat} (hm : xs.length = m) :
    ∃ n, Cal.calSlc xs = .done n ∧
      Codes k n (forEach Enc.fillSlice xs) (times Dec.fillSlice m) ⟨xs, hm⟩ := by
  subst hm
  induction xs with
  | nil => exact ⟨0, rfl, codes_pure _⟩
  | cons slc xs ih =>
    obtain ⟨hwf, hlabel, hsched⟩ := h slc List.mem_cons_self
    obtain ⟨total, htotal, hxs⟩ := ih fun slc hslc => h slc (List.mem_cons_of_mem _ hslc)
    obtain ⟨szPar, hszPar, hpar⟩ := SliceParams.codes (k := total + k) hwf
    have hfields : Codes _ _ _ Dec.fillSlice slc :=
      (u32.codes slc.id).bind ((u32.codes slc.label.len).bind ((fillString_codes hlabel).bind
        ((u32.codes slc.sched.len).bind ((fillString_codes hsched).bind hpar.map))))
    have hslc : Codes _ _ (Enc.fillSlice slc) _ _ :=
      hfields.room (Nat.add_pos_left (Nat.add_pos_left (by decide) _) _)
    refine ⟨_, ?_, hslc.bind hxs.map⟩
    rw [Cal.calSlc, Access.bind_of_done hszPar, Access.bind_of_done htotal]
    simp only [Access.pure_eq, Nat.add_assoc]

/-! ## Configurations -/

namespace UlDlSliceConf

def WellFormed (conf : UlDlSliceConf) : Prop := ∀ slc ∈ conf.slices.items, slc.WellFormed

def StringsFit (conf : UlDlSliceConf) : Prop :=
  StringFits conf.schedName ∧ ∀ slc ∈ conf.slices.items, slc.StringsFit

/-- **One direction** comes back with its slices. -/
theorem codes {conf : UlDlSliceConf} (h : conf.WellFormed) (hstr : conf.StringsFit) :
    ∃ n, Cal.calUlDl conf = .done n ∧
      Codes k n (Enc.fillUlDlSliceConf conf) Dec.fillUlDlSliceConf conf := by
  obtain ⟨hname, hslices⟩ := hstr
  obtain ⟨n, hn, hxs⟩ := slices_codes (k := k) (fun slc hslc => ⟨h slc hslc, hslices slc hslc⟩)
    conf.slices.toNat_len.symm
  have harr : Codes k n _ (Arr.read Dec.fillSlice conf.slices.len) conf.slices := hxs.map
  refine ⟨_, ?_, (u32.codes _).bind ((fillString_codes hname).bind ((u32.codes _).bind harr.map))⟩
  rw [Cal.calUlDl, Access.bind_of_done hn]
  simp only [Access.pure_eq, Nat.add_assoc]

/-- No direction that is decoded has a longer string. -/
theorem gives : Gives Dec.fillUlDlSliceConf StringsFit :=
  .skip fun len => (fillString_gives len).bind fun _ hname =>
    .skip fun n => (Arr.gives_read FrSlice.gives n).bind fun _ hslices =>
      gives_pure ⟨hname, hslices⟩

end UlDlSliceConf

namespace SliceConf

def WellFormed (conf : SliceConf) : Prop := conf.dl.WellFormed ∧ conf.ul.WellFormed

def StringsFit (conf : SliceConf) : Prop := conf.dl.StringsFit ∧ conf.ul.StringsFit

/-- **Both directions** come back. -/
theorem codes {conf : SliceConf} (h : conf.WellFormed) (hstr : conf.StringsFit) :
    ∃ n, Cal.calSliceConf conf = .done n ∧
      Codes k n (Enc.fillSliceConf conf) Dec.fillSliceConf conf := by
  obtain ⟨ul, hul, hulc⟩ := UlDlSliceConf.codes (k := k) h.2 hstr.2
  obtain ⟨dl, hdl, hdlc⟩ := UlDlSliceConf.codes (k := ul + k) h.1 hstr.1
  refine ⟨_, ?_, hdlc.bind hulc.map⟩
  rw [Cal.calSliceConf, Access.bind_of_done hul, Access.bind_of_done hdl, Nat.add_comm]
  rfl

theorem gives : Gives Dec.fillSliceConf StringsFit :=
  UlDlSliceConf.gives.bind fun _ hdl => UlDlSliceConf.gives.bind fun _ hul => gives_pure ⟨hdl, hul⟩

end SliceConf

theorem UeSliceAssoc.codes (assoc : UeSliceAssoc) :
    Codes k (Cal.calUeSliceAssoc assoc) (Enc.fillUeSliceAssoc assoc) Dec.fillUeSliceAssoc assoc :=
  have h : Codes k _ _ Dec.fillUeSliceAssoc assoc :=
    (u32.codes assoc.dlId).bind ((u32.codes assoc.ulId).bind (u16.codes assoc.rnti).map)
  h.room (Nat.add_pos_left (Nat.succ_pos _) k)

theorem UeSliceConf.codes (conf : UeSliceConf) :
    Codes k (Cal.calUeSliceConf conf) (Enc.fillUeSliceConf conf) Dec.fillUeSliceConf conf :=
  .of_eq ((u32.codes _).bind (Arr.codes fun assoc _ _ _ => assoc.codes).map) rfl

theorem DelSliceConf.codes (conf : DelSliceConf) :
    Codes k (Cal.calDelSlice conf) (Enc.fillDelSliceConf conf) Dec.fillDelSlice conf :=
  .of_eq ((u32.codes _).bind ((Arr.codes_scalar u32 _).bind ((u32.codes _).bind
    (Arr.codes_scalar u32 _).map))) (by simp only [Cal.calDelSlice, Nat.add_assoc])

/-! ## Messages -/

namespace SliceIndMsg

/-- Each slice has one of the algorithms the union has a member for. -/
def WellFormed (msg : SliceIndMsg) : Prop := msg.sliceConf.WellFormed

def StringsFit (msg : SliceIndMsg) : Prop := msg.sliceConf.StringsFit

/-- As many octets are written as were computed, and what is read is the message. -/
def ComesBack (msg : SliceIndMsg) : Prop :=
  ∃ bs, Enc.sliceEncIndMsgPlain msg = .done bs ∧ Cal.calIndMsgPayload msg = .done bs.length ∧
    Dec.sliceDecIndMsgPlain bs = .done msg

theorem gives : Gives Dec.indMsg StringsFit :=
  SliceConf.gives.bind fun _ hconf => .skip fun _ => .skip fun _ => gives_pure hconf

/-- **An indication comes back** where its strings fit their blocks. -/
theorem comesBack_iff {msg : SliceIndMsg} (h : msg.WellFormed) :
    msg.ComesBack ↔ msg.StringsFit := by
  constructor
  · rintro ⟨bs, -, -, hdec⟩
    exact gives.whole hdec
  · intro hstr
    obtain ⟨n, hn, hconf⟩ := SliceConf.codes h hstr
    have hmsg : Codes 0 _ _ Dec.indMsg msg :=
      hconf.bind (msg.ueSliceConf.codes.bind (i64.codes msg.tstamp).map)
    obtain ⟨bs, hfill, hlen, hdec⟩ := hmsg.whole "Mismatch of data layout" "Data layout mismacth"
    have hcal : Cal.calIndMsgPayload msg = .done bs.length := by
      rw [Cal.calIndMsgPayload, Access.bind_of_done hn, hlen, Nat.add_assoc]
      rfl
    refine ⟨bs, ?_, hcal, hdec⟩
    rw [Enc.sliceEncIndMsgPlain, Access.bind_of_done hcal, hlen]
    exact hfill

end SliceIndMsg

namespace SliceCtrlMsg

def WellFormed : SliceCtrlMsg → Prop
  | addModSlice conf => conf.WellFormed
  | delSlice _ => True
  | ueSlice _ => True

def StringsFit : SliceCtrlMsg → Prop
  | addModSlice conf => conf.StringsFit
  | delSlice _ => True
  | ueSlice _ => True

/-- As many octets are written as were computed, and what is read is the message. -/
def ComesBack (msg : SliceCtrlMsg) : Prop :=
  ∃ bs, Enc.sliceEncCtrlMsgPlain msg = .done bs ∧ Cal.calCtrlMsgPayload msg = .done bs.length ∧
    Dec.sliceDecCtrlMsgPlain bs = .done msg

/-- **A control message** comes back, whatever it adds, deletes or associates. -/
theorem codes {msg : SliceCtrlMsg} (h : msg.WellFormed) (hstr : msg.StringsFit) :
    ∃ n, Cal.calCtrlMsgPayload msg = .done n ∧
      Codes k n (Enc.fillSliceCtrlMsg msg) Dec.ctrlMsg msg := by
  cases msg with
  | addModSlice conf =>
    obtain ⟨n, hn, hconf⟩ := SliceConf.codes (k := k) h hstr
    refine ⟨u32.size + n, ?_, (u32.codes _).bind hconf.map⟩
    rw [Cal.calCtrlMsgPayload, Access.bind_of_done hn]
    rfl
  | delSlice conf => exact ⟨_, rfl, (u32.codes _).bind conf.codes.map⟩
  | ueSlice conf => exact ⟨_, rfl, (u32.codes _).bind conf.codes.map⟩

theorem gives : Gives Dec.ctrlMsg StringsFit := by
  refine .skip fun type => ?_
  split
  · exact SliceConf.gives.bind fun _ hconf => gives_pure hconf
  · split
    · exact .skip fun _ => gives_pure trivial
    · split
      · exact .skip fun _ => gives_pure trivial
      · exact gives_refuse _

/-- **A control message comes back** where its strings fit their blocks. -/
theorem comesBack_iff {msg : SliceCtrlMsg} (h : msg.WellFormed) :
    msg.ComesBack ↔ msg.StringsFit := by
  constructor
  · rintro ⟨bs, -, -, hdec⟩
    exact gives.whole hdec
  · intro hstr
    obtain ⟨n, hn, hmsg⟩ := codes h hstr
    obtain ⟨bs, hfill, rfl, hdec⟩ := hmsg.whole "Mismatch of data layout" "Data layout mismatch"
    refine ⟨bs, ?_, hn, hdec⟩
    rw [Enc.sliceEncCtrlMsgPlain, Access.bind_of_done hn]
    exact hfill

end SliceCtrlMsg

/-- **SLICE messages come back**, of any number of slices, overlaps, UEs and ids, when and only
when no string is as long as a `uint32_t` can say. -/
theorem slice_roundTrip (ind : SliceIndMsg) (ctrl : SliceCtrlMsg) (hind : ind.WellFormed)
    (hctrl : ctrl.WellFormed) :
    (ind.ComesBack ↔ ind.StringsFit) ∧ (ctrl.ComesBack ↔ ctrl.StringsFit) :=
  ⟨SliceIndMsg.comesBack_iff hind, SliceCtrlMsg.comesBack_iff hctrl⟩

/-- Downlink and uplink without slices. -/
def emptyConf (schedName : Arr Octet) : SliceConf :=
  ⟨⟨⟨[], Arr.bound_nil⟩, schedName⟩, ⟨⟨[], Arr.bound_nil⟩, ⟨[], Arr.bound_nil⟩⟩⟩

def emptyIndMsg (schedName : Arr Octet) : SliceIndMsg :=
  ⟨emptyConf schedName, ⟨⟨[], Arr.bound_nil⟩⟩, 0⟩

theorem emptyConf_wellFormed (schedName : Arr Octet) : (emptyConf schedName).WellFormed :=
  ⟨fun _ h => absurd h List.not_mem_nil, fun _ h => absurd h List.not_mem_nil⟩

/-- The longest name. -/
def longName : Arr Octet :=
  ⟨List.replicate (2 ^ 32 - 1) 0, by rw [List.length_replicate]; decide⟩

/-- A slice with each of the algorithms, the last with two overlaps. -/
def fourSlices : List FrSlice :=
  [⟨0, ⟨[115, 48], by decide⟩, ⟨[82, 82], by decide⟩, .sta ⟨0, 10⟩⟩,
    ⟨2, ⟨[115, 50], by decide⟩, ⟨[], Arr.bound_nil⟩, .nvs (.rate ⟨0x41200000, 0x42c80000⟩)⟩,
    ⟨5, ⟨[115, 53], by decide⟩, ⟨[80, 70], by decide⟩, .scn19 (.onDemand ⟨0x3f000000, 0, 7⟩)⟩,
    ⟨8, ⟨[], Arr.bound_nil⟩, ⟨[80, 70], by decide⟩, .edf ⟨20, 5, 1, ⟨[2, 5], by decide⟩⟩⟩]

/-- A message with slices of all kinds on both links, and two UEs. -/
def slicesIndMsg : SliceIndMsg :=
  ⟨⟨⟨⟨fourSlices, by decide⟩, ⟨[78, 86, 83], by decide⟩⟩,
      ⟨⟨fourSlices.reverse, by decide⟩, ⟨[], Arr.bound_nil⟩⟩⟩,
    ⟨⟨[⟨0, 2, 0x1234⟩, ⟨8, 5, 0xffff⟩], by decide⟩⟩, 42⟩

/-- The message comes back, and so does the request to delete its slices. -/
theorem slice_roundTrip_slices :
    slicesIndMsg.ComesBack ∧
      (SliceCtrlMsg.delSlice ⟨⟨[0, 2, 5], by decide⟩, ⟨[8], by decide⟩⟩).ComesBack := by
  have hslices : ∀ slc ∈ fourSlices, slc.WellFormed ∧ slc.StringsFit := by
    unfold FrSlice.WellFormed FrSlice.StringsFit
    decide
  have hmem {slc : FrSlice} (h : slc ∈ fourSlices.reverse) : slc ∈ fourSlices := List.mem_reverse.mp h
  have hind : slicesIndMsg.WellFormed :=
    ⟨fun slc h => (hslices slc h).1, fun slc h => (hslices slc (hmem h)).1⟩
  obtain ⟨hcomes, hcomes'⟩ := slice_roundTrip slicesIndMsg
    (.delSlice ⟨⟨[0, 2, 5], by decide⟩, ⟨[8], by decide⟩⟩) hind trivial
  refine ⟨hcomes.mpr ⟨⟨?_, fun slc h => (hslices slc h).2⟩, ?_, fun slc h => (hslices slc (hmem h)).2⟩,
    hcomes'.mpr trivial⟩
  all_goals decide

/-- A scheduler whose name is the longest there is does not come back. -/
theorem slice_not_roundTrip :
    (emptyIndMsg longName).WellFormed ∧ ¬ (emptyIndMsg longName).ComesBack := by
  refine ⟨emptyConf_wellFormed _, fun h => ?_⟩
  have hwf : (emptyIndMsg longName).WellFormed := emptyConf_wellFormed _
  obtain ⟨⟨hname, -⟩, -⟩ := (SliceIndMsg.comesBack_iff hwf).1 h
  have hlt : longName.items.length < 2 ^ 32 - 1 := hname
  rw [longName, List.length_replicate] at hlt
  exact Nat.lt_irrefl _ hlt

end Slice

end FlexRic
