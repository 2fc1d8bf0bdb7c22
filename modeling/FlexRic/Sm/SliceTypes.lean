import FlexRic.Lib.Plain

/-!
# FlexRic.Sm.SliceTypes

The messages of the SLICE service model (`sm/slice_sm/ie/slice_data_ie.h`).

A pointer with its length is an array, a union under an enumerator is a sum, and
a `float` is its bits.  An array without elements is `NULL`, as the decoder leaves
it: nothing here stands for a block of no bytes.
-/

namespace FlexRic

namespace Slice

open Plain

/-! ## Algorithms -/

/-- `static_slice_t`. -/
structure StaticSlice where
  posLow : UInt32
  posHigh : UInt32
  deriving DecidableEq

/-- `nvs_rate_t`. -/
structure NvsRate where
  mbpsRequired : FloatBits
  mbpsReference : FloatBits
  deriving DecidableEq

/-- `nvs_slice_t`. -/
inductive NvsSlice where
  | rate (nvs : NvsRate)
  | capacity (pctReserved : FloatBits)
  deriving DecidableEq

/-- `nvs_slice_conf_e`. -/
def NvsSlice.conf : NvsSlice → UInt32
  | rate _ => 0
  | capacity _ => 1

/-- `scn19_on_demand_t`. -/
structure Scn19OnDemand where
  pctReserved : FloatBits
  logDelta : FloatBits
  tau : UInt32
  deriving DecidableEq

/-- `scn19_slice_t`. -/
inductive Scn19Slice where
  | dynamic (nvs : NvsRate)
  | fixed (sta : StaticSlice)
  | onDemand (scn : Scn19OnDemand)
  deriving DecidableEq

/-- `scn19_slice_conf_e`. -/
def Scn19Slice.conf : Scn19Slice → UInt32
  | dynamic _ => 0
  | fixed _ => 1
  | onDemand _ => 2

/-- `edf_slice_t`. -/
structure EdfSlice where
  deadline : UInt32
  guaranteedPrbs : UInt32
  maxReplenish : UInt32
  /-- `over`. -/
  overs : Arr UInt32
  deriving DecidableEq

/-- `slice_params_t`; the union has no member for `SLICE_ALG_SM_V0_NONE`. -/
inductive SliceParams where
  | none
  | sta (sta : StaticSlice)
  | nvs (nvs : NvsSlice)
  | scn19 (scn : Scn19Slice)
  | edf (edf : EdfSlice)
  deriving DecidableEq

/-- `slice_algorithm_e`. -/
def SliceParams.type : SliceParams → UInt32
  | none => 0
  | sta _ => 1
  | nvs _ => 2
  | scn19 _ => 3
  | edf _ => 4

/-! ## Configurations -/

/-- `fr_slice_t`. -/
structure FrSlice where
  id : UInt32
  label : Arr Octet
  sched : Arr Octet
  params : SliceParams
  deriving DecidableEq

/-- What `sched_name` points to: the characters of the name, or `NULL`. -/
def block (name : Arr Octet) : Option (List Octet) :=
  if name.items = [] then none else some name.items

/-- `ul_dl_slice_conf_t`. -/
structure UlDlSliceConf where
  slices : Arr FrSlice
  schedName : Arr Octet
  deriving DecidableEq

/-- `slice_conf_t`. -/
structure SliceConf where
  dl : UlDlSliceConf
  ul : UlDlSliceConf
  deriving DecidableEq

/-- `ue_slice_assoc_t`. -/
structure UeSliceAssoc where
  dlId : UInt32
  ulId : UInt32
  rnti : UInt16
  deriving DecidableEq

/-- `ue_slice_conf_t`. -/
structure UeSliceConf where
  ues : Arr UeSliceAssoc
  deriving DecidableEq

/-- `del_slice_conf_t`. -/
structure DelSliceConf where
  dl : Arr UInt32
  ul : Arr UInt32
  deriving DecidableEq

/-! ## Messages -/

/-- `slice_ind_msg_t`. -/
structure SliceIndMsg where
  sliceConf : SliceConf
  ueSliceConf : UeSliceConf
  tstamp : Int64
  deriving DecidableEq

/-- `slice_ctrl_msg_t`. -/
inductive SliceCtrlMsg where
  | addModSlice (conf : SliceConf)
  | delSlice (conf : DelSliceConf)
  | ueSlice (conf : UeSliceConf)
  deriving DecidableEq

/-- `slice_ctrl_msg_e`. -/
def SliceCtrlMsg.type : SliceCtrlMsg → UInt32
  | addModSlice _ => 0
  | delSlice _ => 1
  | ueSlice _ => 2

end Slice

end FlexRic
