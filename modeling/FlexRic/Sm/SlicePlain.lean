import FlexRic.Sm.SliceTypes

/-!
# FlexRic.Sm.SlicePlain

The plain encoder and decoder of the SLICE service model
(`sm/slice_sm/enc/slice_enc_plain.c`, `sm/slice_sm/dec/slice_dec_plain.c`).

* `Cal`: the sizes that are allocated before anything is written.
* `Enc`: what is written, in the order of the `memcpy` calls.
* `Dec`: what is read.  A string is copied into a block with one octet more than
  its length, computed in a `uint32_t`.
-/

namespace FlexRic

namespace Slice

open Plain

/-! ## Sizes -/

namespace Cal

def calStatic (_ : StaticSlice) : Nat := u32.size + u32.size

def calNvs : NvsSlice → Nat
  | .rate _ => u32.size + u32.size + u32.size
  | .capacity _ => u32.size + u32.size

def calScn19 : Scn19Slice → Nat
  | .dynamic _ => u32.size + u32.size + u32.size
  | .fixed _ => u32.size + u32.size + u32.size
  | .onDemand _ => u32.size + u32.size + u32.size + u32.size

def calEdf (edf : EdfSlice) : Nat :=
  u32.size + u32.size + u32.size + u32.size + (edf.overs.items.map fun _ => u32.size).sum

def calParams : SliceParams → Access Nat
  | .none => .refused "Unknown slicing type"
  | .sta sta => return u32.size + calStatic sta
  | .nvs nvs => return u32.size + calNvs nvs
  | .scn19 scn => return u32.size + calScn19 scn
  | .edf edf => return u32.size + calEdf edf

def calSlc : List FrSlice → Access Nat
  | [] => return 0
  | slc :: rest => do
    let szPar ← calParams slc.params
    let total ← calSlc rest
    return u32.size + u32.size + slc.label.items.length + u32.size + slc.sched.items.length
      + szPar + total

def calUlDl (slc : UlDlSliceConf) : Access Nat := do
  let szSlice ← calSlc slc.slices.items
  return u32.size + slc.schedName.items.length + u32.size + szSlice

def calSliceConf (slc : SliceConf) : Access Nat := do
  let ul ← calUlDl slc.ul
  let dl ← calUlDl slc.dl
  return ul + dl

def calUeSliceAssoc (_ : UeSliceAssoc) : Nat := u32.size + u32.size + u16.size

def calUeSliceConf (slc : UeSliceConf) : Nat := u32.size + (slc.ues.items.map calUeSliceAssoc).sum

def calIndMsgPayload (indMsg : SliceIndMsg) : Access Nat := do
  let szConf ← calSliceConf indMsg.sliceConf
  return szConf + calUeSliceConf indMsg.ueSliceConf + i64.size

def calDelSlice (del : DelSliceConf) : Nat :=
  u32.size + del.dl.items.length * u32.size + u32.size + del.ul.items.length * u32.size

def calCtrlMsgPayload : SliceCtrlMsg → Access Nat
  | .addModSlice conf => do
    let sz ← calSliceConf conf
    return u32.size + sz
  | .delSlice conf => return u32.size + calDelSlice conf
  | .ueSlice conf => return u32.size + calUeSliceConf conf

end Cal

/-! ## Encoder -/

namespace Enc

def fillStatic (sta : StaticSlice) : Writer := do
  room "it < end"
  u32.write sta.posHigh
  u32.write sta.posLow

def fillRate (nvs : NvsRate) : Writer := do
  u32.write nvs.mbpsReference
  u32.write nvs.mbpsRequired

def fillCapacity (pctReserved : FloatBits) : Writer := u32.write pctReserved

def fillNvs (nvs : NvsSlice) : Writer := do
  u32.write nvs.conf
  match nvs with
  | .rate nvs => fillRate nvs
  | .capacity pctReserved => fillCapacity pctReserved

def fillOnDemand (scn : Scn19OnDemand) : Writer := do
  u32.write scn.logDelta
  u32.write scn.pctReserved
  u32.write scn.tau

def fillScn19 (scn : Scn19Slice) : Writer := do
  u32.write scn.conf
  match scn with
  | .dynamic nvs => fillRate nvs
  | .fixed sta => fillStatic sta
  | .onDemand scn => fillOnDemand scn

def fillEdf (edf : EdfSlice) : Writer := do
  u32.write edf.deadline
  u32.write edf.guaranteedPrbs
  u32.write edf.maxReplenish
  u32.write edf.overs.len
  forEach u32.write edf.overs.items

def fillParams (par : SliceParams) : Writer := do
  u32.write par.type
  match par with
  | .none => Pass.refuse "Unknown parameter type"
  | .sta sta => fillStatic sta
  | .nvs nvs => fillNvs nvs
  | .scn19 scn => fillScn19 scn
  | .edf edf => fillEdf edf

def fillSlice (slc : FrSlice) : Writer := do
  room "it < end"
  u32.write slc.id
  u32.write slc.label.len
  put slc.label.items
  u32.write slc.sched.len
  put slc.sched.items
  fillParams slc.params

def fillUlDlSliceConf (conf : UlDlSliceConf) : Writer := do
  u32.write conf.schedName.len
  put conf.schedName.items
  u32.write conf.slices.len
  forEach fillSlice conf.slices.items

def fillSliceConf (conf : SliceConf) : Writer := do
  fillUlDlSliceConf conf.dl
  fillUlDlSliceConf conf.ul

def fillUeSliceAssoc (assoc : UeSliceAssoc) : Writer := do
  room "it < end"
  u32.write assoc.dlId
  u32.write assoc.ulId
  u16.write assoc.rnti

def fillUeSliceConf (slc : UeSliceConf) : Writer := do
  u32.write slc.ues.len
  forEach fillUeSliceAssoc slc.ues.items

/-- `slice_enc_ind_msg_plain`. -/
def sliceEncIndMsgPlain (indMsg : SliceIndMsg) : Access (List Octet) := do
  let sz ← Cal.calIndMsgPayload indMsg
  fill "Mismatch of data layout" sz do
    fillSliceConf indMsg.sliceConf
    fillUeSliceConf indMsg.ueSliceConf
    i64.write indMsg.tstamp

def fillDelSliceConf (conf : DelSliceConf) : Writer := do
  u32.write conf.dl.len
  forEach u32.write conf.dl.items
  u32.write conf.ul.len
  forEach u32.write conf.ul.items

def fillSliceCtrlMsg (msg : SliceCtrlMsg) : Writer := do
  u32.write msg.type
  match msg with
  | .addModSlice conf => fillSliceConf conf
  | .delSlice conf => fillDelSliceConf conf
  | .ueSlice conf => fillUeSliceConf conf

/-- `slice_enc_ctrl_msg_plain`. -/
def sliceEncCtrlMsgPlain (ctrlMsg : SliceCtrlMsg) : Access (List Octet) := do
  let sz ← Cal.calCtrlMsgPayload ctrlMsg
  fill "Mismatch of data layout" sz (fillSliceCtrlMsg ctrlMsg)

end Enc

/-! ## Decoder -/

namespace Dec

def fillStatic : Reader StaticSlice := do
  let posHigh ← u32.read
  let posLow ← u32.read
  return { posLow, posHigh }

def fillRate : Reader NvsRate := do
  let mbpsReference ← u32.read
  let mbpsRequired ← u32.read
  return { mbpsRequired, mbpsReference }

def fillCapacity : Reader FloatBits := u32.read

def fillNvs : Reader NvsSlice := do
  let conf ← u32.read
  if conf = 0 then
    let nvs ← fillRate
    return .rate nvs
  else if conf = 1 then
    let pctReserved ← fillCapacity
    return .capacity pctReserved
  else
    Pass.refuse "Unknown type"

def fillOnDemand : Reader Scn19OnDemand := do
  let logDelta ← u32.read
  let pctReserved ← u32.read
  let tau ← u32.read
  return { pctReserved, logDelta, tau }

def fillScn19 : Reader Scn19Slice := do
  let conf ← u32.read
  if conf = 0 then
    let nvs ← fillRate
    return .dynamic nvs
  else if conf = 1 then
    let sta ← fillStatic
    return .fixed sta
  else if conf = 2 then
    let scn ← fillOnDemand
    return .onDemand scn
  else
    Pass.refuse "Unknown configuration"

def fillEdf : Reader EdfSlice := do
  let deadline ← u32.read
  let guaranteedPrbs ← u32.read
  let maxReplenish ← u32.read
  let lenOver ← u32.read
  let overs ← Arr.read u32.read lenOver
  return { deadline, guaranteedPrbs, maxReplenish, overs }

def fillParams : Reader SliceParams := do
  let type ← u32.read
  if type = 1 then
    let sta ← fillStatic
    return .sta sta
  else if type = 2 then
    let nvs ← fillNvs
    return .nvs nvs
  else if type = 3 then
    let scn ← fillScn19
    return .scn19 scn
  else if type = 4 then
    let edf ← fillEdf
    return .edf edf
  else
    Pass.refuse "Unknown parameter type"

/-- `calloc(1, len + 1)` and `memcpy` of `len` octets, where `len > 0`. -/
def fillString (len : UInt32) : Reader (Arr Octet) :=
  if len > 0 then Arr.copy (len + 1).toNat len else Arr.copy 0 len

def fillSlice : Reader FrSlice := do
  let id ← u32.read
  let lenLabel ← u32.read
  let label ← fillString lenLabel
  let lenSched ← u32.read
  let sched ← fillString lenSched
  let params ← fillParams
  return { id, label, sched, params }

def fillUlDlSliceConf : Reader UlDlSliceConf := do
  let lenSchedName ← u32.read
  let schedName ← fillString lenSchedName
  let lenSlices ← u32.read
  let slices ← Arr.read fillSlice lenSlices
  return { slices, schedName }

def fillSliceConf : Reader SliceConf := do
  let dl ← fillUlDlSliceConf
  let ul ← fillUlDlSliceConf
  return { dl, ul }

def fillUeSliceAssoc : Reader UeSliceAssoc := do
  let dlId ← u32.read
  let ulId ← u32.read
  let rnti ← u16.read
  return { dlId, ulId, rnti }

def fillUeSliceConf : Reader UeSliceConf := do
  let lenUeSlice ← u32.read
  let ues ← Arr.read fillUeSliceAssoc lenUeSlice
  return { ues }

def indMsg : Reader SliceIndMsg := do
  let sliceConf ← fillSliceConf
  let ueSliceConf ← fillUeSliceConf
  let tstamp ← i64.read
  return { sliceConf, ueSliceConf, tstamp }

/-- `slice_dec_ind_msg_plain`. -/
def sliceDecIndMsgPlain (bs : List Octet) : Access SliceIndMsg :=
  whole "Data layout mismacth" indMsg bs

def fillDelSlice : Reader DelSliceConf := do
  let lenDl ← u32.read
  let dl ← Arr.read u32.read lenDl
  let lenUl ← u32.read
  let ul ← Arr.read u32.read lenUl
  return { dl, ul }

def ctrlMsg : Reader SliceCtrlMsg := do
  let type ← u32.read
  if type = 0 then
    let conf ← fillSliceConf
    return .addModSlice conf
  else if type = 1 then
    let conf ← fillDelSlice
    return .delSlice conf
  else if type = 2 then
    let conf ← fillUeSliceConf
    return .ueSlice conf
  else
    Pass.refuse "Unknonw type"

/-- `slice_dec_ctrl_msg_plain`. -/
def sliceDecCtrlMsgPlain (bs : List Octet) : Access SliceCtrlMsg :=
  whole "Data layout mismatch" ctrlMsg bs

end Dec

end Slice

end FlexRic
