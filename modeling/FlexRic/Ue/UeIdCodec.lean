import FlexRic.Codec.SetupDec
import FlexRic.Ue.Conversions

/-!
# FlexRic.Ue.UeIdCodec

The encoders and decoders of UE identities (`lib/3gpp/enc`, `lib/3gpp/dec`,
`lib/sm/enc/enc_ue_id.c`, `lib/sm/dec/dec_ue_id.c`).

`encGnbUeAsn` and `encNgEnbUeAsn` write the AMF UE NGAP id in two ways: as the
shortest number in two's complement, and as the first five octets in memory.
-/

namespace FlexRic

namespace Ue

/-- `maxF1APid`. -/
def maxF1apId : Nat := 4

/-- `maxE1APid`. -/
def maxE1apId : Nat := 65535

/-- `max_val_ENB_UE_X2AP_ID`. -/
def maxValEnbUeX2apId : Nat := 4095

/-! ## AMF UE NGAP ids -/

/-- `asn_imax2INTEGER_static`: from the high octet on, those that only repeat
the sign are left out. -/
def asnImax2Integer (value : UInt64) : Bytes :=
  Octets.shrink (Octets.split 8 value.toNat).reverse

/-- `asn_INTEGER2umax_static`; `none` is `ERANGE`. -/
def asnInteger2Umax (buf : Bytes) : Option UInt64 :=
  let extra := buf.length - 8
  if (buf.take extra).any (· ≠ 0) then none
  else some ((buf.drop extra).foldl (fun (value : UInt64) b => value <<< 8 ||| b.toUInt64) 0)

/-- The AMF UE NGAP id of a gNB. -/
def encGnbAmfUeNgapId (v : UInt64) : Outcome Bytes := do
  Outcome.assert (v.toNat < 2 ^ 40) "gnb->amf_ue_ngap_id < 1UL << 40"
  return asnImax2Integer v

/-- The result of the conversion is not looked at; the id is 0 where it fails. -/
def decGnbAmfUeNgapId (buf : Bytes) : Outcome UInt64 := do
  Outcome.assert (buf.length < 6) "gnb_asn->amf_UE_NGAP_ID.size < 6"
  let v := (asnInteger2Umax buf).getD 0
  Outcome.assert (v.toNat < 2 ^ 40) "gnb.amf_ue_ngap_id < (1UL << 40)"
  return v

/-- The AMF UE NGAP id of an ng-eNB: `memcpy` of five octets. -/
def encNgEnbAmfUeNgapId (v : UInt64) : Outcome Bytes :=
  return Octets.split 5 v.toNat

def decNgEnbAmfUeNgapId (buf : Bytes) : Outcome UInt64 := do
  let v := Octets.combine (buf.take 5)
  Outcome.assert (v < 2 ^ 40) "ng_enb.amf_ue_ngap_id < (1UL << 40)"
  return v.toUInt64

/-! ## Other ids -/

/-- A `uint32_t` in an `unsigned long`: `memcpy` of four octets. -/
def encId32 (v : UInt32) : Outcome UInt64 := return v.toUInt64

def decId32 (v : UInt64) : Outcome UInt32 := return v.toUInt32

/-- A list of F1AP or E1AP ids. -/
def encIdLst (max : Nat) (ids : List UInt32) : Outcome (List UInt64) := do
  Outcome.assert (1 ≤ ids.length ∧ ids.length ≤ max) "len >= 1 && len <= max"
  Outcome.walk encId32 ids

def decIdLst (max : Nat) (ids : List UInt64) : Outcome (List UInt32) := do
  Outcome.assert (1 ≤ ids.length ∧ ids.length ≤ max) "list.count >= 1 && list.count <= max"
  Outcome.walk decId32 ids

/-- `ran_ue_id`. -/
def encRanUeId (v : UInt64) : Outcome Bytes := return Octets.split 8 v.toNat

def decRanUeId (buf : Bytes) : Outcome UInt64 := do
  Outcome.assert (buf.length = 8) "ran_UEID->size == 8"
  return (Octets.combine buf).toUInt64

/-- `enb_ue_x2ap_id` and its extension. -/
def encX2apId (v : UInt16) : Outcome Int := do
  let id : Int := v.toNat
  Outcome.assert (id < maxValEnbUeX2apId + 1) "m_eNB_UE_X2AP_ID < max_val_ENB_UE_X2AP_ID + 1"
  return id

def decX2apId (id : Int) : Outcome UInt16 := do
  let v := longToU16 id
  Outcome.assert (v.toNat < maxValEnbUeX2apId + 1) "enb_ue_x2ap_id < max_val_ENB_UE_X2AP_ID + 1"
  return v

/-! ## Global ids of nodes -/

/-- `enc_global_gnb_id_asn`. -/
def encGlobalGnbIdAsn (id : GlobalGnbId) : Outcome GlobalGnbIdAsn := do
  let gnbId ← cpGnbIdToBitString id.gnbId
  return ⟨mccMncToPlmnid id.plmnId, .gnbId gnbId⟩

/-- `dec_global_gnb_id_asn`. -/
def decGlobalGnbIdAsn (src : GlobalGnbIdAsn) : Outcome GlobalGnbId :=
  match src.gnbId with
  | .gnbId b => do
    let gnbId ← cpBitStringToGnbId b
    return ⟨plmnidToMccMnc src.plmnIdentity, gnbId⟩
  | .nothing => .abort "Unknown gNB Type"

/-- The switch of `enc_global_enb_id_asn`. -/
def encEnbId : EnbIdE2sm → Outcome EnbIdAsn
  | .macroEnbId v => do
    let b ← cpMacroEnbIdToBitString v
    return .macroEnbId b
  | .homeEnbId v => do
    let b ← cpHomeEnbIdToBitString v
    return .homeEnbId b
  | .shortMacroEnbId v => do
    let b ← cpShortMacroEnbIdToBitString v
    return .shortMacroEnbId b
  | .longMacroEnbId v => do
    let b ← cpLongMacroEnbIdToBitString v
    return .longMacroEnbId b

/-- `enc_global_enb_id_asn`. -/
def encGlobalEnbIdAsn (id : GlobalEnbId) : Outcome GlobalEnbIdAsn := do
  let enbId ← encEnbId id.enbId
  return ⟨mccMncToPlmnid id.plmnId, enbId⟩

/-- The switch of `dec_global_enb_id_asn`. -/
def decEnbId : EnbIdAsn → Outcome EnbIdE2sm
  | .macroEnbId b => do
    let v ← cpMacroEnbIdToU32 b
    return .macroEnbId v
  | .homeEnbId b => do
    let v ← cpHomeEnbIdToU32 b
    return .homeEnbId v
  | .shortMacroEnbId b => do
    let v ← cpShortMacroEnbIdToU32 b
    return .shortMacroEnbId v
  | .longMacroEnbId b => do
    let v ← cpLongMacroEnbIdToU32 b
    return .longMacroEnbId v
  | .nothing => .abort "Unknown eNB Type"

/-- `dec_global_enb_id_asn`. -/
def decGlobalEnbIdAsn (src : GlobalEnbIdAsn) : Outcome GlobalEnbId := do
  let enbId ← decEnbId src.enbId
  return ⟨plmnidToMccMnc src.plmnIdentity, enbId⟩

/-- The switch of `enc_global_ng_enb_asn`. -/
def encNgEnbId : NgEnbId → Outcome NgEnbIdAsn
  | .macroNgEnbId v => do
    let b ← cpMacroNgEnbIdToBitString v
    return .macroNgEnbId b
  | .shortMacroNgEnbId v => do
    let b ← cpShortMacroNgEnbIdToBitString v
    return .shortMacroNgEnbId b
  | .longMacroNgEnbId v => do
    let b ← cpLongMacroNgEnbIdToBitString v
    return .longMacroNgEnbId b

/-- `enc_global_ng_enb_asn`. -/
def encGlobalNgEnbAsn (id : GlobalNgEnbId) : Outcome GlobalNgEnbIdAsn := do
  let ngEnbId ← encNgEnbId id.ngEnbId
  return ⟨mccMncToPlmnid id.plmnId, ngEnbId⟩

/-- The switch of `dec_global_ng_enb_asn`. -/
def decNgEnbId : NgEnbIdAsn → Outcome NgEnbId
  | .macroNgEnbId b => do
    let v ← cpMacroNgEnbIdToU32 b
    return .macroNgEnbId v
  | .shortMacroNgEnbId b => do
    let v ← cpShortMacroNgEnbIdToU32 b
    return .shortMacroNgEnbId v
  | .longMacroNgEnbId b => do
    let v ← cpLongMacroNgEnbIdToU32 b
    return .longMacroNgEnbId v
  | .nothing => .abort "Unknown NG eNB Type"

/-- `dec_global_ng_enb_asn`. -/
def decGlobalNgEnbAsn (src : GlobalNgEnbIdAsn) : Outcome GlobalNgEnbId := do
  let ngEnbId ← decNgEnbId src.ngEnbId
  return ⟨plmnidToMccMnc src.plmnIdentity, ngEnbId⟩

/-- `enc_global_ng_ran_asn`. -/
def encGlobalNgRanAsn : GlobalNgRanNodeId → Outcome GlobalNgRanNodeIdAsn
  | .gnb id => do
    let id ← encGlobalGnbIdAsn id
    return .gnb id
  | .ngEnb id => do
    let id ← encGlobalNgEnbAsn id
    return .ngEnb id

/-- `dec_global_ng_ran_asn`. -/
def decGlobalNgRanAsn : GlobalNgRanNodeIdAsn → Outcome GlobalNgRanNodeId
  | .gnb id => do
    let id ← decGlobalGnbIdAsn id
    return .gnb id
  | .ngEnb id => do
    let id ← decGlobalNgEnbAsn id
    return .ngEnb id
  | .nothing => .abort "Unknown NG RAN Node Type"

/-! ## GUAMI and GUMMEI -/

/-- The GUAMI of a gNB and of an ng-eNB. -/
def encGuami (src : Guami) : Outcome GuamiAsn := do
  let region ← cpAmfRegionIdToBitString src.amfRegionId
  let set ← cpAmfSetIdToBitString src.amfSetId.toNat.toUInt16
  let ptr ← cpAmfPtrToBitString src.amfPtr.toNat.toUInt8
  return ⟨mccMncToPlmnid src.plmnId, region, set, ptr⟩

def decGuami (src : GuamiAsn) : Outcome Guami := do
  let region ← cpAmfRegionIdToU8 src.amfRegionId
  let set ← cpAmfSetIdToU16 src.amfSetId
  let ptr ← cpAmfPtrToU8 src.amfPointer
  return ⟨plmnidToMccMnc src.plmnIdentity, region, .ofNat 10 set.toNat, .ofNat 6 ptr.toNat⟩

/-- `MME_GID_TO_OCTET_STRING` and `MME_CODE_TO_OCTET_STRING`. -/
def encGummei (src : Gummei) : Outcome GummeiAsn :=
  let group := src.mmeGroupId.toNat
  return ⟨mccMncToPlmnid src.plmnId, [(group >>> 8).toUInt8, group.toUInt8], [src.mmeCode]⟩

/-- `OCTET_STRING_TO_INT16` and `OCTET_STRING_TO_INT8`. -/
def decGummei (src : GummeiAsn) : Outcome Gummei := do
  Outcome.assert (src.mmeGroupId.length = 2 ∨ src.mmeGroupId.length = 3)
    "(aSN)->size == 2 || (aSN)->size == 3"
  Outcome.assert (src.mmeCode.length = 1) "(aSN)->size == 1"
  return ⟨plmnidToMccMnc src.plmnIdentity,
    (octet src.mmeGroupId 0 <<< 8 ||| octet src.mmeGroupId 1).toUInt16,
    (octet src.mmeCode 0).toUInt8⟩

/-! ## The seven kinds -/

/-- `enc_gNB_UE_asn`. -/
def encGnbUeAsn (gnb : Gnb) : Outcome GnbAsn := do
  let amfUeNgapId ← encGnbAmfUeNgapId gnb.amfUeNgapId
  let guami ← encGuami gnb.guami
  let f1ap ← Outcome.opt (encIdLst maxF1apId) gnb.gnbCuUeF1apLst
  let e1ap ← Outcome.opt (encIdLst maxE1apId) gnb.gnbCuCpUeE1apLst
  let ranUeId ← Outcome.opt encRanUeId gnb.ranUeId
  let xnap ← Outcome.opt encId32 gnb.ngRanNodeUeXnapId
  let globalGnbId ← Outcome.opt encGlobalGnbIdAsn gnb.globalGnbId
  let globalNgRan ← Outcome.opt encGlobalNgRanAsn gnb.globalNgRanNodeId
  return ⟨amfUeNgapId, guami, f1ap, e1ap, ranUeId, xnap, globalGnbId, globalNgRan⟩

/-- `dec_gNB_UE_asn`. -/
def decGnbUeAsn (gnb : GnbAsn) : Outcome Gnb := do
  let amfUeNgapId ← decGnbAmfUeNgapId gnb.amfUeNgapId
  let guami ← decGuami gnb.guami
  let f1ap ← Outcome.opt (decIdLst maxF1apId) gnb.gnbCuUeF1apIdList
  let e1ap ← Outcome.opt (decIdLst maxE1apId) gnb.gnbCuCpUeE1apIdList
  let ranUeId ← Outcome.opt decRanUeId gnb.ranUeId
  let xnap ← Outcome.opt decId32 gnb.mNgRanUeXnapId
  let globalGnbId ← Outcome.opt decGlobalGnbIdAsn gnb.globalGnbId
  let globalNgRan ← Outcome.opt decGlobalNgRanAsn gnb.globalNgRanNodeId
  return ⟨amfUeNgapId, guami, f1ap, e1ap, ranUeId, xnap, globalGnbId, globalNgRan⟩

/-- `enc_gNB_DU_UE_asn`. -/
def encGnbDuUeAsn (gnbDu : GnbDu) : Outcome GnbDuAsn := do
  let f1ap ← encId32 gnbDu.gnbCuUeF1ap
  let ranUeId ← Outcome.opt encRanUeId gnbDu.ranUeId
  return ⟨f1ap, ranUeId⟩

/-- `dec_gNB_DU_UE_asn`. -/
def decGnbDuUeAsn (gnbDu : GnbDuAsn) : Outcome GnbDu := do
  let f1ap ← decId32 gnbDu.gnbCuUeF1apId
  let ranUeId ← Outcome.opt decRanUeId gnbDu.ranUeId
  return ⟨f1ap, ranUeId⟩

/-- `enc_gNB_CU_UP_UE_asn`. -/
def encGnbCuUpUeAsn (gnbCuUp : GnbCuUp) : Outcome GnbCuUpAsn := do
  let e1ap ← encId32 gnbCuUp.gnbCuCpUeE1ap
  let ranUeId ← Outcome.opt encRanUeId gnbCuUp.ranUeId
  return ⟨e1ap, ranUeId⟩

/-- `dec_gNB_CU_UP_UE_asn`. -/
def decGnbCuUpUeAsn (gnbCuUp : GnbCuUpAsn) : Outcome GnbCuUp := do
  let e1ap ← decId32 gnbCuUp.gnbCuCpUeE1apId
  let ranUeId ← Outcome.opt decRanUeId gnbCuUp.ranUeId
  return ⟨e1ap, ranUeId⟩

/-- `enc_ng_eNB_UE_asn`. -/
def encNgEnbUeAsn (ngEnb : NgEnb) : Outcome NgEnbAsn := do
  let amfUeNgapId ← encNgEnbAmfUeNgapId ngEnb.amfUeNgapId
  let guami ← encGuami ngEnb.guami
  let w1ap ← Outcome.opt encId32 ngEnb.ngEnbCuUeW1apId
  let xnap ← Outcome.opt encId32 ngEnb.ngRanNodeUeXnapId
  let globalNgEnbId ← Outcome.opt encGlobalNgEnbAsn ngEnb.globalNgEnbId
  let globalNgRan ← Outcome.opt encGlobalNgRanAsn ngEnb.globalNgRanNodeId
  return ⟨amfUeNgapId, guami, w1ap, xnap, globalNgEnbId, globalNgRan⟩

/-- `dec_ng_eNB_UE_asn`. -/
def decNgEnbUeAsn (ngEnb : NgEnbAsn) : Outcome NgEnb := do
  let amfUeNgapId ← decNgEnbAmfUeNgapId ngEnb.amfUeNgapId
  let guami ← decGuami ngEnb.guami
  let w1ap ← Outcome.opt decId32 ngEnb.ngEnbCuUeW1apId
  let xnap ← Outcome.opt decId32 ngEnb.mNgRanUeXnapId
  let globalNgEnbId ← Outcome.opt decGlobalNgEnbAsn ngEnb.globalNgEnbId
  let globalNgRan ← Outcome.opt decGlobalNgRanAsn ngEnb.globalNgRanNodeId
  return ⟨amfUeNgapId, guami, w1ap, xnap, globalNgEnbId, globalNgRan⟩

/-- `enc_ng_eNB_DU_UE_asn`. -/
def encNgEnbDuUeAsn (ngEnbDu : NgEnbDu) : Outcome NgEnbDuAsn := do
  let w1ap ← encId32 ngEnbDu.ngEnbCuUeW1apId
  return ⟨w1ap⟩

/-- `dec_ng_eNB_DU_UE_asn`. -/
def decNgEnbDuUeAsn (ngEnbDu : NgEnbDuAsn) : Outcome NgEnbDu := do
  let w1ap ← decId32 ngEnbDu.ngEnbCuUeW1apId
  return ⟨w1ap⟩

/-- `enc_en_gNB_UE_asn`. -/
def encEnGnbUeAsn (enGnb : EnGnb) : Outcome EnGnbAsn := do
  let x2ap ← encX2apId enGnb.enbUeX2apId
  let extension ← Outcome.opt encX2apId enGnb.enbUeX2apIdExtension
  let globalEnbId ← encGlobalEnbIdAsn enGnb.globalEnbId
  let f1ap ← Outcome.opt encId32 enGnb.gnbCuUeF1apLst
  let e1ap ← Outcome.opt (encIdLst maxE1apId) enGnb.gnbCuCpUeE1apLst
  let ranUeId ← Outcome.opt encRanUeId enGnb.ranUeId
  return ⟨x2ap, extension, globalEnbId, f1ap, e1ap, ranUeId⟩

/-- `dec_en_gNB_UE_asn`. -/
def decEnGnbUeAsn (enGnb : EnGnbAsn) : Outcome EnGnb := do
  let x2ap ← decX2apId enGnb.mEnbUeX2apId
  let extension ← Outcome.opt decX2apId enGnb.mEnbUeX2apIdExtension
  let globalEnbId ← decGlobalEnbIdAsn enGnb.globalEnbId
  let f1ap ← Outcome.opt decId32 enGnb.gnbCuUeF1apId
  let e1ap ← Outcome.opt (decIdLst maxE1apId) enGnb.gnbCuCpUeE1apIdList
  let ranUeId ← Outcome.opt decRanUeId enGnb.ranUeId
  return ⟨x2ap, extension, globalEnbId, f1ap, e1ap, ranUeId⟩

/-- `enc_eNB_UE_asn`. -/
def encEnbUeAsn (enb : Enb) : Outcome EnbAsn := do
  let s1ap ← encId32 enb.mmeUeS1apId
  let gummei ← encGummei enb.gummei
  let x2ap ← Outcome.opt encX2apId enb.enbUeX2apId
  let extension ← Outcome.opt encX2apId enb.enbUeX2apIdExtension
  let globalEnbId ← Outcome.opt encGlobalEnbIdAsn enb.globalEnbId
  return ⟨s1ap, gummei, x2ap, extension, globalEnbId⟩

/-- `dec_eNB_UE_asn`. -/
def decEnbUeAsn (enb : EnbAsn) : Outcome Enb := do
  let s1ap ← decId32 enb.mmeUeS1apId
  let gummei ← decGummei enb.gummei
  let x2ap ← Outcome.opt decX2apId enb.mEnbUeX2apId
  let extension ← Outcome.opt decX2apId enb.mEnbUeX2apIdExtension
  let globalEnbId ← Outcome.opt decGlobalEnbIdAsn enb.globalEnbId
  return ⟨s1ap, gummei, x2ap, extension, globalEnbId⟩

/-- `enc_ue_id_asn`. -/
def encUeIdAsn : UeId → Outcome UeIdAsn
  | .gnb ue => do
    let ue ← encGnbUeAsn ue
    return .gnb ue
  | .gnbDu ue => do
    let ue ← encGnbDuUeAsn ue
    return .gnbDu ue
  | .gnbCuUp ue => do
    let ue ← encGnbCuUpUeAsn ue
    return .gnbCuUp ue
  | .ngEnb ue => do
    let ue ← encNgEnbUeAsn ue
    return .ngEnb ue
  | .ngEnbDu ue => do
    let ue ← encNgEnbDuUeAsn ue
    return .ngEnbDu ue
  | .enGnb ue => do
    let ue ← encEnGnbUeAsn ue
    return .enGnb ue
  | .enb ue => do
    let ue ← encEnbUeAsn ue
    return .enb ue

/-- `dec_ue_id_asn`. -/
def decUeIdAsn : UeIdAsn → Outcome UeId
  | .gnb ue => do
    let ue ← decGnbUeAsn ue
    return .gnb ue
  | .gnbDu ue => do
    let ue ← decGnbDuUeAsn ue
    return .gnbDu ue
  | .gnbCuUp ue => do
    let ue ← decGnbCuUpUeAsn ue
    return .gnbCuUp ue
  | .ngEnb ue => do
    let ue ← decNgEnbUeAsn ue
    return .ngEnb ue
  | .ngEnbDu ue => do
    let ue ← decNgEnbDuUeAsn ue
    return .ngEnbDu ue
  | .enGnb ue => do
    let ue ← decEnGnbUeAsn ue
    return .enGnb ue
  | .enb ue => do
    let ue ← decEnbUeAsn ue
    return .enb ue
  | .nothing => .abort "Unknown UE ID Type"

end Ue

end FlexRic
