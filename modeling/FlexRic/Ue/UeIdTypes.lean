import FlexRic.Codec.Conversions

/-!
# FlexRic.Ue.UeIdTypes

The identities of UEs in service model messages, as the program holds them
(`ue_id_e2sm_t`, `lib/3gpp/ie`) and as the structures `asn1c` generates.

A pointer that may be NULL is an option, an array with its length is a list, and
a union under a type is a sum.  An `INTEGER_t` is its content octets.
-/

namespace FlexRic

namespace Ue

/-! ## Identities -/

/-- `guami_t`; the last two are bit fields. -/
structure Guami where
  plmnId : E2apPlmn
  amfRegionId : UInt8
  amfSetId : BitVec 10
  amfPtr : BitVec 6
  deriving DecidableEq, Repr

/-- `e2sm_gummei_t`. -/
structure Gummei where
  plmnId : E2apPlmn
  mmeGroupId : UInt16
  mmeCode : UInt8
  deriving DecidableEq, Repr

/-- `global_gnb_id_t`, of the only type there is. -/
structure GlobalGnbId where
  plmnId : E2apPlmn
  gnbId : E2apGnbId
  deriving DecidableEq

/-- The union of `global_enb_id_t`. -/
inductive EnbIdE2sm where
  | macroEnbId (v : UInt32)
  | homeEnbId (v : UInt32)
  | shortMacroEnbId (v : UInt32)
  | longMacroEnbId (v : UInt32)
  deriving DecidableEq, Repr

/-- `global_enb_id_t`. -/
structure GlobalEnbId where
  plmnId : E2apPlmn
  enbId : EnbIdE2sm
  deriving DecidableEq, Repr

/-- The union of `global_ng_enb_id_t`. -/
inductive NgEnbId where
  | macroNgEnbId (v : UInt32)
  | shortMacroNgEnbId (v : UInt32)
  | longMacroNgEnbId (v : UInt32)
  deriving DecidableEq, Repr

/-- `global_ng_enb_id_t`. -/
structure GlobalNgEnbId where
  plmnId : E2apPlmn
  ngEnbId : NgEnbId
  deriving DecidableEq, Repr

/-- `global_ng_ran_node_id_t`. -/
inductive GlobalNgRanNodeId where
  | gnb (id : GlobalGnbId)
  | ngEnb (id : GlobalNgEnbId)
  deriving DecidableEq

/-- `gnb_e2sm_t`. -/
structure Gnb where
  amfUeNgapId : UInt64
  guami : Guami
  gnbCuUeF1apLst : Option (List UInt32)
  gnbCuCpUeE1apLst : Option (List UInt32)
  ranUeId : Option UInt64
  ngRanNodeUeXnapId : Option UInt32
  globalGnbId : Option GlobalGnbId
  globalNgRanNodeId : Option GlobalNgRanNodeId
  deriving DecidableEq

/-- `gnb_du_e2sm_t`. -/
structure GnbDu where
  gnbCuUeF1ap : UInt32
  ranUeId : Option UInt64
  deriving DecidableEq, Repr

/-- `gnb_cu_up_e2sm_t`. -/
structure GnbCuUp where
  gnbCuCpUeE1ap : UInt32
  ranUeId : Option UInt64
  deriving DecidableEq, Repr

/-- `ng_enb_e2sm_t`. -/
structure NgEnb where
  amfUeNgapId : UInt64
  guami : Guami
  ngEnbCuUeW1apId : Option UInt32
  ngRanNodeUeXnapId : Option UInt32
  globalNgEnbId : Option GlobalNgEnbId
  globalNgRanNodeId : Option GlobalNgRanNodeId
  deriving DecidableEq

/-- `ng_enb_du_e2sm_t`. -/
structure NgEnbDu where
  ngEnbCuUeW1apId : UInt32
  deriving DecidableEq, Repr

/-- `en_gnb_e2sm_t`. -/
structure EnGnb where
  enbUeX2apId : UInt16
  enbUeX2apIdExtension : Option UInt16
  globalEnbId : GlobalEnbId
  gnbCuUeF1apLst : Option UInt32
  gnbCuCpUeE1apLst : Option (List UInt32)
  ranUeId : Option UInt64
  deriving DecidableEq, Repr

/-- `enb_e2sm_t`. -/
structure Enb where
  mmeUeS1apId : UInt32
  gummei : Gummei
  enbUeX2apId : Option UInt16
  enbUeX2apIdExtension : Option UInt16
  globalEnbId : Option GlobalEnbId
  deriving DecidableEq, Repr

/-- `ue_id_e2sm_t`. -/
inductive UeId where
  | gnb (ue : Gnb)
  | gnbDu (ue : GnbDu)
  | gnbCuUp (ue : GnbCuUp)
  | ngEnb (ue : NgEnb)
  | ngEnbDu (ue : NgEnbDu)
  | enGnb (ue : EnGnb)
  | enb (ue : Enb)
  deriving DecidableEq

/-- The AMF UE NGAP id of an identity that has one. -/
def UeId.amfUeNgapId? : UeId → Option UInt64
  | gnb ue => some ue.amfUeNgapId
  | ngEnb ue => some ue.amfUeNgapId
  | _ => none

/-! ## Generated structures -/

/-- `GUAMI_t`. -/
structure GuamiAsn where
  plmnIdentity : Bytes
  amfRegionId : BitString
  amfSetId : BitString
  amfPointer : BitString
  deriving DecidableEq

/-- `GUMMEI_t`. -/
structure GummeiAsn where
  plmnIdentity : Bytes
  mmeGroupId : Bytes
  mmeCode : Bytes
  deriving DecidableEq

/-- `GNB_ID_t`. -/
inductive GnbIdAsn where
  | nothing
  | gnbId (b : BitString)
  deriving DecidableEq

/-- `GlobalGNB_ID_t`. -/
structure GlobalGnbIdAsn where
  plmnIdentity : Bytes
  gnbId : GnbIdAsn
  deriving DecidableEq

/-- `ENB_ID_t`. -/
inductive EnbIdAsn where
  | nothing
  | macroEnbId (b : BitString)
  | homeEnbId (b : BitString)
  | shortMacroEnbId (b : BitString)
  | longMacroEnbId (b : BitString)
  deriving DecidableEq

/-- `GlobalENB_ID_t`. -/
structure GlobalEnbIdAsn where
  plmnIdentity : Bytes
  enbId : EnbIdAsn
  deriving DecidableEq

/-- `NgENB_ID_t`. -/
inductive NgEnbIdAsn where
  | nothing
  | macroNgEnbId (b : BitString)
  | shortMacroNgEnbId (b : BitString)
  | longMacroNgEnbId (b : BitString)
  deriving DecidableEq

/-- `GlobalNgENB_ID_t`. -/
structure GlobalNgEnbIdAsn where
  plmnIdentity : Bytes
  ngEnbId : NgEnbIdAsn
  deriving DecidableEq

/-- `GlobalNGRANNodeID_t`. -/
inductive GlobalNgRanNodeIdAsn where
  | nothing
  | gnb (id : GlobalGnbIdAsn)
  | ngEnb (id : GlobalNgEnbIdAsn)
  deriving DecidableEq

/-- `UEID_GNB_t`. -/
structure GnbAsn where
  amfUeNgapId : Bytes
  guami : GuamiAsn
  gnbCuUeF1apIdList : Option (List UInt64)
  gnbCuCpUeE1apIdList : Option (List UInt64)
  ranUeId : Option Bytes
  mNgRanUeXnapId : Option UInt64
  globalGnbId : Option GlobalGnbIdAsn
  globalNgRanNodeId : Option GlobalNgRanNodeIdAsn
  deriving DecidableEq

/-- `UEID_GNB_DU_t`. -/
structure GnbDuAsn where
  gnbCuUeF1apId : UInt64
  ranUeId : Option Bytes
  deriving DecidableEq

/-- `UEID_GNB_CU_UP_t`. -/
structure GnbCuUpAsn where
  gnbCuCpUeE1apId : UInt64
  ranUeId : Option Bytes
  deriving DecidableEq

/-- `UEID_NG_ENB_t`. -/
structure NgEnbAsn where
  amfUeNgapId : Bytes
  guami : GuamiAsn
  ngEnbCuUeW1apId : Option UInt64
  mNgRanUeXnapId : Option UInt64
  globalNgEnbId : Option GlobalNgEnbIdAsn
  globalNgRanNodeId : Option GlobalNgRanNodeIdAsn
  deriving DecidableEq

/-- `UEID_NG_ENB_DU_t`. -/
structure NgEnbDuAsn where
  ngEnbCuUeW1apId : UInt64
  deriving DecidableEq

/-- `UEID_EN_GNB_t`; a `long` is an integer. -/
structure EnGnbAsn where
  mEnbUeX2apId : Int
  mEnbUeX2apIdExtension : Option Int
  globalEnbId : GlobalEnbIdAsn
  gnbCuUeF1apId : Option UInt64
  gnbCuCpUeE1apIdList : Option (List UInt64)
  ranUeId : Option Bytes
  deriving DecidableEq

/-- `UEID_ENB_t`. -/
structure EnbAsn where
  mmeUeS1apId : UInt64
  gummei : GummeiAsn
  mEnbUeX2apId : Option Int
  mEnbUeX2apIdExtension : Option Int
  globalEnbId : Option GlobalEnbIdAsn
  deriving DecidableEq

/-- `UEID_t`. -/
inductive UeIdAsn where
  | nothing
  | gnb (ue : GnbAsn)
  | gnbDu (ue : GnbDuAsn)
  | gnbCuUp (ue : GnbCuUpAsn)
  | ngEnb (ue : NgEnbAsn)
  | ngEnbDu (ue : NgEnbDuAsn)
  | enGnb (ue : EnGnbAsn)
  | enb (ue : EnbAsn)
  deriving DecidableEq

/-- The octets of the AMF UE NGAP id. -/
def UeIdAsn.amfUeNgapId? : UeIdAsn → Option Bytes
  | gnb ue => some ue.amfUeNgapId
  | ngEnb ue => some ue.amfUeNgapId
  | _ => none

end Ue

end FlexRic
