import FlexRic.Codec.RicDec
import FlexRic.Kpm.Constraints
import FlexRic.Rc.ParamValues

/-!
# FlexRic.Rc.ParamCodec

RAN parameters on the wire: the generated structures (`e2sm_rc_v1_03_standard.asn`), the encoders
(`sm/rc_sm/enc/rc_enc_asn.c`) and the decoders (`sm/rc_sm/dec/rc_dec_asn.c`) of their values, tests
and definitions.

* A field that both sides refuse is `Unread`: it is there or not, and nothing looks into it.
* The encoders do not look at the lengths of the arrays in a tree, the decoders do, but for the
  structures of a list and the parameters of a definition.
* `satisfies`: a structure is within its constraints, as far as the runtime looks at them.  A range
  with an extension marker is open, and a `PrintableString` is put out whatever its characters.
-/

namespace FlexRic

namespace Rc

open Outcome Kpm

/-! ## Fields -/

/-- What is behind the pointer of a field that nothing reads. -/
structure Unread where
  deriving DecidableEq, Repr

/-- `assert(src->f == NULL && "Not implemented")` of an encoder. -/
def encAbsent {α : Type} (src : Option α) : Outcome (Option Unread) := do
  assert src.isNone "Not implemented"
  return none

/-- A decoder of a field that is not implemented. -/
def decAbsent {α : Type} (src : Option Unread) : Outcome (Option α) := do
  assert src.isNone "Not implemented"
  return none

/-- `assert(src->ran_param_id > 0); dst->ranParameter_ID = src->ran_param_id;`. -/
def encParamId (id : UInt32) : Outcome UInt64 := do
  assert (0 < id) "src->ran_param_id > 0"
  return id.toUInt64

/-- `assert(src->ranParameter_ID > 0); dst.ran_param_id = src->ranParameter_ID;`. -/
def decParamId (id : UInt64) : Outcome UInt32 := do
  assert (0 < id) "src->ranParameter_ID > 0"
  return id.toUInt32

/-- The decoder of an id that asserts the upper bound, too. -/
def decParamIdBelow (id : UInt64) : Outcome UInt32 := do
  assert (0 < id ∧ id < 4294967296) "src->ranParameter_ID > 0 && src->ranParameter_ID < 4294967295 +1"
  return id.toUInt32

/-- An id of 16 bits, in a `long`. -/
def encId (id : UInt16) : Outcome Int := do
  assert (0 < id) "id > 0"
  return id.toNat

def decId (id : Int) : Outcome UInt16 := do
  assert (0 < id ∧ id < 65536) "id > 0 && id < 65535 + 1"
  return longToU16 id

/-- The decoder of an id of 16 bits without the upper bound. -/
def decIdOpen (id : Int) : Outcome UInt16 := do
  assert (0 < id) "id > 0"
  return longToU16 id

/-- `assert(src->name.len > 0 && src->name.len < n)` in front of the copy of a text. -/
def sizedText (n : Nat) (s : Bytes) : Outcome Bytes := do
  assert (sized n s) "src->name.len > 0"
  return s

/-- The loop over an array whose size is asserted first. -/
def sizedWalk {α β : Type} (n : Nat) (f : α → Outcome β) (xs : List α) : Outcome (List β) := do
  assert (sized n xs) "sz > 0"
  walk f xs

/-- The chains of `if(src == A){ dst = a; } else if(src == B){ dst = b; }`. -/
def decEnum {α : Type} (values : List α) (code : α → Int) (v : Int) : Outcome α :=
  expect (values.find? fun a => code a = v) "Unknown type"

/-- `SEQUENCE (SIZE(1..n)) OF`. -/
def isSequence {α : Type} (n : Nat) (p : α → Bool) (xs : List α) : Bool :=
  sized (n + 1) xs && xs.all p

/-- `ENUMERATED` of `n` values. -/
def isEnumerated (n : Nat) (v : Int) : Bool := 0 ≤ v && v < n

/-! ## Values -/

/-- `BOOLEAN_t`. -/
def boolToInt (v : Bool) : Int := if v then 1 else 0

/-- `RANParameter_Value_t`. -/
inductive ParamValueAsn where
  | nothing
  | valueBoolean (v : Int)
  | valueInt (v : Int64)
  | valueReal (v : Float)
  | valueBitS (v : BitString)
  | valueOctS (v : Bytes)
  | valuePrintableString (v : Bytes)

def ParamValueAsn.satisfies : ParamValueAsn → Bool
  | nothing => false
  | valueBoolean _ | valueInt _ | valueReal _ | valueBitS _ | valueOctS _
  | valuePrintableString _ => true

/-- `cp_ran_param_val`. -/
def cpRanParamVal : RanParameterValue → ParamValueAsn
  | .boolRan v => .valueBoolean (boolToInt v)
  | .intRan v => .valueInt v
  | .realRan v => .valueReal v
  | .bitStrRan v => .valueBitS ⟨v, 0⟩
  | .octetStrRan v => .valueOctS v
  | .printableStrRan v => .valuePrintableString v

/-- `dec_ran_param_val`. -/
def decRanParamVal : ParamValueAsn → Outcome RanParameterValue
  | .valueBoolean v => return .boolRan (v ≠ 0)
  | .valueInt v => return .intRan v
  | .valueReal v => return .realRan v
  | .valueBitS v => do
    assert (v.bitsUnused = 0) "bs.bits_unused == 0"
    return .bitStrRan v.buf
  | .valueOctS v => return .octetStrRan v
  | .valuePrintableString v => return .printableStrRan v
  | .nothing => .abort "Unknown type"

/-- `dec_ran_parameter_value`. -/
def decRanParameterValue : ParamValueAsn → Outcome RanParameterValue := decRanParamVal

/-! ### Trees of values -/

mutual

/-- `RANParameter_ValueType_t`; the value of an element with a false key flag is optional. -/
inductive ValueTypeAsn where
  | nothing
  | elementTrue (v : ParamValueAsn)
  | elementFalse (v : Option ParamValueAsn)
  | structure (s : StructAsn)
  | list (l : List StructAsn)

/-- `RANParameter_STRUCTURE_t`. -/
inductive StructAsn where
  | mk (sequenceOfRanParameters : Option (List StructItemAsn))

/-- `RANParameter_STRUCTURE_Item_t`, and `RIC_PolicyAction_RANParameter_Item_t` and the items of
messages, which have the same fields. -/
inductive StructItemAsn where
  | mk (ranParameterId : UInt64) (ranParameterValueType : ValueTypeAsn)

end

mutual

def ValueTypeAsn.satisfies : ValueTypeAsn → Bool
  | .nothing => false
  | .elementTrue v => v.satisfies
  | .elementFalse v => v.all ParamValueAsn.satisfies
  | .structure s => s.satisfies
  | .list l => sized 65536 l && structsSatisfy l

def StructAsn.satisfies : StructAsn → Bool
  | ⟨none⟩ => true
  | ⟨some s⟩ => sized 65536 s && itemsSatisfy s

def StructItemAsn.satisfies : StructItemAsn → Bool
  | ⟨_, v⟩ => v.satisfies

def structsSatisfy : List StructAsn → Bool
  | [] => true
  | s :: l => s.satisfies && structsSatisfy l

def itemsSatisfy : List StructItemAsn → Bool
  | [] => true
  | p :: s => p.satisfies && itemsSatisfy s

end

mutual

/-- `cp_ran_param_value_type`. -/
def cpRanParamValueType : RanParamValType → Outcome ValueTypeAsn
  | .flagTrue v => return .elementTrue (cpRanParamVal v)
  | .flagFalse v => return .elementFalse (some (cpRanParamVal v))
  | .strct s => do
    let s ← encRanParamStructs s
    return .structure ⟨some s⟩
  | .lst l => do
    let l ← encLstRanParams l
    return .list l

/-- `enc_ran_param_struct`. -/
def encRanParamStruct : SeqRanParam → Outcome StructItemAsn
  | ⟨id, val⟩ => do
    let id ← encParamId id
    let val ← cpRanParamValueType val
    return ⟨id, val⟩

/-- `enc_lst_ran_param`. -/
def encLstRanParam : LstRanParam → Outcome StructAsn
  | ⟨s⟩ => do
    let s ← encRanParamStructs s
    return ⟨some s⟩

/-- The loop over a structure. -/
def encRanParamStructs : List SeqRanParam → Outcome (List StructItemAsn)
  | [] => return []
  | p :: s => do
    let p ← encRanParamStruct p
    let s ← encRanParamStructs s
    return p :: s

/-- The loop over a list. -/
def encLstRanParams : List LstRanParam → Outcome (List StructAsn)
  | [] => return []
  | p :: l => do
    let p ← encLstRanParam p
    let l ← encLstRanParams l
    return p :: l

end

mutual

/-- `dec_ran_param_value_type`. -/
def decRanParamValueType : ValueTypeAsn → Outcome RanParamValType
  | .elementTrue v => do
    let v ← decRanParameterValue v
    return .flagTrue v
  | .elementFalse (some v) => do
    let v ← decRanParameterValue v
    return .flagFalse v
  | .elementFalse none => .abort "src != NULL"
  | .structure s => do
    let s ← decRanParameterStrct s
    return .strct s
  | .list l => do
    let l ← decLstRanParams l
    return .lst l
  | .nothing => .abort "Not implemented"

/-- `dec_ran_parameter_strct`, and the array of `dec_lst_ran_param`; its elements are decoded by
`dec_seq_ran_param_strc_it` and `dec_ran_param_struct`, which do the same. -/
def decRanParameterStrct : StructAsn → Outcome (List SeqRanParam)
  | ⟨none⟩ => .abort "src->sequence_of_ranParameters != NULL"
  | ⟨some s⟩ => do
    assert (sized 65536 s) "list.count > 0 && list.count < 65535 + 1"
    decRanParamStructs s

/-- `dec_ran_param_struct`. -/
def decRanParamStruct : StructItemAsn → Outcome SeqRanParam
  | ⟨id, val⟩ => do
    let id ← decParamId id
    let val ← decRanParamValueType val
    return ⟨id, val⟩

/-- The loop over a list, with `dec_lst_ran_param`. -/
def decLstRanParams : List StructAsn → Outcome (List LstRanParam)
  | [] => return []
  | p :: l => do
    let p ← decRanParameterStrct p
    let l ← decLstRanParams l
    return ⟨p⟩ :: l

/-- The loop over a structure. -/
def decRanParamStructs : List StructItemAsn → Outcome (List SeqRanParam)
  | [] => return []
  | p :: s => do
    let p ← decRanParamStruct p
    let s ← decRanParamStructs s
    return p :: s

end

/-! ## Tests -/

/-- `RANParameter_TestingCondition_t`. -/
inductive TestConditionAsn where
  | nothing
  | comparison (v : Int)
  | presence (v : Int)
  deriving DecidableEq, Repr

def TestConditionAsn.satisfies : TestConditionAsn → Bool
  | nothing => false
  | comparison v => isEnumerated 6 v
  | presence v => isEnumerated 4 v

/-- `RANParameter_Testing_Item_Choice_ElementFalse_t`. -/
structure TestElementFalseAsn where
  testCondition : TestConditionAsn
  value : Option Unread
  logicalOr : Option Unread
  deriving DecidableEq, Repr

mutual

/-- The choice of `RANParameter_Testing_Item_t`. -/
inductive TestTypeAsn where
  | nothing
  | list (ts : List TestItemAsn)
  | structure (ts : List TestItemAsn)
  | elementTrue (v : ParamValueAsn)
  | elementFalse (v : TestElementFalseAsn)

/-- `RANParameter_Testing_Item_t`. -/
inductive TestItemAsn where
  | mk (ranParameterId : UInt64) (ranParameterType : TestTypeAsn)

end

mutual

def TestTypeAsn.satisfies : TestTypeAsn → Bool
  | .nothing => false
  | .list ts => sized 65536 ts && testsSatisfy ts
  | .structure ts => sized 65536 ts && testsSatisfy ts
  | .elementTrue v => v.satisfies
  | .elementFalse v => v.testCondition.satisfies

def TestItemAsn.satisfies : TestItemAsn → Bool
  | ⟨_, test⟩ => test.satisfies

def testsSatisfy : List TestItemAsn → Bool
  | [] => true
  | t :: ts => t.satisfies && testsSatisfy ts

end

namespace RanParamTestCondComp

/-- The number of a comparison on the wire. -/
def code : RanParamTestCondComp → Int
  | equal => 0
  | difference => 1
  | greaterthan => 2
  | lessthan => 3
  | contains => 4
  | startsWith => 5

end RanParamTestCondComp

namespace RanParamTestCondPresence

def code : RanParamTestCondPresence → Int
  | present => 0
  | configured => 1
  | rollover => 2
  | nonZero => 3

end RanParamTestCondPresence

/-- `enc_ran_param_test_cond`, with `enc_ran_param_test_cond_comp` and
`enc_ran_param_test_cond_presence`. -/
def encRanParamTestCond : RanParamTestCond → TestConditionAsn
  | .comparison comp => .comparison comp.code
  | .presence presence => .presence presence.code

/-- `dec_ran_param_test_cond_comp`. -/
def decRanParamTestCondComp : Int → Outcome RanParamTestCondComp :=
  decEnum [.equal, .difference, .greaterthan, .lessthan, .contains, .startsWith]
    RanParamTestCondComp.code

/-- `dec_ran_param_test_cond_presence`. -/
def decRanParamTestCondPresence : Int → Outcome RanParamTestCondPresence :=
  decEnum [.present, .configured, .rollover, .nonZero] RanParamTestCondPresence.code

/-- `dec_test_cond`. -/
def decTestCond : TestConditionAsn → Outcome RanParamTestCond
  | .comparison v => do
    let comp ← decRanParamTestCondComp v
    return .comparison comp
  | .presence v => do
    let presence ← decRanParamTestCondPresence v
    return .presence presence
  | .nothing => .abort "Unknown type"

/-- `cp_elm_false`. -/
def cpElmFalse (src : RanParamElmKeyFalse) : Outcome TestElementFalseAsn := do
  let value ← encAbsent src.value
  let logicalOr ← encAbsent src.logicalOr
  return ⟨encRanParamTestCond src.testCond, value, logicalOr⟩

/-- `dec_key_flag_false`. -/
def decKeyFlagFalse (src : TestElementFalseAsn) : Outcome RanParamElmKeyFalse := do
  let testCond ← decTestCond src.testCondition
  let value ← decAbsent src.value
  let logicalOr ← decAbsent src.logicalOr
  return ⟨testCond, value, logicalOr⟩

mutual

/-- `enc_ran_param_test`. -/
def encRanParamTest : RanParamTest → Outcome TestItemAsn
  | ⟨id, test⟩ => do
    let id ← encParamId id
    let test ← encRanParamTestType test
    return ⟨id, test⟩

/-- The union of `enc_ran_param_test`. -/
def encRanParamTestType : RanParamTestType → Outcome TestTypeAsn
  | .lst ts => do
    let ts ← encRanParamTests ts
    return .list ts
  | .strct ts => do
    let ts ← encRanParamTests ts
    return .structure ts
  | .flagTrue v => return .elementTrue (cpRanParamVal v)
  | .flagFalse v => do
    let v ← cpElmFalse v
    return .elementFalse v

/-- The loop over the tests of a list or a structure. -/
def encRanParamTests : List RanParamTest → Outcome (List TestItemAsn)
  | [] => return []
  | t :: ts => do
    let t ← encRanParamTest t
    let ts ← encRanParamTests ts
    return t :: ts

end

mutual

/-- `dec_ran_param_test`. -/
def decRanParamTest : TestItemAsn → Outcome RanParamTest
  | ⟨id, test⟩ => do
    let id ← decParamIdBelow id
    let test ← decRanParamTestType test
    return ⟨id, test⟩

/-- The union of `dec_ran_param_test`, with `dec_lst` and `dec_strct`.  Where nothing is present,
the type stays that of a list. -/
def decRanParamTestType : TestTypeAsn → Outcome RanParamTestType
  | .list ts => do
    assert (sized 65536 ts) "list.count > 0 && list.count < 65535 + 1"
    let ts ← decRanParamTests ts
    return .lst ts
  | .structure ts => do
    assert (sized 65536 ts) "list.count > 0 && list.count < 65535 + 1"
    let ts ← decRanParamTests ts
    return .strct ts
  | .elementTrue v => do
    let v ← decRanParamVal v
    return .flagTrue v
  | .elementFalse v => do
    let v ← decKeyFlagFalse v
    return .flagFalse v
  | .nothing => return .lst []

/-- The loop over the tests of a list or a structure. -/
def decRanParamTests : List TestItemAsn → Outcome (List RanParamTest)
  | [] => return []
  | t :: ts => do
    let t ← decRanParamTest t
    let ts ← decRanParamTests ts
    return t :: ts

end

/-! ## Definitions -/

/-- `RANParameter_Definition_Choice_LIST_Item_t` and
`RANParameter_Definition_Choice_STRUCTURE_Item_t`. -/
structure DefItemAsn where
  ranParameterId : UInt64
  ranParameterName : Bytes
  ranParameterDefinition : Option Unread
  deriving DecidableEq

/-- `RANParameter_Definition_t`. -/
inductive DefinitionAsn where
  | nothing
  | choiceList (items : List DefItemAsn)
  | choiceStructure (items : List DefItemAsn)
  deriving DecidableEq

def DefinitionAsn.satisfies : DefinitionAsn → Bool
  | nothing => false
  | choiceList items => isSequence 65535 (fun _ => true) items
  | choiceStructure items => isSequence 65535 (fun _ => true) items

/-- The body of the loops of `enc_ran_param_def_lst` and `enc_ran_param_def_strct`. -/
def encRanParamDefItem (src : RanParamLstStruct) : Outcome DefItemAsn := do
  let defn ← encAbsent src.ranParamDef
  return ⟨src.ranParamId.toUInt64, src.ranParamName, defn⟩

/-- `enc_ran_param_def`, with `enc_ran_param_def_lst` and `enc_ran_param_def_strct`. -/
def encRanParamDef : RanParamDef → Outcome DefinitionAsn
  | .lst ps => do
    let items ← walk encRanParamDefItem ps
    return .choiceList items
  | .strct ps => do
    let items ← walk encRanParamDefItem ps
    return .choiceStructure items

/-- The body of the loops of `dec_ran_param_def_lst` and `dec_ran_param_def_strct`. -/
def decRanParamDefItem (src : DefItemAsn) : Outcome RanParamLstStruct := do
  let defn ← decAbsent src.ranParameterDefinition
  return ⟨src.ranParameterId.toUInt32, src.ranParameterName, defn⟩

/-- `dec_ran_param_def`, with `dec_ran_param_def_lst` and `dec_ran_param_def_strct`. -/
def decRanParamDef : DefinitionAsn → Outcome RanParamDef
  | .choiceList items => do
    let ps ← walk decRanParamDefItem items
    return .lst ps
  | .choiceStructure items => do
    let ps ← walk decRanParamDefItem items
    return .strct ps
  | .nothing => .abort "Unknown RAN Parameter Type"

/-! ## The buffer -/

/-- The end of an encoder, with a buffer of `n` octets. -/
def encodeInto {Pdu Buf : Type} (n : Nat) (rt : Asn1c Pdu Buf) (pdu : Pdu) : Outcome Buf := do
  let b ← expect (rt.encode pdu) "er.encoded > -1"
  assert (rt.length b ≤ n) "(size_t)er.encoded <= ba.len"
  return b

/-- The front of a decoder. -/
def decodeFrom {Pdu Buf : Type} (rt : Asn1c Pdu Buf) (b : Buf) : Outcome Pdu := do
  assert (0 < rt.length b) "len != 0"
  expect (rt.decode b) "ret.code == RC_OK"

end Rc

end FlexRic
