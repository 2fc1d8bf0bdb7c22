import FlexRic.Codec.E42Nodes
import FlexRic.Codec.MessageValues

/-!
# FlexRic.Codec.ConnectedNodes

The E2 nodes that are connected: what a setup request that arrived left in the
registry.

* `ConnectedNode`: a node with the setup request it was registered by.
* `ConnectedNode.encodes`: its id can be encoded again.
* `ConnectedNode.functions`, `ConnectedNode.components`: so can its RAN
  functions and its components, and they come back.
-/

namespace FlexRic.Codec

open Outcome

/-- A RAN function that can be sent. -/
def FunctionCarried (f : RanFunction) : Prop :=
  Carries encRanFunctionItem (Ie.satisfies RanFunctionItem.satisfies) decRanFunctionItem f f

/-- A node component that can be sent. -/
def ComponentCarried (c : NodeComponentConfigAdd) : Prop :=
  Carries e2apEncNodeComponentConfAddition (Ie.satisfies ConfigAdditionItem.satisfies)
    e2apDecNodeComponentConfAddition c c

/-! ## What was decoded can be encoded -/

theorem toNat_longToU16 {v : Int} (hpos : 0 ≤ v) (hle : v ≤ 4095) :
    ((longToU16 v).toNat : Int) = v := by
  rw [longToU16, toNat_toUInt16]
  omega

theorem carried_of_decRanFunctionItem {ie : Ie RanFunctionItem} {f : RanFunction}
    (hsat : ∀ v ∈ ie.value, v.satisfies = true) (h : decRanFunctionItem ie = next f) :
    FunctionCarried f := by
  simp only [decRanFunctionItem, bind_eq_next, expect_eq_next, assert_eq_next, pure_eq,
    next_inj] at h
  obtain ⟨v, hv, -, -, -, -, defn, hdefn, oid, hoid, rfl⟩ := h
  have hv := hsat v hv
  simp only [RanFunctionItem.satisfies, Bool.and_eq_true, isRanFunctionId_iff,
    decide_eq_true_eq] at hv
  obtain ⟨hid, hrev⟩ := hv
  simp only [copyOstringToBa, bind_eq_next, assert_eq_next, decide_eq_true_eq, pure_eq,
    next_inj] at hdefn hoid
  obtain ⟨-, hdefn, rfl⟩ := hdefn
  obtain ⟨-, hoid, rfl⟩ := hoid
  have henc : encRanFunctionItem ⟨v.ranFunctionDefinition, longToU16 v.ranFunctionId,
      longToU16 v.ranFunctionRevision, v.ranFunctionOid⟩ =
      next ⟨.ranFunctionItem, .reject, some v⟩ := by
    simp [encRanFunctionItem, copyBaToOstring, assert, hdefn, hoid, toNat_longToU16 hid.1 hid.2,
      toNat_longToU16 hrev.1 hrev.2]
  have hsat : Ie.satisfies RanFunctionItem.satisfies
      ⟨.ranFunctionItem, .reject, some v⟩ = true := by
    simp [Ie.satisfies, RanFunctionItem.satisfies, isRanFunctionId_iff, hid, hrev]
  exact ⟨_, henc, hsat, ranFunctionItem_back henc hsat⟩

/-- The id of a component that was decoded is of its interface type, and is
encoded as it was. -/
theorem encComponentId_of_dec {t : NodeCompInterfaceType} {cid : E2NodeComponentId}
    {id : NodeCompId} (hsat : cid.satisfies = true) (h : e2apDecNodeComponentId t cid = next id) :
    id.type = t ∧ e2apEncNodeComponentId t id = next cid := by
  have hnat (v : Nat) (hv : isNodeId v = true) : (asnInteger2Ulong v).toNat = v := by
    have hlt : v < 2 ^ 36 := of_decide_eq_true hv
    rw [asnInteger2Ulong, if_pos (by omega), Nat.toUInt64, UInt64.toNat_ofNat']
    omega
  cases cid <;>
    simp only [e2apDecNodeComponentId, copyOstringToBa, bind_eq_next, assert_eq_next,
      decide_eq_true_eq, pure_eq, next_inj, reduceCtorEq] at h
  case ng name | s1 name =>
    obtain ⟨-, rfl, _, ⟨-, hpos, rfl⟩, rfl⟩ := h
    simp [NodeCompId.type, e2apEncNodeComponentId, NodeCompId.name?, expect, copyBaToOstring,
      assert, hpos]
  case e1 v | f1 v | w1 v =>
    obtain ⟨-, rfl, rfl⟩ := h
    simp [NodeCompId.type, e2apEncNodeComponentId, NodeCompId.id?, expect, asnUint642Integer,
      hnat v hsat]

theorem code_of_decInterfaceType {v : Nat} {t : NodeCompInterfaceType}
    (h : decInterfaceType v = next t) : t.code = v := by
  simp only [decInterfaceType, bind_eq_next, assert_eq_next, decide_eq_true_eq,
    expect_eq_next] at h
  obtain ⟨-, -, h⟩ := h
  unfold NodeCompInterfaceType.ofCode at h
  split at h <;> simp at h <;> subst h <;> rfl

theorem carried_of_decComponent {ie : Ie ConfigAdditionItem} {c : NodeComponentConfigAdd}
    (hsat : ∀ v ∈ ie.value, v.satisfies = true)
    (h : e2apDecNodeComponentConfAddition ie = next c) : ComponentCarried c := by
  simp only [e2apDecNodeComponentConfAddition, Ie.read, bind_eq_next, assert_eq_next,
    expect_eq_next, decide_eq_true_eq, copyOstringToBa, pure_eq, next_inj] at h
  obtain ⟨v, ⟨-, -, -, -, hv⟩, t, ht, id, hid, _, ⟨-, hreq, rfl⟩, _, ⟨-, hresp, rfl⟩, rfl⟩ := h
  have hv := hsat v hv
  have hcid : v.componentId.satisfies = true := (Bool.and_eq_true_iff.mp hv).2
  obtain ⟨htype, hencid⟩ := encComponentId_of_dec hcid hid
  have henc : e2apEncNodeComponentConfAddition ⟨t, id, v.requestPart, v.responsePart⟩ =
      next ⟨.e2NodeComponentConfigAdditionItem, .reject, some v⟩ := by
    simp [e2apEncNodeComponentConfAddition, hencid, copyBaToOstring, assert, hreq, hresp,
      code_of_decInterfaceType ht]
  refine ⟨_, henc, ?_, (configAddition_back henc).mpr htype⟩
  rw [Ie.satisfies, Option.any_some, hv]

/-! ## Ids -/

theorem octet_lt (buf : Bytes) (i : Nat) : octet buf i < 2 ^ 8 := (buf.getD i 0).toNat_lt

theorem shiftLeft_lt {n i k : Nat} (h : n < 2 ^ 8) (hk : 8 + i ≤ k) : n <<< i < 2 ^ k := by
  rw [Nat.shiftLeft_eq]
  calc n * 2 ^ i < 2 ^ 8 * 2 ^ i := Nat.mul_lt_mul_of_pos_right h (Nat.two_pow_pos i)
    _ = 2 ^ (8 + i) := (Nat.pow_add 2 8 i).symm
    _ ≤ 2 ^ k := Nat.pow_le_pow_right (by decide) hk

theorem shiftRight_lt {n i k : Nat} (h : n < 2 ^ 8) (hk : 8 ≤ k + i) : n >>> i < 2 ^ k := by
  rw [Nat.shiftRight_eq_div_pow]
  refine Nat.div_lt_of_lt_mul ?_
  rw [← Nat.pow_add]
  exact Nat.lt_of_lt_of_le h (Nat.pow_le_pow_right (by decide) (by omega))

theorem toNat_lt_of_lt {n k : Nat} (h : n < 2 ^ k) : n.toUInt32.toNat < 2 ^ k := by
  rw [toNat_toUInt32]
  exact Nat.lt_of_le_of_lt (Nat.mod_le _ _) h

/-- A gNB id that was decoded can be encoded. -/
theorem gnbIdEncodes_of_dec {b : BitString} {g : E2apGnbId} (h : cpBitStringToGnbId b = next g) :
    g.unused.toNat < 11 ∧ g.nbId.toNat < 2 ^ (32 - g.unused.toNat) := by
  simp only [cpBitStringToGnbId, bind_eq_next, assert_eq_next, decide_eq_true_eq, pure_eq] at h
  obtain ⟨-, -, -, -, -, h8, h⟩ := h
  have ho := octet_lt b.buf
  split at h
  · simp only [bind_eq_next, assert_eq_next, decide_eq_true_eq, next_inj] at h
    obtain ⟨-, h3, rfl⟩ := h
    have hunused : (b.bitsUnused + 8).toUInt32.toNat = b.bitsUnused + 8 := by
      rw [toNat_toUInt32]
      omega
    simp only [hunused]
    refine ⟨by omega, toNat_lt_of_lt ?_⟩
    refine Nat.or_lt_two_pow (Nat.or_lt_two_pow ?_ ?_) ?_
    · exact shiftLeft_lt (ho 0) (by omega)
    · exact shiftLeft_lt (ho 1) (by omega)
    · exact shiftRight_lt (ho 2) (by omega)
  · obtain rfl := next_inj.mp h
    have hunused : b.bitsUnused.toUInt32.toNat = b.bitsUnused := by
      rw [toNat_toUInt32]
      omega
    simp only [hunused]
    refine ⟨by omega, toNat_lt_of_lt ?_⟩
    refine Nat.or_lt_two_pow (Nat.or_lt_two_pow (Nat.or_lt_two_pow ?_ ?_) ?_) ?_
    · exact shiftLeft_lt (ho 0) (by omega)
    · exact shiftLeft_lt (ho 1) (by omega)
    · exact shiftLeft_lt (ho 2) (by omega)
    · exact shiftRight_lt (ho 3) (by omega)

/-- An id of twenty bits that was decoded has no more. -/
theorem macroEnbId_lt_of_dec {b : BitString} {n : UInt32}
    (h : bitStringToMacroEnbId b = next n) : n.toNat < 2 ^ 20 := by
  simp only [bitStringToMacroEnbId, bind_eq_next, assert_eq_next, pure_eq, next_inj] at h
  obtain ⟨-, -, rfl⟩ := h
  have ho := octet_lt b.buf
  refine toNat_lt_of_lt (Nat.or_lt_two_pow (Nat.or_lt_two_pow ?_ ?_) ?_)
  · exact shiftLeft_lt (ho 0) (by omega)
  · exact shiftLeft_lt (ho 1) (by omega)
  · exact shiftRight_lt (ho 2) (by omega)

/-- A `cu_du_id` that was decoded has 36 bits. -/
theorem cuDuId_lt_of_dec {v : Nat} (h : isNodeId v = true) :
    (asnInteger2Ulong v).toNat < 2 ^ 36 := by
  have hlt : v < 2 ^ 36 := of_decide_eq_true h
  rw [asnInteger2Ulong, if_pos (by omega), Nat.toUInt64, UInt64.toNat_ofNat']
  omega

/-- **A node id that was decoded can be encoded**, and of an eNB it fits. -/
theorem nodeIdEncodes_of_dec {v : GlobalE2NodeIdIe} {id : GlobalE2NodeId}
    (hsat : v.satisfies = true) (h : decGlobalE2NodeId v = next id) :
    NodeIdEncodes id ∧ (id.type = .eNB → id.nbId.nbId.toNat < 2 ^ 20 ∧ id.nbId.unused = 0) := by
  cases v with
  | gNB v =>
    simp only [GlobalE2NodeIdIe.satisfies, Bool.and_eq_true] at hsat
    obtain ⟨⟨-, hcuUp⟩, hdu⟩ := hsat
    simp only [decGlobalE2NodeId, bind_eq_next] at h
    obtain ⟨nbId, hnb, h⟩ := h
    have hnb := gnbIdEncodes_of_dec hnb
    split at h <;> obtain rfl := next_inj.mp h
    · next hsome => exact ⟨fun _ => ⟨hnb, fun _ v hv => by
        cases hv
        rw [hsome] at hcuUp
        exact cuDuId_lt_of_dec hcuUp⟩, by simp⟩
    · next hsome => exact ⟨fun _ => ⟨hnb, fun _ v hv => by
        cases hv
        rw [hsome] at hdu
        exact cuDuId_lt_of_dec hdu⟩, by simp⟩
    · exact ⟨fun _ => ⟨hnb, by simp⟩, by simp⟩
  | eNB v =>
    simp only [decGlobalE2NodeId] at h
    split at h
    · obtain ⟨nbId, hnb, h⟩ := bind_eq_next.mp h
      obtain rfl := next_inj.mp h
      exact ⟨fun hne => absurd rfl hne, fun _ => ⟨macroEnbId_lt_of_dec hnb, rfl⟩⟩
    · cases h
  | enGnb => cases h
  | ngEnb => cases h

/-! ## Setup requests that arrived -/

/-- The arrays of a setup request, as far as they are read. -/
structure ArraysCarried (s : SetupRequestArrays) : Prop where
  functions : ∀ l ∈ s.ranFuncItem, l.length < 256 ∧ ∀ f ∈ l, FunctionCarried f
  components : ∀ l ∈ s.compConfAdd, ∀ c ∈ l, ComponentCarried c

/-- An element that arrived, with its table opened, has values that satisfy
their constraints. -/
theorem value_of_opened {V : Type} {p : V → Bool} {row : ProtocolIeId} {items : List (Ie V)}
    (hsat : items.all (Ie.satisfies p) = true) {ie : Ie V} (hie : ie ∈ items.map (Ie.opened row)) :
    ∀ v ∈ ie.value, p v = true := by
  obtain ⟨ie', hmem, rfl⟩ := List.mem_map.mp hie
  have hsat := List.all_eq_true.mp hsat ie' hmem
  intro v hv
  rw [Ie.opened] at hv
  split at hv
  · rw [Ie.satisfies, Option.mem_def.mp hv] at hsat
    exact hsat
  · cases hv

/-- The body of the loop keeps it. -/
theorem ArraysCarried.step {s s' : SetupRequestArrays} (hs : ArraysCarried s)
    {ie : Ie E2SetupRequestValue}
    (hsat : ie.satisfies (E2SetupRequestValue.satisfies ie.id) = true)
    (h : decSetupRequestIe s { ie with value := ie.value.map E2SetupRequestValue.opened } =
      next s') : ArraysCarried s' := by
  obtain ⟨id, criticality, value⟩ := ie
  obtain ⟨value, rfl, hvalue⟩ : ∃ v, value = some v ∧ v.satisfies id = true := by
    cases value with
    | none => cases hsat
    | some v => exact ⟨v, rfl, hsat⟩
  rw [decSetupRequestIe] at h
  split at h
  · obtain ⟨v, hv, h⟩ := bind_eq_next.mp h
    simp only [Ie.read, bind_eq_next, expect_eq_next, Option.map_some, Option.some.injEq] at hv
    obtain ⟨-, -, -, -, rfl⟩ := hv
    cases value <;> try cases h
    next items =>
    simp only [E2SetupRequestValue.opened, bind_eq_next, assert_eq_next, decide_eq_true_eq, pure_eq,
      next_inj] at h
    obtain ⟨-, hlen, -, -, functions, hwalk, rfl⟩ := h
    simp only [E2SetupRequestValue.satisfies, isListOf, Bool.and_eq_true] at hvalue
    refine ⟨fun l hl => ?_, hs.components⟩
    obtain rfl := Option.some.inj hl
    refine ⟨?_, fun f hf => ?_⟩
    · rw [walk_length hwalk]
      exact hlen
    · obtain ⟨item, hitem, hf⟩ := exists_of_mem_walk hwalk hf
      exact carried_of_decRanFunctionItem (value_of_opened hvalue.2.2 hitem) hf
  · split at h
    · obtain ⟨v, hv, h⟩ := bind_eq_next.mp h
      simp only [Ie.read, bind_eq_next, expect_eq_next, Option.map_some, Option.some.injEq] at hv
      obtain ⟨-, -, -, -, rfl⟩ := hv
      cases value <;> try cases h
      next items =>
      simp only [E2SetupRequestValue.opened, bind_eq_next, assert_eq_next, pure_eq, next_inj] at h
      obtain ⟨-, -, components, hwalk, rfl⟩ := h
      simp only [E2SetupRequestValue.satisfies, isListOf, Bool.and_eq_true] at hvalue
      refine ⟨hs.functions, fun l hl c hc => ?_⟩
      obtain rfl := Option.some.inj hl
      obtain ⟨item, hitem, hc⟩ := exists_of_mem_walk hwalk hc
      exact carried_of_decComponent (value_of_opened hvalue.2.2 hitem) hc
    · cases h

/-- The loop keeps it. -/
theorem ArraysCarried.run {ies : List (Ie E2SetupRequestValue)} {s s' : SetupRequestArrays}
    (hs : ArraysCarried s)
    (hsat : ∀ ie ∈ ies, ie.satisfies (E2SetupRequestValue.satisfies ie.id) = true)
    (h : fold decSetupRequestIe s
      (ies.map fun ie => { ie with value := ie.value.map E2SetupRequestValue.opened }) = next s') :
    ArraysCarried s' := by
  induction ies generalizing s with
  | nil => exact next_inj.mp h ▸ hs
  | cons ie ies ih =>
    rw [List.map_cons, fold_cons, bind_eq_next] at h
    obtain ⟨s₁, hstep, hrest⟩ := h
    exact ih (hs.step (hsat ie List.mem_cons_self) hstep)
      (fun ie' hie' => hsat ie' (List.mem_cons_of_mem ie hie')) hrest

/-- A node that is connected: the request it was set up by, as it was sent and
as it arrived, and what `add_reg_e2_node` asserts. -/
structure ConnectedNode where
  sent : Procedure E2SetupRequestValue
  request : E2SetupRequest
  satisfies : SetupPdu.satisfies (.initiatingMessage sent) = true
  arrives : e2apDecSetupRequest (sent.mapValues E2SetupRequestValue.opened) = next request
  lenRf : 0 < request.ranFuncItem.length
  lenCca : 0 < request.compConfAdd.length
  copied : ∀ c ∈ request.compConfAdd, IdCopied c.id

namespace ConnectedNode

/-- The node as the registry has it. -/
def node (n : ConnectedNode) : E2NodeConnected :=
  ⟨n.request.id, n.request.compConfAdd, n.request.ranFuncItem⟩

/-- What the request was decoded from. -/
theorem arrives_from (n : ConnectedNode) :
    (∃ v, v.satisfies = true ∧ decGlobalE2NodeId v = next n.node.id) ∧
      ∃ arrays, ArraysCarried arrays ∧ arrays.ranFuncItem.getD [] = n.node.ackRf ∧
        arrays.compConfAdd.getD [] = n.node.cca := by
  obtain ⟨⟨code, criticality, value⟩, ⟨transId, id, functions, components⟩, hsat, h, -, -, -⟩ := n
  obtain ⟨ies, rfl⟩ : ∃ ies, value = some ies := by
    cases value with
    | none => simp [SetupPdu.satisfies, Procedure.satisfies] at hsat
    | some ies => exact ⟨ies, rfl⟩
  simp only [SetupPdu.satisfies, Procedure.satisfies, Option.any_some, Bool.and_eq_true,
    List.all_eq_true] at hsat
  simp only [e2apDecSetupRequest, Procedure.mapValues, Option.map_some, bind_eq_next,
    assert_eq_next, expect_eq_next, Option.some.injEq, exists_eq_left'] at h
  obtain ⟨-, -, -, -, -, -, transIe, -, transValue, -, h⟩ := h
  split at h
  swap
  · cases h
  simp only [bind_eq_next, expect_eq_next] at h
  obtain ⟨transId, -, nodeIe, hnodeIe, nodeValue, hnode, h⟩ := h
  split at h
  swap
  · cases h
  next v =>
  simp only [bind_eq_next, pure_eq, next_inj, E2SetupRequest.mk.injEq] at h
  obtain ⟨id, hid, arrays, hfold, -, rfl, rfl, rfl⟩ := h
  refine ⟨⟨v, ?_, hid⟩, arrays, ?_, rfl, rfl⟩
  · -- the second element is the node id that was sent
    rw [List.getElem?_map, Option.map_eq_some_iff] at hnodeIe
    obtain ⟨ie, hie, rfl⟩ := hnodeIe
    have hie := hsat.2 ie (List.mem_of_getElem? hie)
    simp only [Ie.read, bind_eq_next, expect_eq_next, Option.map_eq_some_iff] at hnode
    obtain ⟨-, -, -, -, v', hv', hopened⟩ := hnode
    rw [Ie.satisfies, hv'] at hie
    cases v' <;> simp [E2SetupRequestValue.opened] at hopened
    subst hopened
    exact (Bool.and_eq_true_iff.mp hie).2
  · rw [← List.map_drop, ← List.map_reverse] at hfold
    refine ArraysCarried.run ⟨by simp, by simp⟩ (fun ie hie => hsat.2 ie ?_) hfold
    exact List.mem_of_mem_drop (List.mem_reverse.mp hie)

variable (n : ConnectedNode)

theorem onWire : OnWire n.node.id := by
  obtain ⟨⟨v, -, hid⟩, -⟩ := n.arrives_from
  exact onWire_of_decGlobalE2NodeId hid

/-- **The id of a connected node is encoded.** -/
theorem encodes : NodeIdEncodes n.node.id := by
  obtain ⟨⟨v, hsat, hid⟩, -⟩ := n.arrives_from
  exact (nodeIdEncodes_of_dec hsat hid).1

/-- Only its PLMN may not survive. -/
theorem survives_iff : n.node.id.Survives ↔ PlmnFits n.node.id.plmn := by
  obtain ⟨⟨v, hsat, hid⟩, -⟩ := n.arrives_from
  exact and_iff_left (nodeIdEncodes_of_dec hsat hid).2

/-- The RAN functions of the node are carried. -/
theorem functions : n.node.ackRf.length < 256 ∧ ∀ f ∈ n.node.ackRf, FunctionCarried f := by
  obtain ⟨-, ⟨ranFuncItem, compConfAdd⟩, harrays, hrf, -⟩ := n.arrives_from
  rw [← hrf]
  cases ranFuncItem with
  | none => simp
  | some l => exact harrays.functions l rfl

/-- The components of the node are carried. -/
theorem components : ∀ c ∈ n.node.cca, ComponentCarried c := by
  obtain ⟨-, ⟨ranFuncItem, compConfAdd⟩, harrays, -, hcca⟩ := n.arrives_from
  rw [← hcca]
  cases compConfAdd with
  | none => simp
  | some l => exact harrays.components l rfl

end ConnectedNode

end FlexRic.Codec
