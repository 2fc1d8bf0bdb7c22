import FlexRic.Ds.Bimap

/-!
# FlexRic.IApp.Tables

Two more tables of the iApp: the addresses of the set-up xApps
(`map_xapps_sockaddr.c`) and the registry that decides who gets an
indication (`subscription_registry.c`).

An address, once entered, is never changed or removed
(`findMapXappsSad_add`).  A registry entry, once entered, is active for
good, and there is one for each xApp and RAN function
(`SubscriptionRegistry.Ok`).
-/

namespace FlexRic

/-! ## xApp addresses -/

/-- `sctp_info_t`, the compared part. -/
structure SctpInfo where
  sinPort : UInt16
  sAddr : UInt32
  sinFamily : UInt16
  deriving DecidableEq, Repr

/-- `cmp_sctp_info_wrapper`. -/
def cmpSctpInfo : Cmp SctpInfo :=
  thenBy (cmpAsc (·.sinPort)) (thenBy (cmpAsc (·.sAddr)) (cmpAsc (·.sinFamily)))

/-- `eq_sctp_info_wrapper`. -/
def eqSctpInfo (m0 m1 : SctpInfo) : Bool := cmpSctpInfo m0 m1 == 0

/-- `cmp_uint16_wrapper`. -/
def cmpUint16 : Cmp UInt16 := cmpAsc id

theorem lawful_cmpSctpInfo : LawfulCmp cmpSctpInfo :=
  (lawful_cmpAsc _).thenBy ((lawful_cmpAsc _).thenBy (lawful_cmpAsc _))

theorem lawful_cmpUint16 : LawfulCmp cmpUint16 := lawful_cmpAsc _

/-- `map_xapps_sockaddr_t` without its lock. -/
abbrev MapXapps := Bimap UInt16 SctpInfo

namespace MapXapps

/-- `add_map_xapps_sad`. -/
def addMapXappsSad (m : MapXapps) (xappId : UInt16) (s : SctpInfo) : Outcome MapXapps := do
  .assert (OrdAssoc.findIf (xappId == ·) m.left).isNone "xApp ID already registered in the tree"
  Bimap.insert cmpUint16 cmpSctpInfo m xappId s

/-- `find_map_xapps_sad`. -/
def findMapXappsSad (m : MapXapps) (xappId : UInt16) : Outcome SctpInfo := do
  let e ← .expect (OrdAssoc.findIf (xappId == ·) m.left) "xApp ID not found in the tree"
  return e.2

/-- `find_map_xapps_xid`. -/
def findMapXappsXid (m : MapXapps) (s : SctpInfo) : Outcome UInt16 := do
  let e ← .expect (OrdAssoc.findIf (eqSctpInfo s) m.right) "SCTP info not found in the tree"
  return e.2

variable {m m' : MapXapps} {xappId y : UInt16} {s t : SctpInfo}

/-- The address of an xApp stays the same when another one is set up. -/
theorem findMapXappsSad_add (h : m.addMapXappsSad xappId s = .next m')
    (hy : m.findMapXappsSad y = .next t) : m'.findMapXappsSad y = .next t := by
  simp only [addMapXappsSad, Bimap.insert_eq lawful_cmpUint16 lawful_cmpSctpInfo,
    Outcome.bind_eq_next, Outcome.assert_eq_next, Outcome.next_inj] at h
  obtain ⟨⟨⟩, hnone, rfl⟩ := h
  simp only [findMapXappsSad, Outcome.bind_eq_next, Outcome.expect_eq_next] at hy ⊢
  obtain ⟨e, he, ht⟩ := hy
  have hne : (y == xappId) = false := by
    cases hyx : y == xappId with
    | false => rfl
    | true =>
      rw [beq_iff_eq.mp hyx] at he
      simp [he] at hnone
  exact ⟨e, (OrdAssoc.findIf_insert hne).trans he, ht⟩

end MapXapps

/-! ## Who gets an indication -/

/-- `subscription_entry_t`. -/
structure SubscriptionEntry where
  xappId : UInt32
  ranFuncId : UInt16
  ricReqId : UInt16
  active : Bool
  deriving DecidableEq, Repr

/-- `subscription_registry_t` without its mutex; `count` is the length of
`entries`. -/
structure SubscriptionRegistry where
  entries : List SubscriptionEntry
  capacity : Nat
  deriving DecidableEq, Repr

namespace SubscriptionRegistry

/-- `init_subscription_registry`. -/
def init : SubscriptionRegistry := ⟨[], 32⟩

/-- The key an entry is looked up by. -/
def key (e : SubscriptionEntry) : UInt32 × UInt16 := (e.xappId, e.ranFuncId)

/-- The search loop of `register_subscription`: update the first entry of
the xApp for the RAN function, if there is one. -/
def updateFirst (xappId : UInt32) (ranFuncId ricReqId : UInt16) :
    List SubscriptionEntry → Option (List SubscriptionEntry)
  | [] => none
  | e :: t =>
    if e.xappId == xappId && e.ranFuncId == ranFuncId then
      some ({ e with ricReqId, active := true } :: t)
    else (updateFirst xappId ranFuncId ricReqId t).map (e :: ·)

/-- `register_subscription`; `reallocOk` is whether `realloc` finds memory
when the array is full. -/
def register (r : SubscriptionRegistry) (xappId : UInt32) (ranFuncId ricReqId : UInt16)
    (reallocOk : Bool) : Bool × SubscriptionRegistry :=
  match updateFirst xappId ranFuncId ricReqId r.entries with
  | some entries => (true, { r with entries })
  | none =>
    let entries := r.entries ++ [⟨xappId, ranFuncId, ricReqId, true⟩]
    if r.entries.length ≥ r.capacity then
      if reallocOk then (true, ⟨entries, r.capacity * 2⟩) else (false, r)
    else (true, { r with entries })

/-- The xApps `e2ap_handle_ric_indication_iapp` forwards an indication to:
those of the active entries for its RAN function, in the order of entry. -/
def recipients (r : SubscriptionRegistry) (ranFuncId : UInt16) : List UInt32 :=
  (r.entries.filter fun e => e.active && e.ranFuncId == ranFuncId).map (·.xappId)

/-- All entries are active, with one entry for each xApp and RAN function. -/
structure Ok (r : SubscriptionRegistry) : Prop where
  active : ∀ e ∈ r.entries, e.active = true
  nodup : (r.entries.map key).Nodup

variable {r r' : SubscriptionRegistry} {xappId : UInt32} {ranFuncId ricReqId : UInt16}

theorem updateFirst_eq_some {t t' : List SubscriptionEntry}
    (h : updateFirst xappId ranFuncId ricReqId t = some t') :
    t'.map key = t.map key ∧ (xappId, ranFuncId) ∈ t.map key ∧
      ((∀ e ∈ t, e.active = true) → ∀ e ∈ t', e.active = true) := by
  induction t generalizing t' with
  | nil => simp [updateFirst] at h
  | cons e t ih =>
    simp only [updateFirst] at h
    split at h
    · rename_i hk
      simp only [Bool.and_eq_true, beq_iff_eq] at hk
      cases h
      simp [key, hk.1, hk.2]
    · obtain ⟨u, hu, rfl⟩ := Option.map_eq_some_iff.mp h
      obtain ⟨hkeys, hmem, hact⟩ := ih hu
      refine ⟨by simp [hkeys], List.mem_cons_of_mem _ hmem, fun hall y hy => ?_⟩
      obtain rfl | hy := List.mem_cons.mp hy
      · exact hall _ List.mem_cons_self
      · exact hact (fun z hz => hall z (List.mem_cons_of_mem _ hz)) y hy

theorem updateFirst_eq_none {t : List SubscriptionEntry}
    (h : updateFirst xappId ranFuncId ricReqId t = none) : (xappId, ranFuncId) ∉ t.map key := by
  induction t with
  | nil => simp
  | cons e t ih =>
    simp only [updateFirst] at h
    split at h
    · contradiction
    · rename_i hk
      rw [Option.map_eq_none_iff] at h
      simp only [List.map_cons, List.mem_cons, not_or]
      refine ⟨fun heq => hk ?_, ih h⟩
      simp only [key, Prod.mk.injEq] at heq
      simp [heq.1, heq.2]

theorem Ok.init : Ok SubscriptionRegistry.init := ⟨nofun, .nil⟩

/-- A successful registration adds the key if it is new and keeps the rest. -/
theorem Ok.register (h : Ok r) {reallocOk : Bool}
    (hr : r.register xappId ranFuncId ricReqId reallocOk = (true, r')) :
    Ok r' ∧ ∀ k, k ∈ r'.entries.map key ↔ k = (xappId, ranFuncId) ∨ k ∈ r.entries.map key := by
  have happend : updateFirst xappId ranFuncId ricReqId r.entries = none →
      r'.entries = r.entries ++ [⟨xappId, ranFuncId, ricReqId, true⟩] →
      Ok r' ∧ ∀ k, k ∈ r'.entries.map key ↔ k = (xappId, ranFuncId) ∨ k ∈ r.entries.map key := by
    intro hnone he
    have hnew := updateFirst_eq_none hnone
    refine ⟨⟨?_, ?_⟩, ?_⟩
    · rw [he]
      intro e hm
      obtain hm | hm := List.mem_append.mp hm
      · exact h.active e hm
      · rw [List.mem_singleton.mp hm]
    · rw [he, List.map_append, List.nodup_append]
      refine ⟨h.nodup, by simp, ?_⟩
      rintro a ha b hb rfl
      rw [List.map_singleton, List.mem_singleton] at hb
      subst hb
      exact hnew ha
    · intro k
      rw [he, List.map_append, List.mem_append]
      simp only [List.map_cons, List.map_nil, List.mem_singleton, key]
      exact or_comm
  simp only [SubscriptionRegistry.register] at hr
  split at hr
  · rename_i entries hu
    cases hr
    obtain ⟨hkeys, hmem, hact⟩ := updateFirst_eq_some hu
    refine ⟨⟨hact h.active, by rw [hkeys]; exact h.nodup⟩, fun k => ?_⟩
    rw [hkeys]
    exact ⟨.inr, fun hk => hk.elim (fun heq => heq ▸ hmem) id⟩
  · rename_i hnone
    split at hr
    · split at hr
      · cases hr
        exact happend hnone rfl
      · cases hr
    · cases hr
      exact happend hnone rfl

theorem Ok.mem_recipients (h : Ok r) :
    xappId ∈ r.recipients ranFuncId ↔ (xappId, ranFuncId) ∈ r.entries.map key := by
  simp only [recipients, List.mem_map, List.mem_filter, Bool.and_eq_true, beq_iff_eq, key,
    Prod.mk.injEq]
  constructor
  · rintro ⟨e, ⟨he, -, hf⟩, hx⟩
    exact ⟨e, he, hx, hf⟩
  · rintro ⟨e, he, hx, hf⟩
    exact ⟨e, ⟨he, h.active e he, hf⟩, hx⟩

/-- Nobody gets an indication twice. -/
theorem Ok.recipients_nodup (h : Ok r) : (r.recipients ranFuncId).Nodup := by
  unfold recipients
  have hsub := (List.filter_sublist (p := fun e => e.active && e.ranFuncId == ranFuncId)
    (l := r.entries)).map key
  have hkeys := h.nodup.sublist hsub
  refine List.pairwise_map.mpr ((List.pairwise_map.mp hkeys).imp_of_mem ?_)
  intro a b ha hb hne hx
  simp only [List.mem_filter, Bool.and_eq_true, beq_iff_eq] at ha hb
  exact hne (Prod.ext hx (ha.2.2.trans hb.2.2.symm))

end SubscriptionRegistry

end FlexRic
