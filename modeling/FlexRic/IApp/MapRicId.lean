import FlexRic.Ds.Bimap
import FlexRic.E2ap.Ids

/-!
# FlexRic.IApp.MapRicId

`map_ric_id.c`: which xApp request stands behind a RIC request id on the E2
interface.

Both comparators of the left tree and its equality test look at the RIC
request id only.  The equality test of the right tree compares an xApp id
with itself, so it looks at the RIC request id only, too.

* `findRicReqEntry_own`: when the lookup of an xApp's request returns an
  entry of that xApp;
* `findAllSubs_exact`: when the subscriptions found for an xApp are all of
  its entries.
-/

namespace FlexRic

/-- `e2_node_ric_id_t`: a request under its id on the E2 interface. -/
structure E2NodeRicId where
  ricId : RicGenId
  e2NodeId : GlobalE2NodeId
  ricReqType : RicReqType
  deriving DecidableEq

/-- `cmp_e2_node_ric_req_wrapper`. -/
def cmpE2NodeRicReq : Cmp E2NodeRicId := cmpDesc (·.ricId.ricReqId)

/-- `eq_e2_node_ric_req`. -/
def eqE2NodeRicReq (m0 m1 : E2NodeRicId) : Bool := m0.ricId.ricReqId == m1.ricId.ricReqId

/-- `cmp_xapp_ric_gen_id`. -/
def cmpXappRicGenId : Cmp XappRicId :=
  thenBy (cmpAsc (·.xappId)) (fun m0 m1 => cmpRicGenId m0.ricId m1.ricId)

/-- `eq_xapp_id`. -/
def eqXappId (m0 m1 : UInt16) : Bool := m0 == m1

/-- `eq_xapp_ric_gen_id`, with `m0->xapp_id` on both sides of the test. -/
def eqXappRicGenId (m0 m1 : XappRicId) : Bool :=
  if eqXappId m0.xappId m0.xappId == false then false else eqRicGenId m0.ricId m1.ricId

theorem lawful_cmpE2NodeRicReq : LawfulCmp cmpE2NodeRicReq := lawful_cmpDesc _

theorem lawful_cmpXappRicGenId : LawfulCmp cmpXappRicGenId :=
  (lawful_cmpAsc _).thenBy (lawful_cmpRicGenId.comap _)

@[simp] theorem cmpE2NodeRicReq_eq_zero {m0 m1 : E2NodeRicId} :
    cmpE2NodeRicReq m0 m1 = 0 ↔ m0.ricId.ricReqId = m1.ricId.ricReqId :=
  cmpDesc_eq_zero

@[simp] theorem cmpXappRicGenId_eq_zero {m0 m1 : XappRicId} :
    cmpXappRicGenId m0 m1 = 0 ↔ m0 = m1 := by
  rw [cmpXappRicGenId, thenBy_eq_zero, cmpAsc_eq_zero, cmpRicGenId_eq_zero]
  cases m0
  cases m1
  simp only [XappRicId.mk.injEq]
  exact and_comm

/-- The xApp id is not looked at. -/
@[simp] theorem eqXappRicGenId_iff {m0 m1 : XappRicId} :
    eqXappRicGenId m0 m1 = true ↔ m0.ricId = m1.ricId := by
  simp [eqXappRicGenId, eqXappId]

/-- Between two requests under one RIC id, the smaller xApp id goes left. -/
theorem cmpXappRicGenId_eq_one {m0 m1 : XappRicId} (h : m0.ricId = m1.ricId) :
    cmpXappRicGenId m0 m1 = 1 ↔ m0.xappId < m1.xappId := by
  have hric : cmpRicGenId m0.ricId m1.ricId = 0 := cmpRicGenId_eq_zero.mpr h
  rw [cmpXappRicGenId, thenBy]
  split
  · rename_i hx
    rw [cmpAsc_eq_zero] at hx
    rw [hric, hx]
    simp
  · exact cmpAsc_eq_one

/-- `map_ric_id_t` without its lock. -/
abbrev MapRicId := Bimap E2NodeRicId XappRicId

/-- What a second `pthread_rwlock_wrlock` of the thread that holds the lock
does: POSIX allows an `EDEADLK` and a deadlock. -/
inductive Relock where
  | edeadlk
  | deadlock
  deriving DecidableEq, Repr

namespace MapRicId

/-- `bi_map_insert` on the map. -/
def insert (map : MapRicId) (node : E2NodeRicId) (xapp : XappRicId) : Outcome MapRicId :=
  Bimap.insert cmpE2NodeRicReq cmpXappRicGenId map node xapp

/-- `add_map_ric_id`, called by a thread that may hold the write lock.  When
the lock is refused the error is logged and the map stays as it is. -/
def addMapRicId (relock : Relock) (held : Bool) (map : MapRicId) (node : E2NodeRicId)
    (xapp : XappRicId) (picks : Picks) : Outcome MapRicId := do
  if held then
    match relock with
    | .edeadlk => return map
    | .deadlock => .blocked
  else
    match OrdAssoc.findIf (eqE2NodeRicReq node) map.left with
    | some _ =>
      let (_, map) ← Bimap.extractLeft cmpE2NodeRicReq cmpXappRicGenId map node picks
      insert map node xapp
    | none => insert map node xapp

/-- `rm_map_ric_id`. -/
def rmMapRicId (map : MapRicId) (xapp : XappRicId) (picks : Picks) : Outcome MapRicId := do
  let (_, map) ← Bimap.extractRight cmpE2NodeRicReq cmpXappRicGenId map xapp picks
  return map

/-- `find_xapp_map_ric_id`. -/
def findXappMapRicId (map : MapRicId) (ricReqId : UInt16) : Option XappRicId :=
  (OrdAssoc.findIf (fun n => ricReqId.toUInt32 == n.ricId.ricReqId) map.left).map Prod.snd

/-- The entry `find_ric_req_map_ric_id` stops at. -/
def findRicReqEntry (map : MapRicId) (x : XappRicId) : Option (XappRicId × E2NodeRicId) :=
  OrdAssoc.findIf (eqXappRicGenId x) map.right

/-- `find_ric_req_map_ric_id`. -/
def findRicReqMapRicId (map : MapRicId) (x : XappRicId) : Outcome E2NodeRicId := do
  let e ← .expect (map.findRicReqEntry x) "Not found xApp RIC ID "
  return e.2

/-- `find_all_subs_map_ric_id`. -/
def findAllSubsMapRicId (map : MapRicId) (xappId : UInt16) : List E2NodeRicId :=
  (map.right.filter fun e => xappId == e.1.xappId && e.2.ricReqType == .subscription).map Prod.snd

variable {map map' : MapRicId} {node n : E2NodeRicId} {x xapp : XappRicId} {picks : Picks}

theorem insert_eq :
    insert map node xapp = .next (Bimap.inserted cmpE2NodeRicReq cmpXappRicGenId map node xapp) :=
  Bimap.insert_eq lawful_cmpE2NodeRicReq lawful_cmpXappRicGenId

/-- While the caller holds the lock, `add_map_ric_id` never changes the map. -/
theorem addMapRicId_held {relock : Relock} :
    addMapRicId relock true map node xapp picks = .next map' ↔
      relock = .edeadlk ∧ map' = map := by
  cases relock with
  | edeadlk => simp [addMapRicId, eq_comm]
  | deadlock => simp [addMapRicId]

theorem rmMapRicId_sublist (h : map.rmMapRicId xapp picks = .next map') :
    map'.left.Sublist map.left ∧ map'.right.Sublist map.right := by
  simp only [rmMapRicId, Outcome.bind_eq_next, Outcome.pure_eq, Outcome.next_inj] at h
  obtain ⟨⟨n, m⟩, hx, rfl⟩ := h
  exact Bimap.extractRight_sublist hx

theorem rmMapRicId_removed (hm : Bimap.Bijective cmpE2NodeRicReq cmpXappRicGenId map)
    (h : map.rmMapRicId xapp picks = .next map') : ∃ n, Bimap.RemovedPair map n xapp map' := by
  simp only [rmMapRicId, Outcome.bind_eq_next, Outcome.pure_eq, Outcome.next_inj] at h
  obtain ⟨⟨n, m⟩, hx, rfl⟩ := h
  obtain ⟨b, hb, hr⟩ := Bimap.extractRight_spec lawful_cmpE2NodeRicReq hm.mirror hm.left hx
  rw [cmpXappRicGenId_eq_zero] at hb
  exact ⟨n, hb ▸ hr⟩

/-- Where the right tree pairs requests under one RIC request id, the entry
that leaves the left tree goes by the request id of the one removed. -/
theorem rmMapRicId_left (h : map.rmMapRicId xapp picks = .next map')
    (hm : ∀ e ∈ map.right, e.1.ricId.ricReqId = e.2.ricId.ricReqId) :
    ∃ y, y.1.ricId.ricReqId = xapp.ricId.ricReqId ∧ map.left.Perm (y :: map'.left) := by
  simp only [rmMapRicId, Outcome.bind_eq_next, Outcome.pure_eq, Outcome.next_inj] at h
  obtain ⟨⟨n, m⟩, hx, rfl⟩ := h
  obtain ⟨b, y, hb, hy, -, hmem, -, -, hperm, -⟩ :=
    Bimap.extractFrom_eq_next (Bimap.extractRight_eq_next hx)
  rw [cmpXappRicGenId_eq_zero] at hb
  rw [cmpE2NodeRicReq_eq_zero] at hy
  exact ⟨y, by rw [← hy, ← hm _ hmem, hb], hperm⟩

/-! ## Lookup by the id on the E2 interface -/

theorem findXapp_mem {ricReqId : UInt16} (h : map.findXappMapRicId ricReqId = some x) :
    ∃ n, (n, x) ∈ map.left ∧ n.ricId.ricReqId = ricReqId.toUInt32 := by
  simp only [findXappMapRicId, Option.map_eq_some_iff] at h
  obtain ⟨e, he, rfl⟩ := h
  have hk := OrdAssoc.findIf_key he
  exact ⟨e.1, OrdAssoc.mem_of_findIf he, (beq_iff_eq.mp hk).symm⟩

theorem findXapp_eq_none {ricReqId : UInt16} :
    map.findXappMapRicId ricReqId = none ↔
      ∀ e ∈ map.left, e.1.ricId.ricReqId ≠ ricReqId.toUInt32 := by
  simp only [findXappMapRicId, Option.map_eq_none_iff, OrdAssoc.findIf_eq_none, beq_eq_false_iff_ne]
  exact ⟨fun h e he heq => h e he heq.symm, fun h e he heq => h e he heq.symm⟩

/-! ## Lookup by the xApp's id -/

/-- **Whose entry is found.** In a sorted map the lookup of request `x`
returns an entry of the same xApp exactly when the xApp has that request and
no xApp with a smaller id has a request under the same RIC id. -/
theorem findRicReqEntry_own (hs : OrdAssoc.Sorted cmpXappRicGenId map.right) :
    (∃ e, map.findRicReqEntry x = some e ∧ e.1.xappId = x.xappId) ↔
      (∃ n, (x, n) ∈ map.right) ∧
        ∀ e ∈ map.right, e.1.ricId = x.ricId → x.xappId ≤ e.1.xappId := by
  have hleast : ∀ e y, map.findRicReqEntry x = some e → y ∈ map.right → y.1.ricId = x.ricId →
      e.1.xappId ≤ y.1.xappId := by
    intro e y he hy hid
    have hkey := eqXappRicGenId_iff.mp (OrdAssoc.findIf_key he)
    obtain rfl | hnot := OrdAssoc.findIf_leftmost hs he hy (eqXappRicGenId_iff.mpr hid.symm)
    · exact Std.le_refl _
    · rw [Ne, cmpXappRicGenId_eq_one (hid.trans hkey)] at hnot
      exact Std.not_lt.mp hnot
  constructor
  · rintro ⟨e, he, hx⟩
    have hkey := eqXappRicGenId_iff.mp (OrdAssoc.findIf_key he)
    have hmem := OrdAssoc.mem_of_findIf he
    have heq : e.1 = x := XappRicId.ext hkey.symm hx
    refine ⟨⟨e.2, heq ▸ hmem⟩, fun y hy hid => ?_⟩
    rw [← hx]
    exact hleast e y he hy hid
  · rintro ⟨⟨n, hn⟩, hall⟩
    obtain ⟨e, he⟩ := OrdAssoc.findIf_isSome (p := eqXappRicGenId x) hn
      (eqXappRicGenId_iff.mpr rfl)
    have hkey := eqXappRicGenId_iff.mp (OrdAssoc.findIf_key he)
    refine ⟨e, he, Std.le_antisymm (hleast e (x, n) he hn rfl) ?_⟩
    exact hall e (OrdAssoc.mem_of_findIf he) hkey.symm

/-- The entry found for a request has that request's RIC id. -/
theorem findRicReqMapRicId_mem (h : map.findRicReqMapRicId x = .next n) :
    ∃ y, map.findRicReqEntry x = some (y, n) ∧ (y, n) ∈ map.right ∧ y.ricId = x.ricId := by
  simp only [findRicReqMapRicId, Outcome.bind_eq_next, Outcome.expect_eq_next, Outcome.pure_eq,
    Outcome.next_inj] at h
  obtain ⟨e, he, rfl⟩ := h
  exact ⟨e.1, he, OrdAssoc.mem_of_findIf he,
    (eqXappRicGenId_iff.mp (OrdAssoc.findIf_key he)).symm⟩

theorem mem_findAllSubs {xappId : UInt16} :
    n ∈ map.findAllSubsMapRicId xappId ↔
      ∃ y, (y, n) ∈ map.right ∧ y.xappId = xappId ∧ n.ricReqType = .subscription := by
  simp only [findAllSubsMapRicId, List.mem_map, List.mem_filter, Bool.and_eq_true, beq_iff_eq]
  constructor
  · rintro ⟨e, ⟨he, hx, ht⟩, rfl⟩
    exact ⟨e.1, he, hx.symm, ht⟩
  · rintro ⟨y, hy, hx, ht⟩
    exact ⟨(y, n), ⟨hy, hx.symm, ht⟩, rfl⟩

/-- **All entries of an xApp.** The subscriptions found are the entries of
the xApp, in their order, exactly when none of them is a control. -/
theorem findAllSubs_exact {xappId : UInt16} :
    map.findAllSubsMapRicId xappId = (map.right.filter fun e => e.1.xappId == xappId).map Prod.snd ↔
      ∀ e ∈ map.right, e.1.xappId = xappId → e.2.ricReqType = .subscription := by
  constructor
  · intro h e he hx
    have hmem : e.2 ∈ map.findAllSubsMapRicId xappId := by
      rw [h]
      exact List.mem_map.mpr ⟨e, List.mem_filter.mpr ⟨he, beq_iff_eq.mpr hx⟩, rfl⟩
    obtain ⟨-, -, -, ht⟩ := mem_findAllSubs.mp hmem
    exact ht
  · intro h
    have hsame : ∀ e ∈ map.right,
        (xappId == e.1.xappId && e.2.ricReqType == .subscription) = (e.1.xappId == xappId) := by
      intro e he
      by_cases hx : e.1.xappId = xappId
      · simp [hx, h e he hx]
      · rw [beq_eq_false_iff_ne.mpr hx, beq_eq_false_iff_ne.mpr (Ne.symm hx), Bool.false_and]
    rw [findAllSubsMapRicId, List.filter_congr hsame]

end MapRicId

end FlexRic
