import FlexRic.E2ap.NodeIds
import FlexRic.IApp.Tables
import FlexRic.Agent.E2Agent

/-!
# FlexRic.Ds.Keys

The comparators, equality tests and copies of the keys that the tables are sorted and
searched by: E2 node ids, request ids, pending events, indication events and SCTP
addresses.

* `Consistent`: on two keys, the comparator answers, is a total order that agrees
  with the equality test, and does not tell a key from its copy.
* `cmpNodeIdAsserting`: the comparator of node ids wants a `cu_du_id` of a CU and of a
  CU-CP, of which the equality test does not look at it (`keys_consistent`).
-/

namespace FlexRic

universe u

/-- **A comparator, an equality test and a copy on two keys.** -/
structure Consistent {κ : Type u} (cmp : κ → κ → Outcome Int) (eq : κ → κ → Bool) (cp : κ → κ)
    (a b : κ) : Prop where
  answers : ∃ r, cmp a b = .next r ∧ (r = 1 ∨ r = 0 ∨ r = -1)
  swap : cmp a b = .next 1 ↔ cmp b a = .next (-1)
  symm : cmp a b = .next 0 ↔ cmp b a = .next 0
  trans : ∀ d, cmp a b = .next 1 → cmp b d = .next 1 → cmp a d = .next 1
  congr : ∀ d, cmp a b = .next 0 → cmp a d = cmp b d
  agrees : cmp a b = .next 0 ↔ eq a b = true
  copy : cmp a (cp a) = .next 0

/-- A lawful comparator that always answers. -/
theorem LawfulCmp.consistent {κ : Type u} {c : Cmp κ} (hc : LawfulCmp c) {eq : κ → κ → Bool}
    {cp : κ → κ} (heq : ∀ a b, c a b = 0 ↔ eq a b = true) (hcp : ∀ a, cp a = a) (a b : κ) :
    Consistent (fun a b => .next (c a b)) eq cp a b where
  answers := ⟨_, rfl, hc.cases a b⟩
  swap := by
    rw [Outcome.next_inj, Outcome.next_inj]
    exact hc.swap a b
  symm := by
    rw [Outcome.next_inj, Outcome.next_inj]
    exact ⟨hc.symm, hc.symm⟩
  trans d h₁ h₂ := by
    rw [Outcome.next_inj] at h₁ h₂ ⊢
    exact hc.trans a b d h₁ h₂
  congr d h := by rw [hc.congr a b d (Outcome.next_inj.mp h)]
  agrees := by
    rw [Outcome.next_inj]
    exact heq a b
  copy := by rw [hcp, hc.refl]

/-! ## Addresses -/

/-- `cmp_sctp_info_wrapper` of two pointers: NULL comes first. -/
def cmpSctpInfoWrapper : Cmp (Option SctpInfo)
  | none, none => 0
  | none, some _ => 1
  | some _, none => -1
  | some m0, some m1 => cmpSctpInfo m0 m1

/-- `eq_sctp_info_wrapper` of two pointers. -/
def eqSctpInfoWrapper (m0 m1 : Option SctpInfo) : Bool := cmpSctpInfoWrapper m0 m1 == 0

theorem lawful_cmpSctpInfoWrapper : LawfulCmp cmpSctpInfoWrapper where
  cases a b := by
    cases a <;> cases b <;> simp [cmpSctpInfoWrapper]
    exact lawful_cmpSctpInfo.cases _ _
  swap a b := by
    cases a <;> cases b <;> simp [cmpSctpInfoWrapper]
    exact lawful_cmpSctpInfo.swap _ _
  trans a b d := by
    cases a <;> cases b <;> cases d <;> simp [cmpSctpInfoWrapper]
    exact lawful_cmpSctpInfo.trans _ _ _
  congr a b d := by
    cases a <;> cases b <;> cases d <;> simp [cmpSctpInfoWrapper]
    exact lawful_cmpSctpInfo.congr _ _ _

/-! ## Node ids -/

/-- `cp_global_e2_node_id`. -/
def cpGlobalE2NodeId (src : GlobalE2NodeId) : GlobalE2NodeId where
  type := src.type
  plmn := ⟨src.plmn.mcc, src.plmn.mnc, src.plmn.mncDigitLen⟩
  nbId := src.nbId
  cuDuId := src.cuDuId
  hasCuDuId := src.hasCuDuId

/-- The fields that `cmp_global_e2_node_id` compares first. -/
def cmpNodeFields : Cmp GlobalE2NodeId :=
  thenBy (cmpDesc (·.type.code)) (thenBy (fun a b => cmpE2apPlmn a.plmn b.plmn)
    (thenBy (cmpDesc (·.nbId.nbId)) (cmpAsc (·.nbId.unused))))

/-- The types of which the comparator wants a `cu_du_id`. -/
def NgranNode.comparesCuDuId (t : NgranNode) : Bool := t.isCu || t.isCuup || t.isDu

/-- `cmp_global_e2_node_id`, with its assertion that both keys have a `cu_du_id`. -/
def cmpNodeIdAsserting (m0 m1 : GlobalE2NodeId) : Outcome Int :=
  if cmpNodeFields m0 m1 ≠ 0 then return cmpNodeFields m0 m1
  else if m0.type.comparesCuDuId then do
    .assert (m0.cuDuId.isSome && m1.cuDuId.isSome) "m0->cu_du_id != NULL && m1->cu_du_id != NULL"
    return cmpDesc (fun id : GlobalE2NodeId => id.cuDuId.getD 0) m0 m1
  else return 0

/-- The fields agree. -/
def SameFields (a b : GlobalE2NodeId) : Prop := a.type = b.type ∧ a.plmn = b.plmn ∧ a.nbId = b.nbId

theorem lawful_cmpNodeFields : LawfulCmp cmpNodeFields :=
  (lawful_cmpDesc _).thenBy ((lawful_cmpE2apPlmn.comap _).thenBy
    ((lawful_cmpDesc _).thenBy (lawful_cmpAsc _)))

theorem cmpNodeFields_eq_zero {a b : GlobalE2NodeId} : cmpNodeFields a b = 0 ↔ SameFields a b := by
  rw [cmpNodeFields, thenBy_eq_zero, thenBy_eq_zero, thenBy_eq_zero, cmpDesc_eq_zero,
    cmpE2apPlmn_eq_zero, cmpDesc_eq_zero, cmpAsc_eq_zero, SameFields,
    NgranNode.code_injective.eq_iff]
  cases a.nbId
  cases b.nbId
  simp

/-- The ids of CUs and CU-CPs: of the types that the comparator compares the `cu_du_id` of, those
that the equality test does not. -/
def NgranNode.onlyCompared (t : NgranNode) : Bool := t.comparesCuDuId && !(t.isCuup || t.isDu)

/-- **No CU or CU-CP without a `cu_du_id`, and no two that differ in it alone.** -/
def CuIdsAgree (a b : GlobalE2NodeId) : Prop :=
  a.type.onlyCompared = true →
    a.cuDuId.isSome = true ∧ (SameFields a b → a.cuDuId = b.cuDuId)

theorem SameFields.symm {a b : GlobalE2NodeId} (h : SameFields a b) : SameFields b a :=
  ⟨h.1.symm, h.2.1.symm, h.2.2.symm⟩

/-- The comparator looks at no `cu_du_id`, or finds both. -/
def Answers (a b : GlobalE2NodeId) : Prop :=
  SameFields a b → a.type.comparesCuDuId = true →
    a.cuDuId.isSome = true ∧ b.cuDuId.isSome = true

theorem cmpGlobalE2NodeId_eq :
    cmpGlobalE2NodeId = thenBy cmpNodeFields (cmpDesc cuDuKey) := by
  rw [cmpNodeFields, thenBy_assoc, thenBy_assoc, thenBy_assoc]
  rfl

theorem cuDuKey_of_compares {a : GlobalE2NodeId} (h : a.type.comparesCuDuId = true) :
    cuDuKey a = a.cuDuId.getD 0 := if_pos h

theorem cuDuKey_of_not {a : GlobalE2NodeId} (h : ¬ a.type.comparesCuDuId = true) :
    cuDuKey a = 0 := if_neg h

/-- Where it answers, it is the comparator that reads a missing `cu_du_id` as zero. -/
theorem cmpNodeIdAsserting_of_answers {a b : GlobalE2NodeId} (h : Answers a b) :
    cmpNodeIdAsserting a b = .next (cmpGlobalE2NodeId a b) := by
  rw [cmpNodeIdAsserting, cmpGlobalE2NodeId_eq, thenBy]
  by_cases hfields : cmpNodeFields a b = 0
  · have hsame := cmpNodeFields_eq_zero.mp hfields
    rw [if_neg (not_not_intro hfields), if_pos hfields]
    by_cases hc : a.type.comparesCuDuId = true
    · obtain ⟨ha, hb⟩ := h hsame hc
      have hcb : b.type.comparesCuDuId = true := hsame.1 ▸ hc
      rw [if_pos hc, ha, hb]
      show Outcome.next _ = _
      rw [cmpDesc, cmpAsc, cmpDesc, cmpAsc, cuDuKey_of_compares hc, cuDuKey_of_compares hcb]
    · have hcb : ¬ b.type.comparesCuDuId = true := hsame.1 ▸ hc
      have hzero : cmpDesc cuDuKey a b = 0 := by
        rw [cmpDesc_eq_zero, cuDuKey_of_not hc, cuDuKey_of_not hcb]
      rw [if_neg hc, hzero]
      rfl
  · rw [if_pos hfields, if_neg hfields]
    rfl

theorem answers_of_next {a b : GlobalE2NodeId} {r : Int} (h : cmpNodeIdAsserting a b = .next r) :
    Answers a b := by
  intro hsame hc
  rw [cmpNodeIdAsserting, if_neg (not_not_intro (cmpNodeFields_eq_zero.mpr hsame)), if_pos hc] at h
  obtain ⟨_, hassert, -⟩ := Outcome.bind_eq_next.mp h
  exact Bool.and_eq_true_iff.mp (Outcome.assert_eq_next.mp hassert)

theorem cmpNodeIdAsserting_eq_next {a b : GlobalE2NodeId} {r : Int} :
    cmpNodeIdAsserting a b = .next r ↔ Answers a b ∧ cmpGlobalE2NodeId a b = r := by
  constructor
  · intro h
    have hanswers := answers_of_next h
    rw [cmpNodeIdAsserting_of_answers hanswers, Outcome.next_inj] at h
    exact ⟨hanswers, h⟩
  · rintro ⟨hanswers, rfl⟩
    exact cmpNodeIdAsserting_of_answers hanswers

/-- Keys that compare as equal agree on what is compared. -/
theorem cmpNodeIdAsserting_eq_zero {a b : GlobalE2NodeId} :
    cmpNodeIdAsserting a b = .next 0 ↔ SameFields a b ∧
      (a.type.comparesCuDuId = true → ∃ x, a.cuDuId = some x ∧ b.cuDuId = some x) := by
  rw [cmpNodeIdAsserting_eq_next, cmpGlobalE2NodeId_eq, thenBy_eq_zero, cmpNodeFields_eq_zero,
    cmpDesc_eq_zero]
  constructor
  · rintro ⟨hanswers, hsame, hkey⟩
    refine ⟨hsame, fun hc => ?_⟩
    obtain ⟨ha, hb⟩ := hanswers hsame hc
    obtain ⟨x, hx⟩ := Option.isSome_iff_exists.mp ha
    obtain ⟨y, hy⟩ := Option.isSome_iff_exists.mp hb
    have hcb : b.type.comparesCuDuId = true := hsame.1 ▸ hc
    rw [cuDuKey_of_compares hc, cuDuKey_of_compares hcb, hx, hy] at hkey
    exact ⟨x, hx, hy.trans (congrArg some hkey.symm)⟩
  · rintro ⟨hsame, hids⟩
    refine ⟨fun _ hc => ?_, hsame, ?_⟩
    · obtain ⟨x, hx, hy⟩ := hids hc
      rw [hx, hy]
      exact ⟨rfl, rfl⟩
    · by_cases hc : a.type.comparesCuDuId = true
      · obtain ⟨x, hx, hy⟩ := hids hc
        have hcb : b.type.comparesCuDuId = true := hsame.1 ▸ hc
        rw [cuDuKey_of_compares hc, cuDuKey_of_compares hcb, hx, hy]
      · have hcb : ¬ b.type.comparesCuDuId = true := hsame.1 ▸ hc
        rw [cuDuKey_of_not hc, cuDuKey_of_not hcb]

theorem eqGlobalE2NodeId_iff {a b : GlobalE2NodeId} : eqGlobalE2NodeId a b = true ↔
    SameFields a b ∧ ((a.type.isCuup || a.type.isDu) = true → a.cuDuId = b.cuDuId) := by
  simp only [eqGlobalE2NodeId, Bool.and_eq_true, beq_iff_eq, Bool.or_eq_true, Bool.not_eq_true',
    SameFields, ← Bool.not_eq_true, and_assoc, imp_iff_not_or]

/-- The types that both look at. -/
theorem NgranNode.compares_of_both {t : NgranNode} (h : (t.isCuup || t.isDu) = true) :
    t.comparesCuDuId = true := by
  rw [NgranNode.comparesCuDuId, Bool.or_assoc, h, Bool.or_true]

theorem NgranNode.compares_cases {t : NgranNode} (h : t.comparesCuDuId = true) :
    (t.isCuup || t.isDu) = true ∨ t.onlyCompared = true := by
  rw [NgranNode.onlyCompared, h, Bool.true_and]
  cases t.isCuup || t.isDu <;> simp

theorem CuIdsAgree.answers {a b : GlobalE2NodeId} (h : CuIdsAgree a b) : Answers a b := by
  intro hsame hc
  obtain hboth | honly := NgranNode.compares_cases hc
  · exact ⟨a.hasCuDuId hboth, b.hasCuDuId (hsame.1 ▸ hboth)⟩
  · obtain ⟨ha, heq⟩ := h honly
    exact ⟨ha, heq hsame ▸ ha⟩

theorem Answers.symm {a b : GlobalE2NodeId} (h : Answers a b) : Answers b a :=
  fun hsame hc => (h hsame.symm (hsame.1 ▸ hc)).symm

theorem cmpNodeIdAsserting_trans {a b d : GlobalE2NodeId} (h₁ : cmpNodeIdAsserting a b = .next 1)
    (h₂ : cmpNodeIdAsserting b d = .next 1) : cmpNodeIdAsserting a d = .next 1 := by
  rw [cmpNodeIdAsserting_eq_next] at h₁ h₂ ⊢
  obtain ⟨hab, h₁⟩ := h₁
  obtain ⟨hbd, h₂⟩ := h₂
  refine ⟨fun hsame hc => ?_, lawful_cmpGlobalE2NodeId.trans a b d h₁ h₂⟩
  -- if the fields of the outer keys agree, so do those of the one between
  have hfields := lawful_cmpNodeFields
  have had := cmpNodeFields_eq_zero.mpr hsame
  rw [cmpGlobalE2NodeId_eq, thenBy] at h₁ h₂
  have hzero : cmpNodeFields a b = 0 := by
    by_contra hne
    rw [if_neg hne] at h₁
    have hba := (hfields.swap a b).mp h₁
    rw [hfields.congr_right (hfields.symm had), hba, if_neg (by decide)] at h₂
    exact absurd h₂ (by decide)
  have hab' := cmpNodeFields_eq_zero.mp hzero
  have hbd' : SameFields b d :=
    cmpNodeFields_eq_zero.mp ((hfields.congr a b d hzero).symm.trans had)
  exact ⟨(hab hab' hc).1, (hbd hbd' (hab'.1 ▸ hc)).2⟩

/-- Keys that compare as equal compare alike with any other. -/
theorem cmpNodeIdAsserting_congr {a b : GlobalE2NodeId} (h : cmpNodeIdAsserting a b = .next 0)
    (d : GlobalE2NodeId) : cmpNodeIdAsserting a d = cmpNodeIdAsserting b d := by
  obtain ⟨hsame, hids⟩ := cmpNodeIdAsserting_eq_zero.mp h
  have hfields := lawful_cmpNodeFields.congr a b d (cmpNodeFields_eq_zero.mpr hsame)
  rw [cmpNodeIdAsserting, cmpNodeIdAsserting, hfields, ← hsame.1]
  by_cases hc : a.type.comparesCuDuId = true
  · obtain ⟨x, hx, hy⟩ := hids hc
    simp only [cmpDesc, cmpAsc, hx, hy]
  · rw [if_neg hc, if_neg hc]

theorem nodeId_consistent (a b : GlobalE2NodeId) :
    Consistent cmpNodeIdAsserting eqGlobalE2NodeId cpGlobalE2NodeId a b ↔ CuIdsAgree a b := by
  constructor
  · intro h honly
    have hc : a.type.comparesCuDuId = true := (Bool.and_eq_true_iff.mp honly).1
    have hneither : (a.type.isCuup || a.type.isDu) ≠ true := by
      rw [NgranNode.onlyCompared, hc, Bool.true_and, Bool.not_eq_true'] at honly
      rw [honly]
      exact Bool.false_ne_true
    obtain ⟨-, hcopy⟩ := cmpNodeIdAsserting_eq_zero.mp h.copy
    obtain ⟨x, hx, -⟩ := hcopy hc
    refine ⟨by rw [hx]; rfl, fun hsame => ?_⟩
    have heq := eqGlobalE2NodeId_iff.mpr ⟨hsame, fun hboth => absurd hboth hneither⟩
    obtain ⟨-, hids⟩ := cmpNodeIdAsserting_eq_zero.mp (h.agrees.mpr heq)
    obtain ⟨y, hy, hy'⟩ := hids hc
    rw [hy, hy']
  · intro h
    have hlaw := lawful_cmpGlobalE2NodeId
    have hab := h.answers
    refine ⟨⟨_, cmpNodeIdAsserting_of_answers hab, hlaw.cases a b⟩, ?_, ?_,
      fun d => cmpNodeIdAsserting_trans, fun d hzero => cmpNodeIdAsserting_congr hzero d, ?_, ?_⟩
    · rw [cmpNodeIdAsserting_of_answers hab, cmpNodeIdAsserting_of_answers hab.symm,
        Outcome.next_inj, Outcome.next_inj]
      exact hlaw.swap a b
    · rw [cmpNodeIdAsserting_of_answers hab, cmpNodeIdAsserting_of_answers hab.symm,
        Outcome.next_inj, Outcome.next_inj]
      exact ⟨hlaw.symm, hlaw.symm⟩
    · rw [cmpNodeIdAsserting_eq_zero, eqGlobalE2NodeId_iff]
      refine and_congr_right fun hsame => ⟨fun hids hboth => ?_, fun heq hc => ?_⟩
      · obtain ⟨x, hx, hy⟩ := hids (NgranNode.compares_of_both hboth)
        rw [hx, hy]
      · obtain ⟨ha, hb⟩ := hab hsame hc
        obtain ⟨x, hx⟩ := Option.isSome_iff_exists.mp ha
        refine ⟨x, hx, ?_⟩
        obtain hboth | honly := NgranNode.compares_cases hc
        · rw [← heq hboth, hx]
        · rw [← (h honly).2 hsame, hx]
    · have hcopy : cpGlobalE2NodeId a = a := rfl
      rw [hcopy, cmpNodeIdAsserting_eq_zero]
      refine ⟨⟨rfl, rfl, rfl⟩, fun hc => ?_⟩
      have ha : a.cuDuId.isSome = true := by
        obtain hboth | honly := NgranNode.compares_cases hc
        · exact a.hasCuDuId hboth
        · exact (h honly).1
      obtain ⟨x, hx⟩ := Option.isSome_iff_exists.mp ha
      exact ⟨x, hx, hx⟩

/-! ## All keys -/

/-- Two keys of one kind. -/
inductive KeyPair where
  | globalE2NodeId (a b : GlobalE2NodeId)
  | ricGenId (a b : RicGenId)
  | pendingEventRic (a b : PendingEventRic)
  | indEvent (a b : IndEvent)
  | sctpInfo (a b : Option SctpInfo)

namespace KeyPair

/-- The comparator, the equality test and the copy of the kind; all but a node id are copied as
they are.  `eq_ind_event` gets a pointer to the id that an event begins with. -/
def IsConsistent : KeyPair → Prop
  | globalE2NodeId a b => Consistent cmpNodeIdAsserting eqGlobalE2NodeId cpGlobalE2NodeId a b
  | ricGenId a b => Consistent (fun m0 m1 => .next (cmpRicGenId m0 m1)) eqRicGenId id a b
  | pendingEventRic a b =>
    Consistent (fun m0 m1 => .next (cmpPendingEventRic m0 m1)) eqPendingEventRic id a b
  | indEvent a b => Consistent (fun m0 m1 => .next (cmpIndEvent m0 m1))
      (fun value key => eqIndEvent value.ricId key) id a b
  | sctpInfo a b =>
    Consistent (fun m0 m1 => .next (cmpSctpInfoWrapper m0 m1)) eqSctpInfoWrapper id a b

/-- Of the kinds, only node ids are ever inconsistent. -/
def Comparable : KeyPair → Prop
  | globalE2NodeId a b => CuIdsAgree a b
  | _ => True

end KeyPair

/-- **The keys of the tables.** On two keys, the comparator is an order that agrees with the
equality test and the copy, if and only if they are not ids of a CU or of a CU-CP without a
`cu_du_id` or with different ones. -/
theorem keys_consistent (p : KeyPair) : p.IsConsistent ↔ p.Comparable := by
  cases p with
  | globalE2NodeId a b => exact nodeId_consistent a b
  | ricGenId a b =>
    refine iff_of_true (lawful_cmpRicGenId.consistent (fun a b => ?_) (fun _ => rfl) a b) trivial
    rw [cmpRicGenId_eq_zero, eqRicGenId_iff]
  | pendingEventRic a b =>
    refine iff_of_true (lawful_cmpPendingEventRic.consistent (fun a b => ?_) (fun _ => rfl) a b)
      trivial
    rw [cmpPendingEventRic_eq_zero, eqPendingEventRic_iff]
  | indEvent a b =>
    refine iff_of_true (lawful_cmpIndEvent.consistent (fun a b => ?_) (fun _ => rfl) a b) trivial
    rw [cmpIndEvent_eq_zero, eqIndEvent, eqRicGenId_iff]
  | sctpInfo a b =>
    refine iff_of_true (lawful_cmpSctpInfoWrapper.consistent (fun a b => ?_) (fun _ => rfl) a b)
      trivial
    rw [eqSctpInfoWrapper, beq_iff_eq]

/-- Two CUs that differ in their `cu_du_id` alone, and a CU without one: the equality test says
that they are equal, the comparator tells them apart, and ends the process. -/
theorem cu_inconsistent :
    let cu (cuDuId : Option UInt64) : GlobalE2NodeId :=
      ⟨.gNBCU, ⟨505, 1, 2⟩, ⟨7, 0⟩, cuDuId, nofun⟩
    eqGlobalE2NodeId (cu (some 1)) (cu (some 2)) = true ∧
      cmpNodeIdAsserting (cu (some 1)) (cu (some 2)) = .next (-1) ∧
      (cmpNodeIdAsserting (cu none) (cu none)).Aborts ∧
      ¬ (KeyPair.globalE2NodeId (cu (some 1)) (cu (some 2))).IsConsistent := by
  intro cu
  have heq : eqGlobalE2NodeId (cu (some 1)) (cu (some 2)) = true := by decide
  have hcmp : cmpNodeIdAsserting (cu (some 1)) (cu (some 2)) = .next (-1) := by decide
  refine ⟨heq, hcmp, ⟨_, rfl⟩, fun h => ?_⟩
  have hzero := h.agrees.mpr heq
  rw [hcmp, Outcome.next_inj] at hzero
  exact absurd hzero (by decide)

end FlexRic
