import FlexRic.Codec.MessageValues
import FlexRic.Lib.Plans

/-!
# FlexRic.Codec.MessageComparisons

When the copies and comparisons of E2AP messages are right.

* A plan for each comparison (`plan`), and that the comparison of the source does what it says
  (`answer_eqE2NodeConnected` and the like).
* `Check`: what is asked of a function.  `messages_checked`: when the function does it.
-/

namespace FlexRic.Codec

open Outcome Answers

/-! ## What the comparisons look at -/

theorem eqRanFunction_iff {m0 m1 : RanFunction} : eqRanFunction m0 m1 = true ↔ m0 = m1 := by
  cases m0
  cases m1
  simp [eqRanFunction, and_assoc]

theorem eqRejectedRanFunction_iff {m0 m1 : RejectedRanFunction} :
    eqRejectedRanFunction m0 m1 = true ↔ m0 = m1 := by
  cases m0
  cases m1
  simp [eqRejectedRanFunction]

theorem eqGlobalRicId_iff {m0 m1 : GlobalRicId} : eqGlobalRicId m0 m1 = true ↔ m0 = m1 := by
  cases m0
  cases m1
  simp [eqGlobalRicId]

theorem eqRicActionNotAdmitted_iff {m0 m1 : RicActionNotAdmitted} :
    eqRicActionNotAdmitted m0 m1 = true ↔ m0 = m1 := by
  cases m0
  cases m1
  simp [eqRicActionNotAdmitted]

theorem eqGlobalE2NodeId_iff {m0 m1 : GlobalE2NodeId} :
    eqGlobalE2NodeId m0 m1 = true ↔ m0.type = m1.type ∧ m0.plmn = m1.plmn ∧ m0.nbId = m1.nbId ∧
      ((m0.type.isCuup || m0.type.isDu) = true → m0.cuDuId = m1.cuDuId) := by
  unfold eqGlobalE2NodeId
  generalize (m0.type.isCuup || m0.type.isDu) = split
  cases split <;> simp [and_assoc]

/-- `eq_global_e2_node_id`: the id of a CU is not looked at, nor is that of a node without
parts. -/
def nodeId : Plan fun m0 m1 : GlobalE2NodeId => m0 = m1 where
  eq m0 m1 := some (eqGlobalE2NodeId m0 m1)
  safe _ _ := True
  agree m0 m1 := m0.type = m1.type ∧ m0.plmn = m1.plmn ∧ m0.nbId = m1.nbId ∧
    ((m0.type.isCuup || m0.type.isDu) = true → m0.cuDuId = m1.cuDuId)
  rest m0 m1 := m0.cuDuId = m1.cuDuId
  clear _ _ := True
  judges m0 m1 := (judges_some _).of_iff Iff.rfl eqGlobalE2NodeId_iff
  complete m0 m1 := by
    cases m0
    cases m1
    simp only [GlobalE2NodeId.mk.injEq]
    tauto
  rest_of_same _ _ h := congrArg GlobalE2NodeId.cuDuId h

/-- The kinds of component ids. -/
def kind : NodeCompId → Bytes ⊕ UInt64 ⊕ UInt64 ⊕ Bytes ⊕ PUnit ⊕ UInt64 ⊕ PUnit
  | .ng n => .inl n
  | .f1 id => .inr (.inl id)
  | .e1 id => .inr (.inr (.inl id))
  | .s1 n => .inr (.inr (.inr (.inl n)))
  | .xn => .inr (.inr (.inr (.inr (.inl ⟨⟩))))
  | .w1 id => .inr (.inr (.inr (.inr (.inr (.inl id)))))
  | .x2 => .inr (.inr (.inr (.inr (.inr (.inr ⟨⟩)))))

theorem kind_inj {m0 m1 : NodeCompId} : kind m0 = kind m1 ↔ m0 = m1 := by
  cases m0 <;> cases m1 <;> simp [kind]

/-- An id of 36 bits. -/
def id36 : Plan fun id0 id1 : UInt64 => id0 = id1 := Plan.equal.given (decide <| · < 68719476736)

/-- `eq_e2ap_node_comp_id`. -/
def compId : Plan fun m0 m1 : NodeCompId => m0 = m1 :=
  (((Plan.equal.kinds <| id36.kinds <| id36.kinds <| Plan.equal.kinds <| (Plan.never _).kinds <|
    (Plan.never _).kinds <| Plan.never _).on kind).congr fun _ _ => kind_inj).given
      (supportedType ·.type)

end FlexRic.Codec

namespace FlexRic

open Answers Codec

/-- `eq_e2ap_node_component_config_add`. -/
def NodeComponentConfigAdd.plan : Plan fun m0 m1 : NodeComponentConfigAdd => m0 = m1 :=
  ((Plan.equal.on interfaceType).both <| (compId.on id).both <| (Plan.equal.on request).both <|
    Plan.equal.on response).congr fun m0 m1 => by cases m0; cases m1; simp

/-- `eq_e2ap_node_component_config_add_ack`: there may not be a cause. -/
def NodeCompConfigAddAck.plan : Plan fun m0 m1 : NodeCompConfigAddAck => m0 = m1 :=
  ((Plan.equal.on interfaceType).both <| (compId.on id).both <| (Plan.equal.on outcome).both <|
    Plan.sure (R := fun m0 m1 => m0.cause = m1.cause) (·.cause.isNone) fun m0 m1 h0 h1 => by
      rw [Option.isNone_iff_eq_none.mp h0, Option.isNone_iff_eq_none.mp h1]).congr
    fun m0 m1 => by cases m0; cases m1; simp

namespace Codec

/-- `eq_e2_node_connected`. -/
def E2NodeConnected.plan : Plan fun m0 m1 : E2NodeConnected => m0 = m1 :=
  ((nodeId.on id).both <| Plan.given (decide <| 0 < ·.cca.length) <|
    (NodeComponentConfigAdd.plan.array.on cca).both <|
    (Plan.ofBool eqRanFunction fun _ _ => eqRanFunction_iff).array.on ackRf).congr
      fun m0 m1 => by cases m0; cases m1; simp

/-- `eq_e42_setup_response`. -/
def E42SetupResponse.plan : Plan fun m0 m1 : E42SetupResponse => m0 = m1 :=
  ((Plan.equal.on xappId).both <| E2NodeConnected.plan.array.on nodes).congr
    fun m0 m1 => by cases m0; cases m1; simp

/-- Arrays of one length, of which the first elements are compared. -/
def first {α : Type} (p : Plan fun a b : α => a = b) : Plan fun xs ys : List α => xs = ys :=
  ((Plan.equal.on List.length).both <| (p.optional.on List.head?).both <|
    (Plan.unseen (· = ·)).on List.tail).congr fun xs ys => by
      cases xs <;> cases ys <;> simp
      rintro - rfl
      rfl

/-- `eq_ric_subsequent_action`. -/
def RicSubsequentAction.plan : Plan fun m0 m1 : RicSubsequentAction => m0 = m1 :=
  ((Plan.equal.on type).both <| ((Plan.equal.option (some true) none (some false)).congr
    fun _ _ => Plan.sameOpt_eq).on timeToWaitMs).congr fun m0 m1 => by cases m0; cases m1; simp

/-- `eq_ric_action`. -/
def RicAction.plan : Plan fun m0 m1 : RicAction => m0 = m1 :=
  ((Plan.equal.on id).both <| (Plan.equal.on type).both <| (Plan.equal.on definition).both <|
    RicSubsequentAction.plan.optional.on subseqAction).congr
      fun m0 m1 => by cases m0; cases m1; simp

/-- `eq_ric_subscritption_request`. -/
def RicSubscriptionRequest.plan : Plan fun m0 m1 : RicSubscriptionRequest => m0 = m1 :=
  ((Plan.equal.on ricId).both <| (Plan.equal.on eventTrigger).both <|
    RicAction.plan.array.on action).congr fun m0 m1 => by cases m0; cases m1; simp

/-- `eq_ric_subscritption_response`. -/
def RicSubscriptionResponse.plan : Plan fun m0 m1 : RicSubscriptionResponse => m0 = m1 :=
  ((Plan.equal.on ricId).both <| (Plan.equal.array.on admitted).both <|
    (Plan.ofBool eqRicActionNotAdmitted fun _ _ => eqRicActionNotAdmitted_iff).array.on
      notAdmitted).congr fun m0 m1 => by cases m0; cases m1; simp

end Codec

/-- `eq_e2_setup_response`. -/
def E2SetupResponse.plan : Plan fun m0 m1 : E2SetupResponse => m0 = m1 :=
  ((Plan.equal.on transId).both <|
    ((Plan.ofBool eqGlobalRicId fun _ _ => eqGlobalRicId_iff).on id).both <|
    (Plan.equal.on accepted).both <|
    ((Plan.ofBool eqRejectedRanFunction fun _ _ => eqRejectedRanFunction_iff).array.on
      rejected).both <|
    (first NodeCompConfigAddAck.plan).on compConfigAddAck).congr
      fun m0 m1 => by cases m0; cases m1; simp

namespace Codec

open Outcome

/-! ## The comparisons do that -/

theorem answer_eqE2apNodeCompId (m0 m1 : NodeCompId) :
    (eqE2apNodeCompId m0 m1).answer = compId.eq m0 m1 := by
  rw [eqE2apNodeCompId, Plan.answer_assert, andThen_if]
  cases m0 <;> cases m1
  case ng.ng => exact (Plan.equal_eq _ _).symm
  case s1.s1 => exact (Plan.equal_eq _ _).symm
  case f1.f1 id0 id1 => exact (Plan.answer_assert _ _ _).trans (andThen_if _ _)
  case e1.e1 id0 id1 => exact (Plan.answer_assert _ _ _).trans (andThen_if _ _)
  all_goals rfl

theorem answer_eqE2apNodeComponentConfigAdd (m0 m1 : NodeComponentConfigAdd) :
    (eqE2apNodeComponentConfigAdd m0 m1).answer = NodeComponentConfigAdd.plan.eq m0 m1 := by
  simp only [eqE2apNodeComponentConfigAdd, answer_both, answer_next, some_and,
    answer_eqE2apNodeCompId, ← Plan.equal_eq]
  rfl

theorem answer_eqE2NodeConnected (m0 m1 : E2NodeConnected) :
    (eqE2NodeConnected m0 m1).answer = E2NodeConnected.plan.eq m0 m1 := by
  rw [eqE2NodeConnected, answer_both, Plan.answer_assert, andThen_if, answer_both,
    Plan.answer_array answer_eqE2apNodeComponentConfigAdd,
    Plan.answer_array (p := .ofBool eqRanFunction fun _ _ => eqRanFunction_iff) fun _ _ => rfl]
  rfl

theorem answer_eqE42SetupResponse (m0 m1 : E42SetupResponse) :
    (eqE42SetupResponse m0 m1).answer = E42SetupResponse.plan.eq m0 m1 := by
  rw [eqE42SetupResponse, answer_both, Plan.answer_array answer_eqE2NodeConnected]
  rfl

theorem answer_eqE2apNodeComponentConfigAddAck (m0 m1 : NodeCompConfigAddAck) :
    (eqE2apNodeComponentConfigAddAck m0 m1).answer = NodeCompConfigAddAck.plan.eq m0 m1 := by
  simp only [eqE2apNodeComponentConfigAddAck, answer_both, answer_next, answer_pure,
    Plan.answer_assert, andThen_true, answer_eqE2apNodeCompId]
  rfl

/-- Comparing the first two elements again says nothing new. -/
theorem answer_eqFirst {α : Type} {eq : α → α → Outcome Bool} {p : Plan fun a b : α => a = b}
    (h : ∀ a b, (eq a b).answer = p.eq a b) (x y : α) (xs ys : List α) (n : Nat) :
    (eqFirst eq (x :: xs) (y :: ys) (n + 1)).answer = p.eq x y := by
  induction n with
  | zero => rw [eqFirst, answer_both, h, eqFirst, answer_pure, andThen_true]
  | succ n ih =>
    rw [eqFirst, answer_both, h, ih]
    cases p.eq x y with
    | none => rfl
    | some b => cases b <;> rfl

theorem answer_first {α : Type} {eq : α → α → Outcome Bool} {p : Plan fun a b : α => a = b}
    (h : ∀ a b, (eq a b).answer = p.eq a b) (xs ys : List α) :
    (both (.next (xs.length == ys.length)) (eqFirst eq xs ys xs.length)).answer =
      (first p).eq xs ys := by
  rw [answer_both, answer_next, ← Plan.equal_eq]
  cases xs with
  | nil => cases ys <;> rfl
  | cons x xs =>
    cases ys with
    | nil => rfl
    | cons y ys =>
      rw [List.length_cons, answer_eqFirst h]
      exact congrArg (andThen _) (andThen_true _).symm

theorem answer_eqE2SetupResponse (m0 m1 : E2SetupResponse) :
    (eqE2SetupResponse m0 m1).answer = E2SetupResponse.plan.eq m0 m1 := by
  have hrejected := Plan.answer_array (f := fun a b => .next (eqRejectedRanFunction a b))
    (p := .ofBool eqRejectedRanFunction fun _ _ => eqRejectedRanFunction_iff) (fun _ _ => rfl)
    m0.rejected m1.rejected
  have hacks := answer_first answer_eqE2apNodeComponentConfigAddAck m0.compConfigAddAck
    m1.compConfigAddAck
  rw [eqE2SetupResponse, answer_both, answer_both, hacks, hrejected]
  simp only [answer_next, some_and, andThen_assoc, ← Plan.equal_eq]
  rfl

theorem answer_eqRicSubsequentAction (m0 m1 : RicSubsequentAction) :
    (eqRicSubsequentAction m0 m1).answer = RicSubsequentAction.plan.eq m0 m1 := by
  obtain ⟨type0, time0⟩ := m0
  obtain ⟨type1, time1⟩ := m1
  rw [eqRicSubsequentAction, answer_both]
  cases time0 <;> cases time1 <;> rfl

theorem answer_eqRicAction (m0 m1 : RicAction) :
    (eqRicAction m0 m1).answer = RicAction.plan.eq m0 m1 := by
  obtain ⟨id0, type0, def0, sub0⟩ := m0
  obtain ⟨id1, type1, def1, sub1⟩ := m1
  simp only [eqRicAction, answer_both, answer_next, some_and, andThen_assoc, ← Plan.equal_eq]
  cases sub0 <;> cases sub1
  case some.some a0 a1 =>
    simp only [answer_eqRicSubsequentAction]
    rfl
  all_goals rfl

theorem answer_eqRicSubscritptionRequest (m0 m1 : RicSubscriptionRequest) :
    (eqRicSubscritptionRequest m0 m1).answer = RicSubscriptionRequest.plan.eq m0 m1 := by
  simp only [eqRicSubscritptionRequest, answer_both, answer_next, some_and, andThen_assoc,
    Plan.answer_array answer_eqRicAction, ← Plan.equal_eq]
  rfl

theorem answer_eqRicSubscritptionResponse (m0 m1 : RicSubscriptionResponse) :
    (eqRicSubscritptionResponse m0 m1).answer = RicSubscriptionResponse.plan.eq m0 m1 := by
  rw [eqRicSubscritptionResponse, answer_both, answer_both,
    Plan.answer_array (p := .equal) fun _ _ => rfl,
    Plan.answer_array (p := .ofBool eqRicActionNotAdmitted fun _ _ => eqRicActionNotAdmitted_iff)
      fun _ _ => rfl]
  rfl

/-! ## When the functions are right -/

/-- A copy is the value, is released without a failed assertion, and is equal to the value. -/
def Copied {α : Type} (cp : α → Outcome α) (free : α → Outcome PUnit.{1})
    (eq : α → α → Outcome Bool) (m : α) : Prop :=
  ∃ dst, cp m = .next dst ∧ dst = m ∧ (free dst).Returns ∧ eq dst m = .next true

theorem cpE2NodeConnected_eq (src : E2NodeConnected) : cpE2NodeConnected src =
    if 0 < src.cca.length then .next ⟨src.id, [], src.ackRf⟩ else .abort "src->len_cca > 0" := by
  have hrf : src.ackRf.map cpRanFunction = src.ackRf := List.map_id _
  unfold cpE2NodeConnected
  rw [hrf]
  by_cases hlen : 0 < src.cca.length
  · rw [if_pos hlen, decide_eq_true hlen]
    rfl
  · rw [if_neg hlen, decide_eq_false hlen]
    rfl

/-- **A node is never copied**: the copy has no components, and a node has some. -/
theorem cpE2NodeConnected_ne (m : E2NodeConnected) : cpE2NodeConnected m ≠ .next m := by
  rw [cpE2NodeConnected_eq]
  split
  case isTrue hlen =>
    intro h
    have hcca : ([] : List NodeComponentConfigAdd) = m.cca :=
      congrArg E2NodeConnected.cca (Outcome.next_inj.mp h)
    rw [← hcca] at hlen
    exact absurd hlen (Nat.lt_irrefl 0)
  case isFalse => exact fun h => nomatch h

theorem not_copied_e2NodeConnected (m : E2NodeConnected) :
    ¬Copied cpE2NodeConnected freeE2NodeConnected eqE2NodeConnected m := by
  rintro ⟨dst, hcp, rfl, -⟩
  exact cpE2NodeConnected_ne dst hcp

/-- Only a response without nodes is copied. -/
theorem copied_e42SetupResponse {m : E42SetupResponse} :
    Copied cpE42SetupResponse freeE42SetupResponse eqE42SetupResponse m ↔ m.nodes = [] := by
  obtain ⟨xappId, nodes⟩ := m
  constructor
  · rintro ⟨dst, hcp, rfl, -⟩
    obtain ⟨nodes', hnodes, hdst⟩ := Outcome.bind_eq_next.mp hcp
    obtain rfl : nodes' = nodes := congrArg E42SetupResponse.nodes (Outcome.next_inj.mp hdst)
    cases nodes' with
    | nil => rfl
    | cons node rest =>
      obtain ⟨y, ys, hy, -, heq⟩ := walk_cons_eq_next.mp hnodes
      obtain ⟨rfl, -⟩ := List.cons.inj heq
      exact absurd hy (cpE2NodeConnected_ne _)
  · rintro rfl
    refine ⟨⟨xappId, []⟩, rfl, rfl, returns_next _, ?_⟩
    show both (.next (xappId == xappId)) (.next true) = .next true
    rw [beq_self_eq_true]
    rfl

/-- **A subscription response is copied.** -/
theorem copied_subscriptionResponse (m : RicSubscriptionResponse) :
    Copied (fun m => .next (cpRicSubscriptionRespponse m)) freeSubscriptionResponse
      eqRicSubscritptionResponse m := by
  have hcp : cpRicSubscriptionRespponse m = m := by
    have hna : m.notAdmitted.map cpRicActionNotAdmitted = m.notAdmitted := List.map_id _
    rw [cpRicSubscriptionRespponse, hna]
  refine ⟨m, congrArg Outcome.next hcp, rfl, returns_next _, ?_⟩
  have hna (x : RicActionNotAdmitted) : eqRicActionNotAdmitted x x = true :=
    eqRicActionNotAdmitted_iff.mpr rfl
  have hadmitted : allEq (fun a b => .next (a == b)) m.admitted m.admitted = .next true :=
    (agrees_allEq_self fun a _ => by rw [beq_self_eq_true]; exact agrees_next).eq_next
      (returns_allEq fun a _ => returns_next _)
  have hnot : allEq (fun a b => .next (eqRicActionNotAdmitted a b)) m.notAdmitted m.notAdmitted =
      .next true :=
    (agrees_allEq_self fun a _ => by rw [hna]; exact agrees_next).eq_next
      (returns_allEq fun a _ => returns_next _)
  rw [eqRicSubscritptionResponse, beq_self_eq_true, hadmitted, hnot]
  rfl

/-- What is asked of a function. -/
inductive Check where
  | eqE2NodeConnected (m0 m1 : E2NodeConnected)
  | eqE42SetupResponse (m0 m1 : E42SetupResponse)
  | eqE2SetupResponse (m0 m1 : E2SetupResponse)
  | eqSubscriptionRequest (m0 m1 : RicSubscriptionRequest)
  | eqSubscriptionResponse (m0 m1 : RicSubscriptionResponse)
  | cpE2NodeConnected (m : E2NodeConnected)
  | cpE42SetupResponse (m : E42SetupResponse)
  | cpSubscriptionResponse (m : RicSubscriptionResponse)

namespace Check

/-- The comparison has an answer, and it is whether the two are equal; a copy is as it should be. -/
def Right : Check → Prop
  | eqE2NodeConnected m0 m1 => Decides (Codec.eqE2NodeConnected m0 m1).answer (m0 = m1)
  | eqE42SetupResponse m0 m1 => Decides (Codec.eqE42SetupResponse m0 m1).answer (m0 = m1)
  | eqE2SetupResponse m0 m1 => Decides (Codec.eqE2SetupResponse m0 m1).answer (m0 = m1)
  | eqSubscriptionRequest m0 m1 => Decides (eqRicSubscritptionRequest m0 m1).answer (m0 = m1)
  | eqSubscriptionResponse m0 m1 => Decides (eqRicSubscritptionResponse m0 m1).answer (m0 = m1)
  | cpE2NodeConnected m =>
    Copied Codec.cpE2NodeConnected freeE2NodeConnected Codec.eqE2NodeConnected m
  | cpE42SetupResponse m =>
    Copied Codec.cpE42SetupResponse freeE42SetupResponse Codec.eqE42SetupResponse m
  | cpSubscriptionResponse m =>
    Copied (fun m => .next (cpRicSubscriptionRespponse m)) freeSubscriptionResponse
      eqRicSubscritptionResponse m

/-- The condition of each. -/
def Told : Check → Prop
  | eqE2NodeConnected m0 m1 => E2NodeConnected.plan.Told m0 m1
  | eqE42SetupResponse m0 m1 => E42SetupResponse.plan.Told m0 m1
  | eqE2SetupResponse m0 m1 => E2SetupResponse.plan.Told m0 m1
  | eqSubscriptionRequest m0 m1 => RicSubscriptionRequest.plan.Told m0 m1
  | eqSubscriptionResponse _ _ => True
  | cpE2NodeConnected _ => False
  | cpE42SetupResponse m => m.nodes = []
  | cpSubscriptionResponse _ => True

end Check

/-- Subscription responses are always told apart. -/
theorem told_subscriptionResponse (m0 m1 : RicSubscriptionResponse) :
    RicSubscriptionResponse.plan.Told m0 m1 where
  safe := by
    refine ⟨trivial, fun _ => ⟨fun _ => ?_, fun _ _ => ?_⟩⟩
    · exact safeEach_true _ _
    · exact safeEach_true _ _
  rest h := ⟨trivial, List.Forall₂.imp (fun _ _ _ => trivial) h.2.1,
    List.Forall₂.imp (fun _ _ _ => trivial) h.2.2⟩
  clear h := by
    subst h
    exact ⟨trivial, List.forall₂_same.mpr fun _ _ => trivial,
      List.forall₂_same.mpr fun _ _ => trivial⟩

/-- **When the copies and comparisons are right**, whatever is asked. -/
theorem messages_checked (c : Check) : c.Right ↔ c.Told := by
  cases c with
  | eqE2NodeConnected m0 m1 =>
    rw [Check.Right, answer_eqE2NodeConnected]
    exact E2NodeConnected.plan.decides_iff m0 m1
  | eqE42SetupResponse m0 m1 =>
    rw [Check.Right, answer_eqE42SetupResponse]
    exact E42SetupResponse.plan.decides_iff m0 m1
  | eqE2SetupResponse m0 m1 =>
    rw [Check.Right, answer_eqE2SetupResponse]
    exact E2SetupResponse.plan.decides_iff m0 m1
  | eqSubscriptionRequest m0 m1 =>
    rw [Check.Right, answer_eqRicSubscritptionRequest]
    exact RicSubscriptionRequest.plan.decides_iff m0 m1
  | eqSubscriptionResponse m0 m1 =>
    rw [Check.Right, answer_eqRicSubscritptionResponse]
    exact (RicSubscriptionResponse.plan.decides_iff m0 m1).trans
      (iff_of_true (told_subscriptionResponse m0 m1) trivial)
  | cpE2NodeConnected m => exact iff_of_false (not_copied_e2NodeConnected m) id
  | cpE42SetupResponse m => exact copied_e42SetupResponse
  | cpSubscriptionResponse m => exact iff_of_true (copied_subscriptionResponse m) trivial

/-- A setup response that acknowledges the DU 1 and another one. -/
def twoAcks (du : UInt64) : E2SetupResponse where
  transId := 0
  id := ⟨⟨505, 1, 2⟩, 0⟩
  accepted := []
  rejected := []
  compConfigAddAck := [⟨.f1, .f1 1, .success, none⟩, ⟨.f1, .f1 du, .success, none⟩]

/-- Two responses that differ in the second acknowledgement are found equal. -/
theorem messages_twoAcks : ¬∀ c : Check, c.Right := by
  intro h
  obtain ⟨b, hb, hiff⟩ := h (.eqE2SetupResponse (twoAcks 2) (twoAcks 3))
  obtain rfl : true = b := Option.some.inj hb
  exact absurd (hiff.mp rfl) (by decide)

end Codec

end FlexRic
