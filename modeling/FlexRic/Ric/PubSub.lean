import FlexRic.Lib.Machine
import FlexRic.Lib.OrdAssoc
import Mathlib.Data.List.Induction

/-!
# FlexRic.Ric.PubSub

The listeners of the near-RIC, `ric->pub_sub`: an array of them for each RAN
function (`near_ric.c`), and the indications handed to them
(`publish_ind_msg`, `msg_handler_ric.c`).

`publishIndMsg` looks the RAN function of the indication up, but takes the
listeners from the first entry of the tree, that of the lowest RAN function:
`publish_exact` says when these are the same.
-/

namespace FlexRic

open Outcome

variable {F D : Type}

/-- `subs_ric_t`. -/
structure SubsRic (F : Type) where
  name : String
  fp : F
  deriving DecidableEq

/-- `pub_sub`: RAN function id to listeners. -/
abbrev PubSub (F : Type) := OrdAssoc UInt16 (List (SubsRic F))

/-- `cmp_ran_func_id`. -/
def cmpRanFuncId : Cmp UInt16 := cmpAsc id

namespace PubSub

/-- `seq_push_back` of the array that `find_if` comes to. -/
def pushBack (ranFuncId : UInt16) (subs : SubsRic F) : PubSub F → PubSub F
  | [] => []
  | e :: t => if e.1 = ranFuncId then (e.1, e.2 ++ [subs]) :: t else e :: pushBack ranFuncId subs t

/-- `register_listeners_for_ran_func_id`. -/
def register (t : PubSub F) (ranFuncId : UInt16) (subs : SubsRic F) : PubSub F :=
  match t.findIf (· = ranFuncId) with
  | none => t.insert cmpRanFuncId ranFuncId [subs]
  | some _ => t.pushBack ranFuncId subs

/-- What a sequence of registrations leaves. -/
def registerAll (regs : List (UInt16 × SubsRic F)) : PubSub F :=
  regs.foldl (fun t reg => register t reg.1 reg.2) []

/-- `load_default_pub_sub_ric`: three listeners for each plugin. -/
def loadDefaultPubSubRic (stdout redis influx : F) (smDs : List UInt16) : PubSub F :=
  registerAll (smDs.flatMap fun ranFuncId =>
    [(ranFuncId, ⟨"stdout listener", stdout⟩), (ranFuncId, ⟨"redis listener", redis⟩),
      (ranFuncId, ⟨"influx listener", influx⟩)])

/-- `publish_ind_msg`: the calls it makes. -/
def publishIndMsg (t : PubSub F) (ranFuncId : UInt16) (d : D) : Outcome (List (F × D)) := do
  let startIt := t.head?
  let _ ← expect (t.findIf (· = ranFuncId))
    "Could not find a RAN function that matches the SM"
  let front ← expect startIt "it != NULL"
  return front.2.map fun subs => (subs.fp, d)

/-! ## Registrations -/

/-- The listeners registered for a RAN function, in order. -/
def listenersOf (regs : List (UInt16 × SubsRic F)) (ranFuncId : UInt16) : List (SubsRic F) :=
  (regs.filter (·.1 = ranFuncId)).map Prod.snd

/-- The value that a search finds. -/
def lookup (t : PubSub F) (ranFuncId : UInt16) : Option (List (SubsRic F)) :=
  (t.findIf (· = ranFuncId)).map Prod.snd

/-- The first entry, or one of the others. -/
theorem lookup_cons (e : UInt16 × List (SubsRic F)) (t : PubSub F) (j : UInt16) :
    lookup (e :: t) j = if e.1 = j then some e.2 else lookup t j := by
  by_cases h : e.1 = j <;> simp [lookup, OrdAssoc.findIf, h]

/-- A callback is added to its own entry. -/
theorem lookup_pushBack (t : PubSub F) (i j : UInt16) (subs : SubsRic F) :
    lookup (t.pushBack i subs) j =
      if j = i then (lookup t j).map (· ++ [subs]) else lookup t j := by
  induction t with
  | nil => simp [pushBack, lookup, OrdAssoc.findIf]
  | cons e t ih =>
    rw [pushBack]
    by_cases he : e.1 = i
    · rw [if_pos he, lookup_cons, lookup_cons]
      by_cases hj : j = i
      · rw [if_pos hj, if_pos (he.trans hj.symm), if_pos (he.trans hj.symm), Option.map_some]
      · have hne : e.1 ≠ j := fun h => hj (h.symm.trans he)
        rw [if_neg hj, if_neg hne, if_neg hne]
    · rw [if_neg he, lookup_cons, lookup_cons, ih]
      by_cases hj : e.1 = j
      · rw [if_pos hj, if_pos hj, if_neg fun h => he (hj.trans h)]
      · rw [if_neg hj, if_neg hj]

/-- A new entry changes no other one. -/
theorem lookup_insert (t : PubSub F) (i j : UInt16) (subs : List (SubsRic F))
    (hi : lookup t i = none) :
    lookup (t.insert cmpRanFuncId i subs) j = if j = i then some subs else lookup t j := by
  by_cases hj : j = i
  · subst hj
    rw [if_pos rfl]
    induction t with
    | nil => simp [OrdAssoc.insert, lookup_cons]
    | cons e t ih =>
      rw [lookup_cons] at hi
      by_cases he : e.1 = j
      · rw [if_pos he] at hi
        cases hi
      · rw [if_neg he] at hi
        rw [OrdAssoc.insert]
        split
        · rw [lookup_cons, if_pos rfl]
        · rw [lookup_cons, if_neg he, ih hi]
  · rw [if_neg hj, lookup, lookup, OrdAssoc.findIf_insert]
    simp [Ne.symm hj]

/-- A registration puts the listener behind those of its RAN function. -/
theorem lookup_register (t : PubSub F) (i j : UInt16) (subs : SubsRic F) :
    lookup (t.register i subs) j =
      if j = i then some ((lookup t i).getD [] ++ [subs]) else lookup t j := by
  rw [register]
  cases hfind : t.findIf (· = i) with
  | none =>
    have hi : lookup t i = none := by rw [lookup, hfind, Option.map_none]
    rw [lookup_insert t i j [subs] hi, hi]
    rfl
  | some e =>
    have hi : lookup t i = some e.2 := by rw [lookup, hfind, Option.map_some]
    rw [lookup_pushBack]
    by_cases hj : j = i
    · rw [if_pos hj, if_pos hj, hj, hi]
      rfl
    · rw [if_neg hj, if_neg hj]

/-- **A registration keeps the order.** -/
theorem sorted_register {t : PubSub F} (i : UInt16) (subs : SubsRic F)
    (h : t.Sorted cmpRanFuncId) : (t.register i subs).Sorted cmpRanFuncId := by
  have hkeys (t : PubSub F) : (t.pushBack i subs).map Prod.fst = t.map Prod.fst := by
    induction t with
    | nil => rfl
    | cons e t ih =>
      rw [pushBack]
      split
      · rfl
      · rw [List.map_cons, List.map_cons, ih]
  rw [register]
  split
  · exact OrdAssoc.sorted_insert (lawful_cmpAsc id) h
  · have hmap (t : PubSub F) : t.Sorted cmpRanFuncId ↔
        (t.map Prod.fst).Pairwise fun a b => cmpRanFuncId b a ≠ 1 := by
      rw [List.pairwise_map]
      rfl
    rwa [hmap, hkeys, ← hmap]

/-- **What is registered is found**, in the order of the registrations, in a
sorted tree. -/
theorem registerAll_spec (regs : List (UInt16 × SubsRic F)) :
    (registerAll regs).Sorted cmpRanFuncId ∧ ∀ j, lookup (registerAll regs) j =
      if listenersOf regs j = [] then none else some (listenersOf regs j) := by
  induction regs using List.reverseRecOn with
  | nil => exact ⟨List.Pairwise.nil, fun j => rfl⟩
  | append_singleton regs reg ih =>
    obtain ⟨hsorted, hlookup⟩ := ih
    have hstep : registerAll (regs ++ [reg]) = (registerAll regs).register reg.1 reg.2 := by
      rw [registerAll, List.foldl_append]
      rfl
    refine ⟨hstep ▸ sorted_register reg.1 reg.2 hsorted, fun j => ?_⟩
    rw [hstep, lookup_register, hlookup, hlookup]
    by_cases hj : j = reg.1
    · have hlist : listenersOf (regs ++ [reg]) j = listenersOf regs j ++ [reg.2] := by
        simp [listenersOf, hj]
      rw [if_pos hj, hlist, if_neg (List.append_ne_nil_of_right_ne_nil _ (List.cons_ne_nil _ _)),
        ← hj]
      split
      · next hnil => rw [hnil, Option.getD_none]
      · rw [Option.getD_some]
    · have hlist : listenersOf (regs ++ [reg]) j = listenersOf regs j := by
        simp [listenersOf, Ne.symm hj]
      rw [if_neg hj, hlist]

/-! ## Indications -/

/-- The tree has an entry for the RAN functions that were registered. -/
theorem lookup_registerAll_eq_none {regs : List (UInt16 × SubsRic F)} {j : UInt16} :
    lookup (registerAll regs) j = none ↔ ∀ reg ∈ regs, reg.1 ≠ j := by
  have hnil : listenersOf regs j = [] ↔ ∀ reg ∈ regs, reg.1 ≠ j := by
    simp [listenersOf, List.filter_eq_nil_iff]
  rw [(registerAll_spec regs).2, ← hnil]
  split
  · next h => exact iff_of_true rfl h
  · next h => exact iff_of_false (by simp) h

/-- The first entry of the table is that of the lowest RAN function. -/
theorem head_registerAll {regs : List (UInt16 × SubsRic F)} {e : UInt16 × List (SubsRic F)}
    (h : (registerAll regs).head? = some e) :
    (∃ reg ∈ regs, reg.1 = e.1) ∧ (∀ reg ∈ regs, e.1 ≤ reg.1) ∧ e.2 = listenersOf regs e.1 := by
  obtain ⟨hsorted, hlookup⟩ := registerAll_spec regs
  obtain ⟨t, ht⟩ := List.head?_eq_some_iff.mp h
  have hfront : lookup (registerAll regs) e.1 = some e.2 := by rw [ht, lookup_cons, if_pos rfl]
  have hreg : ∃ reg ∈ regs, reg.1 = e.1 := by
    by_contra hno
    have hnone := lookup_registerAll_eq_none.mpr fun reg hreg heq => hno ⟨reg, hreg, heq⟩
    rw [hfront] at hnone
    cases hnone
  refine ⟨hreg, fun reg hr => ?_, ?_⟩
  · -- the entry of `reg` stands in the tree, not before the first one
    obtain ⟨listeners, hl⟩ : ∃ listeners, lookup (registerAll regs) reg.1 = some listeners := by
      cases hl : lookup (registerAll regs) reg.1 with
      | none => exact absurd rfl (lookup_registerAll_eq_none.mp hl reg hr)
      | some listeners => exact ⟨listeners, rfl⟩
    obtain ⟨x, hx, -⟩ := Option.map_eq_some_iff.mp hl
    have hkey : x.1 = reg.1 := of_decide_eq_true
      (OrdAssoc.findIf_key (p := fun k => decide (k = reg.1)) hx)
    have hmem := OrdAssoc.mem_of_findIf hx
    rw [ht] at hmem hsorted
    rcases List.mem_cons.mp hmem with rfl | hmem
    · exact hkey ▸ UInt16.le_refl _
    · have hnot := (List.pairwise_cons.mp hsorted).1 x hmem
      rw [cmpRanFuncId, Ne, cmpAsc_eq_one, hkey] at hnot
      exact UInt16.not_lt.mp hnot
  · rw [hlookup] at hfront
    split at hfront
    · cases hfront
    · exact (Option.some.inj hfront).symm

/-- An indication of a registered RAN function goes to the listeners of the lowest one. -/
theorem publishIndMsg_registered {regs : List (UInt16 × SubsRic F)} {ranFuncId : UInt16}
    (hreg : ∃ reg ∈ regs, reg.1 = ranFuncId) (d : D) :
    ∃ low, (∃ reg ∈ regs, reg.1 = low) ∧ (∀ reg ∈ regs, low ≤ reg.1) ∧
      publishIndMsg (registerAll regs) ranFuncId d =
        next ((listenersOf regs low).map fun subs => (subs.fp, d)) := by
  obtain ⟨e, he⟩ : ∃ e, (registerAll regs).findIf (· = ranFuncId) = some e := by
    cases hfind : (registerAll regs).findIf (· = ranFuncId) with
    | none =>
      have hnone : lookup (registerAll regs) ranFuncId = none := by
        rw [lookup, hfind, Option.map_none]
      obtain ⟨reg, hmem, heq⟩ := hreg
      exact absurd heq (lookup_registerAll_eq_none.mp hnone reg hmem)
    | some e => exact ⟨e, rfl⟩
  obtain ⟨front, hfront⟩ : ∃ front, (registerAll regs).head? = some front := by
    cases ht : registerAll regs with
    | nil => exact absurd (OrdAssoc.mem_of_findIf he) (by simp [ht])
    | cons front t => exact ⟨front, rfl⟩
  obtain ⟨hmem, hlow, hlisteners⟩ := head_registerAll hfront
  refine ⟨front.1, hmem, hlow, ?_⟩
  rw [publishIndMsg, he, hfront, ← hlisteners]
  rfl

/-- An indication of a RAN function that is not registered aborts. -/
theorem publishIndMsg_unknown {regs : List (UInt16 × SubsRic F)} {ranFuncId : UInt16}
    (hreg : ¬ ∃ reg ∈ regs, reg.1 = ranFuncId) (d : D) :
    (publishIndMsg (registerAll regs) ranFuncId d).Aborts := by
  have hlookup := lookup_registerAll_eq_none.mpr fun reg hr heq => hreg ⟨reg, hr, heq⟩
  have hnone : (registerAll regs).findIf (· = ranFuncId) = none :=
    Option.map_eq_none_iff.mp hlookup
  refine ⟨"Could not find a RAN function that matches the SM", ?_⟩
  rw [publishIndMsg, hnone]
  rfl

theorem calls_eq (xs : List (SubsRic F)) (d : D) :
    (xs.map fun subs => (subs.fp, d)) = (xs.map SubsRic.fp).map fun fp => (fp, d) := by
  rw [List.map_map]
  rfl

/-- **The listeners of a RAN function are called** exactly when it is registered
and those of the lowest RAN function are the same. -/
theorem publish_exact (regs : List (UInt16 × SubsRic F)) (ranFuncId : UInt16) (d : D) :
    publishIndMsg (registerAll regs) ranFuncId d =
        next ((listenersOf regs ranFuncId).map fun subs => (subs.fp, d)) ↔
      (∃ reg ∈ regs, reg.1 = ranFuncId) ∧
        ∀ low, (∃ reg ∈ regs, reg.1 = low) → (∀ reg ∈ regs, low ≤ reg.1) →
          (listenersOf regs low).map SubsRic.fp = (listenersOf regs ranFuncId).map SubsRic.fp := by
  have hcalls (xs ys : List (SubsRic F)) :
      (xs.map fun subs => (subs.fp, d)) = (ys.map fun subs => (subs.fp, d)) ↔
        xs.map SubsRic.fp = ys.map SubsRic.fp := by
    rw [calls_eq, calls_eq]
    exact List.map_inj_right fun _ _ heq => (Prod.mk.inj heq).1
  by_cases hreg : ∃ reg ∈ regs, reg.1 = ranFuncId
  · obtain ⟨low, ⟨reg, hr, rfl⟩, hlow, hpub⟩ := publishIndMsg_registered hreg d
    rw [hpub, next_inj, hcalls, and_iff_right hreg]
    constructor
    · rintro heq low ⟨reg', hr', rfl⟩ hle
      rw [UInt16.le_antisymm (hle reg hr) (hlow reg' hr'), heq]
    · intro h
      exact h reg.1 ⟨reg, hr, rfl⟩ hlow
  · exact iff_of_false (fun h => not_aborts_of_next h (publishIndMsg_unknown hreg d))
      fun h => hreg h.1

/-- Two RAN functions with a listener each: the one of the lower is called for
both. -/
theorem publish_not_exact :
    ¬ ∀ (regs : List (UInt16 × SubsRic Nat)) (ranFuncId : UInt16) (d : Nat),
      publishIndMsg (registerAll regs) ranFuncId d =
        next ((listenersOf regs ranFuncId).map fun subs => (subs.fp, d)) := by
  intro h
  exact absurd (h [(142, ⟨"mac", 1⟩), (143, ⟨"rlc", 2⟩)] 143 0) (by decide)

/-- The listeners that are loaded at the start are the same for each plugin. -/
theorem listenersOf_default (stdout redis influx : F) (smDs : List UInt16) (h : smDs.Nodup)
    (j : UInt16) :
    (listenersOf (smDs.flatMap fun ranFuncId =>
      [(ranFuncId, ⟨"stdout listener", stdout⟩), (ranFuncId, ⟨"redis listener", redis⟩),
        (ranFuncId, ⟨"influx listener", influx⟩)]) j).map SubsRic.fp =
      if j ∈ smDs then [stdout, redis, influx] else [] := by
  induction smDs with
  | nil => rfl
  | cons i smDs ih =>
    obtain ⟨hi, hnodup⟩ := List.nodup_cons.mp h
    simp only [listenersOf] at ih
    simp only [listenersOf, List.flatMap_cons, List.filter_append, List.map_append, ih hnodup]
    by_cases hj : i = j
    · subst hj
      simp [hi]
    · simp [hj, Ne.symm hj]

/-- **Until a listener is added**, the plugins' indications reach them. -/
theorem publish_default (stdout redis influx : F) (smDs : List UInt16) (h : smDs.Nodup)
    {ranFuncId : UInt16} (hin : ranFuncId ∈ smDs) (d : D) :
    publishIndMsg (loadDefaultPubSubRic stdout redis influx smDs) ranFuncId d =
      next [(stdout, d), (redis, d), (influx, d)] := by
  have hlist := listenersOf_default stdout redis influx smDs h
  have hlisted : ∃ reg ∈ smDs.flatMap fun ranFuncId =>
      [(ranFuncId, (⟨"stdout listener", stdout⟩ : SubsRic F)),
        (ranFuncId, ⟨"redis listener", redis⟩), (ranFuncId, ⟨"influx listener", influx⟩)],
      reg.1 = ranFuncId :=
    ⟨(ranFuncId, ⟨"stdout listener", stdout⟩),
      List.mem_flatMap.mpr ⟨ranFuncId, hin, List.mem_cons_self⟩, rfl⟩
  obtain ⟨low, ⟨reg, hreg, rfl⟩, -, hpub⟩ := publishIndMsg_registered hlisted d
  obtain ⟨i, hi, hreg⟩ := List.mem_flatMap.mp hreg
  have hmem : reg.1 ∈ smDs := by
    simp only [List.mem_cons, List.not_mem_nil, or_false] at hreg
    obtain rfl | rfl | rfl := hreg <;> exact hi
  rw [loadDefaultPubSubRic, hpub, calls_eq, hlist, if_pos hmem]
  rfl

end PubSub

end FlexRic
