import FlexRic.Sm.SliceComparisons

/-!
# FlexRic.Sm.Comparisons

The comparisons of the service models MAC, GTP, SLICE and TC, and of function definitions.

* `eq_tc_ind_msg` asserts each of its comparisons: it has an answer for equal messages only.
* `Pair`: what is compared.  `comparisons_told`: when the answer is right, whatever is compared.
-/

namespace FlexRic

open Plain Answers

/-! ## TC -/

namespace Tc

def TcShp.Same (m0 m1 : TcShp) : Prop := m0.Compared m1 ∧ m0.maxRateKbps = m1.maxRateKbps

def TcQueueStats.Same {α : Type} (m0 m1 : TcQueueStats α) : Prop :=
  m0.Compared m1 ∧ m0.lastSojournTime = m1.lastSojournTime

def TcQueueU.Same : TcQueueU → TcQueueU → Prop
  | fifo m0, fifo m1 => m0.Same m1
  | codel m0, codel m1 => m0.Same m1
  | ecn m0, ecn m1 => m0.Same m1
  | _, _ => False

def TcRow.Same (m0 m1 : TcRow) : Prop :=
  m0.shp.Same m1.shp ∧ m0.plc.Same m1.plc ∧ m0.q.id = m1.q.id ∧ m0.q.u.Same m1.q.u

/-- Equal in every field, the floats in their values. -/
structure TcIndMsg.Same (m0 m1 : TcIndMsg) : Prop where
  tstamp : m0.tstamp = m1.tstamp
  sch : m0.sch = m1.sch
  pcr : m0.pcr.Same m1.pcr
  cls : m0.cls = m1.cls
  rows : List.Forall₂ TcRow.Same m0.rows.items m1.rows.items

/-- **When `eq_tc_ind_msg` is right**: the messages are equal, and their floats are numbers. -/
def TcIndMsg.Told (m0 m1 : TcIndMsg) : Prop :=
  m0.Same m1 ∧ m0.pcr.mtr.bnd.isNaN = false ∧ ∀ row ∈ m0.rows.items, row.Numbers

/-- What is compared of a classifier is the same in itself. -/
theorem TcCls.compared_self (cls : TcCls) : cls.Compared cls := by
  cases cls with
  | rr dummy => exact rfl
  | osi flt =>
    refine (List.forall₂_same).mpr fun f _ => ?_
    simp [eqTcClsOsiFilter]
  | sto dummy => exact rfl

/-- Queues that are equal in every field are equal in what is compared of them. -/
theorem TcQueueU.Same.compared {m0 m1 : TcQueueU} (h : m0.Same m1) : m0.Compared m1 := by
  cases m0 <;> cases m1 <;> first | exact h.1 | exact h.elim

/-- Rows that are equal in every field are equal in what is compared of them. -/
theorem TcRow.Same.compared {m0 m1 : TcRow} (h : m0.Same m1) : m0.Compared m1 :=
  ⟨h.1.1, h.2.1, h.2.2.2.compared⟩

/-- Equal messages are the same where they are compared. -/
theorem TcIndMsg.Same.compared {m0 m1 : TcIndMsg} (h : m0.Same m1) : m0.Compared m1 where
  tstamp := h.tstamp
  sch := by
    rw [h.sch]
    cases m1.sch with
    | rr dummy => rfl
    | prio qPrio => exact decide_eq_true rfl
  pcr := h.pcr
  cls := h.cls ▸ m0.cls.compared_self
  rows := h.rows.imp fun _ _ hrow => hrow.compared

section

variable {near : FloatBits → FloatBits → Float → Bool}

/-- A function that does not say `false` at its end does not say it at all. -/
theorem bind_ne_false {α : Type} {x : Access α} {f : α → Access Bool}
    (h : ∀ a, f a ≠ .done false) : x >>= f ≠ .done false := by
  intro hno
  obtain ⟨a, -, ha⟩ := Access.bind_eq_done.mp hno
  exact h a ha

/-- `eq_tc_ind_msg` asserts that rows are equal: there is no `false`. -/
theorem eqTcRow_ne_false (m0 m1 : TcRow) : eqTcRow near m0 m1 ≠ .done false :=
  bind_ne_false fun _ => bind_ne_false fun _ => bind_ne_false fun _ => bind_ne_false fun _ =>
    bind_ne_false fun _ => bind_ne_false fun _ => fun h => nomatch h

/-- An array of such elements is not told apart either. -/
theorem eqEach_ne_false {α : Type} {eq : α → α → Access Bool}
    (h : ∀ x y, eq x y ≠ .done false) (xs ys : List α) : eqEach eq xs ys ≠ .done false := by
  induction xs generalizing ys with
  | nil => exact fun hno => by cases hno
  | cons x xs ih =>
    cases ys with
    | nil => exact fun hno => by cases hno
    | cons y ys =>
      intro hno
      obtain ⟨b, hb, hrest⟩ := Access.bind_eq_done.mp hno
      cases b with
      | true => exact ih ys hrest
      | false => exact h x y hb

/-- Messages that differ have no answer. -/
theorem eqTcIndMsg_ne_false (m0 m1 : TcIndMsg) : eqTcIndMsg near m0 m1 ≠ .done false :=
  bind_ne_false fun _ => bind_ne_false fun _ => bind_ne_false fun _ => bind_ne_false fun _ =>
    bind_ne_false fun _ => bind_ne_false fun _ => bind_ne_false fun _ =>
      eqEach_ne_false eqTcRow_ne_false _ _

/-- **When `eq_tc_ind_msg` is right.** -/
theorem decides_eqTcIndMsg (m0 m1 : TcIndMsg) :
    Decides (eqTcIndMsg near m0 m1).answer (m0.Same m1) ↔ m0.Told m1 := by
  constructor
  · rintro ⟨b, hb, hiff⟩
    cases hx : eqTcIndMsg near m0 m1 with
    | done b' =>
      cases b' with
      | true =>
        rw [hx] at hb
        obtain rfl := Option.some.inj hb
        have hsame := hiff.mp rfl
        exact ⟨hsame, ((guards_eqTcIndMsg near hsame.compared).eq_done_iff.mp hx).1⟩
      | false => exact absurd hx (eqTcIndMsg_ne_false m0 m1)
    | refused msg => rw [hx] at hb; cases hb
    | overread => rw [hx] at hb; cases hb
    | overwrite => rw [hx] at hb; cases hb
  · rintro ⟨hsame, hnumbers⟩
    rw [(guards_eqTcIndMsg near hsame.compared).1 hnumbers]
    exact ⟨true, rfl, iff_of_true rfl hsame⟩

end

end Tc

/-! ## All of them -/

/-- Two values that are compared. -/
inductive Pair where
  | macIndMsg (m0 m1 : Stats.MacIndMsg)
  | gtpIndMsg (m0 m1 : Stats.GtpIndMsg)
  | sliceIndMsg (m0 m1 : Slice.SliceIndMsg)
  | sliceCtrlMsg (m0 m1 : Slice.SliceCtrlMsg)
  | tcIndMsg (m0 m1 : Tc.TcIndMsg)
  /-- by their addresses -/
  | macFuncDef (mem : UInt64 → Stats.FuncDef) (m0 m1 : UInt64)
  | rlcFuncDef (mem : UInt64 → Stats.FuncDef) (m0 m1 : UInt64)
  | pdcpFuncDef (mem : UInt64 → Stats.FuncDef) (m0 m1 : UInt64)
  | tcFuncDef (mem : UInt64 → Stats.FuncDef) (m0 m1 : UInt64)

namespace Pair

/-- The comparison of the source. -/
def eq : Pair → Access Bool
  | macIndMsg m0 m1 => Stats.eqMacIndMsg nearFloat m0 m1
  | gtpIndMsg m0 m1 => Stats.eqGtpIndMsg m0 m1
  | sliceIndMsg m0 m1 => Slice.eqSliceIndMsg m0 m1
  | sliceCtrlMsg m0 m1 => Slice.eqSliceCtrlMsg m0 m1
  | tcIndMsg m0 m1 => Tc.eqTcIndMsg nearFloat m0 m1
  | macFuncDef mem m0 m1 => Stats.eqMacFuncDef mem m0 m1
  | rlcFuncDef mem m0 m1 => Stats.eqRlcFuncDef mem m0 m1
  | pdcpFuncDef mem m0 m1 => Stats.eqPdcpFuncDef mem m0 m1
  | tcFuncDef mem m0 m1 => Stats.eqTcFuncDef mem m0 m1

/-- Equal in every field. -/
def Same : Pair → Prop
  | macIndMsg m0 m1 => m0.Same m1
  | gtpIndMsg m0 m1 => m0.Same m1
  | sliceIndMsg m0 m1 => m0.Same m1
  | sliceCtrlMsg m0 m1 => m0.Same m1
  | tcIndMsg m0 m1 => m0.Same m1
  | macFuncDef mem m0 m1 | rlcFuncDef mem m0 m1 | pdcpFuncDef mem m0 m1 | tcFuncDef mem m0 m1 =>
    Stats.FuncDef.pointedTo mem m0 = Stats.FuncDef.pointedTo mem m1

/-- The condition of each. -/
def Told : Pair → Prop
  | macIndMsg m0 m1 => m0.Told nearFloat m1
  | gtpIndMsg m0 m1 => m0.Told m1
  | sliceIndMsg m0 m1 => m0.Told m1
  | sliceCtrlMsg m0 m1 => m0.Told m1
  | tcIndMsg m0 m1 => m0.Told m1
  | macFuncDef mem m0 m1 => Stats.FuncDef.Told .lenBuf mem m0 m1
  | rlcFuncDef mem m0 m1 | pdcpFuncDef mem m0 m1 | tcFuncDef mem m0 m1 =>
    Stats.FuncDef.Told .bufLen mem m0 m1

end Pair

/-- **When the comparisons are right**: there is an answer, and it is whether the two are equal. -/
theorem comparisons_told (p : Pair) : Decides p.eq.answer p.Same ↔ p.Told := by
  cases p with
  | macIndMsg m0 m1 => exact Stats.decides_eqMacIndMsg m0 m1
  | gtpIndMsg m0 m1 => exact Stats.decides_eqGtpIndMsg m0 m1
  | sliceIndMsg m0 m1 => exact Slice.decides_eqSliceIndMsg m0 m1
  | sliceCtrlMsg m0 m1 => exact Slice.decides_eqSliceCtrlMsg m0 m1
  | tcIndMsg m0 m1 => exact Tc.decides_eqTcIndMsg m0 m1
  | macFuncDef mem m0 m1 => exact Stats.decides_eqFuncDef .lenBuf mem m0 m1
  | rlcFuncDef mem m0 m1 | pdcpFuncDef mem m0 m1 | tcFuncDef mem m0 m1 =>
    exact Stats.decides_eqFuncDef .bufLen mem m0 m1

/-- Two GTP messages without tunnels, of which one tells of a finished handover. -/
def handedOver : Pair :=
  .gtpIndMsg ⟨⟨[], by decide⟩, 0, ⟨1, 2, 3, false⟩⟩ ⟨⟨[], by decide⟩, 0, ⟨1, 2, 3, true⟩⟩

/-- The two messages are found equal, though their handovers differ. -/
theorem comparisons_handedOver : ¬∀ p : Pair, Decides p.eq.answer p.Same := by
  intro h
  obtain ⟨b, hb, hiff⟩ := h handedOver
  obtain rfl : true = b := Option.some.inj hb
  exact absurd (hiff.mp rfl).2.2 (by decide)

end FlexRic
