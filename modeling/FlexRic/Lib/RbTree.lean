import Mathlib.Data.List.Basic

/-!
# FlexRic.Lib.RbTree

Red-black trees as values, and the place of a subtree in one.

* `sided` builds a node from its near and its far child, so that the mirrored
  cases of an algorithm are one;
* a place is a list of `Frame`s from the subtree up to the root, `plug` puts a
  subtree back; `toList_plug` gives the order of the items;
* `Balanced` are the colour and height conditions, `Hole` what a place asks of the
  subtree: `Hole.fill` and `Hole.of_filled` pass between the two.
-/

namespace FlexRic

universe u v

inductive Color where
  | black
  | red
  deriving DecidableEq, Repr

theorem Color.eq_red_of_ne {c : Color} (h : c ≠ .black) : c = .red := by
  cases c with
  | black => exact absurd rfl h
  | red => rfl

inductive Side where
  | left
  | right
  deriving DecidableEq, Repr

namespace Side

def other : Side → Side
  | left => right
  | right => left

/-- The other side's other side is the side. -/
@[simp] theorem other_other (s : Side) : s.other.other = s := by cases s <;> rfl

theorem eq_or_eq_other (s t : Side) : t = s ∨ t = s.other := by
  cases s <;> cases t <;> simp [other]

end Side

inductive RbTree (α : Type u) where
  | leaf
  | node (c : Color) (l : RbTree α) (x : α) (r : RbTree α)

namespace RbTree

variable {α : Type u}

def toList : RbTree α → List α
  | leaf => []
  | node _ l x r => l.toList ++ x :: r.toList

/-- The colour of the root; leaves are black. -/
def color : RbTree α → Color
  | leaf => .black
  | node c _ _ _ => c

/-- The root in another colour. -/
def paint (c : Color) : RbTree α → RbTree α
  | leaf => leaf
  | node _ l x r => node c l x r

/-- A node whose child on the side `s` is `near`. -/
def sided (s : Side) (c : Color) (near : RbTree α) (x : α) (far : RbTree α) : RbTree α :=
  match s with
  | .left => node c near x far
  | .right => node c far x near

/-- What is above a subtree: the node it is a child of, and its sibling. -/
structure Frame (α : Type u) where
  side : Side
  color : Color
  item : α
  sibling : RbTree α

def Frame.plug (f : Frame α) (t : RbTree α) : RbTree α := sided f.side f.color t f.item f.sibling

/-- The whole tree around a subtree. -/
def plug : List (Frame α) → RbTree α → RbTree α
  | [], t => t
  | f :: fs, t => plug fs (f.plug t)

section Sided

variable {s : Side} {c : Color} {t u : RbTree α} {x : α}

/-- A node seen from the other side. -/
theorem sided_other : sided s.other c u x t = sided s c t x u := by cases s <;> rfl

@[simp] theorem color_sided : (sided s c t x u).color = c := by cases s <;> rfl

@[simp] theorem paint_sided {c' : Color} : (sided s c t x u).paint c' = sided s c' t x u := by
  cases s <;> rfl

theorem sided_ne_leaf : sided s c t x u ≠ leaf := by cases s <;> exact nofun

/-- A node, from the side that is asked for. -/
theorem exists_sided (s : Side) (l r : RbTree α) :
    ∃ near far, node c l x r = sided s c near x far := by
  cases s with
  | left => exact ⟨l, r, rfl⟩
  | right => exact ⟨r, l, rfl⟩

/-- **Any node can be seen from either side.** -/
theorem exists_sided_of_ne_leaf (s : Side) (h : t ≠ leaf) :
    ∃ c near x far, t = sided s c near x far := by
  cases t with
  | leaf => exact absurd rfl h
  | node c l x r =>
    obtain ⟨near, far, heq⟩ := exists_sided (c := c) (x := x) s l r
    exact ⟨c, near, x, far, heq⟩

@[simp] theorem color_paint_black : (t.paint .black).color = .black := by cases t <;> rfl

end Sided

/-- Painting keeps the items. -/
@[simp] theorem toList_paint (c : Color) (t : RbTree α) : (t.paint c).toList = t.toList := by
  cases t <;> rfl

@[simp] theorem toList_length_node (c : Color) (l : RbTree α) (x : α) (r : RbTree α) :
    (node c l x r).toList.length = l.toList.length + r.toList.length + 1 := by
  simp only [toList, List.length_append, List.length_cons]
  omega

/-! ## The order of the items -/

/-- The items before the hole of a place. -/
def before : List (Frame α) → List α
  | [] => []
  | f :: fs =>
    match f.side with
    | .left => before fs
    | .right => before fs ++ (f.sibling.toList ++ [f.item])

/-- The items behind it. -/
def after : List (Frame α) → List α
  | [] => []
  | f :: fs =>
    match f.side with
    | .left => f.item :: (f.sibling.toList ++ after fs)
    | .right => after fs

/-- **The items of the whole tree** are those before, in and behind the subtree. -/
theorem toList_plug (fs : List (Frame α)) (t : RbTree α) :
    (plug fs t).toList = before fs ++ (t.toList ++ after fs) := by
  induction fs generalizing t with
  | nil => simp [plug, before, after]
  | cons f fs ih =>
    obtain ⟨s, c, x, u⟩ := f
    cases s <;> simp [plug, Frame.plug, sided, before, after, ih, toList]

/-- The order depends on the items of the subtree only. -/
theorem toList_plug_congr (fs : List (Frame α)) {t u : RbTree α} (h : t.toList = u.toList) :
    (plug fs t).toList = (plug fs u).toList := by
  rw [toList_plug, toList_plug, h]

/-- A path is taken up in two parts. -/
theorem plug_append (fs gs : List (Frame α)) (t : RbTree α) :
    plug (fs ++ gs) t = plug gs (plug fs t) := by
  induction fs generalizing t with
  | nil => rfl
  | cons f fs ih => exact ih _

/-- A tree around a node is no leaf. -/
theorem plug_ne_leaf (fs : List (Frame α)) {t : RbTree α} (h : t ≠ leaf) :
    plug fs t ≠ leaf := by
  induction fs generalizing t with
  | nil => exact h
  | cons f fs ih => exact ih sided_ne_leaf

/-- A place is no deeper than the tree has items. -/
theorem length_le_plug (fs : List (Frame α)) (t : RbTree α) :
    fs.length + t.toList.length ≤ (plug fs t).toList.length := by
  induction fs generalizing t with
  | nil => exact Nat.le_of_eq (Nat.zero_add _)
  | cons f fs ih =>
    have hf : t.toList.length + 1 ≤ (f.plug t).toList.length := by
      obtain ⟨s, c, x, u⟩ := f
      cases s <;> simp [Frame.plug, sided]
    have := ih (f.plug t)
    rw [List.length_cons]
    show _ ≤ (plug fs (f.plug t)).toList.length
    omega

/-- Every item is at the root of some subtree. -/
theorem exists_place {x : α} {t : RbTree α} (h : x ∈ t.toList) :
    ∃ fs c l r, t = plug fs (node c l x r) := by
  induction t with
  | leaf => cases h
  | node c l y r ihl ihr =>
    obtain hl | hr := List.mem_append.mp h
    · obtain ⟨fs, c', l', r', rfl⟩ := ihl hl
      refine ⟨fs ++ [⟨.left, c, y, r⟩], c', l', r', ?_⟩
      rw [plug_append]
      rfl
    · obtain rfl | hr := List.mem_cons.mp hr
      · exact ⟨[], c, l, r, rfl⟩
      · obtain ⟨fs, c', l', r', rfl⟩ := ihr hr
        refine ⟨fs ++ [⟨.right, c, y, l⟩], c', l', r', ?_⟩
        rw [plug_append]
        rfl

/-! ## Balance -/

/-- No red node has a red child, and every way down has `n` black nodes. -/
inductive Balanced : RbTree α → Nat → Prop
  | leaf : Balanced leaf 0
  | red {l r : RbTree α} {x : α} {n : Nat} : Balanced l n → Balanced r n → l.color = .black →
      r.color = .black → Balanced (node .red l x r) n
  | black {l r : RbTree α} {x : α} {n : Nat} : Balanced l n → Balanced r n →
      Balanced (node .black l x r) (n + 1)

/-- The colour above the hole of a place. -/
def colorAbove : List (Frame α) → Color
  | [] => .black
  | f :: _ => f.color

/-- What a place asks of the subtree: `n` black nodes on every way down, and, below a red node, a
black root. -/
inductive Hole : List (Frame α) → Nat → Prop
  | nil (n : Nat) : Hole [] n
  | red {fs : List (Frame α)} {s : Side} {x : α} {u : RbTree α} {n : Nat} : Hole fs n → fs ≠ [] →
      colorAbove fs = .black → Balanced u n → u.color = .black → Hole (⟨s, .red, x, u⟩ :: fs) n
  | black {fs : List (Frame α)} {s : Side} {x : α} {u : RbTree α} {n : Nat} : Hole fs (n + 1) →
      Balanced u n → Hole (⟨s, .black, x, u⟩ :: fs) n

section Balance

variable {s : Side} {t u : RbTree α} {x : α} {n : Nat} {fs : List (Frame α)}

/-- A red node has black children, and adds no black one to a path. -/
theorem Balanced.sided_red (ht : Balanced t n) (hu : Balanced u n) (htb : t.color = .black)
    (hub : u.color = .black) : Balanced (sided s .red t x u) n := by
  cases s with
  | left => exact .red ht hu htb hub
  | right => exact .red hu ht hub htb

/-- A black node adds one. -/
theorem Balanced.sided_black (ht : Balanced t n) (hu : Balanced u n) :
    Balanced (sided s .black t x u) (n + 1) := by
  cases s with
  | left => exact .black ht hu
  | right => exact .black hu ht

/-- The children of a balanced red node are balanced, and black. -/
theorem Balanced.of_sided_red (h : Balanced (sided s .red t x u) n) :
    Balanced t n ∧ Balanced u n ∧ t.color = .black ∧ u.color = .black := by
  cases s with
  | left =>
    cases h with
    | red hl hr hlb hrb => exact ⟨hl, hr, hlb, hrb⟩
  | right =>
    cases h with
    | red hl hr hlb hrb => exact ⟨hr, hl, hrb, hlb⟩

/-- The children of a balanced black node are balanced, one level lower. -/
theorem Balanced.of_sided_black (h : Balanced (sided s .black t x u) n) :
    ∃ m, n = m + 1 ∧ Balanced t m ∧ Balanced u m := by
  cases s with
  | left =>
    cases h with
    | black hl hr => exact ⟨_, rfl, hl, hr⟩
  | right =>
    cases h with
    | black hl hr => exact ⟨_, rfl, hr, hl⟩

/-- A tree of black height at least one is no leaf. -/
theorem Balanced.ne_leaf (h : Balanced t (n + 1)) : t ≠ RbTree.leaf := by
  rintro rfl
  cases h

/-- A root may be painted black. -/
theorem Balanced.paint_black (h : Balanced t n) : ∃ m, Balanced (t.paint .black) m := by
  cases h with
  | leaf => exact ⟨0, .leaf⟩
  | red hl hr => exact ⟨_, .black hl hr⟩
  | black hl hr => exact ⟨_, .black hl hr⟩

/-- A red root turned black adds to the black height. -/
theorem Balanced.paint_of_red (h : Balanced t n) (hred : t.color = .red) :
    Balanced (t.paint .black) (n + 1) := by
  cases h with
  | leaf => cases hred
  | red hl hr => exact .black hl hr
  | black hl hr => cases hred

/-- A subtree of the kind that is asked for makes the tree balanced, and a root above it is
black. -/
theorem Hole.fill (h : Hole fs n) (ht : Balanced t n)
    (hc : colorAbove fs = .red → t.color = .black) :
    (∃ m, Balanced (plug fs t) m) ∧ (fs ≠ [] → (plug fs t).color = .black) := by
  induction h generalizing t with
  | nil n => exact ⟨⟨n, ht⟩, fun hne => absurd rfl hne⟩
  | @red fs s x u n hole hne above hu hub ih =>
    have hplug := ih (ht.sided_red (s := s) (x := x) hu (hc rfl) hub) fun hred => by
      rw [above] at hred
      cases hred
    exact ⟨hplug.1, fun _ => hplug.2 hne⟩
  | @black fs s x u n hole hu ih =>
    have hplug := ih (ht.sided_black (s := s) (x := x) hu) fun _ => color_sided
    refine ⟨hplug.1, fun _ => ?_⟩
    by_cases hnil : fs = []
    · subst hnil
      exact color_sided
    · exact hplug.2 hnil

/-- What the places of a balanced tree with a black root ask for, and their subtrees meet. -/
theorem Hole.of_filled {m : Nat} (h : Balanced (plug fs t) m) (hroot : (plug fs t).color = .black) :
    ∃ n, Hole fs n ∧ Balanced t n ∧ (colorAbove fs = .red → t.color = .black) := by
  induction fs generalizing t with
  | nil => exact ⟨m, .nil m, h, fun hc => by cases hc⟩
  | cons f fs ih =>
    obtain ⟨n, hole, hf, habove⟩ := ih h hroot
    obtain ⟨s, c, x, u⟩ := f
    cases c with
    | red =>
      obtain ⟨ht, hu, htb, hub⟩ := Balanced.of_sided_red hf
      refine ⟨n, .red hole ?_ ?_ hu hub, ht, fun _ => htb⟩
      · rintro rfl
        have hred : (sided s .red t x u).color = .black := hroot
        rw [color_sided] at hred
        cases hred
      · by_contra hne
        have hblack : (sided s .red t x u).color = .black := habove (Color.eq_red_of_ne hne)
        rw [color_sided] at hblack
        cases hblack
    | black =>
      obtain ⟨n, rfl, ht, hu⟩ := Balanced.of_sided_black hf
      exact ⟨n, .black hole hu, ht, fun hc => by cases hc⟩

end Balance

end RbTree

end FlexRic
