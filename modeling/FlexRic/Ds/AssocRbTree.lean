import FlexRic.Lib.RbTree
import FlexRic.Lib.Machine
import FlexRic.Lib.Comparator

/-!
# FlexRic.Ds.AssocRbTree

The red-black tree of `assoc_rb_tree.c`: nodes on a heap, with parent links and
one dummy node for all leaves.

* The heap gives the nodes that are allocated; reading or writing elsewhere
  aborts.  `malloc` hands out an address that is not allocated.
* The mirrored branches of the rotations and of the fix-ups are one definition
  with a `Side`.
* A loop takes at most as many rounds as its first argument says; the operations
  give it `size + 1`.
-/

namespace FlexRic

abbrev Addr := Nat

/-- `assoc_node_t`; the dummy has neither a key nor a value. -/
structure AssocNode (κ ν : Type) where
  entry : Option (κ × ν)
  parent : Addr
  left : Addr
  right : Addr
  color : Color

namespace AssocNode

variable {κ ν : Type}

def child (n : AssocNode κ ν) : Side → Addr
  | .left => n.left
  | .right => n.right

def setChild (n : AssocNode κ ν) (s : Side) (a : Addr) : AssocNode κ ν :=
  match s with
  | .left => { n with left := a }
  | .right => { n with right := a }

def setParent (n : AssocNode κ ν) (a : Addr) : AssocNode κ ν := { n with parent := a }

def setColor (n : AssocNode κ ν) (c : Color) : AssocNode κ ν := { n with color := c }

/-- `init_node`. -/
def initNode (entry : Option (κ × ν)) : AssocNode κ ν := ⟨entry, 0, 0, 0, .red⟩

end AssocNode

/-- The nodes that are allocated. -/
def Heap (κ ν : Type) := Addr → Option (AssocNode κ ν)

def Heap.set {κ ν : Type} (h : Heap κ ν) (a : Addr) (n : Option (AssocNode κ ν)) :
    Heap κ ν :=
  fun b => if b = a then n else h b

/-- `assoc_rb_tree_t`, with the memory it lives in. -/
structure AssocRbTree (κ ν : Type) where
  heap : Heap κ ν
  dummy : Addr
  root : Addr
  size : Nat

namespace AssocRbTree

variable {κ ν : Type} (c : Cmp κ)

/-- `assoc_rb_tree_init`. -/
def init (dummy : Addr) : AssocRbTree κ ν where
  heap := Heap.set (fun _ => none) dummy (some ((AssocNode.initNode none).setColor .black))
  dummy := dummy
  root := dummy
  size := 0

def load (t : AssocRbTree κ ν) (a : Addr) : Outcome (AssocNode κ ν) :=
  .expect (t.heap a) "no node at this address"

def modify (t : AssocRbTree κ ν) (a : Addr) (f : AssocNode κ ν → AssocNode κ ν) :
    Outcome (AssocRbTree κ ν) := do
  let n ← t.load a
  return { t with heap := t.heap.set a (some (f n)) }

/-- `tree->comp(key, n->key)`. -/
def compKey (key : κ) (n : AssocNode κ ν) : Outcome Int := do
  let e ← .expect n.entry "key is NULL"
  return c key e.1

/-! ## Rotations -/

/-- `v` takes the place of `u` below the parent of `u`. -/
def relink (t : AssocRbTree κ ν) (u v : Addr) : Outcome (AssocRbTree κ ν) := do
  let un ← t.load u
  if un.parent = t.dummy then return { t with root := v }
  else do
    let pn ← t.load un.parent
    if u = pn.left then t.modify un.parent fun n => n.setChild .left v
    else t.modify un.parent fun n => n.setChild .right v

/-- `if (v != tree->dummy) v->parent = p`. -/
def adopt (t : AssocRbTree κ ν) (v p : Addr) : Outcome (AssocRbTree κ ν) :=
  if v = t.dummy then return t else t.modify v fun n => n.setParent p

/-- The child on the other side rises, and `x` goes down to the side `s`. -/
def rotate (s : Side) (t : AssocRbTree κ ν) (x : Addr) : Outcome (AssocRbTree κ ν) := do
  let xn ← t.load x
  .assert (xn.child s.other != t.dummy) "x_node->right != tree->dummy"
  let y := xn.child s.other
  let yn ← t.load y
  let t ← t.modify x fun n => n.setChild s.other (yn.child s)
  let t ← t.adopt (yn.child s) x
  let t ← t.modify y fun n => n.setParent xn.parent
  let t ← t.relink x y
  let t ← t.modify y fun n => n.setChild s x
  t.modify x fun n => n.setParent y

/-- `left_rotate`. -/
def leftRotate : AssocRbTree κ ν → Addr → Outcome (AssocRbTree κ ν) := rotate .left

/-- `right_rotate`. -/
def rightRotate : AssocRbTree κ ν → Addr → Outcome (AssocRbTree κ ν) := rotate .right

/-! ## Insertion -/

/-- A round of `insert_fixup` for a red parent that is the child of `grandParent` on the side `s`;
returns the next `z_node`. -/
def insertRound (s : Side) (t : AssocRbTree κ ν) (z parent grandParent : Addr) :
    Outcome (AssocRbTree κ ν × Addr) := do
  let gn ← t.load grandParent
  let uncle := gn.child s.other
  let un ← t.load uncle
  if un.color = .red then do
    let t ← t.modify parent fun n => n.setColor .black
    let t ← t.modify uncle fun n => n.setColor .black
    let t ← t.modify grandParent fun n => n.setColor .red
    return (t, grandParent)
  else do
    let pn ← t.load parent
    let (t, z, parent) ←
      if z = pn.child s.other then do
        let t ← t.rotate s parent
        let zn ← t.load parent
        pure (t, parent, zn.parent)
      else pure (t, z, parent)
    let t ← t.modify parent fun n => n.setColor .black
    let t ← t.modify grandParent fun n => n.setColor .red
    let t ← t.rotate s.other grandParent
    return (t, z)

/-- `insert_fixup`. -/
def insertFixup : Nat → AssocRbTree κ ν → Addr → Outcome (AssocRbTree κ ν)
  | 0, _, _ => .blocked
  | fuel + 1, t, z => do
    let zn ← t.load z
    let pn ← t.load zn.parent
    if pn.color = .red then do
      let gn ← t.load pn.parent
      let s : Side := if zn.parent = gn.left then .left else .right
      let (t, z) ← t.insertRound s z zn.parent pn.parent
      insertFixup fuel t z
    else t.modify t.root fun n => n.setColor .black

/-- `create_node_rb_tree`, when `malloc` gives the address `z`. -/
def createNodeRbTree (t : AssocRbTree κ ν) (key : κ) (value : ν) (z : Addr) : AssocRbTree κ ν :=
  let zn : AssocNode κ ν :=
    { AssocNode.initNode (some (key, value)) with
      parent := t.dummy, left := t.dummy, right := t.dummy }
  { t with heap := t.heap.set z (some zn) }

/-- "Find leaf to insert": the node `y_node` under which the key goes. -/
def findLeaf (t : AssocRbTree κ ν) (key : κ) : Nat → Addr → Addr → Outcome Addr
  | 0, _, _ => .blocked
  | fuel + 1, x, y =>
    if x = t.dummy then return y
    else do
      let xn ← t.load x
      let rc ← compKey c key xn
      if rc = 1 then t.findLeaf key fuel xn.left x else t.findLeaf key fuel xn.right x

/-- `z_node` below `y_node`, on the side of its key. -/
def attach (t : AssocRbTree κ ν) (key : κ) (z y : Addr) : Outcome (AssocRbTree κ ν) := do
  let t ← t.modify z fun n => n.setParent y
  if y = t.dummy then return { t with root := z }
  else do
    let yn ← t.load y
    let rc ← compKey c key yn
    if rc = 1 then t.modify y fun n => n.setChild .left z
    else t.modify y fun n => n.setChild .right z

/-- `assoc_rb_tree_insert`, when `malloc` gives the address `z`. -/
def insert (t : AssocRbTree κ ν) (key : κ) (value : ν) (z : Addr) :
    Outcome (AssocRbTree κ ν) := do
  .await (t.heap z).isNone
  let t := t.createNodeRbTree key value z
  let y ← t.findLeaf c key (t.size + 1) t.root t.dummy
  let t ← t.attach c key z y
  let t ← t.insertFixup (t.size + 1) z
  return { t with size := t.size + 1 }

/-! ## Search -/

/-- `minimum`, from a node that is not the dummy. -/
def minimum (t : AssocRbTree κ ν) : Nat → Addr → Outcome Addr
  | 0, _ => .blocked
  | fuel + 1, x => do
    let xn ← t.load x
    if xn.left = t.dummy then return x else t.minimum fuel xn.left

/-- `find_rb_tree`. -/
def findRbTree (t : AssocRbTree κ ν) (key : κ) : Nat → Addr → Outcome Addr
  | 0, _ => .blocked
  | fuel + 1, node =>
    if node = t.dummy then return node
    else do
      let n ← t.load node
      let rc ← compKey c key n
      if rc = 1 then t.findRbTree key fuel n.left
      else if rc = -1 then t.findRbTree key fuel n.right
      else do
        .assert (rc == 0) "rc == 0"
        return node

/-! ## Deletion -/

/-- Case 1 of `delete_fixup`, if the sibling `w` is red: returns the new sibling. -/
def redSibling (s : Side) (t : AssocRbTree κ ν) (x w : Addr) :
    Outcome (AssocRbTree κ ν × Addr) := do
  let wn ← t.load w
  if wn.color = .red then do
    let xn ← t.load x
    let t ← t.modify w fun n => n.setColor .black
    let t ← t.modify xn.parent fun n => n.setColor .red
    let t ← t.rotate s xn.parent
    let xn ← t.load x
    let pn ← t.load xn.parent
    return (t, pn.child s.other)
  else return (t, w)

/-- Case 3, if the far child of the sibling `w` is black: returns the new sibling. -/
def blackFar (s : Side) (t : AssocRbTree κ ν) (x w : Addr) :
    Outcome (AssocRbTree κ ν × Addr) := do
  let wn ← t.load w
  let far ← t.load (wn.child s.other)
  if far.color = .black then do
    .assert (wn.color == .black) "w_node->color == ASSOC_BLACK"
    let near ← t.load (wn.child s)
    .assert (near.color == .red) "w_node->left->color == ASSOC_RED"
    let t ← t.modify (wn.child s) fun n => n.setColor .black
    let t ← t.modify w fun n => n.setColor .red
    let t ← t.rotate s.other w
    let xn ← t.load x
    let pn ← t.load xn.parent
    return (t, pn.child s.other)
  else return (t, w)

/-- Case 4: the far child of the sibling `w` is red. -/
def redFar (s : Side) (t : AssocRbTree κ ν) (x w : Addr) : Outcome (AssocRbTree κ ν) := do
  let wn ← t.load w
  .assert (wn.color == .black) "w_node->color == ASSOC_BLACK"
  let far ← t.load (wn.child s.other)
  .assert (far.color == .red) "w_node->right->color == ASSOC_RED"
  let xn ← t.load x
  let pn ← t.load xn.parent
  let t ← t.modify w fun n => n.setColor pn.color
  let t ← t.modify xn.parent fun n => n.setColor .black
  let t ← t.modify (wn.child s.other) fun n => n.setColor .black
  t.rotate s xn.parent

/-- A round of `delete_fixup` for an `x_node` that is the child of its parent on the side `s`;
returns the next `x_node`. -/
def deleteRound (s : Side) (t : AssocRbTree κ ν) (x : Addr) :
    Outcome (AssocRbTree κ ν × Addr) := do
  let xn ← t.load x
  let pn ← t.load xn.parent
  let (t, w) ← t.redSibling s x (pn.child s.other)
  let wn ← t.load w
  .assert (wn.color == .black) "w_node->color == ASSOC_BLACK"
  let near ← t.load (wn.child s)
  let far ← t.load (wn.child s.other)
  if near.color = .black ∧ far.color = .black then do
    -- Case 2: both children of the sibling are black
    let t ← t.modify w fun n => n.setColor .red
    let xn ← t.load x
    return (t, xn.parent)
  else do
    let (t, w) ← t.blackFar s x w
    let t ← t.redFar s x w
    return (t, t.root)

/-- `delete_fixup`. -/
def deleteFixup : Nat → AssocRbTree κ ν → Addr → Outcome (AssocRbTree κ ν)
  | 0, _, _ => .blocked
  | fuel + 1, t, x => do
    let xn ← t.load x
    if x ≠ t.root ∧ xn.color = .black then do
      let pn ← t.load xn.parent
      let s : Side := if x = pn.left then .left else .right
      let (t, x) ← t.deleteRound s x
      deleteFixup fuel t x
    else t.modify x fun n => n.setColor .black

def transplant (t : AssocRbTree κ ν) (u v : Addr) : Outcome (AssocRbTree κ ν) := do
  .assert (u != t.dummy) "u_node != tree->dummy"
  let t ← t.relink u v
  let un ← t.load u
  t.modify v fun n => n.setParent un.parent

/-- `y_node` out of its place, and the right subtree of `z_node` below it. -/
def takeRight (t : AssocRbTree κ ν) (z y : Addr) : Outcome (AssocRbTree κ ν) := do
  let yn ← t.load y
  if yn.parent = z then t.modify yn.right fun n => n.setParent y
  else do
    let t ← t.transplant y yn.right
    let zn ← t.load z
    let t ← t.modify y fun n => n.setChild .right zn.right
    t.modify zn.right fun n => n.setParent y

/-- `z_node` out of the tree, its successor in its place; returns the `x_node` and the
`original_color` for the fix-up. -/
def unlinkBetween (t : AssocRbTree κ ν) (z : Addr) :
    Outcome (AssocRbTree κ ν × Addr × Color) := do
  let zn ← t.load z
  let y ← t.minimum (t.size + 1) zn.right
  let yn ← t.load y
  let t ← t.takeRight z y
  let t ← t.transplant z y
  let zn ← t.load z
  let t ← t.modify y fun n => n.setChild .left zn.left
  let t ← t.modify zn.left fun n => n.setParent y
  let t ← t.modify y fun n => n.setColor zn.color
  return (t, yn.right, yn.color)

/-- `z_node` out of the tree; returns the `x_node` and the `original_color` for the fix-up. -/
def unlink (t : AssocRbTree κ ν) (z : Addr) : Outcome (AssocRbTree κ ν × Addr × Color) := do
  let zn ← t.load z
  if zn.left = t.dummy then do
    let t ← t.transplant z zn.right
    return (t, zn.right, zn.color)
  else if zn.right = t.dummy then do
    let t ← t.transplant z zn.left
    return (t, zn.left, zn.color)
  else t.unlinkBetween z

/-- `assoc_rb_tree_extract_node`. -/
def extractNode (t : AssocRbTree κ ν) (z : Addr) : Outcome (AssocRbTree κ ν) := do
  .assert (z != t.dummy) "Trying to extract a key not found in the tree"
  let (t, x, originalColor) ← t.unlink z
  if originalColor = .black then t.deleteFixup (t.size + 1) x else return t

/-- `free_node_rb_tree(z_node)` and `tree->size--`; returns the entry that was freed. -/
def freeNode (t : AssocRbTree κ ν) (z : Addr) : Outcome ((κ × ν) × AssocRbTree κ ν) := do
  let zn ← t.load z
  let e ← .expect zn.entry "key is NULL"
  .assert (t.size != 0) "tree->size != 0"
  return (e, { t with heap := t.heap.set z none, size := t.size - 1 })

/-- `assoc_rb_tree_extract`; also returns the key that is freed. -/
def extract (t : AssocRbTree κ ν) (key : κ) : Outcome ((κ × ν) × AssocRbTree κ ν) := do
  let z ← t.findRbTree c key (t.size + 1) t.root
  .assert (z != t.dummy) "Trying to extract a key not found in the tree"
  let t ← t.extractNode z
  t.freeNode z

/-- `assoc_rb_tree_free_it`, which calls `tree->free_func` whether or not there is one (`freeFunc`);
also returns the entry that is freed. -/
def freeIt (t : AssocRbTree κ ν) (freeFunc : Bool) (it : Addr) :
    Outcome ((κ × ν) × AssocRbTree κ ν) := do
  .assert (it != t.dummy) "Trying to extract a key not found in the tree"
  let t ← t.extractNode it
  .assert freeFunc "tree->free_func is NULL"
  t.freeNode it

/-! ## Iteration -/

/-- `assoc_rb_tree_front`. -/
def front (t : AssocRbTree κ ν) : Outcome Addr :=
  if t.root = t.dummy then return t.dummy else t.minimum (t.size + 1) t.root

/-- "go up until you come from the parent's left or find the end of the tree". -/
def climb (t : AssocRbTree κ ν) : Nat → Addr → Outcome Addr
  | 0, _ => .blocked
  | fuel + 1, node => do
    let n ← t.load node
    if n.parent = t.dummy then return n.parent
    else do
      let pn ← t.load n.parent
      if pn.left = node then return n.parent else t.climb fuel n.parent

/-- `assoc_rb_tree_next`. -/
def next (t : AssocRbTree κ ν) (it : Addr) : Outcome Addr := do
  .assert (it != t.dummy) "No next node since the end reached"
  let n ← t.load it
  if n.right = t.dummy then t.climb (t.size + 1) it else t.minimum (t.size + 1) n.right

/-- The entries from an iterator to the end, as a loop over `next` meets them. -/
def entriesFrom (t : AssocRbTree κ ν) : Nat → Addr → Outcome (List (κ × ν))
  | 0, _ => .blocked
  | fuel + 1, it =>
    if it = t.dummy then return []
    else do
      let n ← t.load it
      let e ← .expect n.entry "key is NULL"
      let it ← t.next it
      let es ← t.entriesFrom fuel it
      return e :: es

/-- The entries from `front` to `end`. -/
def entries (t : AssocRbTree κ ν) : Outcome (List (κ × ν)) := do
  let it ← t.front
  t.entriesFrom (t.size + 1) it

end AssocRbTree

end FlexRic
