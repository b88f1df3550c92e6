import Mathlib.Data.List.Nodup
import Mathlib.Logic.Function.Basic

/-!
# The intrusive single-linked list

`sys_slist_t` keeps a head and a tail pointer; the `next` pointer of a node
lives inside the node, so that all lists of one node type share one heap of
`next` fields. The operations are those that `list_gen.h` generates. `none` is
the null pointer. The only loop, the search for the node to unlink, runs on
fuel: `none` as its result means that it has not reached the end of the list.

`Represents` is the meaning of a list header: a NULL-terminated chain without
repetition whose last node is the tail. Every operation is then the list
operation one expects, and touches no `next` field of any other node.
-/

namespace AresCommon.DataStructures.Slist

set_option autoImplicit false

variable {Node : Type} [DecidableEq Node]

abbrev Links (Node : Type) := Node → Option Node

structure SysSlist (Node : Type) where
  head : Option Node
  tail : Option Node
  deriving DecidableEq, Repr

namespace SysSlist

def init : SysSlist Node where
  head := none
  tail := none

def isEmpty (list : SysSlist Node) : Bool := list.head.isNone

def prepend (next : Links Node) (list : SysSlist Node) (node : Node) :
    Links Node × SysSlist Node :=
  let next := Function.update next node list.head
  if list.tail = none then (next, { head := some node, tail := some node })
  else (next, { list with head := some node })

def append (next : Links Node) (list : SysSlist Node) (node : Node) :
    Links Node × SysSlist Node :=
  let next := Function.update next node none
  match list.tail with
  | none => (next, { head := some node, tail := some node })
  | some last => (Function.update next last (some node), { list with tail := some node })

def insert (next : Links Node) (list : SysSlist Node) (prev : Option Node) (node : Node) :
    Links Node × SysSlist Node :=
  match prev with
  | none => prepend next list node
  | some prev =>
      if next prev = none then append next list node
      else (Function.update (Function.update next node (next prev)) prev (some node), list)

def getNotEmpty (next : Links Node) (list : SysSlist Node) (node : Node) : SysSlist Node :=
  { head := next node, tail := if list.tail = some node then next node else list.tail }

/-- Fetch and remove the first node; the `next` field of the fetched node is
left as it is. -/
def get (next : Links Node) (list : SysSlist Node) : Option Node × SysSlist Node :=
  match list.head with
  | none => (none, list)
  | some node => (some node, getNotEmpty next list node)

def remove (next : Links Node) (list : SysSlist Node) (prev : Option Node) (node : Node) :
    Links Node × SysSlist Node :=
  match prev with
  | none =>
      let list := getNotEmpty next list node
      (Function.update next node none, list)
  | some prev =>
      let next' := Function.update next prev (next node)
      let tail := if list.tail = some node then some prev else list.tail
      (Function.update next' node none, { list with tail := tail })

/-- The loop shared by `sys_slist_find_and_remove` and by the SAFE iteration
with a `break`: walk the chain from `test`, remember the node before it, and
unlink the first node that matches. -/
def removeFirstFrom (next : Links Node) (list : SysSlist Node) (matching : Node → Bool) :
    Nat → Option Node → Option Node →
      Option (Option Node × Links Node × SysSlist Node)
  | _, _, none => some (none, next, list)
  | 0, _, some _ => none
  | fuel + 1, prev, some test =>
      if matching test then
        let (next', list') := remove next list prev test
        some (some test, next', list')
      else removeFirstFrom next list matching fuel (some test) (next test)

def removeFirst (fuel : Nat) (next : Links Node) (list : SysSlist Node)
    (matching : Node → Bool) : Option (Option Node × Links Node × SysSlist Node) :=
  removeFirstFrom next list matching fuel none list.head

def findAndRemove (fuel : Nat) (next : Links Node) (list : SysSlist Node) (node : Node) :
    Option (Option Node × Links Node × SysSlist Node) :=
  removeFirst fuel next list (fun test => test = node)

end SysSlist

/-- `nodes` are the nodes met on the way from `start` along the `next`
pointers before `stop` is reached. -/
def Path (next : Links Node) : Option Node → List Node → Option Node → Prop
  | start, [], stop => start = stop
  | start, node :: rest, stop => start = some node ∧ Path next (next node) rest stop

omit [DecidableEq Node] in
theorem path_append (next : Links Node) (start stop : Option Node) (front back : List Node) :
    Path next start (front ++ back) stop ↔
      ∃ middle, Path next start front middle ∧ Path next middle back stop := by
  induction front generalizing start with
  | nil => simp [Path]
  | cons node rest ih =>
      simp only [List.cons_append, Path, ih]
      constructor
      · rintro ⟨head, middle, front, back⟩
        exact ⟨middle, ⟨head, front⟩, back⟩
      · rintro ⟨middle, ⟨head, front⟩, back⟩
        exact ⟨head, middle, front, back⟩

omit [DecidableEq Node] in
theorem path_frame {next next' : Links Node} {start stop : Option Node} {nodes : List Node}
    (same : ∀ node ∈ nodes, next' node = next node)
    (path : Path next start nodes stop) : Path next' start nodes stop := by
  induction nodes generalizing start with
  | nil => exact path
  | cons node rest ih =>
      obtain ⟨head, tail⟩ := path
      refine ⟨head, ?_⟩
      rw [same node List.mem_cons_self]
      exact ih (fun other member => same other (List.mem_cons_of_mem _ member)) tail

theorem path_update {next : Links Node} {start stop : Option Node} {nodes : List Node}
    {node : Node} (outside : node ∉ nodes) (value : Option Node)
    (path : Path next start nodes stop) :
    Path (Function.update next node value) start nodes stop := by
  refine path_frame ?_ path
  intro other member
  exact Function.update_of_ne (ne_of_mem_of_not_mem member outside) _ _

omit [DecidableEq Node] in
theorem path_unique {next : Links Node} {start : Option Node} {left right : List Node}
    (leftPath : Path next start left none) (rightPath : Path next start right none) :
    left = right := by
  induction left generalizing start right with
  | nil =>
      cases right with
      | nil => rfl
      | cons node rest =>
          have null : start = none := leftPath
          simp [Path, null] at rightPath
  | cons node rest ih =>
      obtain ⟨head, tail⟩ := leftPath
      cases right with
      | nil =>
          have null : start = none := rightPath
          simp [null] at head
      | cons other more =>
          obtain ⟨otherHead, otherTail⟩ := rightPath
          have same : node = other := Option.some.inj (head.symm.trans otherHead)
          subst same
          rw [ih tail otherTail]

def insertAfter (prev node : Node) : List Node → List Node
  | [] => []
  | first :: rest =>
      if first = prev then first :: node :: rest else first :: insertAfter prev node rest

theorem insert_after_split {front back : List Node} {prev node : Node}
    (before : prev ∉ front) :
    insertAfter prev node (front ++ prev :: back) = front ++ prev :: node :: back := by
  induction front with
  | nil => simp [insertAfter]
  | cons first rest ih =>
      have differs : first ≠ prev := fun same => before (same ▸ List.mem_cons_self)
      have later : prev ∉ rest := fun member => before (List.mem_cons_of_mem _ member)
      simp only [List.cons_append, insertAfter, if_neg differs, ih later]

theorem mem_insert_after {prev node other : Node} {nodes : List Node} :
    other ∈ insertAfter prev node nodes ↔
      other ∈ nodes ∨ (other = node ∧ prev ∈ nodes) := by
  induction nodes with
  | nil => simp [insertAfter]
  | cons first rest ih =>
      simp only [insertAfter]
      split
      · rename_i same
        subst same
        simp only [List.mem_cons, true_or, and_true]
        tauto
      · rename_i differs
        have other : prev ≠ first := Ne.symm differs
        simp only [List.mem_cons, ih, other, false_or]
        tauto

theorem insert_after_nodup {prev node : Node} {nodes : List Node} (nodup : nodes.Nodup)
    (fresh : node ∉ nodes) : (insertAfter prev node nodes).Nodup := by
  induction nodes with
  | nil => exact nodup
  | cons first rest ih =>
      obtain ⟨firstFresh, restNodup⟩ := List.nodup_cons.mp nodup
      obtain ⟨differs, restFresh⟩ := not_or.mp (List.mem_cons.not.mp fresh)
      simp only [insertAfter]
      split
      · have inner : (node :: rest).Nodup := List.nodup_cons.mpr ⟨restFresh, restNodup⟩
        refine List.nodup_cons.mpr ⟨?_, inner⟩
        simpa using ⟨Ne.symm differs, firstFresh⟩
      · refine List.nodup_cons.mpr ⟨?_, ih restNodup restFresh⟩
        rw [mem_insert_after]
        rintro (member | ⟨same, _⟩)
        · exact firstFresh member
        · exact differs same.symm

theorem sublist_insert_after (prev node : Node) (nodes : List Node) :
    nodes.Sublist (insertAfter prev node nodes) := by
  induction nodes with
  | nil => exact .slnil
  | cons head rest ih =>
      unfold insertAfter
      split
      · exact (List.sublist_cons_self node rest).cons_cons head
      · exact ih.cons_cons head

theorem length_insert_after_le (prev node : Node) (nodes : List Node) :
    (insertAfter prev node nodes).length ≤ nodes.length + 1 := by
  induction nodes with
  | nil => exact Nat.zero_le _
  | cons head rest ih =>
      unfold insertAfter
      split
      · exact Nat.le_refl _
      · exact Nat.succ_le_succ ih

theorem insert_after_order {prev node : Node} {nodes : List Node} (member : prev ∈ nodes) :
    [prev, node].Sublist (insertAfter prev node nodes) := by
  induction nodes with
  | nil => cases member
  | cons head rest ih =>
      unfold insertAfter
      split
      · rename_i same
        rw [same]
        exact ((List.nil_sublist rest).cons_cons node).cons_cons prev
      · rename_i differs
        have later : prev ∈ rest := (List.mem_cons.mp member).resolve_left (Ne.symm differs)
        exact (ih later).cons head

theorem insert_after_filter_map {Value : Type} (read : Node → Option Value)
    {prev node : Node} (invisible : read node = none) (nodes : List Node) :
    (insertAfter prev node nodes).filterMap read = nodes.filterMap read := by
  induction nodes with
  | nil => rfl
  | cons first rest ih =>
      simp only [insertAfter]
      split
      · simp only [List.filterMap_cons, invisible]
      · simp only [List.filterMap_cons, ih]

/-- The header `list` stands for `nodes`: following `next` from the head meets
exactly these nodes and then NULL, none of them twice, and the tail pointer is
the last of them. -/
structure Represents (next : Links Node) (list : SysSlist Node) (nodes : List Node) : Prop where
  chain : Path next list.head nodes none
  tail : list.tail = nodes.getLast?
  nodup : nodes.Nodup

namespace Represents

variable {next next' : Links Node} {list list' : SysSlist Node} {nodes other : List Node}

omit [DecidableEq Node] in
theorem unique (left : Represents next list nodes) (right : Represents next list other) :
    nodes = other :=
  path_unique left.chain right.chain

omit [DecidableEq Node] in
theorem frame (rep : Represents next list nodes)
    (same : ∀ node ∈ nodes, next' node = next node) : Represents next' list nodes :=
  ⟨path_frame same rep.chain, rep.tail, rep.nodup⟩

omit [DecidableEq Node] in
theorem of_init (next : Links Node) : Represents next SysSlist.init [] :=
  ⟨rfl, rfl, List.nodup_nil⟩

omit [DecidableEq Node] in
theorem head_eq (rep : Represents next list nodes) : list.head = nodes.head? := by
  cases nodes with
  | nil => exact rep.chain
  | cons node rest => exact rep.chain.1

omit [DecidableEq Node] in
theorem is_empty (rep : Represents next list nodes) : list.isEmpty = nodes.isEmpty := by
  rw [SysSlist.isEmpty, rep.head_eq]
  cases nodes <;> rfl

omit [DecidableEq Node] in
theorem tail_none (rep : Represents next list nodes) : list.tail = none ↔ nodes = [] := by
  rw [rep.tail, List.getLast?_eq_none_iff]

theorem prepend (rep : Represents next list nodes) {node : Node} (fresh : node ∉ nodes) :
    Represents (SysSlist.prepend next list node).1 (SysSlist.prepend next list node).2
      (node :: nodes) := by
  have chain : Path (Function.update next node list.head) (some node) (node :: nodes) none := by
    refine ⟨rfl, ?_⟩
    rw [Function.update_self]
    exact path_update fresh _ rep.chain
  have nodup : (node :: nodes).Nodup := List.nodup_cons.mpr ⟨fresh, rep.nodup⟩
  unfold SysSlist.prepend
  by_cases empty : list.tail = none
  · rw [if_pos empty]
    have nodesNil := rep.tail_none.mp empty
    subst nodesNil
    exact ⟨chain, rfl, nodup⟩
  · rw [if_neg empty]
    refine ⟨chain, ?_, nodup⟩
    have nonempty : nodes ≠ [] := fun nil => empty (rep.tail_none.mpr nil)
    obtain ⟨first, rest, rfl⟩ := List.exists_cons_of_ne_nil nonempty
    rw [List.getLast?_cons_cons]
    exact rep.tail

theorem append (rep : Represents next list nodes) {node : Node} (fresh : node ∉ nodes) :
    Represents (SysSlist.append next list node).1 (SysSlist.append next list node).2
      (nodes ++ [node]) := by
  have nodup : (nodes ++ [node]).Nodup := by
    rw [← List.concat_eq_append]
    exact rep.nodup.concat fresh
  unfold SysSlist.append
  cases tail : list.tail with
  | none =>
      have nodesNil := rep.tail_none.mp tail
      subst nodesNil
      exact ⟨⟨rfl, Function.update_self _ _ _⟩, rfl, List.nodup_singleton _⟩
  | some last =>
      obtain ⟨front, rfl⟩ := List.getLast?_eq_some_iff.mp (rep.tail.symm.trans tail)
      obtain ⟨middle, frontPath, lastHead, _⟩ := (path_append _ _ _ _ _).mp rep.chain
      have lastNode : last ≠ node := fun same =>
        fresh (same ▸ List.mem_append_right _ List.mem_cons_self)
      have lastFront : last ∉ front := fun member =>
        (List.nodup_append.mp rep.nodup).2.2 last member last List.mem_cons_self rfl
      have nodeFront : node ∉ front := fun member => fresh (List.mem_append_left _ member)
      refine ⟨?_, by simp, nodup⟩
      change Path (Function.update (Function.update next node none) last (some node))
        list.head (front ++ [last] ++ [node]) none
      rw [List.append_assoc, path_append]
      refine ⟨middle, path_update lastFront _ (path_update nodeFront _ frontPath),
        lastHead, ?_⟩
      rw [Function.update_self]
      refine ⟨rfl, ?_⟩
      rw [Function.update_of_ne (Ne.symm lastNode), Function.update_self]
      rfl

/-- Inserting behind a linked node. The source appends when the node is the
last one: a linked node whose `next` is NULL is the tail. -/
theorem insert_after {front back : List Node} {prev node : Node}
    (rep : Represents next list (front ++ prev :: back))
    (fresh : node ∉ front ++ prev :: back) :
    Represents (SysSlist.insert next list (some prev) node).1
      (SysSlist.insert next list (some prev) node).2 (front ++ prev :: node :: back) := by
  obtain ⟨middle, frontPath, prevHead, backPath⟩ := (path_append _ _ _ _ _).mp rep.chain
  simp only [SysSlist.insert]
  by_cases last : next prev = none
  · rw [if_pos last]
    rw [last] at backPath
    have backNil : back = [] := by
      cases back with
      | nil => rfl
      | cons other rest => exact absurd backPath.1 (by simp)
    subst backNil
    have appended := rep.append fresh
    rwa [List.append_assoc] at appended
  · rw [if_neg last]
    have prevNode : prev ≠ node := fun same =>
      fresh (same ▸ List.mem_append_right _ List.mem_cons_self)
    have distinct := List.nodup_append.mp rep.nodup
    have prevFront : prev ∉ front := fun member =>
      distinct.2.2 prev member prev List.mem_cons_self rfl
    have prevBack : prev ∉ back := (List.nodup_cons.mp distinct.2.1).1
    have nodeFront : node ∉ front := fun member => fresh (List.mem_append_left _ member)
    have nodeBack : node ∉ back := fun member =>
      fresh (List.mem_append_right _ (List.mem_cons_of_mem _ member))
    refine ⟨?_, ?_, ?_⟩
    · change Path (Function.update (Function.update next node (next prev)) prev (some node))
        list.head (front ++ prev :: node :: back) none
      rw [path_append]
      refine ⟨middle, path_update prevFront _ (path_update nodeFront _ frontPath),
        prevHead, ?_⟩
      rw [Function.update_self]
      refine ⟨rfl, ?_⟩
      rw [Function.update_of_ne (Ne.symm prevNode), Function.update_self]
      exact path_update prevBack _ (path_update nodeBack _ backPath)
    · have nonempty : back ≠ [] := by
        rintro rfl
        exact last backPath
      obtain ⟨first, rest, rfl⟩ := List.exists_cons_of_ne_nil nonempty
      have tail := rep.tail
      simp only [List.getLast?_append, List.getLast?_cons_cons] at tail ⊢
      exact tail
    · have moved : (front ++ prev :: node :: back).Perm (node :: (front ++ prev :: back)) := by
        have split : front ++ prev :: node :: back = (front ++ [prev]) ++ node :: back := by simp
        have join : front ++ prev :: back = (front ++ [prev]) ++ back := by simp
        rw [split, join]
        exact List.perm_middle
      rw [moved.nodup_iff]
      exact List.nodup_cons.mpr ⟨fresh, rep.nodup⟩

theorem insert (rep : Represents next list nodes) {prev node : Node} (member : prev ∈ nodes)
    (fresh : node ∉ nodes) :
    Represents (SysSlist.insert next list (some prev) node).1
      (SysSlist.insert next list (some prev) node).2 (insertAfter prev node nodes) := by
  obtain ⟨front, back, rfl, before⟩ := List.eq_append_cons_of_mem member
  rw [insert_after_split before]
  exact rep.insert_after fresh

theorem drop_head {node : Node} {rest : List Node}
    (rep : Represents next list (node :: rest)) :
    Represents next (SysSlist.getNotEmpty next list node) rest := by
  obtain ⟨fresh, restNodup⟩ := List.nodup_cons.mp rep.nodup
  refine ⟨rep.chain.2, ?_, restNodup⟩
  simp only [SysSlist.getNotEmpty, rep.tail]
  cases rest with
  | nil =>
      have nextNode : next node = none := rep.chain.2
      simp [nextNode]
  | cons first more =>
      rw [List.getLast?_cons_cons, if_neg]
      intro same
      exact fresh (List.mem_of_getLast? same)

theorem get_nil (rep : Represents next list []) : SysSlist.get next list = (none, list) := by
  have head : list.head = none := rep.head_eq
  simp [SysSlist.get, head]

theorem get_cons {node : Node} {rest : List Node}
    (rep : Represents next list (node :: rest)) :
    (SysSlist.get next list).1 = some node ∧
      Represents next (SysSlist.get next list).2 rest := by
  have head : list.head = some node := rep.head_eq
  simp only [SysSlist.get, head]
  exact ⟨trivial, rep.drop_head⟩

theorem remove {front back : List Node} {node : Node}
    (rep : Represents next list (front ++ node :: back)) :
    Represents (SysSlist.remove next list front.getLast? node).1
      (SysSlist.remove next list front.getLast? node).2 (front ++ back) := by
  have distinct := List.nodup_append.mp rep.nodup
  have nodeFront : node ∉ front := fun member =>
    distinct.2.2 node member node List.mem_cons_self rfl
  obtain ⟨nodeBack, backNodup⟩ := List.nodup_cons.mp distinct.2.1
  cases last : front.getLast? with
  | none =>
      have frontNil := List.getLast?_eq_none_iff.mp last
      subst frontNil
      have dropped : Represents next (SysSlist.getNotEmpty next list node) back :=
        rep.drop_head
      exact ⟨path_update nodeBack _ dropped.chain, dropped.tail, dropped.nodup⟩
  | some prev =>
      obtain ⟨front, rfl⟩ := List.getLast?_eq_some_iff.mp last
      have prevFront : prev ∉ front := fun member =>
        (List.nodup_append.mp distinct.1).2.2 prev member prev List.mem_cons_self rfl
      have prevBack : prev ∉ back := fun member =>
        distinct.2.2 prev (List.mem_append_right _ List.mem_cons_self) prev
          (List.mem_cons_of_mem _ member) rfl
      have prevNode : prev ≠ node := fun same =>
        nodeFront (same ▸ List.mem_append_right _ List.mem_cons_self)
      obtain ⟨middle, frontPath, nodeHead, backPath⟩ := (path_append _ _ _ _ _).mp rep.chain
      obtain ⟨early, earlyPath, prevHead, _⟩ := (path_append _ _ _ _ _).mp frontPath
      simp only [SysSlist.remove]
      refine ⟨?_, ?_, ?_⟩
      · rw [List.append_assoc, path_append]
        have nodeEarly : node ∉ front := fun member =>
          nodeFront (List.mem_append_left _ member)
        refine ⟨early, path_update nodeEarly _ (path_update prevFront _ earlyPath),
          prevHead, ?_⟩
        rw [Function.update_of_ne prevNode, Function.update_self]
        exact path_update nodeBack _ (path_update prevBack _ backPath)
      · simp only [rep.tail]
        cases back with
        | nil => simp
        | cons first rest =>
            have lastEq : (front ++ [prev] ++ node :: first :: rest).getLast? =
                (front ++ [prev] ++ first :: rest).getLast? := by
              simp [List.getLast?_append, List.getLast?_cons_cons]
            rw [lastEq, if_neg]
            intro same
            have member := List.mem_of_getLast? same
            rcases List.mem_append.mp member with before | after
            · exact nodeFront before
            · exact nodeBack after
      · rw [List.nodup_append]
        exact ⟨distinct.1, backNodup, fun left leftMember right rightMember =>
          distinct.2.2 left leftMember right (List.mem_cons_of_mem _ rightMember)⟩

end Represents

/-! ## Which `next` fields an operation writes -/

theorem prepend_frame (next : Links Node) (list : SysSlist Node) {node other : Node}
    (different : other ≠ node) : (SysSlist.prepend next list node).1 other = next other := by
  unfold SysSlist.prepend
  split <;> exact Function.update_of_ne different _ _

theorem append_frame {next : Links Node} {list : SysSlist Node} {nodes : List Node}
    (rep : Represents next list nodes) {node other : Node} (different : other ≠ node)
    (outside : other ∉ nodes) : (SysSlist.append next list node).1 other = next other := by
  unfold SysSlist.append
  cases tail : list.tail with
  | none => exact Function.update_of_ne different _ _
  | some last =>
      have member : last ∈ nodes := List.mem_of_getLast? (rep.tail.symm.trans tail)
      have differs : other ≠ last := (ne_of_mem_of_not_mem member outside).symm
      change Function.update (Function.update next node none) last (some node) other = _
      rw [Function.update_of_ne differs, Function.update_of_ne different]

theorem insert_frame {next : Links Node} {list : SysSlist Node} {nodes : List Node}
    (rep : Represents next list nodes) {prev node other : Node} (member : prev ∈ nodes)
    (different : other ≠ node) (outside : other ∉ nodes) :
    (SysSlist.insert next list (some prev) node).1 other = next other := by
  simp only [SysSlist.insert]
  split
  · exact append_frame rep different outside
  · have differs : other ≠ prev := (ne_of_mem_of_not_mem member outside).symm
    change Function.update (Function.update next node _) prev _ other = _
    rw [Function.update_of_ne differs, Function.update_of_ne different]

theorem remove_frame (next : Links Node) (list : SysSlist Node) {prev : Option Node}
    {node other : Node} (different : other ≠ node) (differs : prev ≠ some other) :
    (SysSlist.remove next list prev node).1 other = next other := by
  cases prev with
  | none => exact Function.update_of_ne different _ _
  | some prev =>
      have before : other ≠ prev := fun same => differs (congrArg some same.symm)
      simp only [SysSlist.remove]
      rw [Function.update_of_ne different, Function.update_of_ne before]

/-! ## The search loop -/

/-- Loop invariant of the search: the nodes already passed do not match, `prev`
is the last of them and `test` starts the rest of the chain. -/
theorem remove_first_from {next next' : Links Node} {list list' : SysSlist Node}
    {matching : Node → Bool} {fuel : Nat} {result : Option Node}
    (front : List Node) {back : List Node} {test : Option Node}
    (rep : Represents next list (front ++ back)) (rest : Path next test back none)
    (passed : ∀ node ∈ front, ¬matching node)
    (ran : SysSlist.removeFirstFrom next list matching fuel front.getLast? test =
      some (result, next', list')) :
    result = back.find? matching ∧
      Represents next' list' (front ++ back.eraseP matching) ∧
      ∀ node ∉ front ++ back, next' node = next node := by
  induction back generalizing fuel front test with
  | nil =>
      have null : test = none := rest
      subst null
      unfold SysSlist.removeFirstFrom at ran
      simp only [Option.some.injEq, Prod.mk.injEq] at ran
      obtain ⟨rfl, rfl, rfl⟩ := ran
      exact ⟨rfl, rep, fun _ _ => rfl⟩
  | cons node back ih =>
      obtain ⟨rfl, backPath⟩ := rest
      cases fuel with
      | zero => simp [SysSlist.removeFirstFrom] at ran
      | succ fuel =>
          unfold SysSlist.removeFirstFrom at ran
          by_cases found : matching node
          · simp only [found, if_true, Option.some.injEq, Prod.mk.injEq] at ran
            obtain ⟨rfl, rfl, rfl⟩ := ran
            refine ⟨by simp [found], ?_, ?_⟩
            · simpa [found] using rep.remove
            · intro other outside
              have differs : other ≠ node := fun same =>
                outside (same ▸ List.mem_append_right _ List.mem_cons_self)
              refine remove_frame next list differs fun last => outside ?_
              exact List.mem_append_left _ (List.mem_of_getLast? last)
          · simp only [found] at ran
            have shifted : front ++ node :: back = (front ++ [node]) ++ back := by simp
            rw [shifted] at rep
            have passedNode : ∀ old ∈ front ++ [node], ¬matching old := by
              intro old member
              rcases List.mem_append.mp member with before | here
              · exact passed old before
              · rw [List.mem_singleton.mp here]
                exact found
            have result := ih (front ++ [node]) rep backPath passedNode (by simpa using ran)
            rw [shifted]
            simpa [found] using result

theorem remove_first {next next' : Links Node} {list list' : SysSlist Node}
    {matching : Node → Bool} {fuel : Nat} {nodes : List Node} {result : Option Node}
    (rep : Represents next list nodes)
    (ran : SysSlist.removeFirst fuel next list matching = some (result, next', list')) :
    result = nodes.find? matching ∧ Represents next' list' (nodes.eraseP matching) ∧
      ∀ node ∉ nodes, next' node = next node :=
  remove_first_from [] rep rep.chain (by simp) ran

theorem find_and_remove {next next' : Links Node} {list list' : SysSlist Node}
    {fuel : Nat} {nodes : List Node} {node : Node} {result : Option Node}
    (rep : Represents next list nodes)
    (ran : SysSlist.findAndRemove fuel next list node = some (result, next', list')) :
    Represents next' list' (nodes.erase node) ∧ ∀ other ∉ nodes, next' other = next other := by
  obtain ⟨_, erased, frame⟩ := remove_first rep ran
  refine ⟨?_, frame⟩
  rw [List.erase_eq_eraseP]
  convert erased using 3
  rename_i other
  exact Bool.beq_comm

theorem erase_p_found (matching : Node → Bool) (nodes : List Node) :
    nodes.eraseP matching =
      match nodes.find? matching with
      | none => nodes
      | some node => nodes.erase node := by
  induction nodes with
  | nil => rfl
  | cons first rest ih =>
      by_cases hit : matching first
      · simp [hit]
      · cases found : rest.find? matching with
        | none => simp [hit, found, ih]
        | some node =>
            have matched := List.find?_some found
            have differs : first ≠ node := by
              rintro rfl
              exact hit matched
            have kept : (first :: rest).erase node = first :: rest.erase node :=
              List.erase_cons_tail (by simpa using differs)
            simp [hit, found, ih, kept]

/-- The search ends: fuel for every node of the chain is enough. -/
theorem remove_first_terminates {next : Links Node} {list : SysSlist Node}
    {nodes : List Node} (rep : Represents next list nodes) (matching : Node → Bool)
    {fuel : Nat} (enough : nodes.length ≤ fuel) :
    ∃ outcome, SysSlist.removeFirst fuel next list matching = some outcome := by
  have loop : ∀ (back : List Node) (fuel : Nat) (prev test : Option Node),
      Path next test back none → back.length ≤ fuel →
        ∃ outcome, SysSlist.removeFirstFrom next list matching fuel prev test =
          some outcome := by
    intro back
    induction back with
    | nil =>
        intro fuel prev test path _
        have null : test = none := path
        subst null
        exact ⟨_, by unfold SysSlist.removeFirstFrom; rfl⟩
    | cons node back ih =>
        intro fuel prev test path enough
        obtain ⟨rfl, backPath⟩ := path
        cases fuel with
        | zero => simp at enough
        | succ fuel =>
            unfold SysSlist.removeFirstFrom
            by_cases found : matching node
            · simp [found]
            · simp only [found]
              exact ih fuel (some node) (next node) backPath (by simpa using enough)
  exact loop nodes fuel none list.head rep.chain enough

end AresCommon.DataStructures.Slist
