import Mathlib.Data.List.TakeWhile
import AresCommon.DataStructures.Slist
import AresCommon.Foundation.Transition

/-!
# Lists that share their nodes' memory

The remaining operations of `list_gen.h`, and any number of lists whose nodes come from one
memory. As long as a node is put into a list only while it is in none, the lists do not notice
each other: whatever the order of the operations, each list answers as a sequence of its own.
-/

namespace AresCommon.DataStructures.Slist

open AresCommon.Foundation.Transition
open Function (update)

set_option autoImplicit false

variable {Node ListId : Type} [DecidableEq Node] [DecidableEq ListId]

namespace SysSlist

def peekNext (next : Links Node) : Option Node → Option Node
  | some node => next node
  | none => none

def appendList (next : Links Node) (list : SysSlist Node) (head tail : Option Node) :
    Links Node × SysSlist Node :=
  match head, tail with
  | some first, some last =>
      match list.tail with
      | none => (next, { head := some first, tail := some last })
      | some node => (update next node (some first), { list with tail := some last })
  | _, _ => (next, list)

/-- The second list is left empty. -/
def mergeSlist (next : Links Node) (list listToAppend : SysSlist Node) :
    Links Node × SysSlist Node × SysSlist Node :=
  let (next, list) := appendList next list listToAppend.head listToAppend.tail
  (next, list, init)

def findFrom (next : Links Node) (node : Node) :
    Nat → Option Node → Option Node → Option (Bool × Option Node)
  | _, previous, none => some (false, previous)
  | 0, _, some _ => none
  | fuel + 1, previous, some current =>
      if current = node then some (true, previous)
      else findFrom next node fuel (some current) (next current)

/-- Whether the node is in the list, and the node that it stores through `prev`. -/
def find (fuel : Nat) (next : Links Node) (list : SysSlist Node) (node : Node) :
    Option (Bool × Option Node) :=
  findFrom next node fuel none list.head

def lenFrom (next : Links Node) : Nat → Option Node → Nat → Option Nat
  | _, none, len => some len
  | 0, some _, _ => none
  | fuel + 1, some node, len => lenFrom next fuel (next node) (len + 1)

def len (fuel : Nat) (next : Links Node) (list : SysSlist Node) : Option Nat :=
  lenFrom next fuel list.head 0

end SysSlist

/-! ## The sequence of a list -/

namespace Represents

variable {next : Links Node} {list other : SysSlist Node} {nodes others : List Node}

omit [DecidableEq Node] in
theorem peek_next {front back : List Node} {node : Node}
    (rep : Represents next list (front ++ node :: back)) :
    SysSlist.peekNext next (some node) = back.head? := by
  obtain ⟨middle, _, _, rest⟩ := (path_append _ _ _ _ _).mp rep.chain
  cases back with
  | nil => exact rest
  | cons first back => exact rest.1

theorem append_list (rep : Represents next list nodes) (chain : Represents next other others)
    (apart : nodes.Disjoint others) :
    Represents (SysSlist.appendList next list other.head other.tail).1
      (SysSlist.appendList next list other.head other.tail).2 (nodes ++ others) := by
  have nodup : (nodes ++ others).Nodup := rep.nodup.append chain.nodup apart
  obtain ⟨path, tail, _⟩ := chain
  unfold SysSlist.appendList
  rw [tail]
  cases others with
  | nil =>
      rw [List.append_nil]
      cases other.head <;> exact rep
  | cons first rest =>
      obtain ⟨last, ends⟩ := List.getLast?_isSome.mpr (List.cons_ne_nil first rest) |>
        Option.isSome_iff_exists.mp
      have whole : (nodes ++ first :: rest).getLast? = some last := by
        rw [List.getLast?_append, ends, Option.some_or]
      rw [path.1, ends]
      cases own : list.tail with
      | none =>
          cases rep.tail_none.mp own
          exact ⟨⟨rfl, path.2⟩, whole.symm, nodup⟩
      | some node =>
          obtain ⟨front, rfl⟩ := List.getLast?_eq_some_iff.mp (rep.tail.symm.trans own)
          obtain ⟨middle, frontPath, start, _⟩ := (path_append _ _ _ _ _).mp rep.chain
          have outside : node ∉ first :: rest := apart (by simp)
          have inside : node ∉ front := fun member =>
            (List.nodup_append.mp rep.nodup).2.2 node member node List.mem_cons_self rfl
          refine ⟨?_, whole.symm, nodup⟩
          change Path (update next node (some first)) list.head _ none
          rw [List.append_assoc, path_append]
          refine ⟨middle, path_update inside _ frontPath, start, ?_⟩
          rw [Function.update_self]
          exact path_update outside _ ⟨rfl, path.2⟩

theorem append_list_frame (rep : Represents next list nodes) (head tail : Option Node)
    {node : Node} (outside : node ∉ nodes) :
    (SysSlist.appendList next list head tail).1 node = next node := by
  unfold SysSlist.appendList
  split
  · split
    · rfl
    · rename_i last same
      have member : last ∈ nodes := List.mem_of_getLast? (rep.tail.symm.trans same)
      exact Function.update_of_ne (ne_of_mem_of_not_mem member outside).symm _ _
  · rfl

/-! ### The loops -/

theorem find_from {node : Node} {fuel : Nat} {previous start : Option Node} (front : List Node)
    {back : List Node} (path : Path next start back none) (enough : back.length ≤ fuel)
    (last : previous = front.getLast?) (passed : node ∉ front) :
    SysSlist.findFrom next node fuel previous start =
      some (decide (node ∈ back), ((front ++ back).takeWhile (· ≠ node)).getLast?) := by
  have skipped : ∀ x ∈ front, decide (x ≠ node) = true := by
    intro x member
    exact decide_eq_true (ne_of_mem_of_not_mem member passed)
  induction back generalizing fuel previous front start with
  | nil =>
      cases path
      rw [List.append_nil, List.takeWhile_eq_self_iff.mpr skipped, last, SysSlist.findFrom]
      simp
  | cons current back ih =>
      obtain ⟨rfl, path⟩ := path
      obtain _ | fuel := fuel
      · exact absurd enough (by simp)
      rw [SysSlist.findFrom]
      split
      · rename_i same
        subst same
        rw [List.takeWhile_append_of_pos skipped]
        simp [last]
      · rename_i differs
        have further : node ∉ front ++ [current] := by
          rw [List.mem_append, List.mem_singleton, not_or]
          exact ⟨passed, Ne.symm differs⟩
        have shifted : front ++ current :: back = front ++ [current] ++ back := by simp
        have later : node ∈ current :: back ↔ node ∈ back := by simp [Ne.symm differs]
        rw [ih (front ++ [current]) path (by simpa using enough) (by simp) further, shifted]
        · simp only [later]
        intro x member
        exact decide_eq_true (ne_of_mem_of_not_mem member further)

theorem find {fuel : Nat} {node : Node} (rep : Represents next list nodes)
    (enough : nodes.length ≤ fuel) :
    SysSlist.find fuel next list node =
      some (decide (node ∈ nodes), (nodes.takeWhile (· ≠ node)).getLast?) :=
  find_from [] rep.chain enough rfl List.not_mem_nil

omit [DecidableEq Node] in
theorem len_from {fuel count : Nat} {start : Option Node} (path : Path next start nodes none)
    (enough : nodes.length ≤ fuel) :
    SysSlist.lenFrom next fuel start count = some (count + nodes.length) := by
  induction nodes generalizing fuel count start with
  | nil =>
      cases path
      rw [SysSlist.lenFrom, List.length_nil, Nat.add_zero]
  | cons node rest ih =>
      obtain ⟨rfl, path⟩ := path
      obtain _ | fuel := fuel
      · exact absurd enough (by simp)
      rw [SysSlist.lenFrom, ih path (by simpa using enough), List.length_cons]
      congr 1
      omega

omit [DecidableEq Node] in
theorem len {fuel : Nat} (rep : Represents next list nodes) (enough : nodes.length ≤ fuel) :
    SysSlist.len fuel next list = some nodes.length := by
  rw [SysSlist.len, len_from rep.chain enough, Nat.zero_add]

end Represents

theorem remove_first_from_enough {next : Links Node} {list : SysSlist Node}
    {matching : Node → Bool} {fuel : Nat} {previous start : Option Node} {back : List Node}
    (path : Path next start back none) (enough : back.length ≤ fuel) :
    SysSlist.removeFirstFrom next list matching fuel previous start =
      SysSlist.removeFirstFrom next list matching back.length previous start := by
  induction back generalizing fuel previous start with
  | nil =>
      cases path
      rw [SysSlist.removeFirstFrom, SysSlist.removeFirstFrom]
  | cons node rest ih =>
      obtain ⟨rfl, path⟩ := path
      obtain _ | fuel := fuel
      · exact absurd enough (by simp)
      rw [List.length_cons, SysSlist.removeFirstFrom, SysSlist.removeFirstFrom,
        ih path (by simpa using enough)]

/-! ## Iterations -/

section Iteration

variable {World : Type} {next : World → Links Node} {body : World → Node → World}
variable {list : SysSlist Node} {nodes : List Node} {world : World}

end Iteration

structure ListMemory (ListId Node : Type) where
  next : Links Node
  lists : ListId → SysSlist Node

inductive ListOp (ListId Node : Type) where
  | init (list : ListId)
  | isEmpty (list : ListId)
  | peekHead (list : ListId)
  | peekTail (list : ListId)
  | prepend (list : ListId) (node : Node)
  | append (list : ListId) (node : Node)
  | mergeSlist (list listToAppend : ListId)
  | insert (list : ListId) (prev : Option Node) (node : Node)
  | get (list : ListId)
  | remove (list : ListId) (prev : Option Node) (node : Node)
  | findAndRemove (list : ListId) (node : Node)
  | find (list : ListId) (node : Node)
  | len (list : ListId)

inductive ListReply (Node : Type) where
  | void
  | bool (value : Bool)
  | node (pointer : Option Node)
  /-- the result of `sys_slist_find` and what it stores through `prev` -/
  | found (result : Bool) (prev : Option Node)
  | size (len : Nat)
  deriving DecidableEq

namespace ListMemory

def initialised : ListMemory ListId Node where
  next := fun _ => none
  lists := fun _ => SysSlist.init

def setList (memory : ListMemory ListId Node) (id : ListId)
    (result : Links Node × SysSlist Node) : ListMemory ListId Node :=
  { next := result.1, lists := update memory.lists id result.2 }

/-- One operation. `none` when a loop runs out of fuel. -/
def step (fuel : Nat) (memory : ListMemory ListId Node) :
    ListOp ListId Node → Option (ListMemory ListId Node × ListReply Node)
  | .init id => some (memory.setList id (memory.next, SysSlist.init), .void)
  | .isEmpty id => some (memory, .bool (memory.lists id).isEmpty)
  | .peekHead id => some (memory, .node (memory.lists id).head)
  | .peekTail id => some (memory, .node (memory.lists id).tail)
  | .prepend id node =>
      some (memory.setList id (SysSlist.prepend memory.next (memory.lists id) node), .void)
  | .append id node =>
      some (memory.setList id (SysSlist.append memory.next (memory.lists id) node), .void)
  | .mergeSlist id other =>
      let (next, list, listToAppend) :=
        SysSlist.mergeSlist memory.next (memory.lists id) (memory.lists other)
      some ((memory.setList id (next, list)).setList other (next, listToAppend), .void)
  | .insert id prev node =>
      some (memory.setList id (SysSlist.insert memory.next (memory.lists id) prev node), .void)
  | .get id =>
      let (node, list) := SysSlist.get memory.next (memory.lists id)
      some (memory.setList id (memory.next, list), .node node)
  | .remove id prev node =>
      some (memory.setList id (SysSlist.remove memory.next (memory.lists id) prev node), .void)
  | .findAndRemove id node =>
      (SysSlist.findAndRemove fuel memory.next (memory.lists id) node).map fun
        (result, removed) => (memory.setList id removed, .bool result.isSome)
  | .find id node =>
      (SysSlist.find fuel memory.next (memory.lists id) node).map fun (result, prev) =>
        (memory, .found result prev)
  | .len id => (SysSlist.len fuel memory.next (memory.lists id)).map fun len =>
      (memory, .size len)

/-- The steps of the lists; the fuel of a loop is as much as it needs, or more. -/
def Step (memory : ListMemory ListId Node) (op : ListOp ListId Node) (reply : ListReply Node)
    (memory' : ListMemory ListId Node) : Prop :=
  ∃ enough, ∀ fuel ≥ enough, memory.step fuel op = some (memory', reply)

end ListMemory

/-! ## Lists as sequences -/

abbrev Sequences (ListId Node : Type) := ListId → List Node

namespace Sequences

/-- What the operations are for. -/
def step (nodes : Sequences ListId Node) :
    ListOp ListId Node → Sequences ListId Node × ListReply Node
  | .init id => (update nodes id [], .void)
  | .isEmpty id => (nodes, .bool (nodes id).isEmpty)
  | .peekHead id => (nodes, .node (nodes id).head?)
  | .peekTail id => (nodes, .node (nodes id).getLast?)
  | .prepend id node => (update nodes id (node :: nodes id), .void)
  | .append id node => (update nodes id (nodes id ++ [node]), .void)
  | .mergeSlist id other =>
      (update (update nodes id (nodes id ++ nodes other)) other [], .void)
  | .insert id none node => (update nodes id (node :: nodes id), .void)
  | .insert id (some prev) node => (update nodes id (insertAfter prev node (nodes id)), .void)
  | .get id => (update nodes id (nodes id).tail, .node (nodes id).head?)
  | .remove id _ node => (update nodes id ((nodes id).erase node), .void)
  | .findAndRemove id node =>
      (update nodes id ((nodes id).erase node), .bool (decide (node ∈ nodes id)))
  | .find id node =>
      (nodes, .found (decide (node ∈ nodes id)) ((nodes id).takeWhile (· ≠ node)).getLast?)
  | .len id => (nodes, .size (nodes id).length)

def Step (nodes : Sequences ListId Node) (op : ListOp ListId Node) (reply : ListReply Node)
    (nodes' : Sequences ListId Node) : Prop :=
  nodes.step op = (nodes', reply)

def Free (nodes : Sequences ListId Node) (node : Node) : Prop := ∀ id, node ∉ nodes id

/-- What the caller of an operation has to see to: a node that is put into a list is in none,
the node before it is in the list, a list is not merged into itself. -/
def Permits (nodes : Sequences ListId Node) : ListOp ListId Node → Prop
  | .prepend _ node | .append _ node | .insert _ none node => nodes.Free node
  | .insert id (some prev) node => nodes.Free node ∧ prev ∈ nodes id
  | .mergeSlist id other => id ≠ other
  | .remove id prev node =>
      ∃ front back, nodes id = front ++ node :: back ∧ prev = front.getLast?
  | _ => True

end Sequences

/-- The lists of the memory stand for these sequences, and have no node in common. -/
structure Stores (memory : ListMemory ListId Node) (nodes : Sequences ListId Node) : Prop where
  represents : ∀ id, Represents memory.next (memory.lists id) (nodes id)
  apart : ∀ id other, id ≠ other → (nodes id).Disjoint (nodes other)

namespace Stores

variable {memory : ListMemory ListId Node} {nodes : Sequences ListId Node}

omit [DecidableEq Node] [DecidableEq ListId] in
theorem initialised : Stores (ListMemory.initialised : ListMemory ListId Node) fun _ => [] where
  represents _ := Represents.of_init _
  apart _ _ _ := List.disjoint_nil_left _

omit [DecidableEq Node] in
theorem setList (stores : Stores memory nodes) {id : ListId} (fresh : List Node)
    (free : ∀ node ∈ fresh, nodes.Free node) {result : Links Node × SysSlist Node}
    {after : List Node} (rep : Represents result.1 result.2 after)
    (writes : ∀ node, node ∉ fresh → node ∉ nodes id → result.1 node = memory.next node)
    (members : ∀ node ∈ after, node ∈ fresh ∨ node ∈ nodes id) :
    Stores (memory.setList id result) (update nodes id after) := by
  have others : ∀ other, other ≠ id → ∀ node ∈ nodes other, node ∉ fresh ∧ node ∉ nodes id :=
    fun other differ node member =>
      ⟨fun new => free node new other member, stores.apart other id differ member⟩
  have disjoint : ∀ other, other ≠ id → ∀ node ∈ nodes other, node ∉ after := by
    intro other differ node member here
    obtain ⟨old, own⟩ := others other differ node member
    exact (members node here).elim old own
  constructor
  · intro other
    by_cases same : other = id
    · subst same
      simpa [ListMemory.setList] using rep
    · have kept := (stores.represents other).frame fun node member =>
        writes node (others other same node member).1 (others other same node member).2
      simpa [ListMemory.setList, same] using kept
  · intro one other differ node left right
    by_cases here : one = id
    · subst here
      rw [Function.update_self] at left
      rw [Function.update_of_ne (Ne.symm differ)] at right
      exact disjoint other (Ne.symm differ) node right left
    · rw [Function.update_of_ne here] at left
      by_cases there : other = id
      · subst there
        rw [Function.update_self] at right
        exact disjoint one here node left right
      · rw [Function.update_of_ne there] at right
        exact stores.apart one other differ left right

omit [DecidableEq Node] in
theorem shrink (stores : Stores memory nodes) {id : ListId}
    {result : Links Node × SysSlist Node} {after : List Node}
    (rep : Represents result.1 result.2 after)
    (writes : ∀ node, node ∉ nodes id → result.1 node = memory.next node)
    (members : after ⊆ nodes id) :
    Stores (memory.setList id result) (update nodes id after) :=
  stores.setList [] (fun _ none => absurd none List.not_mem_nil) rep (fun node _ => writes node)
    fun _ member => .inr (members member)

omit [DecidableEq Node] in
theorem link (stores : Stores memory nodes) {id : ListId} {node : Node} (free : nodes.Free node)
    {result : Links Node × SysSlist Node} {after : List Node}
    (rep : Represents result.1 result.2 after)
    (writes : ∀ other, other ≠ node → other ∉ nodes id → result.1 other = memory.next other)
    (members : ∀ other ∈ after, other = node ∨ other ∈ nodes id) :
    Stores (memory.setList id result) (update nodes id after) := by
  refine stores.setList [node] (fun _ new => ?_) rep (fun other old => ?_) (fun other member => ?_)
  · rw [List.mem_singleton.mp new]
    exact free
  · exact writes other fun same => old (List.mem_singleton.mpr same)
  · exact (members other member).imp_left List.mem_singleton.mpr

theorem merge (stores : Stores memory nodes) {id other : ListId} (differ : id ≠ other) :
    Stores ((memory.setList id (SysSlist.appendList memory.next (memory.lists id)
        (memory.lists other).head (memory.lists other).tail)).setList other
          ((SysSlist.appendList memory.next (memory.lists id) (memory.lists other).head
            (memory.lists other).tail).1, SysSlist.init))
      (update (update nodes id (nodes id ++ nodes other)) other []) := by
  have rep := stores.represents
  have joined := (rep id).append_list (rep other) (stores.apart id other differ)
  constructor
  · intro list
    by_cases emptied : list = other
    · subst emptied
      simpa [ListMemory.setList] using Represents.of_init _
    by_cases grown : list = id
    · subst grown
      simpa [ListMemory.setList, emptied] using joined
    · have kept := (rep list).frame fun node member =>
        (rep id).append_list_frame (memory.lists other).head (memory.lists other).tail
          (stores.apart list id grown member)
      simpa [ListMemory.setList, emptied, grown] using kept
  · intro one two apart node left right
    have own : ∀ one two, node ∈ nodes one → node ∈ nodes two → one = two :=
      fun one two here there => by_contra fun same => stores.apart one two same here there
    grind [Function.update_apply]

/-- Every operation that its caller may use answers as on sequences. -/
theorem step {op : ListOp ListId Node} {reply : ListReply Node}
    {memory' : ListMemory ListId Node} (stores : Stores memory nodes)
    (permits : nodes.Permits op) (move : memory.Step op reply memory') :
    (nodes.step op).2 = reply ∧ Stores memory' (nodes.step op).1 := by
  obtain ⟨enough, runs⟩ := move
  have rep := stores.represents
  -- fuel for every node of every list that a loop of this operation may walk
  have ran (id : ListId) := runs (enough + (nodes id).length) (Nat.le_add_right _ _)
  cases op with
  | init id =>
      cases ran id
      exact ⟨rfl, stores.shrink (Represents.of_init _) (fun _ _ => rfl) (List.nil_subset _)⟩
  | isEmpty id =>
      cases ran id
      exact ⟨congrArg ListReply.bool (rep id).is_empty.symm, stores⟩
  | peekHead id =>
      cases ran id
      exact ⟨congrArg ListReply.node (rep id).head_eq.symm, stores⟩
  | peekTail id =>
      cases ran id
      exact ⟨congrArg ListReply.node (rep id).tail.symm, stores⟩
  | prepend id node =>
      cases ran id
      refine ⟨rfl, stores.link permits ((rep id).prepend (permits id)) ?_ (by simp)⟩
      exact fun other differs _ => prepend_frame _ _ differs
  | append id node =>
      cases ran id
      refine ⟨rfl, stores.link permits ((rep id).append (permits id)) ?_ (by simp [or_comm])⟩
      exact fun other differs outside => append_frame (rep id) differs outside
  | mergeSlist id other =>
      cases ran id
      exact ⟨rfl, stores.merge permits⟩
  | insert id prev node =>
      cases ran id
      cases prev with
      | none =>
          refine ⟨rfl, stores.link permits ((rep id).prepend (permits id)) ?_ (by simp)⟩
          exact fun other differs _ => prepend_frame _ _ differs
      | some prev =>
          obtain ⟨free, member⟩ := permits
          refine ⟨rfl, stores.link free ((rep id).insert member (free id)) ?_ ?_⟩
          · exact fun other differs outside => insert_frame (rep id) member differs outside
          · intro other there
            rw [mem_insert_after] at there
            exact there.symm.imp_left And.left
  | get id =>
      have got := rep id
      have done := ran id
      simp only [ListMemory.step] at done
      simp only [Sequences.step]
      cases list : nodes id with
      | nil =>
          rw [list] at got
          rw [got.get_nil] at done
          cases done
          have same : Stores (memory.setList id (memory.next, memory.lists id))
              (update nodes id []) := stores.shrink got (fun _ _ => rfl) (List.nil_subset _)
          exact ⟨rfl, same⟩
      | cons node rest =>
          rw [list] at got
          obtain ⟨first, dropped⟩ := got.get_cons
          cases done
          refine ⟨congrArg ListReply.node first.symm, stores.shrink dropped (fun _ _ => rfl) ?_⟩
          rw [list]
          exact List.subset_cons_self node rest
  | remove id prev node =>
      cases ran id
      obtain ⟨front, back, split, rfl⟩ := permits
      have whole := rep id
      rw [split] at whole
      have distinct := whole.nodup
      have absent : node ∉ front := fun member =>
        (List.nodup_append.mp distinct).2.2 node member node List.mem_cons_self rfl
      refine ⟨rfl, ?_⟩
      simp only [Sequences.step]
      rw [split, List.erase_append_right _ absent, List.erase_cons_head]
      refine stores.shrink whole.remove (fun other outside => ?_) ?_
      · rw [split] at outside
        refine remove_frame _ _ (fun same => outside (by simp [same])) fun last => outside ?_
        exact List.mem_append_left _ (List.mem_of_getLast? last)
      · rw [split]
        exact (List.Sublist.append_left (List.sublist_cons_self node back) front).subset
  | findAndRemove id node =>
      have done := ran id
      simp only [ListMemory.step, Option.map_eq_some_iff] at done
      obtain ⟨⟨result, removed⟩, walked, same⟩ := done
      cases same
      obtain ⟨erased, frame⟩ := find_and_remove (rep id) walked
      obtain ⟨found, _, _⟩ := remove_first (rep id) walked
      refine ⟨congrArg ListReply.bool ?_, stores.shrink erased frame List.erase_subset⟩
      rw [found, Bool.eq_iff_iff, List.find?_isSome]
      simp
  | find id node =>
      have done := ran id
      simp only [ListMemory.step] at done
      rw [(rep id).find (Nat.le_add_left _ _)] at done
      cases done
      exact ⟨rfl, stores⟩
  | len id =>
      have done := ran id
      simp only [ListMemory.step] at done
      rw [(rep id).len (Nat.le_add_left _ _)] at done
      cases done
      exact ⟨rfl, stores⟩

theorem ends (stores : Stores memory nodes) (op : ListOp ListId Node) :
    ∃ reply memory', memory.Step op reply memory' := by
  have rep := stores.represents
  cases op with
  | findAndRemove id node =>
      obtain ⟨outcome, walked⟩ :=
        remove_first_terminates (rep id) (fun test => test = node) (Nat.le_refl _)
      refine ⟨.bool outcome.1.isSome, memory.setList id outcome.2, (nodes id).length, ?_⟩
      intro fuel enough
      rw [ListMemory.step, SysSlist.findAndRemove, SysSlist.removeFirst,
        remove_first_from_enough (rep id).chain enough]
      exact congrArg (Option.map _) walked
  | find id node =>
      refine ⟨(nodes.step (.find id node)).2, memory, (nodes id).length, fun fuel enough => ?_⟩
      rw [ListMemory.step, (rep id).find enough]
      rfl
  | len id =>
      refine ⟨(nodes.step (.len id)).2, memory, (nodes id).length, fun fuel enough => ?_⟩
      rw [ListMemory.step, (rep id).len enough]
      rfl
  | _ => exact ⟨_, _, 0, fun _ _ => rfl⟩

omit [DecidableEq Node] [DecidableEq ListId] in
theorem unique (stores : Stores memory nodes) {others : Sequences ListId Node}
    (too : Stores memory others) : nodes = others :=
  funext fun id => (stores.represents id).unique (too.represents id)

end Stores

def ListMemory.Permits (memory : ListMemory ListId Node) (op : ListOp ListId Node) : Prop :=
  ∃ nodes : Sequences ListId Node, Stores memory nodes ∧ nodes.Permits op

/-- Lists that share their nodes' memory are independent sequences: when a node is put into a
list only while it is in none, the runs of the lists of a memory are those of the sequences,
with the same answers, and end in lists that stand for them. -/
theorem lists_are_sequences (trace : List (ListOp ListId Node × ListReply Node)) :
    (∀ memory : ListMemory ListId Node,
      Run ListMemory.Step ListMemory.Permits .initialised trace memory →
        ∃ nodes, Run Sequences.Step Sequences.Permits (fun _ => []) trace nodes ∧
          Stores memory nodes) ∧
    ∀ nodes : Sequences ListId Node,
      Run Sequences.Step Sequences.Permits (fun _ => []) trace nodes →
        ∃ memory, Run ListMemory.Step ListMemory.Permits .initialised trace memory ∧
          Stores memory nodes := by
  constructor
  · intro memory run
    have matched : ∀ (memory : ListMemory ListId Node) (nodes : Sequences ListId Node) op reply
        memory', Stores memory nodes → memory.Permits op → memory.Step op reply memory' →
          nodes.Permits op ∧ ∃ nodes', nodes.Step op reply nodes' ∧ Stores memory' nodes' := by
      rintro memory nodes op reply memory' stores ⟨others, too, permits⟩ move
      rw [← stores.unique too] at permits
      obtain ⟨answer, next⟩ := stores.step permits move
      exact ⟨permits, _, Prod.ext rfl answer, next⟩
    exact run.simulate_permitted matched .initialised
  · intro nodes run
    have matched : ∀ (nodes : Sequences ListId Node) (memory : ListMemory ListId Node) op reply
        nodes', Stores memory nodes → nodes.Permits op → nodes.Step op reply nodes' →
          memory.Permits op ∧ ∃ memory', memory.Step op reply memory' ∧
            Stores memory' nodes' := by
      intro nodes memory op reply nodes' stores permits move
      obtain ⟨answer, memory', step⟩ := stores.ends op
      obtain ⟨same, next⟩ := stores.step permits step
      rw [Sequences.Step] at move
      rw [move] at same next
      cases same
      exact ⟨⟨nodes, stores, permits⟩, memory', step, next⟩
    exact run.simulate_permitted matched .initialised

end AresCommon.DataStructures.Slist
