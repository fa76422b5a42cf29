/-
This file describes the breadth-first order of the nodes of a graph.
-/

import ModuleGraph.Proofs.Firsts
import Mathlib.Order.Lattice.Nat
import Mathlib.Order.Bounds.Defs

namespace ModuleGraph

/-- A graph with the nodes that it is entered by, and with the successors of each node in order. -/
structure Graph (κ : Type) where
  roots : List κ
  successors : κ → List κ

namespace Graph

variable {κ : Type}

/-- A path of the given number of steps leads from a root to the node. -/
inductive Reached (graph : Graph κ) : Nat → κ → Prop
  | root {node : κ} (member : node ∈ graph.roots) : Reached graph 0 node
  | step {steps : Nat} {node next : κ} (reached : Reached graph steps node)
      (member : next ∈ graph.successors node) : Reached graph (steps + 1) next

/-- The number of steps on a shortest path to the node. -/
noncomputable def distance (graph : Graph κ) (node : κ) : Nat :=
  sInf {steps | graph.Reached steps node}

/-- A set is closed if it holds the roots and the successors of its nodes. -/
def IsClosed (graph : Graph κ) (nodes : Set κ) : Prop :=
  (∀ node ∈ graph.roots, node ∈ nodes) ∧
    ∀ node ∈ nodes, ∀ next ∈ graph.successors node, next ∈ nodes

/-- Every place that is reached when the nodes are visited in the given order: the roots, and then
the successors of each node. -/
def arrivals (graph : Graph κ) (order : List κ) : List κ :=
  graph.roots ++ order.flatMap graph.successors

/-- The distances never fall, and each node stands where it was first reached: by the position of
the node that leads to it, and then by its position among the successors of that node. -/
structure IsBreadthFirst [BEq κ] (graph : Graph κ) (order : List κ) : Prop where
  distances : order.Pairwise fun first second => graph.distance first ≤ graph.distance second
  places : order.Pairwise fun first second =>
    (graph.arrivals order).idxOf first < (graph.arrivals order).idxOf second

theorem pairwise_of_split {relation : κ → κ → Prop} {order : List κ}
    (related : ∀ front second back, order = front ++ second :: back →
      ∀ first ∈ front, relation first second) : order.Pairwise relation := by
  rw [List.pairwise_iff_forall_sublist]
  intro first second chosen
  obtain ⟨start, rest, rfl, memberFirst, chosen⟩ := List.cons_sublist_iff.mp chosen
  obtain ⟨middle, back, rfl⟩ := List.append_of_mem (List.singleton_sublist.mp chosen)
  exact related (start ++ middle) second back (by simp) first (List.mem_append_left _ memberFirst)

/-- What stands before a node of the front stands in the front as well. -/
theorem mem_front {front rest before after : List κ} {first second : κ}
    (distinct : (front ++ rest).Nodup) (split : front ++ rest = before ++ second :: after)
    (memberSecond : second ∈ front) (memberFirst : first ∈ before) : first ∈ front := by
  rcases List.append_eq_append_iff.mp split with ⟨middle, whole, _⟩ | ⟨middle, whole, _⟩
  · have repeated : second ∈ before := whole ▸ List.mem_append_left _ memberSecond
    rw [split, List.nodup_append] at distinct
    exact absurd rfl (distinct.2.2 second repeated second (List.mem_cons_self ..))
  · exact whole ▸ List.mem_append_left _ memberFirst

/-- A closed set holds every node that is reached. -/
theorem mem_of_reached {graph : Graph κ} {nodes : Set κ} (closed : graph.IsClosed nodes)
    {steps : Nat} {node : κ} (reached : graph.Reached steps node) : node ∈ nodes := by
  induction reached with
  | root member => exact closed.1 _ member
  | step _ member ih => exact closed.2 _ ih _ member

theorem isClosed_reached (graph : Graph κ) :
    graph.IsClosed {node | ∃ steps, graph.Reached steps node} := by
  constructor
  · intro node root
    exact ⟨0, .root root⟩
  · rintro node ⟨steps, reached⟩ next successor
    exact ⟨steps + 1, .step reached successor⟩

theorem arrivals_filter {graph : Graph κ} {test : κ → Bool}
    (barren : ∀ node, test node = false → graph.successors node = []) (order : List κ) :
    graph.arrivals (order.filter test) = graph.arrivals order := by
  rw [arrivals, arrivals]
  congr 1
  induction order with
  | nil => rfl
  | cons node order ih =>
      cases passes : test node with
      | true => simp [passes, ih]
      | false => simp [passes, barren node passes, ih]

/-- Nodes that lead nowhere may be left out of a breadth-first order. -/
theorem IsBreadthFirst.filter [BEq κ] {graph : Graph κ} {order : List κ}
    (breadthFirst : graph.IsBreadthFirst order) {test : κ → Bool}
    (barren : ∀ node, test node = false → graph.successors node = []) :
    graph.IsBreadthFirst (order.filter test) where
  distances := breadthFirst.distances.sublist List.filter_sublist
  places := by
    rw [arrivals_filter barren]
    exact breadthFirst.places.sublist List.filter_sublist

section Order

variable [BEq κ] [LawfulBEq κ] {graph : Graph κ} {order : List κ}

/-- An order that keeps the first of all arrivals holds every node that is reached. -/
theorem isClosed_of_firsts (complete : order = firsts id [] (graph.arrivals order)) :
    graph.IsClosed {node | node ∈ order} := by
  have member {node : κ} (arrived : node ∈ graph.arrivals order) : node ∈ order := by
    rw [complete]
    exact mem_firsts_id_iff.mpr arrived
  constructor
  · intro node root
    exact member (List.mem_append_left _ root)
  · intro node visited next successor
    exact member (List.mem_append_right _ (List.mem_flatMap.mpr ⟨node, visited, successor⟩))

/-- What stands before a node that is among the first arrivals is among them as well. -/
theorem mem_arrived_of_before (complete : order = firsts id [] (graph.arrivals order))
    {front rest before after : List κ} {first second : κ}
    (whole : graph.arrivals order = front ++ rest) (split : order = before ++ second :: after)
    (arrived : second ∈ front) (early : first ∈ before) : first ∈ front := by
  have distinct := nodup_firsts_id (graph.arrivals order)
  rw [whole, firsts_append] at complete distinct
  exact mem_of_mem_firsts
    (mem_front distinct (complete.symm.trans split) (mem_firsts_id_iff.mpr arrived) early)

/-- On every path that ends behind a node there is one that reaches this node as fast. -/
theorem reached_of_before (complete : order = firsts id [] (graph.arrivals order)) {steps : Nat}
    {front back : List κ} {first second : κ} (split : order = front ++ second :: back)
    (before : first ∈ front) (reached : graph.Reached steps second) :
    ∃ fewer, fewer ≤ steps ∧ graph.Reached fewer first := by
  induction reached generalizing front back first with
  | root root =>
      exact ⟨0, Nat.le_refl 0, .root (mem_arrived_of_before complete rfl split root before)⟩
  | @step steps node next reached successor ih =>
      have visited : node ∈ order := mem_of_reached (isClosed_of_firsts complete) reached
      obtain ⟨earlier, later, place⟩ := List.append_of_mem visited
      have whole : graph.arrivals order =
          (graph.roots ++ (earlier.flatMap graph.successors ++ graph.successors node)) ++
            later.flatMap graph.successors := by
        rw [arrivals, place]
        simp
      have arrived := mem_arrived_of_before complete whole split
        (List.mem_append_right _ (List.mem_append_right _ successor)) before
      rcases List.mem_append.mp arrived with root | arrived
      · exact ⟨0, Nat.zero_le _, .root root⟩
      rcases List.mem_append.mp arrived with arrived | arrived
      · obtain ⟨parent, memberParent, successorFirst⟩ := List.mem_flatMap.mp arrived
        obtain ⟨fewer, bound, reachedParent⟩ := ih place memberParent
        exact ⟨fewer + 1, Nat.succ_le_succ bound, .step reachedParent successorFirst⟩
      · exact ⟨steps + 1, Nat.le_refl _, .step reached arrived⟩

/-- The first arrivals stand in breadth-first order, provided that each of them is reached. -/
theorem isBreadthFirst_of_firsts (complete : order = firsts id [] (graph.arrivals order))
    (reached : ∀ node ∈ order, ∃ steps, graph.Reached steps node) :
    graph.IsBreadthFirst order where
  distances := by
    apply pairwise_of_split
    intro front second back split first before
    have shortest : graph.Reached (graph.distance second) second :=
      Nat.sInf_mem (reached second (by rw [split]; simp))
    obtain ⟨fewer, bound, path⟩ := reached_of_before complete split before shortest
    exact (Nat.sInf_le path).trans bound
  places := by
    have ordered := pairwise_idxOf_firsts [] (graph.arrivals order)
    rwa [← complete] at ordered

end Order

end Graph

end ModuleGraph
