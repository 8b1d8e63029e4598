import Mathlib.Data.List.Forall2
import Reconciler.Capacity

/-!
# What counts towards the capacity

A node is available if it is ready and schedulable.  What unavailable nodes offer does not
count towards the capacity, and neither do idle pods: those that are finished, being
deleted, placed nowhere, or placed where no available node is.  Pods do not change what is
said about the nodes.
-/

namespace Reconciler

/-! ## Available nodes -/

namespace Node

variable {node other : Node}

/-- The first condition `Ready` of a node is `True`. -/
def ReportsReady (node : Node) : Prop :=
  ∃ earlier condition later, node.conditions = earlier ++ condition :: later ∧
    (∀ other ∈ earlier, other.kind ≠ "Ready") ∧ condition.kind = "Ready" ∧
      condition.status = "True"

theorem isReady_iff : node.isReady = true ↔ node.ReportsReady := by
  have reported : node.isReady = true ↔ node.status? "Ready" = some "True" := by
    cases status : node.status? "Ready" <;> simp [isReady, readiness, status]
  rw [reported, status?, Option.map_eq_some_iff]
  simp only [List.find?_eq_some_iff_append]
  constructor
  · rintro ⟨condition, ⟨kind, earlier, later, split, others⟩, status⟩
    exact ⟨earlier, condition, later, split, by simpa using others, by simpa using kind, status⟩
  · rintro ⟨earlier, condition, later, split, others, kind, status⟩
    exact ⟨condition, ⟨by simpa using kind, earlier, later, split, by simpa using others⟩, status⟩

instance (node : Node) : Decidable node.ReportsReady :=
  decidable_of_iff _ isReady_iff

/-- A node that is both ready and schedulable. -/
def Available (node : Node) : Prop :=
  node.ReportsReady ∧ node.unschedulable = false

theorem isAvailable_iff : Capacity.isAvailable node = true ↔ node.Available := by
  simp [Capacity.isAvailable, Available, isReady_iff, isSchedulable]

/-- Two nodes that differ in nothing but what they offer, and only if it does not count. -/
structure Alike (node other : Node) : Prop where
  same : other = { node with allocatable := other.allocatable }
  offer : node.Available → other.allocatable = node.allocatable

theorem Alike.eq_of_available (alike : node.Alike other) (available : node.Available) :
    other = node := by
  rw [alike.same, alike.offer available]

theorem Alike.isReady (alike : node.Alike other) : other.isReady = node.isReady := by
  rw [alike.same]
  rfl

theorem Alike.isSchedulable (alike : node.Alike other) :
    other.isSchedulable = node.isSchedulable := by
  rw [alike.same]
  rfl

theorem Alike.isAvailable (alike : node.Alike other) :
    Capacity.isAvailable other = Capacity.isAvailable node := by
  rw [Capacity.isAvailable, Capacity.isAvailable, alike.isReady, alike.isSchedulable]

end Node

/-! ## Idle pods -/

namespace Pod

/-- Whether a pod does not count: it is finished or being deleted, or no available node has
the name of the node it is placed on. -/
def Idle (nodes : List Node) (pod : Pod) : Prop :=
  pod.phase = some "Failed" ∨ pod.phase = some "Succeeded" ∨
    pod.metadata.deletionTimestamp ≠ none ∨ pod.nodeName = none ∨
      ∃ name, pod.nodeName = some name ∧
        ∀ node ∈ nodes, node.metadata.name = some name → ¬node.Available

end Pod

namespace Capacity

variable {nodes others : List Node} {pods : List Pod} {pod : Pod}

theorem mem_availableNames_iff {name : String} :
    name ∈ availableNames nodes ↔
      ∃ node ∈ nodes, node.metadata.name = some name ∧ node.Available := by
  simp [availableNames, Node.isAvailable_iff, and_assoc, and_comm (a := Node.Available _)]

theorem isActive_iff : isActive (availableNames nodes) pod = true ↔ ¬pod.Idle nodes := by
  have staying : pod.isLeaving = false ↔ pod.metadata.deletionTimestamp = none := by
    simp [Pod.isLeaving]
  cases placed : pod.nodeName with
  | none => simp [isActive, Pod.Idle, placed]
  | some name =>
      simp [isActive, Pod.Idle, Pod.isFinished, staying, placed, mem_availableNames_iff,
        and_assoc]

instance (nodes : List Node) (pod : Pod) : Decidable (pod.Idle nodes) :=
  decidable_of_iff _ (not_congr isActive_iff |>.trans not_not)

/-- Pods that do not count can be removed, in any selection. -/
theorem filter_isActive_filter {kept : Pod → Bool}
    (remain : ∀ pod ∈ pods, ¬pod.Idle nodes → kept pod = true) :
    (pods.filter kept).filter (isActive (availableNames nodes)) =
      pods.filter (isActive (availableNames nodes)) := by
  rw [List.filter_filter]
  refine List.filter_congr ?_
  intro pod member
  cases active : isActive (availableNames nodes) pod with
  | false => rfl
  | true => rw [remain pod member (isActive_iff.mp active), Bool.and_self]

/-! ## Nodes that are alike -/

section

variable (alike : List.Forall₂ Node.Alike nodes others)

include alike

theorem filter_isAvailable_of_alike : others.filter isAvailable = nodes.filter isAvailable := by
  induction alike with
  | nil => rfl
  | @cons node other nodes others first rest ih =>
      rw [List.filter_cons, List.filter_cons, first.isAvailable, ih]
      split
      · rename_i available
        rw [first.eq_of_available (Node.isAvailable_iff.mp available)]
      · rfl

theorem length_filter_of_alike {counts : Node → Bool}
    (same : ∀ node other : Node, node.Alike other → counts other = counts node) :
    (others.filter counts).length = (nodes.filter counts).length := by
  induction alike with
  | nil => rfl
  | @cons node other nodes others first rest ih =>
      rw [List.filter_cons, List.filter_cons, same node other first]
      split <;> simp [ih]

end

/-- Neither idle pods count nor what unavailable nodes offer: a summary stays the same if any
of the idle pods are removed, and if unavailable nodes offer something else.  The nodes are
counted as they report themselves.  Pods change neither these counts nor what there is in
total, and what is used is what the pods ask for that are not idle. -/
theorem only_available_capacity_counts (nodes : List Node) (pods : List Pod) :
    (∀ kept : Pod → Bool, (∀ pod ∈ pods, ¬pod.Idle nodes → kept pod = true) →
        of nodes (pods.filter kept) = of nodes pods) ∧
      (∀ others, List.Forall₂ Node.Alike nodes others → of others pods = of nodes pods) ∧
      ((of nodes pods).total = nodes.length ∧
        (of nodes pods).ready = nodes.countP (fun node => node.ReportsReady) ∧
        (of nodes pods).schedulable = nodes.countP (fun node => !node.unschedulable)) ∧
      ((of nodes pods).ready ≤ (of nodes pods).total ∧
        (of nodes pods).schedulable ≤ (of nodes pods).total) ∧
      (∀ others, (of nodes others).total = (of nodes pods).total ∧
        (of nodes others).ready = (of nodes pods).ready ∧
        (of nodes others).schedulable = (of nodes pods).schedulable ∧
        (of nodes others).cpu.total = (of nodes pods).cpu.total ∧
        (of nodes others).memory.total = (of nodes pods).memory.total) ∧
      ∀ asked, asked = Usage.total ((pods.filter fun pod => ¬pod.Idle nodes).flatMap Pod.requests) →
        (of nodes pods).cpu.used = asked.cores ∧ (of nodes pods).memory.used = asked.gibibytes := by
  refine ⟨?_, ?_, ⟨rfl, ?_, List.countP_eq_length_filter.symm⟩, ?_, ?_, ?_⟩
  · intro kept remain
    rw [of, filter_isActive_filter remain, ← of]
  · intro others alike
    have available := filter_isAvailable_of_alike alike
    have ready := length_filter_of_alike alike fun _ _ first => first.isReady
    have schedulable := length_filter_of_alike alike fun _ _ first => first.isSchedulable
    simp only [of, availableNames, available, ready, schedulable, alike.length_eq]
  · rw [of, ← List.countP_eq_length_filter]
    exact List.countP_congr fun node _ => by simp [Node.isReady_iff]
  · exact ⟨List.length_filter_le _ _, List.length_filter_le _ _⟩
  · intro others
    simp only [of, and_self]
  · rintro asked rfl
    have active : pods.filter (isActive (availableNames nodes)) =
        pods.filter fun pod => ¬pod.Idle nodes :=
      List.filter_congr fun pod _ => by rw [Bool.eq_iff_iff, isActive_iff, decide_eq_true_iff]
    rw [← active]
    exact ⟨rfl, rfl⟩

/-- A finished pod is removed from a ready node, and a node that is not ready offers less.  Two
of the four cores are used, and two of the sixteen gibibytes. -/
theorem only_available_capacity_counts_while_failing :
    let ready : Node :=
      { metadata := { name := some "a" }, conditions := [⟨"Ready", "True"⟩, ⟨"Ready", "False"⟩],
        allocatable := Dictionary.ofList [("cpu", "4"), ("memory", "16Gi")] }
    let failing : Node := { metadata := { name := some "b" }, conditions := [⟨"Ready", "Unknown"⟩] }
    let offering : Node := { failing with allocatable := Dictionary.ofList [("cpu", "4")] }
    let requests := [Dictionary.ofList [("cpu", "1500m"), ("memory", "1Gi")],
      Dictionary.ofList [("cpu", "500m"), ("memory", "1024Mi")]]
    let running : Pod := { phase := some "Running", nodeName := some "a", requests }
    let finished : Pod := { phase := some "Failed", nodeName := some "a", requests }
    let misplaced : Pod := { phase := some "Running", nodeName := some "b", requests }
    of [ready, failing] [running] = of [ready, failing] [finished, running, misplaced] ∧
      of [ready, offering] [running] = of [ready, failing] [running] ∧
      of [ready, failing] [running] = ⟨2, 1, 2, ⟨2, 4⟩, ⟨2, 16⟩⟩ := by
  intro ready failing offering requests running finished misplaced
  have kept : [finished, running, misplaced].filter (fun pod => pod == running) = [running] := by
    decide
  have alike : List.Forall₂ Node.Alike [ready, failing] [ready, offering] :=
    .cons ⟨rfl, fun _ => rfl⟩ (.cons ⟨rfl, fun available => absurd available.1 (by decide)⟩ .nil)
  refine ⟨?_, (only_available_capacity_counts [ready, failing] [running]).2.1 _ alike,
    by decide +kernel⟩
  rw [← kept]
  exact (only_available_capacity_counts [ready, failing] [finished, running, misplaced]).1 _
    (by decide)

end Capacity

end Reconciler
