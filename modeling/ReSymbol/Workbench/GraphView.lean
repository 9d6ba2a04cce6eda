import ReSymbol.Workbench.Graph

/-! Bounded views of the reconstruction graph.

    A view is a breadth-first walk from a function. Nodes are admitted level by level until a limit
    on nodes, edges or depth is reached; what an admitted node leads to beyond that is only counted.

        depths   (root,0) (a,1) (b,1) (c,2) …
                 └── visited ──┘ └─ queue ─┘        admission order is queue order -/

namespace ReSymbol.Workbench
open Schemes

/-! ### The walk -/

structure ViewLimits where
  maxNodes : ℕ
  maxEdges : ℕ
  maxDepth : ℕ

/-- The locals of the walk. The depths stand in the order of admission. -/
structure ViewWalk where
  depths : List (GraphNodeId × ℕ)
  queue : List GraphNodeId
  includedEdgeIndices : Finset ℕ
  omittedNodes : Finset GraphNodeId
  omittedEdgeCount : ℕ

namespace ViewWalk

def start (root : GraphNodeId) : ViewWalk := ⟨[(root, 0)], [root], ∅, ∅, 0⟩

/-- `depths.contains_key(id)`. -/
def Admits (walk : ViewWalk) (id : GraphNodeId) : Prop := id ∈ walk.depths.map Prod.fst

instance (walk : ViewWalk) (id : GraphNodeId) : Decidable (walk.Admits id) := by
  unfold Admits; infer_instance

/-- `depths[&id]`; only admitted nodes are queued. -/
def depthOf (walk : ViewWalk) (id : GraphNodeId) : ℕ := (walk.depths.lookup id).getD 0

end ViewWalk

namespace ReconstructionGraph

variable (graph : ReconstructionGraph) (limits : ViewLimits)

/-- One edge of a source at a depth. Every index in the adjacency is one of an edge. -/
def visitEdge (depth : ℕ) (walk : ViewWalk) (edgeIndex : ℕ) : ViewWalk :=
  match graph.edges[edgeIndex]? with
  | none => walk
  | some edge =>
    if walk.Admits edge.target then
      -- cycles and self edges remain visible, but admitted nodes are not queued again
      if walk.includedEdgeIndices.card < limits.maxEdges then
        { walk with includedEdgeIndices := insert edgeIndex walk.includedEdgeIndices }
      else { walk with omittedEdgeCount := walk.omittedEdgeCount + 1 }
    else if depth + 1 > limits.maxDepth ∨ walk.depths.length ≥ limits.maxNodes ∨
        walk.includedEdgeIndices.card ≥ limits.maxEdges then
      { walk with
        omittedNodes := insert edge.target walk.omittedNodes
        omittedEdgeCount := walk.omittedEdgeCount + 1 }
    else
      { walk with
        depths := walk.depths ++ [(edge.target, depth + 1)]
        omittedNodes := walk.omittedNodes.erase edge.target
        includedEdgeIndices := insert edgeIndex walk.includedEdgeIndices
        queue := walk.queue ++ [edge.target] }

/-- Looks at every edge that leaves a node. -/
def visitNode (source : GraphNodeId) (walk : ViewWalk) : ViewWalk :=
  match graph.adjacency source with
  | none => walk
  | some outgoing => outgoing.foldl (graph.visitEdge limits (walk.depthOf source)) walk

/-- What is left to do: nodes that may still be admitted, and nodes that wait. -/
def leftToDo (walk : ViewWalk) : ℕ := limits.maxNodes - walk.depths.length + walk.queue.length

theorem leftToDo_visitEdge (depth : ℕ) (walk : ViewWalk) (edgeIndex : ℕ) :
    leftToDo limits (graph.visitEdge limits depth walk edgeIndex) = leftToDo limits walk := by
  rw [visitEdge]
  split
  · rfl
  · split_ifs with hadmits hcard hlimit
    · rfl
    · rfl
    · rfl
    · simp only [leftToDo, List.length_append, List.length_singleton]
      omega

theorem leftToDo_foldl (depth : ℕ) (outgoing : List ℕ) (walk : ViewWalk) :
    leftToDo limits (outgoing.foldl (graph.visitEdge limits depth) walk) =
      leftToDo limits walk := by
  induction outgoing generalizing walk with
  | nil => rfl
  | cons edgeIndex rest ih => rw [List.foldl_cons, ih, leftToDo_visitEdge]

theorem leftToDo_visitNode (source : GraphNodeId) (walk : ViewWalk) :
    leftToDo limits (graph.visitNode limits source walk) = leftToDo limits walk := by
  rw [visitNode]
  split
  · rfl
  · exact leftToDo_foldl graph limits _ _ walk

/-- `while let Some(source) = queue.pop_front()`. -/
def runWalk (walk : ViewWalk) : ViewWalk :=
  match _h : walk.queue with
  | [] => walk
  | source :: rest => runWalk (graph.visitNode limits source { walk with queue := rest })
termination_by leftToDo limits walk
decreasing_by
  rw [leftToDo_visitNode, leftToDo, leftToDo, _h, List.length_cons]
  dsimp only
  omega

end ReconstructionGraph

/-! ### The view -/

structure ReconstructionGraphViewNode where
  depth : ℕ
  node : GraphNode

structure ReconstructionGraphView where
  root : Option GraphNodeId
  nodes : List ReconstructionGraphViewNode
  edges : List GraphEdge
  omittedNodeCount : ℕ
  omittedEdgeCount : ℕ

def viewNodeOrder : ReconstructionGraphViewNode → ReconstructionGraphViewNode → Ordering :=
  compareLex (compareOn ReconstructionGraphViewNode.depth) (compareOn fun v => v.node.id)

namespace ReconstructionGraph

variable (graph : ReconstructionGraph)

/-- The admitted nodes with their depths. -/
def viewNodes (walk : ViewWalk) : List ReconstructionGraphViewNode :=
  (walk.depths.filterMap fun entry => (graph.table.get entry.1).map (⟨entry.2, ·⟩)).mergeSort
    fun left right => (viewNodeOrder left right).isLE

/-- The part of the graph around a root. -/
def viewWithLimits (rootRva : UInt64) (limits : ViewLimits) : ReconstructionGraphView :=
  if limits.maxNodes = 0 ∨ ¬ graph.table.Holds (.function rootRva) then ⟨none, [], [], 0, 0⟩
  else
    let walk := graph.runWalk limits (.start (.function rootRva))
    { root := some (.function rootRva)
      nodes := graph.viewNodes walk
      edges := (walk.includedEdgeIndices.sort (· ≤ ·)).filterMap (graph.edges[·]?)
      omittedNodeCount := walk.omittedNodes.card
      omittedEdgeCount := walk.omittedEdgeCount }

end ReconstructionGraph

end ReSymbol.Workbench
