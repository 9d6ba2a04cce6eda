import ReSymbol.Schemes.Distances
import ReSymbol.Schemes.Sorting
import ReSymbol.Workbench.GraphView

/-! Bounded views are breadth-first.

    Admission order is queue order, so depths never fall along it and no label is more than one
    above the node that is being visited. Once a node is left out, the limit that was reached stays
    reached and no other node is admitted: the labels are those of the unbounded search up to there,
    and what is counted is exactly what the shown nodes lead to beside what is shown.

        front │ visiting │ rest            level ≤ depth of rest ≤ level + 1
        left out ⇒ depth, node or edge limit reached ⇒ nothing is admitted any more -/

namespace ReSymbol.Workbench
open Schemes ReSymbol.Export

/-- What holds of a list and of one more item holds of the list with the item behind it. -/
theorem forall_mem_concat {α : Type} {p : α → Prop} {xs : List α} {a : α} (h : ∀ x ∈ xs, p x)
    (ha : p a) : ∀ x ∈ xs ++ [a], p x :=
  List.forall_mem_append.mpr ⟨h, List.forall_mem_singleton.mpr ha⟩

/-! ### What is known of the walk -/

/-- How far a walk has come: the nodes of `front` are visited, those of `rest` wait, the edges of
    `done` were looked at, and `level` is the depth of the node that is being visited. -/
structure Explored (graph : ReconstructionGraph) (limits : ViewLimits) (root : GraphNodeId)
    (done : List ℕ) (level : ℕ) (front rest : List (GraphNodeId × ℕ)) (walk : ViewWalk) : Prop where
  depths : walk.depths = front ++ rest
  queue : walk.queue = rest.map Prod.fst
  unique : (walk.depths.map Prod.fst).Nodup
  ordered : walk.depths.Pairwise (·.2 ≤ ·.2)
  rooted : (root, 0) ∈ walk.depths
  level_le : ∀ entry ∈ rest, level ≤ entry.2
  le_level : ∀ entry ∈ walk.depths, entry.2 ≤ level + 1
  nodes_le : walk.depths.length ≤ limits.maxNodes
  edges_le : walk.includedEdgeIndices.card ≤ limits.maxEdges
  depth_le : ∀ entry ∈ walk.depths, entry.2 ≤ limits.maxDepth
  parent : ∀ entry ∈ walk.depths, entry = (root, 0) ∨
    ∃ index ∈ walk.includedEdgeIndices, ∃ edge depth, graph.edges[index]? = some edge ∧
      edge.target = entry.1 ∧ (edge.source, depth) ∈ walk.depths ∧ entry.2 = depth + 1
  included : ∀ index ∈ walk.includedEdgeIndices, index ∈ done
  joined : ∀ index ∈ walk.includedEdgeIndices, ∀ edge, graph.edges[index]? = some edge →
    walk.Admits edge.target
  sources : ∀ index ∈ done, ∃ edge depth, graph.edges[index]? = some edge ∧
    (edge.source, depth) ∈ front
  counted : walk.omittedEdgeCount + walk.includedEdgeIndices.card = done.length
  omitted : ∀ id, id ∈ walk.omittedNodes ↔ ¬ walk.Admits id ∧
    ∃ index ∈ done, ∃ edge, graph.edges[index]? = some edge ∧ edge.target = id
  layered : ∀ index ∈ done, ∀ edge depth, graph.edges[index]? = some edge →
    (edge.source, depth) ∈ walk.depths →
      (∃ depth', (edge.target, depth') ∈ walk.depths ∧ depth' ≤ depth + 1) ∨
        ∀ entry ∈ walk.depths, entry.2 ≤ depth + 1
  closed : walk.omittedNodes.Nonempty → limits.maxDepth < level + 1 ∨
    limits.maxNodes ≤ walk.depths.length ∨ limits.maxEdges ≤ walk.includedEdgeIndices.card
  cut : ∀ index ∈ done, ∀ edge depth, graph.edges[index]? = some edge →
    (edge.source, depth) ∈ walk.depths → ¬ walk.Admits edge.target →
      limits.maxDepth < depth + 1 ∨ limits.maxNodes ≤ walk.depths.length ∨
        limits.maxEdges ≤ walk.includedEdgeIndices.card
  full : ∀ index ∈ done, index ∉ walk.includedEdgeIndices → ∀ edge,
    graph.edges[index]? = some edge → walk.Admits edge.target →
      limits.maxEdges ≤ walk.includedEdgeIndices.card

namespace Explored

variable {graph : ReconstructionGraph} {limits : ViewLimits} {root : GraphNodeId} {done : List ℕ}
  {level : ℕ} {front rest : List (GraphNodeId × ℕ)} {walk : ViewWalk}

theorem start (hnodes : 0 < limits.maxNodes) :
    Explored graph limits root [] 0 [] [(root, 0)] (.start root) where
  depths := rfl
  queue := rfl
  unique := List.nodup_singleton _
  ordered := List.pairwise_singleton _ _
  rooted := List.mem_singleton_self _
  level_le := fun entry _ => Nat.zero_le _
  le_level := by simp [ViewWalk.start]
  nodes_le := hnodes
  edges_le := Nat.zero_le _
  depth_le := by simp [ViewWalk.start]
  parent := fun entry h => .inl (List.mem_singleton.mp h)
  included := by simp [ViewWalk.start]
  joined := by simp [ViewWalk.start]
  sources := nofun
  counted := rfl
  omitted := by simp [ViewWalk.start]
  layered := nofun
  closed := by simp [ViewWalk.start]
  cut := by simp
  full := by simp

theorem depth_unique (h : Explored graph limits root done level front rest walk) {id : GraphNodeId}
    {d d' : ℕ} (hd : (id, d) ∈ walk.depths) (hd' : (id, d') ∈ walk.depths) : d = d' :=
  congrArg Prod.snd (List.inj_on_of_nodup_map h.unique hd hd' rfl)

theorem admits_of_mem {id : GraphNodeId} {d : ℕ} (h : (id, d) ∈ walk.depths) : walk.Admits id :=
  List.mem_map_of_mem h

/-- The next node is taken from the queue. -/
theorem pop {id : GraphNodeId} {d : ℕ}
    (h : Explored graph limits root done level front ((id, d) :: rest) walk) :
    Explored graph limits root done d (front ++ [(id, d)]) rest
      { walk with queue := rest.map Prod.fst } := by
  have hlevel : level ≤ d := h.level_le _ List.mem_cons_self
  have hordered := h.ordered
  rw [h.depths] at hordered
  exact
    { h with
      depths := by rw [h.depths, List.append_assoc, List.singleton_append]
      queue := rfl
      level_le := (List.pairwise_cons.mp (List.pairwise_append.mp hordered).2.1).1
      le_level := fun entry hentry => (h.le_level entry hentry).trans (by omega)
      sources := fun index hindex => by
        obtain ⟨edge, depth, hedge, hsource⟩ := h.sources index hindex
        exact ⟨edge, depth, hedge, List.mem_append_left _ hsource⟩
      closed := fun hopen => (h.closed hopen).imp_left (by omega) }

section Edge

variable {index : ℕ} {edge : GraphEdge}

/-- Nothing is left out before a limit is reached, so every edge leads to an admitted node. -/
theorem admits_of_open (h : Explored graph limits root done level front rest walk)
    (hopen : walk.omittedNodes = ∅) {old : ℕ} {oldEdge : GraphEdge} (hold : old ∈ done)
    (hedge : graph.edges[old]? = some oldEdge) : walk.Admits oldEdge.target := by
  by_contra hnot
  have hmem := (h.omitted oldEdge.target).mpr ⟨hnot, old, hold, oldEdge, hedge, rfl⟩
  simp [hopen] at hmem

variable (h : Explored graph limits root done level front rest walk)
  (hedge : graph.edges[index]? = some edge) (hsource : (edge.source, level) ∈ front)
include h hedge hsource

theorem sources_concat : ∀ i ∈ done ++ [index], ∃ e depth, graph.edges[i]? = some e ∧
    (e.source, depth) ∈ front :=
  forall_mem_concat h.sources ⟨edge, level, hedge, hsource⟩

omit hsource in
/-- An edge to an admitted node leaves the omitted nodes as they are. -/
theorem omitted_concat (hadmits : walk.Admits edge.target) (id : GraphNodeId) :
    id ∈ walk.omittedNodes ↔ ¬ walk.Admits id ∧
      ∃ i ∈ done ++ [index], ∃ e, graph.edges[i]? = some e ∧ e.target = id := by
  rw [h.omitted id]
  refine and_congr_right fun hnot => ⟨?_, ?_⟩
  · rintro ⟨i, hi, found⟩
    exact ⟨i, List.mem_append_left _ hi, found⟩
  · rintro ⟨i, hi, e, he, rfl⟩
    rcases List.mem_append.mp hi with hold | hnew
    · exact ⟨i, hold, e, he, rfl⟩
    · rw [List.mem_singleton.mp hnew, hedge] at he
      cases he
      exact absurd hadmits hnot

/-- No label stands more than one above the source. -/
theorem layered_concat : ∀ i ∈ done ++ [index], ∀ e depth, graph.edges[i]? = some e →
    (e.source, depth) ∈ walk.depths →
      (∃ depth', (e.target, depth') ∈ walk.depths ∧ depth' ≤ depth + 1) ∨
        ∀ entry ∈ walk.depths, entry.2 ≤ depth + 1 := by
  intro i hi e depth he hdepth
  rcases List.mem_append.mp hi with hold | hnew
  · exact h.layered i hold e depth he hdepth
  · rw [List.mem_singleton.mp hnew, hedge] at he
    cases he
    have hlevel : (edge.source, level) ∈ walk.depths := by
      rw [h.depths]
      exact List.mem_append_left _ hsource
    rw [h.depth_unique hdepth hlevel]
    exact .inr h.le_level

/-- An edge to an admitted node is not cut off. -/
theorem cut_concat (hadmits : ¬ walk.Admits edge.target → limits.maxDepth < level + 1 ∨
      limits.maxNodes ≤ walk.depths.length ∨ limits.maxEdges ≤ walk.includedEdgeIndices.card) :
    ∀ i ∈ done ++ [index], ∀ e depth, graph.edges[i]? = some e →
      (e.source, depth) ∈ walk.depths → ¬ walk.Admits e.target →
        limits.maxDepth < depth + 1 ∨ limits.maxNodes ≤ walk.depths.length ∨
          limits.maxEdges ≤ walk.includedEdgeIndices.card := by
  refine forall_mem_concat h.cut fun e depth he hdepth hnot => ?_
  rw [hedge] at he
  cases he
  have hlevel : (edge.source, level) ∈ walk.depths := by
    rw [h.depths]
    exact List.mem_append_left _ hsource
  rw [h.depth_unique hdepth hlevel]
  exact hadmits hnot

/-- An edge to an admitted node is shown. -/
theorem include_edge (hnew : index ∉ done) (hadmits : walk.Admits edge.target)
    (hroom : walk.includedEdgeIndices.card < limits.maxEdges) :
    Explored graph limits root (done ++ [index]) level front rest
      { walk with includedEdgeIndices := insert index walk.includedEdgeIndices } := by
  have hcard : (insert index walk.includedEdgeIndices).card = walk.includedEdgeIndices.card + 1 :=
    Finset.card_insert_of_notMem fun hin => hnew (h.included index hin)
  exact
    { h with
      edges_le := by
        rw [hcard]
        exact hroom
      parent := fun entry hentry => (h.parent entry hentry).imp_right fun ⟨i, hi, found⟩ =>
        ⟨i, Finset.mem_insert_of_mem hi, found⟩
      included := fun i hi => by
        rcases Finset.mem_insert.mp hi with rfl | hold
        · exact List.mem_append_right _ (List.mem_singleton_self _)
        · exact List.mem_append_left _ (h.included i hold)
      joined := fun i hi e he => by
        rcases Finset.mem_insert.mp hi with rfl | hold
        · rw [hedge] at he
          cases he
          exact hadmits
        · exact h.joined i hold e he
      sources := h.sources_concat hedge hsource
      counted := by
        have hcounted := h.counted
        simp only [hcard, List.length_append, List.length_singleton]
        omega
      omitted := h.omitted_concat hedge hadmits
      layered := h.layered_concat hedge hsource
      closed := fun hopen => by
        simp only [hcard]
        have hclosed := h.closed hopen
        omega
      cut := fun i hi e depth he hdepth hnot => by
        have hcut := h.cut_concat hedge hsource (absurd hadmits) i hi e depth he hdepth hnot
        simp only [hcard]
        omega
      full := fun i hi hout e he hin => by
        rw [Finset.mem_insert, not_or] at hout
        have hold := (List.mem_append.mp hi).resolve_right fun hlast =>
          hout.1 (List.mem_singleton.mp hlast)
        have hfull := h.full i hold hout.2 e he hin
        omega }

/-- An edge to an admitted node is counted once there are as many as there may be. -/
theorem count_edge (hadmits : walk.Admits edge.target)
    (hfull : limits.maxEdges ≤ walk.includedEdgeIndices.card) :
    Explored graph limits root (done ++ [index]) level front rest
      { walk with omittedEdgeCount := walk.omittedEdgeCount + 1 } :=
  { h with
    included := fun i hi => List.mem_append_left _ (h.included i hi)
    sources := h.sources_concat hedge hsource
    counted := by
      have hcounted := h.counted
      simp only [List.length_append, List.length_singleton]
      omega
    omitted := h.omitted_concat hedge hadmits
    layered := h.layered_concat hedge hsource
    cut := h.cut_concat hedge hsource (absurd hadmits)
    full := fun _ _ _ _ _ _ => hfull }

/-- An edge to another node is counted with its node once a limit is reached. -/
theorem omit_node (hadmits : ¬ walk.Admits edge.target)
    (hlimit : level + 1 > limits.maxDepth ∨ walk.depths.length ≥ limits.maxNodes ∨
      walk.includedEdgeIndices.card ≥ limits.maxEdges) :
    Explored graph limits root (done ++ [index]) level front rest
      { walk with
        omittedNodes := insert edge.target walk.omittedNodes
        omittedEdgeCount := walk.omittedEdgeCount + 1 } :=
  { h with
    included := fun i hi => List.mem_append_left _ (h.included i hi)
    sources := h.sources_concat hedge hsource
    counted := by
      have hcounted := h.counted
      simp only [List.length_append, List.length_singleton]
      omega
    omitted := fun id => by
      rw [Finset.mem_insert, h.omitted id]
      constructor
      · rintro (rfl | ⟨hnot, i, hi, found⟩)
        · exact ⟨hadmits, index, List.mem_append_right _ (List.mem_singleton_self _), edge, hedge,
            rfl⟩
        · exact ⟨hnot, i, List.mem_append_left _ hi, found⟩
      · rintro ⟨hnot, i, hi, e, he, rfl⟩
        rcases List.mem_append.mp hi with hold | hnew
        · exact .inr ⟨hnot, i, hold, e, he, rfl⟩
        · rw [List.mem_singleton.mp hnew, hedge] at he
          cases he
          exact .inl rfl
    layered := h.layered_concat hedge hsource
    closed := fun _ => hlimit
    cut := h.cut_concat hedge hsource fun _ => hlimit
    full := forall_mem_concat h.full fun _ e he hin => by
      rw [hedge] at he
      cases he
      exact absurd hin hadmits }

/-- Another node is admitted while no limit is reached. -/
theorem admit_node (hnew : index ∉ done) (hadmits : ¬ walk.Admits edge.target)
    (hlimit : ¬(level + 1 > limits.maxDepth ∨ walk.depths.length ≥ limits.maxNodes ∨
      walk.includedEdgeIndices.card ≥ limits.maxEdges)) :
    Explored graph limits root (done ++ [index]) level front (rest ++ [(edge.target, level + 1)])
      { walk with
        depths := walk.depths ++ [(edge.target, level + 1)]
        omittedNodes := walk.omittedNodes.erase edge.target
        includedEdgeIndices := insert index walk.includedEdgeIndices
        queue := walk.queue ++ [edge.target] } := by
  have hopen : walk.omittedNodes = ∅ := by
    by_contra hne
    exact hlimit (h.closed (Finset.nonempty_iff_ne_empty.mpr hne))
  have hcard : (insert index walk.includedEdgeIndices).card = walk.includedEdgeIndices.card + 1 :=
    Finset.card_insert_of_notMem fun hin => hnew (h.included index hin)
  have hlevel : (edge.source, level) ∈ walk.depths := by
    rw [h.depths]
    exact List.mem_append_left _ hsource
  have hincluded : ∀ i ∈ insert index walk.includedEdgeIndices, i ∈ done ++ [index] := by
    intro i hi
    rcases Finset.mem_insert.mp hi with rfl | hold
    · exact List.mem_append_right _ (List.mem_singleton_self _)
    · exact List.mem_append_left _ (h.included i hold)
  have hkept : ∀ {id d d'}, (id, d') ∈ walk.depths →
      (id, d) ∈ walk.depths ++ [(edge.target, level + 1)] → (id, d) ∈ walk.depths := by
    intro id d d' hid hd
    rcases List.mem_append.mp hd with hold | hlast
    · exact hold
    · cases List.mem_singleton.mp hlast
      exact absurd (admits_of_mem hid) hadmits
  -- every edge up to this one leads to an admitted node
  have hall : ∀ i ∈ done ++ [index], ∀ e, graph.edges[i]? = some e →
      e.target ∈ (walk.depths ++ [(edge.target, level + 1)]).map Prod.fst := by
    rw [List.map_append]
    refine forall_mem_concat (fun i hold e he =>
      List.mem_append_left _ (h.admits_of_open hopen hold he)) fun e he => ?_
    rw [hedge] at he
    cases he
    exact List.mem_append_right _ (List.mem_singleton_self _)
  push Not at hlimit
  exact
    { depths := by rw [h.depths, List.append_assoc]
      queue := by rw [h.queue, List.map_append, List.map_singleton]
      unique := by
        rw [List.map_append, List.map_singleton, List.nodup_append]
        refine ⟨h.unique, List.nodup_singleton _, fun id hid id' hid' => ?_⟩
        rw [List.mem_singleton.mp hid']
        rintro rfl
        exact hadmits hid
      ordered := by
        rw [List.pairwise_append]
        refine ⟨h.ordered, List.pairwise_singleton _ _, fun entry hentry last hlast => ?_⟩
        rw [List.mem_singleton.mp hlast]
        exact h.le_level entry hentry
      rooted := List.mem_append_left _ h.rooted
      level_le := forall_mem_concat h.level_le (Nat.le_succ level)
      le_level := forall_mem_concat h.le_level le_rfl
      nodes_le := by
        rw [List.length_append]
        exact hlimit.2.1
      edges_le := by
        rw [hcard]
        exact hlimit.2.2
      depth_le := forall_mem_concat h.depth_le hlimit.1
      parent := by
        refine forall_mem_concat (fun entry hold => (h.parent entry hold).imp_right ?_) (.inr
          ⟨index, Finset.mem_insert_self _ _, edge, level, hedge, rfl,
            List.mem_append_left _ hlevel,
            rfl⟩)
        rintro ⟨i, hi, e, depth, he, htarget, hdepth, hentry⟩
        exact ⟨i, Finset.mem_insert_of_mem hi, e, depth, he, htarget, List.mem_append_left _ hdepth,
          hentry⟩
      included := hincluded
      joined := fun i hi e he => hall i (hincluded i hi) e he
      sources := h.sources_concat hedge hsource
      counted := by
        have hcounted := h.counted
        simp only [hcard, List.length_append, List.length_singleton]
        omega
      omitted := fun id => by
        rw [hopen, Finset.erase_empty]
        refine iff_of_false (Finset.notMem_empty id) ?_
        rintro ⟨hnot, i, hi, e, he, rfl⟩
        exact hnot (hall i hi e he)
      layered := fun i hi e depth he hdepth => by
        obtain ⟨e', depth', he', hsource'⟩ := h.sources_concat hedge hsource i hi
        obtain rfl : e = e' := Option.some.inj (he.symm.trans he')
        have hold := hkept (h.depths ▸ List.mem_append_left _ hsource') hdepth
        rcases List.mem_append.mp hi with hbefore | hlast
        · obtain ⟨⟨id, d⟩, hd, rfl⟩ := List.mem_map.mp (h.admits_of_open hopen hbefore he)
          rcases h.layered i hbefore e depth he hold with ⟨d', hd', hle⟩ | hbound
          · exact .inl ⟨d', List.mem_append_left _ hd', hle⟩
          · exact .inl ⟨d, List.mem_append_left _ hd, hbound _ hd⟩
        · rw [List.mem_singleton.mp hlast, hedge] at he
          cases he
          rw [h.depth_unique hold hlevel]
          exact .inl ⟨level + 1, List.mem_append_right _ (List.mem_singleton_self _), le_rfl⟩
      closed := by simp [hopen]
      cut := fun i hi e depth he _ hnot => absurd (hall i hi e he) hnot
      full := fun i hi hout e he _ => by
        rw [Finset.mem_insert, not_or] at hout
        have hold := (List.mem_append.mp hi).resolve_right fun hlast =>
          hout.1 (List.mem_singleton.mp hlast)
        have hfull := h.full i hold hout.2 e he (h.admits_of_open hopen hold he)
        omega }

theorem visitEdge (hnew : index ∉ done) :
    ∃ rest', Explored graph limits root (done ++ [index]) level front rest'
      (graph.visitEdge limits level walk index) := by
  rw [ReconstructionGraph.visitEdge, hedge]
  dsimp only
  split_ifs with hadmits hroom hlimit
  · exact ⟨rest, h.include_edge hedge hsource hnew hadmits hroom⟩
  · exact ⟨rest, h.count_edge hedge hsource hadmits (not_lt.mp hroom)⟩
  · exact ⟨rest, h.omit_node hedge hsource hadmits hlimit⟩
  · exact ⟨_, h.admit_node hedge hsource hnew hadmits hlimit⟩

end Edge

theorem visitEdges {id : GraphNodeId} (hid : (id, level) ∈ front) {outgoing : List ℕ}
    (h : Explored graph limits root done level front rest walk)
    (hedges : ∀ index ∈ outgoing, ∃ edge, graph.edges[index]? = some edge ∧ edge.source = id)
    (hnodup : outgoing.Nodup) (hnew : ∀ index ∈ outgoing, index ∉ done) :
    ∃ rest', Explored graph limits root (done ++ outgoing) level front rest'
      (outgoing.foldl (graph.visitEdge limits level) walk) := by
  induction outgoing generalizing done rest walk with
  | nil => exact ⟨rest, by rwa [List.append_nil]⟩
  | cons index outgoing ih =>
    obtain ⟨edge, hedge, rfl⟩ := hedges index List.mem_cons_self
    obtain ⟨hfresh, hnodup⟩ := List.nodup_cons.mp hnodup
    obtain ⟨rest', hstep⟩ := h.visitEdge hedge hid (hnew index List.mem_cons_self)
    have hlater : ∀ i ∈ outgoing, i ∉ done ++ [index] := by
      intro i hi hin
      rcases List.mem_append.mp hin with hold | hlast
      · exact hnew i (List.mem_cons_of_mem index hi) hold
      · exact hfresh (List.mem_singleton.mp hlast ▸ hi)
    obtain ⟨rest'', hrun⟩ := ih hstep (fun i hi => hedges i (List.mem_cons_of_mem index hi)) hnodup
      hlater
    exact ⟨rest'', by simpa using hrun⟩

theorem mem_indicesFrom {edges : List GraphEdge} {source : GraphNodeId} {index : ℕ} :
    index ∈ indicesFrom edges source ↔ ∃ edge, edges[index]? = some edge ∧
      edge.source = source := by
  rw [indicesFrom, List.mem_filter, List.mem_range, Option.any_eq_true]
  simp only [decide_eq_true_eq, and_iff_right_iff_imp]
  rintro ⟨edge, hedge, -⟩
  exact (List.getElem?_eq_some_iff.mp hedge).1

theorem nodup_indicesFrom (edges : List GraphEdge) (source : GraphNodeId) :
    (indicesFrom edges source).Nodup := List.nodup_range.filter _

/-- The depth under which a waiting node was admitted. -/
theorem depthOf_eq {id : GraphNodeId} {d : ℕ}
    (h : Explored graph limits root done level (front ++ [(id, d)]) rest walk) :
    walk.depthOf id = d := by
  have hsplit : walk.depths = front ++ (id, d) :: rest := by rw [h.depths]; simp
  have hunique := h.unique
  rw [hsplit, List.map_append, List.map_cons, List.nodup_append] at hunique
  have hlookup : walk.depths.lookup id = some d := by
    rw [List.lookup_eq_some_iff]
    refine ⟨front, rest, hsplit, fun entry hentry => ?_⟩
    have hne := hunique.2.2 entry.1 (List.mem_map_of_mem hentry) id List.mem_cons_self
    simpa using Ne.symm hne
  rw [ViewWalk.depthOf, hlookup, Option.getD_some]

theorem visitNode {id : GraphNodeId} {d : ℕ}
    (h : Explored graph limits root done level front ((id, d) :: rest) walk) :
    ∃ rest', Explored graph limits root (done ++ indicesFrom graph.edges id) d
      (front ++ [(id, d)]) rest'
      (graph.visitNode limits id { walk with queue := rest.map Prod.fst }) := by
  have hpop := h.pop
  have hvisit := hpop.visitEdges (List.mem_append_right front (List.mem_singleton_self (id, d)))
    (fun index hindex => mem_indicesFrom.mp hindex) (nodup_indicesFrom graph.edges id) ?_
  · have houtgoing := graph.outgoing id
    rw [ReconstructionGraph.visitNode, hpop.depthOf_eq]
    cases hadjacent : graph.adjacency id with
    | none =>
      rw [hadjacent, Option.getD_none] at houtgoing
      rwa [← houtgoing] at hvisit ⊢
    | some outgoing =>
      rw [hadjacent, Option.getD_some] at houtgoing
      rwa [houtgoing]
  · -- an edge that is done has its source in front, where this node is not
    intro index hindex hdone
    obtain ⟨edge, hedge, hsource⟩ := mem_indicesFrom.mp hindex
    obtain ⟨edge', depth, hedge', hfront⟩ := h.sources index hdone
    obtain rfl : edge = edge' := Option.some.inj (hedge.symm.trans hedge')
    have hunique := h.unique
    rw [h.depths, List.map_append, List.map_cons, List.nodup_append] at hunique
    exact hunique.2.2 edge.source (List.mem_map_of_mem hfront) id List.mem_cons_self hsource

/-- The walk ends when every admitted node is visited. -/
theorem runWalk (h : Explored graph limits root done level front rest walk)
    (hdone : done = front.flatMap fun entry => indicesFrom graph.edges entry.1) :
    ∃ level', Explored graph limits root
      ((graph.runWalk limits walk).depths.flatMap fun entry => indicesFrom graph.edges entry.1)
      level' (graph.runWalk limits walk).depths [] (graph.runWalk limits walk) := by
  fun_induction ReconstructionGraph.runWalk graph limits walk generalizing done level front
    rest with
  | case1 walk hqueue =>
    have hrest : rest = [] := by
      have := h.queue
      rw [hqueue] at this
      exact List.map_eq_nil_iff.mp this.symm
    subst hrest
    have hdepths : walk.depths = front := by rw [h.depths, List.append_nil]
    rw [hdepths, ← hdone]
    exact ⟨level, h⟩
  | case2 walk source waiting hqueue ih =>
    have hrest := h.queue
    rw [hqueue] at hrest
    cases rest with
    | nil => simp at hrest
    | cons entry rest =>
      obtain ⟨id, d⟩ := entry
      obtain ⟨rfl, rfl⟩ := List.cons.inj hrest
      obtain ⟨rest', hvisit⟩ := h.visitNode
      exact ih hvisit (by rw [hdone, List.flatMap_append]; simp)

end Explored

/-! ### What the walk leaves behind -/

/-- An edge of the graph leads from one node to the other. -/
def Leads (graph : ReconstructionGraph) (u v : GraphNodeId) : Prop :=
  ∃ edge ∈ graph.edges, edge.source = u ∧ edge.target = v

namespace Explored

variable {graph : ReconstructionGraph} {limits : ViewLimits} {root : GraphNodeId} {level : ℕ}
  {walk : ViewWalk}

/-- The edges that leave admitted nodes. -/
def outgoingOf (graph : ReconstructionGraph) (walk : ViewWalk) : List ℕ :=
  walk.depths.flatMap fun entry => indicesFrom graph.edges entry.1

theorem mem_outgoingOf {index : ℕ} : index ∈ outgoingOf graph walk ↔
    ∃ edge, graph.edges[index]? = some edge ∧ walk.Admits edge.source := by
  simp only [outgoingOf, List.mem_flatMap, mem_indicesFrom, ViewWalk.Admits, List.mem_map]
  constructor
  · rintro ⟨entry, hentry, edge, hedge, hsource⟩
    exact ⟨edge, hedge, entry, hentry, hsource.symm⟩
  · rintro ⟨edge, hedge, entry, hentry, hsource⟩
    exact ⟨entry, hentry, edge, hedge, hsource.symm⟩

variable (h : Explored graph limits root (outgoingOf graph walk) level walk.depths [] walk)
include h

theorem nodup_outgoingOf : (outgoingOf graph walk).Nodup := by
  rw [outgoingOf, List.nodup_flatMap]
  refine ⟨fun entry _ => nodup_indicesFrom _ _, (List.pairwise_map.mp h.unique).imp ?_⟩
  intro entry entry' hne index hindex hindex'
  obtain ⟨edge, hedge, hsource⟩ := mem_indicesFrom.mp hindex
  obtain ⟨edge', hedge', hsource'⟩ := mem_indicesFrom.mp hindex'
  obtain rfl : edge = edge' := Option.some.inj (hedge.symm.trans hedge')
  exact hne (hsource.symm.trans hsource')

/-- Every admitted node stands in the table. -/
theorem holds_of_admits (hroot : graph.table.Holds root) {entry : GraphNodeId × ℕ}
    (hentry : entry ∈ walk.depths) : graph.table.Holds entry.1 := by
  rcases h.parent entry hentry with rfl | ⟨index, -, edge, depth, hedge, htarget, -, -⟩
  · exact hroot
  · rw [← htarget]
    exact graph.targets edge (List.mem_of_getElem? hedge)

/-- An edge of an admitted node leads one level down at most, or no label stands deeper. -/
theorem layer_of_leads {u v : GraphNodeId} {d : ℕ} (hu : (u, d) ∈ walk.depths)
    (huv : Leads graph u v) : (∃ d', (v, d') ∈ walk.depths ∧ d' ≤ d + 1) ∨
      ∀ w d', (w, d') ∈ walk.depths → d' ≤ d + 1 := by
  obtain ⟨edge, hedge, rfl, rfl⟩ := huv
  obtain ⟨index, hindex⟩ := List.mem_iff_getElem?.mp hedge
  have hdone := mem_outgoingOf.mpr ⟨edge, hindex, admits_of_mem hu⟩
  rcases h.layered index hdone edge d hindex hu with hfound | hbound
  · exact .inl hfound
  · exact .inr fun w d' hw => hbound (w, d') hw

/-- The depths are distances. -/
theorem isLeast_depth {id : GraphNodeId} {d : ℕ} (hd : (id, d) ∈ walk.depths) :
    IsLeast {n | Walks (Leads graph) root n id} d := by
  refine @isLeast_of_label _ _ _ (fun id d => (id, d) ∈ walk.depths) h.rooted ?_ h.layer_of_leads
    h.depth_unique _ _ hd
  · intro v d hv
    rcases h.parent (v, d) hv with heq | ⟨index, -, edge, depth, hedge, htarget, hsource, hdepth⟩
    · exact .inl (Prod.mk.inj heq)
    · exact .inr ⟨edge.source, depth, hsource, ⟨edge, List.mem_of_getElem? hedge, rfl, htarget⟩,
        hdepth⟩

/-- A node that was not admitted is at least as far away as every admitted one. -/
theorem depth_le_of_walks {id : GraphNodeId} {n : ℕ} (hwalk : Walks (Leads graph) root n id)
    (hnot : ¬ walk.Admits id) {entry : GraphNodeId × ℕ} (hentry : entry ∈ walk.depths) :
    entry.2 ≤ n := by
  rcases @label_or_bound _ _ _ (fun id d => (id, d) ∈ walk.depths) h.rooted h.layer_of_leads _ _
    hwalk with ⟨d, hd, -⟩ | hbound
  · exact absurd (admits_of_mem hd) hnot
  · exact hbound entry.1 entry.2 hentry

/-- What is omitted are the nodes that admitted nodes lead to and that are not admitted. -/
theorem mem_omittedNodes {id : GraphNodeId} : id ∈ walk.omittedNodes ↔
    ¬ walk.Admits id ∧ ∃ u, walk.Admits u ∧ Leads graph u id := by
  rw [h.omitted id]
  refine and_congr_right fun _ => ⟨?_, ?_⟩
  · rintro ⟨index, hindex, edge, hedge, htarget⟩
    obtain ⟨edge', hedge', hadmits⟩ := mem_outgoingOf.mp hindex
    obtain rfl : edge = edge' := Option.some.inj (hedge.symm.trans hedge')
    exact ⟨edge.source, hadmits, edge, List.mem_of_getElem? hedge, rfl, htarget⟩
  · rintro ⟨u, hu, edge, hedge, rfl, htarget⟩
    obtain ⟨index, hindex⟩ := List.mem_iff_getElem?.mp hedge
    exact ⟨index, mem_outgoingOf.mpr ⟨edge, hindex, hu⟩, edge, hindex, htarget⟩

omit h in
theorem isSome_of_mem_outgoingOf {index : ℕ} (hindex : index ∈ outgoingOf graph walk) :
    (graph.edges[index]?).isSome = true := by
  obtain ⟨edge, hedge, -⟩ := mem_outgoingOf.mp hindex
  rw [hedge, Option.isSome_some]

/-- The included edges, and as many others as were counted, are the edges that leave admitted
    nodes. -/
theorem edges_counted : ∃ omitted : List ℕ, omitted.length = walk.omittedEdgeCount ∧
    (walk.includedEdgeIndices.sort (· ≤ ·) ++ omitted).Perm (outgoingOf graph walk) ∧
    ∀ index ∈ omitted, index ∉ walk.includedEdgeIndices := by
  have hperm : (walk.includedEdgeIndices.sort (· ≤ ·) ++
      (outgoingOf graph walk).filter (· ∉ walk.includedEdgeIndices)).Perm
        (outgoingOf graph walk) := by
    refine (List.perm_ext_iff_of_nodup ?_ h.nodup_outgoingOf).mpr fun index => ?_
    · rw [List.nodup_append]
      refine ⟨Finset.sort_nodup _ _, h.nodup_outgoingOf.filter _, fun i hi j hj => ?_⟩
      rintro rfl
      simpa [(Finset.mem_sort _).mp hi] using (List.mem_filter.mp hj).2
    · rw [List.mem_append, Finset.mem_sort, List.mem_filter]
      constructor
      · rintro (hin | ⟨hin, -⟩)
        · exact h.included index hin
        · exact hin
      · intro hin
        by_cases hincluded : index ∈ walk.includedEdgeIndices
        · exact .inl hincluded
        · exact .inr ⟨hin, by simpa using hincluded⟩
  refine ⟨_, ?_, hperm, fun index hindex => by simpa using (List.mem_filter.mp hindex).2⟩
  have hlen := hperm.length_eq
  have hcounted := h.counted
  rw [List.length_append, Finset.length_sort] at hlen
  omega

end Explored

theorem filterMap_range_getElem? (edges : List GraphEdge) :
    (List.range edges.length).filterMap (edges[·]?) = edges := by
  induction edges using List.reverseRecOn with
  | nil => rfl
  | append_singleton edges edge ih =>
    rw [List.length_append, List.length_singleton, List.range_succ, List.filterMap_append]
    conv_rhs => rw [← ih]
    congr 1
    · refine List.filterMap_congr fun index hindex => ?_
      rw [List.getElem?_append_left (List.mem_range.mp hindex)]
    · simp

theorem filterMap_filter_any {α β : Type} (f : α → Option β) (p : β → Bool) (xs : List α) :
    (xs.filter fun x => (f x).any p).filterMap f = (xs.filterMap f).filter p := by
  induction xs with
  | nil => rfl
  | cons x xs ih =>
    cases hx : f x with
    | none => simp [hx, ih]
    | some y => by_cases hy : p y = true <;> simp [hx, hy, ih]

/-- The edges at the indices of the admitted nodes. -/
theorem outgoingOf_perm {graph : ReconstructionGraph} {limits : ViewLimits} {root : GraphNodeId}
    {level : ℕ} {walk : ViewWalk}
    (h : Explored graph limits root (Explored.outgoingOf graph walk) level walk.depths [] walk) :
    ((Explored.outgoingOf graph walk).filterMap (graph.edges[·]?)).Perm
      (graph.edges.filter (·.source ∈ walk.depths.map Prod.fst)) := by
  have hperm : (Explored.outgoingOf graph walk).Perm ((List.range graph.edges.length).filter
      fun index => (graph.edges[index]?).any (·.source ∈ walk.depths.map Prod.fst)) := by
    refine (List.perm_ext_iff_of_nodup h.nodup_outgoingOf (List.nodup_range.filter _)).mpr
      fun index => ?_
    rw [Explored.mem_outgoingOf, List.mem_filter, List.mem_range, Option.any_eq_true]
    simp only [decide_eq_true_eq, ViewWalk.Admits]
    refine ⟨fun ⟨edge, hedge, hsource⟩ => ⟨?_, edge, hedge, hsource⟩, And.right⟩
    exact (List.getElem?_eq_some_iff.mp hedge).1
  refine (hperm.filterMap _).trans (List.Perm.of_eq ?_)
  rw [filterMap_filter_any, filterMap_range_getElem?]

/-- The shown nodes are the admitted ones, with their depths. -/
theorem viewNodes_perm {graph : ReconstructionGraph} {walk : ViewWalk}
    (h : ∀ entry ∈ walk.depths, graph.table.Holds entry.1) :
    ((graph.viewNodes walk).map fun v => (v.node.id, v.depth)).Perm walk.depths := by
  rw [ReconstructionGraph.viewNodes]
  refine ((List.mergeSort_perm _ _).map _).trans (List.Perm.of_eq ?_)
  generalize walk.depths = entries at h
  induction entries with
  | nil => rfl
  | cons entry rest ih =>
    obtain ⟨node, -, hget, hid⟩ := NodeTable.get_isSome (h entry List.mem_cons_self)
    rw [List.filterMap_cons_some (by rw [hget]; rfl), List.map_cons,
      ih fun e he => h e (List.mem_cons_of_mem entry he), hid]

instance : Std.TransOrd GraphNodeId :=
  inferInstanceAs (Std.TransCmp (compareLex (compareOn GraphNodeId.variant)
    (compareOn GraphNodeId.rva)))

instance : Std.TransCmp viewNodeOrder :=
  inferInstanceAs (Std.TransCmp (compareLex (compareOn ReconstructionGraphViewNode.depth)
    (compareOn fun v : ReconstructionGraphViewNode => v.node.id)))

/-- The shown nodes stand by their depth, and by their identity within a level. -/
theorem viewNodes_ordered (graph : ReconstructionGraph) (walk : ViewWalk) :
    (graph.viewNodes walk).Pairwise fun u v => u.depth < v.depth ∨
      u.depth = v.depth ∧ (compare u.node.id v.node.id).isLE = true := by
  refine (@pairwise_sortBy _ viewNodeOrder _ _).imp fun {u v} hle => ?_
  rw [viewNodeOrder, compareLex, compareOn, compareOn] at hle
  rcases hdepth : compare u.depth v.depth with _ | _ | _
  · exact .inl (Nat.compare_eq_lt.mp hdepth)
  · rw [hdepth] at hle
    exact .inr ⟨Nat.compare_eq_eq.mp hdepth, hle⟩
  · rw [hdepth] at hle
    cases hle

/-- Edges at growing indices stand in the order of the graph. -/
theorem sort_filterMap_sublist {edges : List GraphEdge} {indices : Finset ℕ}
    (h : ∀ index ∈ indices, (edges[index]?).isSome = true) :
    ((indices.sort (· ≤ ·)).filterMap (edges[·]?)).Sublist edges := by
  have hsub : (indices.sort (· ≤ ·)).Sublist (List.range edges.length) := by
    refine List.sublist_of_subperm_of_pairwise ?_ (Finset.pairwise_sort _ _)
      (List.pairwise_lt_range.imp fun hlt => hlt.le)
    refine (Finset.sort_nodup _ _).subperm fun index hindex => List.mem_range.mpr ?_
    simpa using h index ((Finset.mem_sort _).mp hindex)
  have := hsub.filterMap (edges[·]?)
  rwa [filterMap_range_getElem?] at this

/-! ### What is shown -/

/-- The identities of the shown nodes. -/
def ReconstructionGraphView.ids (view : ReconstructionGraphView) : List GraphNodeId :=
  view.nodes.map (·.node.id)

/-- The view is an exact breadth-first part of the graph. -/
structure BreadthFirst (graph : ReconstructionGraph) (root : GraphNodeId) (limits : ViewLimits)
    (view : ReconstructionGraphView) : Prop where
  root_eq : view.root = some root
  root_shown : root ∈ view.ids
  nodes_mem : ∀ v ∈ view.nodes, v.node ∈ graph.table.nodes
  nodes_nodup : view.ids.Nodup
  nodes_ordered : view.nodes.Pairwise fun u v => u.depth < v.depth ∨
    u.depth = v.depth ∧ (compare u.node.id v.node.id).isLE = true
  edges_ordered : view.edges.Sublist graph.edges
  nodes_le : view.nodes.length ≤ limits.maxNodes
  edges_le : view.edges.length ≤ limits.maxEdges
  depth_le : ∀ v ∈ view.nodes, v.depth ≤ limits.maxDepth
  distance : ∀ v ∈ view.nodes, IsLeast {n | Walks (Leads graph) root n v.node.id} v.depth
  joined : ∀ edge ∈ view.edges, edge.source ∈ view.ids ∧ edge.target ∈ view.ids
  parent : ∀ v ∈ view.nodes, v.node.id = root ∨ ∃ edge ∈ view.edges, edge.target = v.node.id ∧
    ∃ u ∈ view.nodes, u.node.id = edge.source ∧ v.depth = u.depth + 1
  /-- A node is left out only at a limit, -/
  node_cut : ∀ u ∈ view.nodes, ∀ id, Leads graph u.node.id id → id ∉ view.ids →
    u.depth = limits.maxDepth ∨ view.nodes.length = limits.maxNodes ∨
      view.edges.length = limits.maxEdges
  /-- and no shown node is deeper than a node left out. -/
  nearest : ∀ n id, Walks (Leads graph) root n id → id ∉ view.ids → ∀ v ∈ view.nodes, v.depth ≤ n
  /-- An edge is left out with its target or at the limit on edges. -/
  edges_counted : ∃ omitted : List GraphEdge, omitted.length = view.omittedEdgeCount ∧
    (view.edges ++ omitted).Perm (graph.edges.filter (·.source ∈ view.ids)) ∧
    ∀ edge ∈ omitted, edge.target ∉ view.ids ∨ view.edges.length = limits.maxEdges
  nodes_counted : ∃ omitted : Finset GraphNodeId, omitted.card = view.omittedNodeCount ∧
    ∀ id, id ∈ omitted ↔ id ∉ view.ids ∧ ∃ u ∈ view.ids, Leads graph u id
  whole : view.omittedNodeCount = 0 → view.omittedEdgeCount = 0 →
    (∀ id, id ∈ view.ids ↔ Reached (Leads graph) root id) ∧
      view.edges.Perm (graph.edges.filter (·.source ∈ view.ids))

/-- A finished walk gives such a view. -/
theorem breadthFirst_of_explored {graph : ReconstructionGraph} {limits : ViewLimits}
    {root : GraphNodeId} {level : ℕ} {walk : ViewWalk} (hroot : graph.table.Holds root)
    (h : Explored graph limits root (Explored.outgoingOf graph walk) level walk.depths [] walk) :
    BreadthFirst graph root limits
      { root := some root
        nodes := graph.viewNodes walk
        edges := (walk.includedEdgeIndices.sort (· ≤ ·)).filterMap (graph.edges[·]?)
        omittedNodeCount := walk.omittedNodes.card
        omittedEdgeCount := walk.omittedEdgeCount } := by
  have hnodes := viewNodes_perm fun entry hentry => h.holds_of_admits hroot hentry
  have hids : ((graph.viewNodes walk).map (·.node.id)).Perm (walk.depths.map Prod.fst) := by
    simpa [List.map_map, Function.comp_def] using hnodes.map Prod.fst
  have hentry : ∀ v ∈ graph.viewNodes walk, (v.node.id, v.depth) ∈ walk.depths := fun v hv =>
    hnodes.mem_iff.mp (List.mem_map_of_mem hv)
  have hshown : ∀ {id}, id ∈ (graph.viewNodes walk).map (·.node.id) ↔ walk.Admits id :=
    hids.mem_iff
  have hnodeCount : (graph.viewNodes walk).length = walk.depths.length := by
    have hlength := hnodes.length_eq
    rwa [List.length_map] at hlength
  have hedgeCount : ((walk.includedEdgeIndices.sort (· ≤ ·)).filterMap (graph.edges[·]?)).length =
      walk.includedEdgeIndices.card := by
    rw [← Finset.length_sort (· ≤ ·), List.length_filterMap_eq_countP, List.countP_eq_length]
    exact fun index hindex => Explored.isSome_of_mem_outgoingOf
      (h.included index ((Finset.mem_sort _).mp hindex))
  have hcounted : ∃ omitted : List GraphEdge, omitted.length = walk.omittedEdgeCount ∧
      ((walk.includedEdgeIndices.sort (· ≤ ·)).filterMap (graph.edges[·]?) ++ omitted).Perm
        (graph.edges.filter (·.source ∈ (graph.viewNodes walk).map (·.node.id))) ∧
      ∀ edge ∈ omitted, edge.target ∉ (graph.viewNodes walk).map (·.node.id) ∨
        ((walk.includedEdgeIndices.sort (· ≤ ·)).filterMap (graph.edges[·]?)).length =
          limits.maxEdges := by
    obtain ⟨omitted, hlength, hperm, hout⟩ := h.edges_counted
    refine ⟨omitted.filterMap (graph.edges[·]?), ?_, ?_, fun edge hedge => ?_⟩
    · rw [← hlength, List.length_filterMap_eq_countP, List.countP_eq_length]
      intro index hindex
      exact Explored.isSome_of_mem_outgoingOf
        (hperm.mem_iff.mp (List.mem_append_right _ hindex))
    · rw [← List.filterMap_append]
      refine ((hperm.filterMap _).trans (outgoingOf_perm h)).trans (List.Perm.of_eq ?_)
      exact List.filter_congr fun edge _ => decide_eq_decide.mpr hshown.symm
    · obtain ⟨index, hindex, hat⟩ := List.mem_filterMap.mp hedge
      rw [hshown, hedgeCount]
      refine or_iff_not_imp_left.mpr fun hin => le_antisymm h.edges_le ?_
      exact h.full index (hperm.mem_iff.mp (List.mem_append_right _ hindex)) (hout index hindex)
        edge hat (not_not.mp hin)
  have hclosed : walk.omittedNodes.card = 0 → ∀ {u v}, walk.Admits u → Leads graph u v →
      walk.Admits v := by
    intro hnone u v hu huv
    by_contra hnot
    have hmem := h.mem_omittedNodes.mpr ⟨hnot, u, hu, huv⟩
    rw [Finset.card_eq_zero.mp hnone] at hmem
    exact Finset.notMem_empty v hmem
  exact
    { root_eq := rfl
      root_shown := hshown.mpr (Explored.admits_of_mem h.rooted)
      nodes_mem := fun v hv => by
        obtain ⟨entry, -, hget⟩ := List.mem_filterMap.mp (List.mem_mergeSort.mp hv)
        obtain ⟨node, hnode, rfl⟩ := Option.map_eq_some_iff.mp hget
        exact List.mem_of_find?_eq_some hnode
      nodes_nodup := hids.nodup_iff.mpr h.unique
      nodes_ordered := viewNodes_ordered graph walk
      edges_ordered := sort_filterMap_sublist fun index hindex =>
        Explored.isSome_of_mem_outgoingOf (h.included index hindex)
      nodes_le := hnodeCount.trans_le h.nodes_le
      edges_le := hedgeCount.trans_le h.edges_le
      depth_le := fun v hv => h.depth_le _ (hentry v hv)
      distance := fun v hv => h.isLeast_depth (hentry v hv)
      joined := fun edge hedge => by
        obtain ⟨index, hindex, hat⟩ := List.mem_filterMap.mp hedge
        have hincluded := (Finset.mem_sort _).mp hindex
        obtain ⟨edge', hat', hsource⟩ :=
          Explored.mem_outgoingOf.mp (h.included index hincluded)
        obtain rfl : edge = edge' := Option.some.inj (hat.symm.trans hat')
        exact ⟨hshown.mpr hsource, hshown.mpr (h.joined index hincluded edge hat)⟩
      parent := fun v hv => by
        rcases h.parent _ (hentry v hv) with
          heq | ⟨index, hindex, edge, depth, hat, htarget, hsource, hdepth⟩
        · exact .inl (Prod.mk.inj heq).1
        · obtain ⟨u, hu, heq⟩ := List.mem_map.mp (hnodes.mem_iff.mpr hsource)
          obtain ⟨hid, rfl⟩ := Prod.mk.inj heq
          exact .inr ⟨edge, List.mem_filterMap.mpr ⟨index, (Finset.mem_sort _).mpr hindex, hat⟩,
            htarget, u, hu, hid, hdepth⟩
      node_cut := fun u hu id huv hnot => by
        obtain ⟨edge, hedge, hsource, rfl⟩ := huv
        obtain ⟨index, hindex⟩ := List.mem_iff_getElem?.mp hedge
        have hin := hentry u hu
        rw [← hsource] at hin
        have hcut := h.cut index (Explored.mem_outgoingOf.mpr
          ⟨edge, hindex, Explored.admits_of_mem hin⟩) edge u.depth hindex hin (mt hshown.mpr hnot)
        have hdepth := h.depth_le _ (hentry u hu)
        have hnodes_le := h.nodes_le
        have hedges_le := h.edges_le
        dsimp only
        omega
      nearest := fun n id hwalk hnot v hv =>
        h.depth_le_of_walks hwalk (mt hshown.mpr hnot) (hentry v hv)
      edges_counted := hcounted
      nodes_counted := by
        refine ⟨walk.omittedNodes, rfl, fun id => h.mem_omittedNodes.trans ?_⟩
        rw [ReconstructionGraphView.ids, hshown]
        simp only [hshown]
      whole := fun hnone hno => by
        refine ⟨fun id => ⟨fun hid => ?_, fun hreached => ?_⟩, ?_⟩
        · obtain ⟨v, hv, rfl⟩ := List.mem_map.mp hid
          exact ⟨v.depth, (h.isLeast_depth (hentry v hv)).1⟩
        · exact hshown.mpr
            (reached_subset (Explored.admits_of_mem h.rooted) (hclosed hnone) hreached)
        · obtain ⟨omitted, hlength, hperm, -⟩ := hcounted
          rw [List.eq_nil_of_length_eq_zero (hlength.trans hno), List.append_nil] at hperm
          exact hperm }

/-- CORRECT (bounded views): a view of a function in the graph respects its limits, shows nodes at
    their distances and with the edges that reach them, and counts exactly what it leaves out. -/
theorem viewWithLimits_breadthFirst (graph : ReconstructionGraph) (rootRva : UInt64)
    (limits : ViewLimits) (hroot : graph.table.Holds (.function rootRva))
    (hnodes : 0 < limits.maxNodes) :
    BreadthFirst graph (.function rootRva) limits (graph.viewWithLimits rootRva limits) := by
  obtain ⟨level, hwalk⟩ :=
    (@Explored.start graph limits (.function rootRva) hnodes).runWalk rfl
  rw [ReconstructionGraph.viewWithLimits, if_neg]
  · exact breadthFirst_of_explored hroot hwalk
  · rintro (hzero | hmissing)
    · omega
    · exact hmissing hroot

/-- Two functions that call each other, one of which jumps through an import. -/
def callingProject : LoadedProject where
  functions := [⟨0, 0x1000, "main", .reviewed, none⟩, ⟨1, 0x1040, "helper", .inferred, none⟩]
  directCalls := [⟨0x1000, 0x1004, .function 0x1040, user⟩,
    ⟨0x1040, 0x1048, .function 0x1000, user⟩]
  thunks := [⟨0x1040, .importIat 0x2000, user⟩]
  peImports := none
where
  user : ExportAttribution := ⟨0, ⟨.user none, "manual", none⟩⟩

theorem viewWithLimits_breadthFirst_calling :
    BreadthFirst (.fromProject callingProject) (.function 0x1000) ⟨2, 2, 1⟩
      ((ReconstructionGraph.fromProject callingProject).viewWithLimits 0x1000 ⟨2, 2, 1⟩) :=
  viewWithLimits_breadthFirst _ _ _ (by decide) (by decide)

end ReSymbol.Workbench
