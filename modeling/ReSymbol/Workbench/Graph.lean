import ReSymbol.Analysis.Pe
import ReSymbol.Export.Model

/-! The reconstruction graph.

    Nodes are functions and import slots; an edge stands for one call or one thunk of the
    projection. A node that only a relationship names is added to the table when the relationship is
    read, so both ends of every edge are nodes. The adjacency of a node lists its outgoing edges by
    index.

        projection ──▶ nodes, edges ──sort──▶ adjacency ──▶ bounded views -/

namespace ReSymbol.Workbench
open Schemes ReSymbol.Core ReSymbol.Export ReSymbol.Analysis

/-! ### Nodes and edges -/

/-- Stable identity for graph nodes: an import slot is distinct from a function of the same RVA. -/
inductive GraphNodeId where
  | function (rva : UInt64)
  | importIat (rva : UInt64)
  deriving DecidableEq

namespace GraphNodeId

def rva : GraphNodeId → UInt64
  | function rva | importIat rva => rva

def variant : GraphNodeId → ℕ
  | function _ => 0
  | importIat _ => 1

instance : Ord GraphNodeId := ⟨compareLex (compareOn variant) (compareOn rva)⟩

end GraphNodeId

inductive GraphImportKind where
  | normal | delay | unresolved

inductive GraphNodeKind where
  | function
  | importIat (library symbol : String) (importKind : GraphImportKind)

inductive FunctionStatus where
  | conflict | reviewed | inferred | extracted | evidenceBacked | automaticFallback

structure GraphNode where
  id : GraphNodeId
  rva : UInt64
  projectionIndex : Option ℕ
  name : String
  status : Option FunctionStatus
  confidence : Option F64
  kind : GraphNodeKind

inductive GraphEdgeKind where
  | directCall | thunk | functionPointer

inductive GraphEdgeOrigin where
  | directCall | thunk

structure GraphAttribution where
  confidence : F64
  producer : ExportProducer
  method : String
  runId : Option String

def GraphAttribution.fromExport (value : ExportAttribution) : GraphAttribution where
  confidence := value.confidence
  producer := value.provenance.producer
  method := value.provenance.method
  runId := value.provenance.runId

structure GraphEdge where
  source : GraphNodeId
  target : GraphNodeId
  kind : GraphEdgeKind
  origin : GraphEdgeOrigin
  callSiteRva : Option UInt64
  pointerSlotRva : Option UInt64
  attribution : GraphAttribution

/-! ### The order of the edges -/

def GraphEdgeKind.variant : GraphEdgeKind → ℕ
  | directCall => 0
  | thunk => 1
  | functionPointer => 2

def GraphEdgeOrigin.variant : GraphEdgeOrigin → ℕ
  | directCall => 0
  | thunk => 1

def edgeSite (edge : GraphEdge) : UInt64 :=
  (edge.callSiteRva.or edge.pointerSlotRva).getD edge.source.rva

def attributionOrder : GraphAttribution → GraphAttribution → Ordering :=
  compareLex (compareOn GraphAttribution.producer) <|
    compareLex (compareOn GraphAttribution.method) <|
      compareLex (compareOn fun a => a.runId.toList) (compareOn fun a => totalPlace a.confidence)

def edgeOrder : GraphEdge → GraphEdge → Ordering :=
  compareLex (compareOn edgeSite) <|
    compareLex (compareOn GraphEdge.source) <|
      compareLex (compareOn fun e => e.origin.variant) <|
        compareLex (compareOn fun e => e.kind.variant) <|
          compareLex (compareOn GraphEdge.target) <|
            compareLex (compareOn fun e => e.pointerSlotRva.toList)
              fun left right => attributionOrder left.attribution right.attribution

def sortEdges (edges : List GraphEdge) : List GraphEdge :=
  edges.mergeSort fun left right => (edgeOrder left right).isLE

/-! ### The node table -/

/-- Nodes under their identities, at most one for each. -/
structure NodeTable where
  nodes : List GraphNode
  nodup : (nodes.map GraphNode.id).Nodup

namespace NodeTable

def get (table : NodeTable) (id : GraphNodeId) : Option GraphNode :=
  table.nodes.find? (·.id = id)

def Holds (table : NodeTable) (id : GraphNodeId) : Prop := id ∈ table.nodes.map GraphNode.id

instance (table : NodeTable) (id : GraphNodeId) : Decidable (table.Holds id) := by
  unfold Holds; infer_instance

def empty : NodeTable := ⟨[], List.nodup_nil⟩

/-- `insert`: a node of the same identity is replaced. -/
def insert (table : NodeTable) (node : GraphNode) : NodeTable where
  nodes := table.nodes.filter (·.id ≠ node.id) ++ [node]
  nodup := by
    rw [List.map_append, List.map_singleton, List.nodup_append]
    refine ⟨table.nodup.sublist (List.filter_sublist.map _), List.nodup_singleton _, ?_⟩
    intro id hid id' hid'
    obtain ⟨old, hold, rfl⟩ := List.mem_map.mp hid
    rw [List.mem_singleton.mp hid']
    simpa using (List.mem_filter.mp hold).2

/-- `entry(..).or_insert_with(..)`: a node of the same identity is kept. -/
def ensure (table : NodeTable) (node : GraphNode) : NodeTable where
  nodes := if table.Holds node.id then table.nodes else table.nodes ++ [node]
  nodup := by
    split_ifs with hholds
    · exact table.nodup
    · rw [List.map_append, List.map_singleton, List.nodup_append]
      refine ⟨table.nodup, List.nodup_singleton _, fun id hid id' hid' => ?_⟩
      rw [List.mem_singleton.mp hid']
      rintro rfl
      exact hholds hid

theorem holds_ensure {table : NodeTable} {node : GraphNode} {id : GraphNodeId} :
    (table.ensure node).Holds id ↔ table.Holds id ∨ id = node.id := by
  rw [Holds, ensure]
  dsimp only
  split_ifs with hholds
  · rw [← Holds]
    exact ⟨.inl, fun h => h.elim (fun hin => hin) fun heq => heq ▸ hholds⟩
  · rw [List.map_append, List.mem_append, List.map_singleton, List.mem_singleton, ← Holds]

theorem get_isSome {table : NodeTable} {id : GraphNodeId} (h : table.Holds id) :
    ∃ node ∈ table.nodes, table.get id = some node ∧ node.id = id := by
  obtain ⟨node, hnode, hid⟩ := List.mem_map.mp h
  cases hfind : table.get id with
  | none => exact absurd (by simpa using hid) (List.find?_eq_none.mp hfind node hnode)
  | some found =>
    exact ⟨found, List.mem_of_find?_eq_some hfind, rfl, by simpa using List.find?_some hfind⟩

end NodeTable

/-! ### Reading a project -/

structure FunctionRow where
  projectionIndex : ℕ
  rva : UInt64
  displayName : String
  status : FunctionStatus
  confidence : Option F64

/-- What the graph reads of a loaded project; only a PE analysis has import inventories. -/
structure LoadedProject where
  functions : List FunctionRow
  directCalls : List ExportDirectCall
  thunks : List ExportThunk
  peImports : Option (List PeImportLibrary × List PeImportLibrary)

structure ResolvedImport where
  library : String
  symbol : String
  importKind : GraphImportKind

def importSymbol : ImportTarget → String
  | .name _ name => name
  | .ordinal ordinal => "#" ++ toString ordinal.toNat

/-- The imports of an inventory, each under its slot. -/
def importsOf (kind : GraphImportKind) (libraries : List PeImportLibrary) :
    List (UInt64 × ResolvedImport) :=
  libraries.flatMap fun library => library.entries.map fun entry =>
    (entry.iatRva.toUInt64, ⟨library.name, importSymbol entry.target, kind⟩)

/-- `pe_import_lookup`: of two entries for one slot the later one counts. -/
def peImportLookup (project : LoadedProject) (iatRva : UInt64) : Option ResolvedImport :=
  match project.peImports with
  | none => none
  | some (imports, delayImports) =>
    (importsOf .normal imports ++ importsOf .delay delayImports).reverse.lookup iatRva

/-- `{:x}`. -/
def lowerHex (n : ℕ) : List Char := Nat.toDigits 16 n

/-- `{:08x}`. -/
def lowerHex8 (n : ℕ) : List Char := (lowerHex n).leftpad 8 '0'

def functionNode (rva : UInt64) : GraphNode where
  id := .function rva
  rva := rva
  projectionIndex := none
  name := "sub_" ++ String.ofList (lowerHex8 rva.toNat)
  status := none
  confidence := none
  kind := .function

def ensureFunctionNode (table : NodeTable) (rva : UInt64) : NodeTable :=
  table.ensure (functionNode rva)

def importNode (resolved : Option ResolvedImport) (iatRva : UInt64) : GraphNode :=
  let import_ := resolved.getD
    ⟨"<unresolved>", "IAT 0x" ++ String.ofList (lowerHex iatRva.toNat), .unresolved⟩
  { id := .importIat iatRva
    rva := iatRva
    projectionIndex := none
    name := import_.library ++ "!" ++ import_.symbol
    status := none
    confidence := none
    kind := .importIat import_.library import_.symbol import_.importKind }

/-- The node that a relationship leads to, the kind of its edge, and its pointer slot. -/
def graphTarget (table : NodeTable) (importLookup : UInt64 → Option ResolvedImport)
    (target : ExportControlFlowTarget) (ordinaryKind : GraphEdgeKind) :
    NodeTable × GraphNodeId × GraphEdgeKind × Option UInt64 :=
  match target with
  | .function rva => (ensureFunctionNode table rva, .function rva, ordinaryKind, none)
  | .importIat iatRva =>
    (table.ensure (importNode (importLookup iatRva) iatRva), .importIat iatRva, ordinaryKind, none)
  | .functionPointer slotRva rva =>
    (ensureFunctionNode table rva, .function rva, .functionPointer, some slotRva)

theorem holds_graphTarget {table : NodeTable} {importLookup : UInt64 → Option ResolvedImport}
    {target : ExportControlFlowTarget} {ordinaryKind : GraphEdgeKind} {id : GraphNodeId} :
    (graphTarget table importLookup target ordinaryKind).1.Holds id ↔
      table.Holds id ∨ id = (graphTarget table importLookup target ordinaryKind).2.1 := by
  cases target <;> exact NodeTable.holds_ensure

/-- Nodes and edges while the relationships are read: both ends of every edge are nodes. -/
structure Relationships where
  table : NodeTable
  edges : List GraphEdge
  sources : ∀ edge ∈ edges, table.Holds edge.source
  targets : ∀ edge ∈ edges, table.Holds edge.target

/-- Read one relationship. -/
def Relationships.add (importLookup : UInt64 → Option ResolvedImport) (built : Relationships)
    (sourceRva : UInt64) (target : ExportControlFlowTarget) (ordinaryKind : GraphEdgeKind)
    (origin : GraphEdgeOrigin) (callSiteRva : Option UInt64) (attribution : ExportAttribution) :
    Relationships :=
  let found := graphTarget (ensureFunctionNode built.table sourceRva) importLookup target
    ordinaryKind
  { table := found.1
    edges := built.edges ++ [
      { source := .function sourceRva
        target := found.2.1
        kind := found.2.2.1
        origin := origin
        callSiteRva := callSiteRva
        pointerSlotRva := found.2.2.2
        attribution := .fromExport attribution }]
    sources := by
      intro edge hedge
      rw [holds_graphTarget, ensureFunctionNode, NodeTable.holds_ensure]
      rcases List.mem_append.mp hedge with hold | hnew
      · exact .inl (.inl (built.sources edge hold))
      · rw [List.mem_singleton.mp hnew]
        exact .inl (.inr rfl)
    targets := by
      intro edge hedge
      rw [holds_graphTarget, ensureFunctionNode, NodeTable.holds_ensure]
      rcases List.mem_append.mp hedge with hold | hnew
      · exact .inl (.inl (built.targets edge hold))
      · rw [List.mem_singleton.mp hnew]
        exact .inr rfl }

def rowNode (row : FunctionRow) : GraphNode where
  id := .function row.rva
  rva := row.rva
  projectionIndex := some row.projectionIndex
  name := row.displayName
  status := some row.status
  confidence := row.confidence
  kind := .function

/-- Nodes and edges of the functions, calls and thunks. -/
def relationships (project : LoadedProject) : Relationships :=
  let importLookup := peImportLookup project
  let rows : Relationships :=
    ⟨project.functions.foldl (fun table row => table.insert (rowNode row)) .empty, [], nofun, nofun⟩
  let calls := project.directCalls.foldl
    (fun built call => built.add importLookup call.callerRva call.target .directCall .directCall
      (some call.callSiteRva) call.attribution) rows
  project.thunks.foldl
    (fun built thunk => built.add importLookup thunk.rva thunk.target .thunk .thunk none
      thunk.attribution) calls

/-! ### The graph -/

/-- The edges of a source by index, in order. -/
def indicesFrom (edges : List GraphEdge) (source : GraphNodeId) : List ℕ :=
  (List.range edges.length).filter fun index => (edges[index]?).any (·.source = source)

/-- Canonical graph index for one loaded project. -/
structure ReconstructionGraph where
  table : NodeTable
  edges : List GraphEdge
  adjacency : GraphNodeId → Option (List ℕ)
  sources : ∀ edge ∈ edges, table.Holds edge.source
  targets : ∀ edge ∈ edges, table.Holds edge.target
  outgoing : ∀ source, (adjacency source).getD [] = indicesFrom edges source

/-- `adjacency.entry(edge.source).or_default().push(index)`. -/
def pushIndex (adjacency : GraphNodeId → Option (List ℕ)) (entry : GraphEdge × ℕ) :
    GraphNodeId → Option (List ℕ) :=
  Function.update adjacency entry.1.source
    (some ((adjacency entry.1.source).getD [] ++ [entry.2]))

/-- The outgoing edges of each node, by index. -/
def adjacencyOf (table : NodeTable) (edges : List GraphEdge) : GraphNodeId → Option (List ℕ) :=
  edges.zipIdx.foldl pushIndex fun id => if table.Holds id then some [] else none

theorem indicesFrom_concat (edges : List GraphEdge) (edge : GraphEdge) (source : GraphNodeId) :
    indicesFrom (edges ++ [edge]) source =
      indicesFrom edges source ++ if edge.source = source then [edges.length] else [] := by
  rw [indicesFrom, List.length_append, List.length_singleton, List.range_succ, List.filter_append]
  congr 1
  · refine List.filter_congr fun index hindex => ?_
    rw [List.getElem?_append_left (List.mem_range.mp hindex)]
  · split_ifs with hsource <;> simp [hsource]

theorem getD_adjacencyOf (table : NodeTable) (edges : List GraphEdge) (source : GraphNodeId) :
    (adjacencyOf table edges source).getD [] = indicesFrom edges source := by
  induction edges using List.reverseRecOn with
  | nil =>
    rw [adjacencyOf]
    dsimp only [List.zipIdx_nil, List.foldl_nil]
    split_ifs <;> rfl
  | append_singleton edges edge ih =>
    rw [adjacencyOf, List.zipIdx_append, List.foldl_append, ← adjacencyOf, indicesFrom_concat, ← ih]
    by_cases hsource : edge.source = source
    · subst hsource
      simp [pushIndex]
    · rw [if_neg hsource, List.append_nil]
      simp [pushIndex, Function.update_of_ne (Ne.symm hsource)]

/-- The graph of a loaded project. -/
def ReconstructionGraph.fromProject (project : LoadedProject) : ReconstructionGraph :=
  let built := relationships project
  { table := built.table
    edges := sortEdges built.edges
    adjacency := adjacencyOf built.table (sortEdges built.edges)
    sources := fun edge h => built.sources edge (List.mem_mergeSort.mp h)
    targets := fun edge h => built.targets edge (List.mem_mergeSort.mp h)
    outgoing := getD_adjacencyOf _ _ }

end ReSymbol.Workbench
