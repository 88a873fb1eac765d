import TricoreSdk.DocumentCalls

/-! Graphs (`graph.rs`): the arguments of their operations and the answers. -/

namespace TricoreSdk
open Shape Written

abbrev Properties := SortedMap String Value

/-! ## Arguments -/

inductive GraphDirection where
  | outgoing
  | incoming
  | both
  deriving DecidableEq

inductive ComponentKind where
  | weak
  | strong
  deriving DecidableEq

inductive ConstraintKind where
  | unique
  | required
  deriving DecidableEq

inductive ConstraintTarget where
  | node
  | edge
  deriving DecidableEq

inductive CentralityMeasure where
  | betweenness
  | closeness
  | eigenvector
  deriving DecidableEq

inductive SimilarityMetric where
  | jaccard
  | overlap
  deriving DecidableEq

structure GraphNodeInput where
  id : String
  labels : List String
  properties : Option Properties := none

structure GraphEdgeInput where
  id : String
  src : String
  dst : String
  label : String
  properties : Option Properties := none

structure NeighborOptions where
  direction : Option GraphDirection := none
  label : Option String := none
  limit : Option UInt64 := none

structure TraverseOptions where
  direction : Option GraphDirection := none
  label : Option String := none
  maxDepth : Option UInt64 := none
  limit : Option UInt64 := none

structure PathOptions where
  direction : Option GraphDirection := none
  label : Option String := none
  maxDepth : Option UInt64 := none

structure WeightedPathOptions where
  direction : Option GraphDirection := none
  label : Option String := none
  weightProperty : Option String := none

structure NodeUpdate where
  properties : Option Value := none
  addLabels : List String := []
  removeLabels : List String := []

structure ComponentOptions where
  kind : Option ComponentKind := none
  label : Option String := none
  limit : Option UInt64 := none

structure KPathOptions where
  k : Option UInt64 := none
  direction : Option GraphDirection := none
  label : Option String := none
  weightProperty : Option String := none

structure CentralityOptions where
  directed : Option Bool := none
  label : Option String := none
  limit : Option UInt64 := none
  iterations : Option UInt64 := none
  tolerance : Option F64 := none

structure CommunityOptions where
  label : Option String := none
  iterations : Option UInt64 := none
  limit : Option UInt64 := none

structure SimilarityOptions where
  direction : Option GraphDirection := none
  label : Option String := none
  metric : Option SimilarityMetric := none
  limit : Option UInt64 := none

structure PageRankOptions where
  damping : Option F64 := none
  iterations : Option UInt64 := none
  tolerance : Option F64 := none
  label : Option String := none
  limit : Option UInt64 := none

/-- A number as `Value::from` writes it: null unless it is finite. -/
def F64.written (f : F64) : Option Finite :=
  if h : f.isFinite = true then some ⟨f, h⟩ else none

/-- A bound of zero is none. -/
def positiveBound (bound : Option UInt64) : Option UInt64 := bound.filter fun n => 0 < n

namespace Written

def nullableFinite : Coded Value (Option Finite) := nullable finite fun _ => rfl

def direction : Coded Value GraphDirection :=
  variant (fun | .outgoing => "outgoing" | .incoming => "incoming" | .both => "both")
    [.outgoing, .incoming, .both] (fun d => by cases d <;> decide) (by decide)

def componentKind : Coded Value ComponentKind :=
  variant (fun | .weak => "weak" | .strong => "strong") [.weak, .strong]
    (fun k => by cases k <;> decide) (by decide)

def constraintKind : Coded Value ConstraintKind :=
  variant (fun | .unique => "unique" | .required => "required") [.unique, .required]
    (fun k => by cases k <;> decide) (by decide)

def constraintTarget : Coded Value ConstraintTarget :=
  variant (fun | .node => "node" | .edge => "edge") [.node, .edge]
    (fun t => by cases t <;> decide) (by decide)

def centralityMeasure : Coded Value CentralityMeasure :=
  variant (fun
      | .betweenness => "betweenness"
      | .closeness => "closeness"
      | .eigenvector => "eigenvector")
    [.betweenness, .closeness, .eigenvector] (fun m => by cases m <;> decide) (by decide)

def similarityMetric : Coded Value SimilarityMetric :=
  variant (fun | .jaccard => "jaccard" | .overlap => "overlap") [.jaccard, .overlap]
    (fun m => by cases m <;> decide) (by decide)

def nullableObject : Coded Value (Option Properties) := nullable object fun _ => rfl

def nodeInput : Coded Value GraphNodeInput :=
  (((Fields.one "id" text).and <| (Fields.one "labels" (listOf text)).and <|
    .optional "properties" object).through (fun n => ⟨n.1, n.2.1, n.2.2⟩)
      (fun n => (n.id, n.labels, n.properties)) fun _ => rfl).coded Value.format (by decide)

def edgeInput : Coded Value GraphEdgeInput :=
  (((Fields.one "id" text).and <| (Fields.one "from" text).and <| (Fields.one "to" text).and <|
    (Fields.one "label" text).and <| .optional "properties" object).through
      (fun (id, src, dst, label, properties) => ⟨id, src, dst, label, properties⟩)
      (fun e => (e.id, e.src, e.dst, e.label, e.properties)) fun _ => rfl).coded
        Value.format (by decide)

end Written

/-! ## Answers -/

structure GraphNode where
  id : String
  labels : List String
  properties : Properties

structure GraphEdge where
  id : String
  src : String
  dst : String
  label : String
  properties : Properties

structure GraphNeighbor where
  edgeId : String
  nodeId : String
  label : String
  direction : GraphDirection

structure GraphVisit where
  id : String
  depth : UInt64
  labels : List String
  properties : Properties

structure GraphTraversal where
  start : String
  direction : String
  maxDepth : UInt64
  limit : UInt64
  count : UInt64
  truncated : Bool
  nodes : List GraphVisit

/-- A path, or why there is none. -/
structure GraphPath where
  found : Bool
  src : String
  dst : String
  direction : String
  hops : UInt64
  nodePath : List String
  edgePath : List String
  totalCost : F64
  message : String

structure GraphNodePage where
  graph : String
  count : UInt64
  nodes : List GraphNode
  truncated : Bool
  total : Int

structure GraphEdgePage where
  graph : String
  count : UInt64
  edges : List GraphEdge
  truncated : Bool
  total : Int

structure GraphRows where
  graph : String
  columns : List String
  rows : List (List Value)
  count : UInt64
  truncated : Bool

structure GraphCounts where
  nodes : Int
  edges : Int

structure GraphRemoved where
  nodesRemoved : Int
  edgesRemoved : Int

structure GraphGroup where
  nodes : List String
  size : UInt64
  truncated : Bool

structure GraphComponents where
  kind : ComponentKind
  count : UInt64
  largest : UInt64
  truncated : Bool
  components : List GraphGroup

structure GraphCycle where
  nodes : List String
  edges : List String

structure GraphCycleCheck where
  hasCycle : Bool
  directed : Bool
  cycle : Option GraphCycle

structure GraphStats where
  nodes : Int
  edges : Int
  nodeLabels : SortedMap String I64
  edgeTypes : SortedMap String I64
  unlabeledNodes : Int
  selfLoops : Int
  isolatedNodes : Int
  avgOutDegree : F64
  maxOutDegree : Int
  maxInDegree : Int
  danglingEdges : Int

structure GraphSubgraph where
  direction : String
  maxDepth : UInt64
  limit : UInt64
  nodeCount : UInt64
  edgeCount : UInt64
  nodes : List GraphVisit
  edges : List GraphEdge
  nodesTruncated : Bool
  edgesTruncated : Bool

structure GraphPropertySchema where
  key : String
  count : Int
  types : List String

structure GraphLabelSchema where
  label : String
  count : Int
  properties : List GraphPropertySchema

structure GraphEdgeTypeSchema where
  edgeType : String
  count : Int
  properties : List GraphPropertySchema

structure GraphSchema where
  nodes : Int
  edges : Int
  nodeLabels : List GraphLabelSchema
  edgeTypes : List GraphEdgeTypeSchema
  unlabeledNodes : GraphLabelSchema

structure GraphPathEntry where
  nodes : List String
  edges : List String
  hops : UInt64
  cost : F64

structure GraphPaths where
  src : String
  dst : String
  direction : String
  count : UInt64
  paths : List GraphPathEntry
  complete : Option Bool
  stoppedBy : Option String

structure GraphScore where
  id : String
  score : F64

structure GraphCentrality where
  measure : CentralityMeasure
  directed : Bool
  nodes : Int
  results : List GraphScore
  converged : Option Bool
  iterations : Option UInt64

structure GraphCommunities where
  algorithm : String
  count : UInt64
  modularity : F64
  converged : Bool
  iterations : UInt64
  communities : List GraphGroup

structure GraphNodeTriangles where
  id : String
  triangles : Int
  clustering : F64

structure GraphTriangles where
  triangles : Int
  transitivity : F64
  averageClustering : F64
  nodes : List GraphNodeTriangles

structure GraphFindings where
  count : Int
  listed : List Value

structure GraphMirrorCheck where
  loaded : Bool
  differences : GraphFindings

structure GraphConsistency where
  consistent : Bool
  nodes : Int
  edges : Int
  danglingEdges : GraphFindings
  undecodable : GraphFindings
  misfiled : GraphFindings
  mirror : GraphMirrorCheck

structure GraphIndex where
  name : String
  label : Option String
  properties : List String

structure GraphConstraint where
  name : String
  label : String
  property : String
  kind : ConstraintKind
  target : ConstraintTarget

structure GraphSchemaObjects where
  indexes : List GraphIndex
  constraints : List GraphConstraint

structure GraphFoundNodes where
  count : UInt64
  nodes : List GraphNode
  plan : String
  truncated : Bool

structure GraphPageRank where
  ranks : List GraphScore
  count : UInt64
  damping : F64
  iterations : UInt64
  converged : Bool
  truncated : Bool

namespace Spoken

/-- Labels under `serde_null::or_default`. -/
def texts (name : String) : Parts Value (List String) := field name (orDefault [] (listOf text)) []

/-- Properties under `serde_null::or_default`. -/
def properties : Parts Value Properties := field "properties" (orDefault .empty object) .empty

/-- A list under `serde_null::or_default`. -/
def items {α : Type} (name : String) (t : Heard Value α) : Parts Value (List α) :=
  field name (orDefault [] (listOf t)) []

def zero : F64 := ⟨0⟩

def counts : Heard Value (SortedMap String I64) := (Written.mapOf Written.integer).heard

def graphNode : Heard Value GraphNode :=
  record <| ((required "id" text).and <| (texts "labels").and properties).image
    fun n => ⟨n.1, n.2.1, n.2.2⟩

def graphEdge : Heard Value GraphEdge :=
  record <| ((required "id" text).and <| (field "from" text "").and <| (field "to" text "").and <|
    (field "label" text "").and properties).image
      fun (id, src, dst, label, properties) => ⟨id, src, dst, label, properties⟩

def graphNeighbor : Heard Value GraphNeighbor :=
  record <| ((required "edge_id" text).and <| (required "node_id" text).and <|
    (field "label" text "").and <| field "direction" Written.direction.heard .outgoing).image
      fun n => ⟨n.1, n.2.1, n.2.2.1, n.2.2.2⟩

def graphVisit : Heard Value GraphVisit :=
  record <| ((required "id" text).and <| (field "depth" count 0).and <|
    (texts "labels").and properties).image fun v => ⟨v.1, v.2.1, v.2.2.1, v.2.2.2⟩

def graphTraversal : Heard Value GraphTraversal :=
  record <| ((field "start" text "").and <| (field "direction" text "").and <|
    (field "max_depth" count 0).and <| (field "limit" count 0).and <| (field "count" count 0).and <|
    (field "truncated" flag false).and <| items "nodes" graphVisit).image
      fun (start, direction, depth, limit, count, truncated, nodes) =>
        ⟨start, direction, depth, limit, count, truncated, nodes⟩

def graphPath : Heard Value GraphPath :=
  record <| ((field "found" flag false).and <| (field "from" text "").and <|
    (field "to" text "").and <| (field "direction" text "").and <| (field "hops" count 0).and <|
    (texts "node_path").and <| (texts "edge_path").and <| (field "total_cost" float zero).and <|
    field "message" text "").image
      fun (found, src, dst, direction, hops, nodes, edges, cost, message) =>
        ⟨found, src, dst, direction, hops, nodes, edges, cost, message⟩

def graphNodePage : Heard Value GraphNodePage :=
  record <| ((field "graph" text "").and <| (field "count" count 0).and <|
    (items "nodes" graphNode).and <| (field "truncated" flag false).and <|
    field "total" integer 0).image
      fun (graph, count, nodes, truncated, total) => ⟨graph, count, nodes, truncated, total⟩

def graphEdgePage : Heard Value GraphEdgePage :=
  record <| ((field "graph" text "").and <| (field "count" count 0).and <|
    (items "edges" graphEdge).and <| (field "truncated" flag false).and <|
    field "total" integer 0).image
      fun (graph, count, edges, truncated, total) => ⟨graph, count, edges, truncated, total⟩

def graphRows : Heard Value GraphRows :=
  record <| ((field "graph" text "").and <| (texts "columns").and <|
    (items "rows" (listOf any)).and <| (field "count" count 0).and <|
    field "truncated" flag false).image
      fun (graph, columns, rows, count, truncated) => ⟨graph, columns, rows, count, truncated⟩

def graphCounts : Heard Value GraphCounts :=
  record <| ((field "nodes" integer 0).and <| field "edges" integer 0).image fun c => ⟨c.1, c.2⟩

def graphRemoved : Heard Value GraphRemoved :=
  record <| ((field "nodes_removed" integer 0).and <| field "edges_removed" integer 0).image
    fun c => ⟨c.1, c.2⟩

def graphGroup : Heard Value GraphGroup :=
  record <| ((field "nodes" (listOf text) []).and <| (field "size" count 0).and <|
    field "truncated" flag false).image fun g => ⟨g.1, g.2.1, g.2.2⟩

def graphComponents : Heard Value GraphComponents :=
  record <| ((field "kind" Written.componentKind.heard .weak).and <| (field "count" count 0).and <|
    (field "largest" count 0).and <| (field "truncated" flag false).and <|
    field "components" (listOf graphGroup) []).image
      fun (kind, count, largest, truncated, components) =>
        ⟨kind, count, largest, truncated, components⟩

def graphCycle : Heard Value GraphCycle :=
  record <| ((field "nodes" (listOf text) []).and <| field "edges" (listOf text) []).image
    fun c => ⟨c.1, c.2⟩

def graphCycleCheck : Heard Value GraphCycleCheck :=
  record <| ((field "hasCycle" flag false).and <| (field "directed" flag false).and <|
    maybe "cycle" graphCycle).image fun c => ⟨c.1, c.2.1, c.2.2⟩

def graphStats : Heard Value GraphStats :=
  record <| ((field "nodes" integer 0).and <| (field "edges" integer 0).and <|
    (field "nodeLabels" counts .empty).and <| (field "edgeTypes" counts .empty).and <|
    (field "unlabeledNodes" integer 0).and <| (field "selfLoops" integer 0).and <|
    (field "isolatedNodes" integer 0).and <| (field "avgOutDegree" float zero).and <|
    (field "maxOutDegree" integer 0).and <| (field "maxInDegree" integer 0).and <|
    field "danglingEdges" integer 0).image
      fun (nodes, edges, labels, types, unlabeled, loops, isolated, average, out, into, dangling) =>
        ⟨nodes, edges, labels, types, unlabeled, loops, isolated, average, out, into, dangling⟩

def graphSubgraph : Heard Value GraphSubgraph :=
  record <| ((field "direction" text "").and <| (field "max_depth" count 0).and <|
    (field "limit" count 0).and <| (field "node_count" count 0).and <|
    (field "edge_count" count 0).and <| (items "nodes" graphVisit).and <|
    (items "edges" graphEdge).and <| (field "nodes_truncated" flag false).and <|
    field "edges_truncated" flag false).image
      fun (direction, depth, limit, nodeCount, edgeCount, nodes, edges, nodesCut, edgesCut) =>
        ⟨direction, depth, limit, nodeCount, edgeCount, nodes, edges, nodesCut, edgesCut⟩

def graphPropertySchema : Heard Value GraphPropertySchema :=
  record <| ((required "key" text).and <| (field "count" integer 0).and <|
    field "types" (listOf text) []).image fun p => ⟨p.1, p.2.1, p.2.2⟩

def graphLabelSchema : Heard Value GraphLabelSchema :=
  record <| ((field "label" text "").and <| (field "count" integer 0).and <|
    field "properties" (listOf graphPropertySchema) []).image fun l => ⟨l.1, l.2.1, l.2.2⟩

def graphEdgeTypeSchema : Heard Value GraphEdgeTypeSchema :=
  record <| ((required "type" text).and <| (field "count" integer 0).and <|
    field "properties" (listOf graphPropertySchema) []).image fun t => ⟨t.1, t.2.1, t.2.2⟩

def graphSchema : Heard Value GraphSchema :=
  record <| ((field "nodes" integer 0).and <| (field "edges" integer 0).and <|
    (field "node_labels" (listOf graphLabelSchema) []).and <|
    (field "edge_types" (listOf graphEdgeTypeSchema) []).and <|
    field "unlabeled_nodes" graphLabelSchema ⟨"", 0, []⟩).image
      fun (nodes, edges, labels, types, unlabeled) => ⟨nodes, edges, labels, types, unlabeled⟩

def graphPathEntry : Heard Value GraphPathEntry :=
  record <| ((field "nodes" (listOf text) []).and <| (field "edges" (listOf text) []).and <|
    (field "hops" count 0).and <| field "cost" float zero).image
      fun p => ⟨p.1, p.2.1, p.2.2.1, p.2.2.2⟩

def graphPaths : Heard Value GraphPaths :=
  record <| ((field "from" text "").and <| (field "to" text "").and <|
    (field "direction" text "").and <| (field "count" count 0).and <|
    (field "paths" (listOf graphPathEntry) []).and <| (maybe "complete" flag).and <|
    maybe "stopped_by" text).image
      fun (src, dst, direction, count, paths, complete, stopped) =>
        ⟨src, dst, direction, count, paths, complete, stopped⟩

def graphScore : Heard Value GraphScore :=
  record <| ((required "id" text).and <| field "score" float zero).image fun s => ⟨s.1, s.2⟩

def graphCentrality : Heard Value GraphCentrality :=
  record <| ((required "measure" Written.centralityMeasure.heard).and <|
    (field "directed" flag false).and <| (field "nodes" integer 0).and <|
    (field "results" (listOf graphScore) []).and <| (maybe "converged" flag).and <|
    maybe "iterations" count).image
      fun (measure, directed, nodes, results, converged, iterations) =>
        ⟨measure, directed, nodes, results, converged, iterations⟩

def graphCommunities : Heard Value GraphCommunities :=
  record <| ((field "algorithm" text "").and <| (field "count" count 0).and <|
    (field "modularity" float zero).and <| (field "converged" flag false).and <|
    (field "iterations" count 0).and <| field "communities" (listOf graphGroup) []).image
      fun (algorithm, count, modularity, converged, iterations, communities) =>
        ⟨algorithm, count, modularity, converged, iterations, communities⟩

def graphNodeTriangles : Heard Value GraphNodeTriangles :=
  record <| ((required "id" text).and <| (field "triangles" integer 0).and <|
    field "clustering" float zero).image fun t => ⟨t.1, t.2.1, t.2.2⟩

def graphTriangles : Heard Value GraphTriangles :=
  record <| ((field "triangles" integer 0).and <| (field "transitivity" float zero).and <|
    (field "average_clustering" float zero).and <|
    field "nodes" (listOf graphNodeTriangles) []).image fun t => ⟨t.1, t.2.1, t.2.2.1, t.2.2.2⟩

def graphFindings : Heard Value GraphFindings :=
  record <| ((field "count" integer 0).and <| field "listed" (listOf any) []).image
    fun f => ⟨f.1, f.2⟩

def graphMirrorCheck : Heard Value GraphMirrorCheck :=
  record <| ((field "loaded" flag false).and <| field "differences" graphFindings ⟨0, []⟩).image
    fun c => ⟨c.1, c.2⟩

def graphConsistency : Heard Value GraphConsistency :=
  record <| ((field "consistent" flag false).and <| (field "nodes" integer 0).and <|
    (field "edges" integer 0).and <| (field "dangling_edges" graphFindings ⟨0, []⟩).and <|
    (field "undecodable" graphFindings ⟨0, []⟩).and <|
    (field "misfiled" graphFindings ⟨0, []⟩).and <|
    field "mirror" graphMirrorCheck ⟨false, 0, []⟩).image
      fun (consistent, nodes, edges, dangling, undecodable, misfiled, mirror) =>
        ⟨consistent, nodes, edges, dangling, undecodable, misfiled, mirror⟩

def graphIndex : Heard Value GraphIndex :=
  record <| ((required "name" text).and <| (maybe "label" text).and <|
    field "properties" (listOf text) []).image fun i => ⟨i.1, i.2.1, i.2.2⟩

def graphConstraint : Heard Value GraphConstraint :=
  record <| ((required "name" text).and <| (field "label" text "").and <|
    (field "property" text "").and <| (required "kind" Written.constraintKind.heard).and <|
    field "target" Written.constraintTarget.heard .node).image
      fun (name, label, property, kind, target) => ⟨name, label, property, kind, target⟩

def graphSchemaObjects : Heard Value GraphSchemaObjects :=
  record <| ((field "indexes" (listOf graphIndex) []).and <|
    field "constraints" (listOf graphConstraint) []).image fun o => ⟨o.1, o.2⟩

def graphFoundNodes : Heard Value GraphFoundNodes :=
  record <| ((field "count" count 0).and <| (items "nodes" graphNode).and <|
    (field "plan" text "").and <| field "truncated" flag false).image
      fun f => ⟨f.1, f.2.1, f.2.2.1, f.2.2.2⟩

def graphPageRank : Heard Value GraphPageRank :=
  record <| ((field "ranks" (listOf graphScore) []).and <| (field "count" count 0).and <|
    (field "damping" float zero).and <| (field "iterations" count 0).and <|
    (field "converged" flag false).and <| field "truncated" flag false).image
      fun (ranks, count, damping, iterations, converged, truncated) =>
        ⟨ranks, count, damping, iterations, converged, truncated⟩

def graphWriteSummary : Heard Value GraphWriteSummary :=
  record <| ((field "statements" integer 0).and <| (field "nodesCreated" integer 0).and <|
    (field "nodesDeleted" integer 0).and <| (field "relationshipsCreated" integer 0).and <|
    (field "relationshipsDeleted" integer 0).and <| (field "propertiesSet" integer 0).and <|
    (field "labelsAdded" integer 0).and <| (field "labelsRemoved" integer 0).and <|
    (maybe "queued" integer).and <| maybe "committed" integer).image
      fun (statements, nodes, nodesGone, edges, edgesGone, properties, labels, labelsGone, queued,
          committed) =>
        ⟨statements, nodes, nodesGone, edges, edgesGone, properties, labels, labelsGone, queued,
          committed⟩

end Spoken

end TricoreSdk
