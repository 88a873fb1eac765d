import TricoreSdk.GraphCalls

/-! The methods on graphs (`graph.rs`): the operation each asks for and what it takes from the
answer. -/

namespace TricoreSdk
open Shape Written

namespace Graphs
open Operation

variable {α β : Type}

def json (variant : String) (fields : Coded (Option Value) α) (type : String)
    (answer : Heard Value β) : Inquiry α β :=
  ⟨"Graph", variant, fields, .json variant type answer⟩

def doing (variant : String) (fields : Coded (Option Value) α) : Operation α Unit :=
  .ofDone "Graph" variant fields

def graph : Fields Value String := .one "graph" text

def byId : Fields Value (String × String) := graph.and (.one "id" text)

def byName : Fields Value (String × String) := graph.and (.one "name" text)

def labelled : Fields Value (Option String) := .optional "label" text

def limited : Fields Value (Option UInt64) := .optional "limit" count

def directed : Fields Value (Option GraphDirection) := .optional "direction" direction

/-- `put_walk`. -/
def walk : Fields Value (Option GraphDirection × Option String × Option UInt64 × Option UInt64) :=
  directed.and <| labelled.and <| (Fields.optional "max_depth" count).and limited

/-- The fields of `TraverseOptions` that are put. -/
def walkOf (options : TraverseOptions) :
    Option GraphDirection × Option String × Option UInt64 × Option UInt64 :=
  (options.direction, options.label, positiveBound options.maxDepth, positiveBound options.limit)

def betweenNodes : Fields Value (String × String × String) :=
  graph.and <| (Fields.one "from" text).and <| .one "to" text

def paged : Fields Value (String × Option UInt64 × Option UInt64) :=
  graph.and <| limited.and <| .optional "offset" count

/-! ### Graphs, nodes and edges -/

def createGraph : Operation String Unit := doing "CreateGraph" (withFields graph (by decide))

def dropGraph : Operation String Unit := doing "DropGraph" (withFields graph (by decide))

def listGraphs : Inquiry Unit (List String) :=
  json "ListGraphs" plain "Graphs" (Spoken.single "graphs" (Spoken.listOf Spoken.text) [])

def addNode : Operation ((String × String) × List String × Option Properties) Unit :=
  doing "AddNode"
    (withFields (byId.and <| (Fields.one "labels" (listOf text)).and <|
      .one "properties" nullableObject) (by decide))

/-- Null when there is no such node. -/
def getNode : Inquiry (String × String) (Option GraphNode) :=
  json "GetNode" (withFields byId (by decide)) "GraphNode" (Spoken.optional Spoken.graphNode)

def deleteNode : Operation (String × String) Unit := doing "DeleteNode" (withFields byId (by decide))

def listNodes : Inquiry (String × Option UInt64 × Option UInt64) GraphNodePage :=
  json "ListNodes" (withFields paged (by decide)) "GraphNodePage" Spoken.graphNodePage

def addEdge : Operation ((String × String) × String × String × String × Option Properties) Unit :=
  doing "AddEdge"
    (withFields (byId.and <| (Fields.one "from" text).and <| (Fields.one "to" text).and <|
      (Fields.one "label" text).and <| .one "properties" nullableObject) (by decide))

/-- Null when there is no such edge. -/
def getEdge : Inquiry (String × String) (Option GraphEdge) :=
  json "GetEdge" (withFields byId (by decide)) "GraphEdge" (Spoken.optional Spoken.graphEdge)

def deleteEdge : Operation (String × String) Unit := doing "DeleteEdge" (withFields byId (by decide))

def listEdges : Inquiry (String × Option UInt64 × Option UInt64) GraphEdgePage :=
  json "ListEdges" (withFields paged (by decide)) "GraphEdgePage" Spoken.graphEdgePage

def updateNode : Inquiry ((String × String) × Option Value × List String × List String) GraphNode :=
  json "UpdateNode"
    (withFields (byId.and <| (Fields.optional "properties" any).and <|
      (Fields.skipping "add_labels" (listOf text) List.isEmpty []
        fun _ h => List.isEmpty_iff.mp h).and <|
      .skipping "remove_labels" (listOf text) List.isEmpty [] fun _ h => List.isEmpty_iff.mp h)
      (by decide))
    "GraphNode" Spoken.graphNode

def updateEdge : Inquiry ((String × String) × Option Value × Option String) GraphEdge :=
  json "UpdateEdge"
    (withFields (byId.and <| (Fields.optional "properties" any).and labelled) (by decide))
    "GraphEdge" Spoken.graphEdge

def addMany : Inquiry (String × List GraphNodeInput × List GraphEdgeInput) GraphCounts :=
  json "AddMany"
    (withFields (graph.and <| (Fields.one "nodes" (listOf nodeInput)).and <|
      .one "edges" (listOf edgeInput)) (by decide))
    "GraphCounts" Spoken.graphCounts

def removeMany : Inquiry (String × List String × List String × Bool) GraphRemoved :=
  json "RemoveMany"
    (withFields (graph.and <| (Fields.one "nodes" (listOf text)).and <|
      (Fields.one "edges" (listOf text)).and <| .one "detach" flag) (by decide))
    "GraphRemoved" Spoken.graphRemoved

def copyGraph : Inquiry (String × String) GraphCounts :=
  json "CopyGraph" (withFields (graph.and (.one "to" text)) (by decide)) "GraphCounts"
    Spoken.graphCounts

def importCsv : Inquiry (String × Option String × Option String) GraphCounts :=
  json "ImportCsv"
    (withFields (graph.and <| (Fields.optional "nodes" text).and <| .optional "edges" text)
      (by decide))
    "GraphCounts" Spoken.graphCounts

/-! ### Walks and paths -/

def neighbors : Inquiry ((String × String) × Option GraphDirection × Option String × Option UInt64)
    (List GraphNeighbor) :=
  json "Neighbors"
    (withFields ((graph.and (.one "node_id" text)).and <| directed.and <| labelled.and limited)
      (by decide))
    "Neighbors" (Spoken.single "neighbors" (Spoken.listOf Spoken.graphNeighbor) [])

def degree : Inquiry ((String × String) × Option GraphDirection) Int :=
  json "Degree" (withFields ((graph.and (.one "node_id" text)).and directed) (by decide)) "Degree"
    (Spoken.single "degree" Spoken.integer 0)

/-- A walk from a node: breadth first or depth first. -/
def walking (variant : String) :
    Inquiry ((String × String) × Option GraphDirection × Option String × Option UInt64 ×
      Option UInt64) GraphTraversal :=
  json variant (withFields ((graph.and (.one "start" text)).and walk) (by decide))
    "GraphTraversal" Spoken.graphTraversal

def traverse : Inquiry ((String × String) × Option GraphDirection × Option String × Option UInt64 ×
    Option UInt64) GraphTraversal := walking "Traverse"

def dfs : Inquiry ((String × String) × Option GraphDirection × Option String × Option UInt64 ×
    Option UInt64) GraphTraversal := walking "Dfs"

def subgraph : Inquiry ((String × List String) × Option GraphDirection × Option String ×
    Option UInt64 × Option UInt64) GraphSubgraph :=
  json "Subgraph" (withFields ((graph.and (.one "seeds" (listOf text))).and walk) (by decide))
    "GraphSubgraph" Spoken.graphSubgraph

def shortestPath : Inquiry ((String × String × String) × Option GraphDirection × Option String ×
    Option UInt64) GraphPath :=
  json "ShortestPath"
    (withFields (betweenNodes.and <| directed.and <| labelled.and <| .optional "max_depth" count)
      (by decide))
    "GraphPath" Spoken.graphPath

def weightedShortestPath : Inquiry ((String × String × String) × Option GraphDirection ×
    Option String × Option String) GraphPath :=
  json "WeightedShortestPath"
    (withFields (betweenNodes.and <| directed.and <| labelled.and <|
      .optional "weight_property" text) (by decide))
    "GraphPath" Spoken.graphPath

def kShortestPaths : Inquiry ((String × String × String) × Option UInt64 × Option GraphDirection ×
    Option String × Option String) GraphPaths :=
  json "KShortestPaths"
    (withFields (betweenNodes.and <| (Fields.optional "k" count).and <| directed.and <|
      labelled.and <| .optional "weight_property" text) (by decide))
    "GraphPaths" Spoken.graphPaths

def allPaths : Inquiry ((String × String × String) × Option GraphDirection × Option String ×
    Option UInt64 × Option UInt64) GraphPaths :=
  json "AllPaths" (withFields (betweenNodes.and walk) (by decide)) "GraphPaths" Spoken.graphPaths

/-! ### Measures -/

def connectedComponents : Inquiry (String × Option ComponentKind × Option String × Option UInt64)
    GraphComponents :=
  json "ConnectedComponents"
    (withFields (graph.and <| (Fields.optional "kind" componentKind).and <| labelled.and limited)
      (by decide))
    "GraphComponents" Spoken.graphComponents

def detectCycle : Inquiry (String × Option Bool × Option String) GraphCycleCheck :=
  json "DetectCycle"
    (withFields (graph.and <| (Fields.optional "directed" flag).and labelled) (by decide))
    "GraphCycleCheck" Spoken.graphCycleCheck

def graphStats : Inquiry String GraphStats :=
  json "GraphStats" (withFields graph (by decide)) "GraphStats" Spoken.graphStats

def graphSchema : Inquiry String GraphSchema :=
  json "GraphSchema" (withFields graph (by decide)) "GraphSchema" Spoken.graphSchema

/-- A tolerance that is no number is written as null. -/
def centrality : Inquiry (String × CentralityMeasure × Option Bool × Option String ×
    Option UInt64 × Option UInt64 × Option (Option Finite)) GraphCentrality :=
  json "Centrality"
    (withFields (graph.and <| (Fields.one "measure" centralityMeasure).and <|
      (Fields.optional "directed" flag).and <| labelled.and <| limited.and <|
      (Fields.optional "iterations" count).and <| .optional "tolerance" nullableFinite) (by decide))
    "GraphCentrality" Spoken.graphCentrality

def communities : Inquiry (String × Option String × Option UInt64 × Option UInt64)
    GraphCommunities :=
  json "Communities"
    (withFields (graph.and <| labelled.and <| (Fields.optional "iterations" count).and limited)
      (by decide))
    "GraphCommunities" Spoken.graphCommunities

def triangleCount : Inquiry (String × Option String × Option UInt64) GraphTriangles :=
  json "TriangleCount" (withFields (graph.and <| labelled.and limited) (by decide))
    "GraphTriangles" Spoken.graphTriangles

def nodeSimilarity : Inquiry ((String × String) × Option GraphDirection × Option String ×
    Option SimilarityMetric × Option UInt64) (List GraphScore) :=
  json "NodeSimilarity"
    (withFields ((graph.and (.one "node" text)).and <| directed.and <| labelled.and <|
      (Fields.optional "metric" similarityMetric).and limited) (by decide))
    "Similar" (Spoken.single "results" (Spoken.listOf Spoken.graphScore) [])

def pageRank : Inquiry (String × Option (Option Finite) × Option UInt64 ×
    Option (Option Finite) × Option String × Option UInt64) GraphPageRank :=
  json "PageRank"
    (withFields (graph.and <| (Fields.optional "damping" nullableFinite).and <|
      (Fields.optional "iterations" count).and <|
      (Fields.optional "tolerance" nullableFinite).and <| labelled.and limited) (by decide))
    "GraphPageRank" Spoken.graphPageRank

def checkConsistency : Inquiry String GraphConsistency :=
  json "CheckConsistency" (withFields graph (by decide)) "GraphConsistency" Spoken.graphConsistency

/-! ### Indexes, constraints and search -/

def createNodeIndex : Operation ((String × String) × Option String × List String) Unit :=
  doing "CreateNodeIndex"
    (withFields (byName.and <| labelled.and <| .one "properties" (listOf text)) (by decide))

def createConstraint : Operation ((String × String) × String × String × ConstraintKind ×
    ConstraintTarget) Unit :=
  doing "CreateConstraint"
    (withFields (byName.and <| (Fields.one "label" text).and <| (Fields.one "property" text).and <|
      (Fields.one "kind" constraintKind).and <| .one "target" constraintTarget) (by decide))

def dropSchemaObject : Operation (String × String) Unit :=
  doing "DropSchemaObject" (withFields byName (by decide))

def listSchemaObjects : Inquiry String GraphSchemaObjects :=
  json "ListSchemaObjects" (withFields graph (by decide)) "GraphSchemaObjects"
    Spoken.graphSchemaObjects

def findNodes : Inquiry (String × Option String × Option Properties × Option UInt64)
    GraphFoundNodes :=
  json "FindNodes"
    (withFields (graph.and <| labelled.and <| (Fields.optional "properties" object).and limited)
      (by decide))
    "GraphFoundNodes" Spoken.graphFoundNodes

/-! ### Cypher and transactions -/

def cypher : Fields Value (String × String) := graph.and (.one "cypher" text)

def query : Inquiry (String × String) GraphRows :=
  json "Query" (withFields cypher (by decide)) "GraphRows" Spoken.graphRows

def execute : Inquiry (String × String) GraphWriteSummary :=
  json "Execute" (withFields cypher (by decide)) "GraphWriteSummary" Spoken.graphWriteSummary

def beginTransaction : Inquiry String String :=
  json "BeginTransaction" (withFields graph (by decide)) "Begun"
    (Spoken.single "transaction" Spoken.text "")

def commitTransaction : Inquiry String GraphWriteSummary :=
  json "CommitTransaction" (withFields graph (by decide)) "GraphWriteSummary"
    Spoken.graphWriteSummary

def rollbackTransaction : Inquiry String Int :=
  json "RollbackTransaction" (withFields graph (by decide)) "RolledBack"
    (Spoken.single "rolled_back" Spoken.integer 0)

def operations : List AnyOperation :=
  [⟨createGraph⟩, ⟨dropGraph⟩, ⟨listGraphs.operation⟩, ⟨addNode⟩, ⟨getNode.operation⟩,
    ⟨deleteNode⟩, ⟨listNodes.operation⟩, ⟨addEdge⟩, ⟨getEdge.operation⟩, ⟨deleteEdge⟩,
    ⟨listEdges.operation⟩, ⟨updateNode.operation⟩, ⟨updateEdge.operation⟩, ⟨addMany.operation⟩,
    ⟨removeMany.operation⟩, ⟨copyGraph.operation⟩, ⟨importCsv.operation⟩, ⟨neighbors.operation⟩,
    ⟨degree.operation⟩, ⟨traverse.operation⟩, ⟨dfs.operation⟩, ⟨subgraph.operation⟩,
    ⟨shortestPath.operation⟩, ⟨weightedShortestPath.operation⟩, ⟨kShortestPaths.operation⟩,
    ⟨allPaths.operation⟩, ⟨connectedComponents.operation⟩, ⟨detectCycle.operation⟩,
    ⟨graphStats.operation⟩, ⟨graphSchema.operation⟩, ⟨centrality.operation⟩,
    ⟨communities.operation⟩, ⟨triangleCount.operation⟩, ⟨nodeSimilarity.operation⟩,
    ⟨pageRank.operation⟩, ⟨checkConsistency.operation⟩, ⟨createNodeIndex⟩, ⟨createConstraint⟩,
    ⟨dropSchemaObject⟩, ⟨listSchemaObjects.operation⟩, ⟨findNodes.operation⟩, ⟨query.operation⟩,
    ⟨execute.operation⟩, ⟨beginTransaction.operation⟩, ⟨commitTransaction.operation⟩,
    ⟨rollbackTransaction.operation⟩]

theorem operations_distinct : (operations.map AnyOperation.tag).Nodup := by decide

end Graphs

/-! ## The methods -/

section

variable {ω : Type} (H : Host ω)

/-! ### Graphs, nodes and edges -/

def graphCreate (graph : String) : Stub Unit := Graphs.createGraph.perform graph

def graphDrop (graph : String) : Stub Unit := Graphs.dropGraph.perform graph

def graphList : Stub (List String) := Graphs.listGraphs.call H ()

def graphAddNode (graph id : String) (labels : List String) (properties : Option Properties) :
    Stub Unit :=
  Graphs.addNode.perform ((graph, id), labels, properties)

def graphGetNode (graph id : String) : Stub (Option GraphNode) := Graphs.getNode.call H (graph, id)

def graphDeleteNode (graph id : String) : Stub Unit := Graphs.deleteNode.perform (graph, id)

def graphListNodes (graph : String) (limit offset : Option UInt64) : Stub GraphNodePage :=
  Graphs.listNodes.call H (graph, positiveBound limit, positiveBound offset)

def graphAddEdge (graph id src dst label : String) (properties : Option Properties) : Stub Unit :=
  Graphs.addEdge.perform ((graph, id), src, dst, label, properties)

def graphGetEdge (graph id : String) : Stub (Option GraphEdge) := Graphs.getEdge.call H (graph, id)

def graphDeleteEdge (graph id : String) : Stub Unit := Graphs.deleteEdge.perform (graph, id)

def graphListEdges (graph : String) (limit offset : Option UInt64) : Stub GraphEdgePage :=
  Graphs.listEdges.call H (graph, positiveBound limit, positiveBound offset)

def graphAddMany (graph : String) (nodes : List GraphNodeInput) (edges : List GraphEdgeInput) :
    Stub GraphCounts :=
  Graphs.addMany.call H (graph, nodes, edges)

def graphRemoveMany (graph : String) (nodes edges : List String) (detach : Bool) :
    Stub GraphRemoved :=
  Graphs.removeMany.call H (graph, nodes, edges, detach)

def graphUpdateNode (graph id : String) (update : NodeUpdate) : Stub GraphNode :=
  Graphs.updateNode.call H ((graph, id), update.properties, update.addLabels, update.removeLabels)

def graphUpdateEdge (graph id : String) (properties : Option Value) (label : Option String) :
    Stub GraphEdge :=
  Graphs.updateEdge.call H ((graph, id), properties, label)

def graphCopy (graph dst : String) : Stub GraphCounts := Graphs.copyGraph.call H (graph, dst)

def graphImportCsv (graph : String) (nodes edges : Option String) : Stub GraphCounts :=
  Graphs.importCsv.call H (graph, nodes, edges)

/-! ### Walks and paths -/

def graphNeighbors (graph nodeId : String) (options : NeighborOptions) :
    Stub (List GraphNeighbor) :=
  Graphs.neighbors.call H
    ((graph, nodeId), options.direction, options.label, positiveBound options.limit)

def graphDegree (graph nodeId : String) (direction : Option GraphDirection) : Stub Int :=
  Graphs.degree.call H ((graph, nodeId), direction)

def graphTraverse (graph start : String) (options : TraverseOptions) : Stub GraphTraversal :=
  Graphs.traverse.call H ((graph, start), Graphs.walkOf options)

def graphDfs (graph start : String) (options : TraverseOptions) : Stub GraphTraversal :=
  Graphs.dfs.call H ((graph, start), Graphs.walkOf options)

def graphSubgraph (graph : String) (seeds : List String) (options : TraverseOptions) :
    Stub GraphSubgraph :=
  Graphs.subgraph.call H ((graph, seeds), Graphs.walkOf options)

def graphShortestPath (graph src dst : String) (options : PathOptions) : Stub GraphPath :=
  Graphs.shortestPath.call H
    ((graph, src, dst), options.direction, options.label, positiveBound options.maxDepth)

def graphWeightedShortestPath (graph src dst : String) (options : WeightedPathOptions) :
    Stub GraphPath :=
  Graphs.weightedShortestPath.call H
    ((graph, src, dst), options.direction, options.label, options.weightProperty)

def graphKShortestPaths (graph src dst : String) (options : KPathOptions) : Stub GraphPaths :=
  Graphs.kShortestPaths.call H
    ((graph, src, dst), positiveBound options.k, options.direction, options.label,
      options.weightProperty)

def graphAllPaths (graph src dst : String) (options : TraverseOptions) : Stub GraphPaths :=
  Graphs.allPaths.call H ((graph, src, dst), Graphs.walkOf options)

/-! ### Measures -/

def graphConnectedComponents (graph : String) (options : ComponentOptions) : Stub GraphComponents :=
  Graphs.connectedComponents.call H (graph, options.kind, options.label, options.limit)

def graphDetectCycle (graph : String) (directed : Option Bool) (label : Option String) :
    Stub GraphCycleCheck :=
  Graphs.detectCycle.call H (graph, directed, label)

def graphStats (graph : String) : Stub GraphStats := Graphs.graphStats.call H graph

def graphSchema (graph : String) : Stub GraphSchema := Graphs.graphSchema.call H graph

def graphCentrality (graph : String) (measure : CentralityMeasure) (options : CentralityOptions) :
    Stub GraphCentrality :=
  Graphs.centrality.call H
    (graph, measure, options.directed, options.label, options.limit, options.iterations,
      options.tolerance.map F64.written)

def graphCommunities (graph : String) (options : CommunityOptions) : Stub GraphCommunities :=
  Graphs.communities.call H (graph, options.label, options.iterations, options.limit)

def graphTriangleCount (graph : String) (label : Option String) (limit : Option UInt64) :
    Stub GraphTriangles :=
  Graphs.triangleCount.call H (graph, label, limit)

def graphNodeSimilarity (graph node : String) (options : SimilarityOptions) :
    Stub (List GraphScore) :=
  Graphs.nodeSimilarity.call H
    ((graph, node), options.direction, options.label, options.metric, options.limit)

def graphPageRank (graph : String) (options : PageRankOptions) : Stub GraphPageRank :=
  Graphs.pageRank.call H
    (graph, options.damping.map F64.written, options.iterations,
      options.tolerance.map F64.written, options.label, options.limit)

def graphCheckConsistency (graph : String) : Stub GraphConsistency :=
  Graphs.checkConsistency.call H graph

/-! ### Indexes, constraints and search -/

def graphCreateNodeIndex (graph name : String) (label : Option String) (properties : List String) :
    Stub Unit :=
  Graphs.createNodeIndex.perform ((graph, name), label, properties)

def graphCreateConstraint (graph name label property : String) (kind : ConstraintKind)
    (target : ConstraintTarget) : Stub Unit :=
  Graphs.createConstraint.perform ((graph, name), label, property, kind, target)

def graphDropSchemaObject (graph name : String) : Stub Unit :=
  Graphs.dropSchemaObject.perform (graph, name)

def graphListSchemaObjects (graph : String) : Stub GraphSchemaObjects :=
  Graphs.listSchemaObjects.call H graph

def graphFindNodes (graph : String) (label : Option String) (properties : Option Properties)
    (limit : Option UInt64) : Stub GraphFoundNodes :=
  Graphs.findNodes.call H (graph, label, properties, limit)

/-! ### Cypher and transactions -/

def graphQuery (graph cypher : String) : Stub GraphRows := Graphs.query.call H (graph, cypher)

def graphExecute (graph cypher : String) : Stub GraphWriteSummary :=
  Graphs.execute.call H (graph, cypher)

end

end TricoreSdk
