import TopologyVisualizer.Framework.Text
import TopologyVisualizer.Backend.Graph

/-! # Diagrams

    The Mermaid flowchart of a graph response, as a list of lines. It says
    what the export is, apart from how either exporter computes it: nodes by
    namespace in groups, the others outside, then the edges between listed
    nodes, then the canaries.

    How labels, instants and counts are written is a `Format`, and the order
    of the groups is an argument; the exporters in `cli/` and `frontend/`
    differ in nothing else.
-/

namespace TopologyVisualizer.Diagram

open Backend

/-- How an exporter writes labels, instants and counts. -/
structure Format where
  escape : String → String
  stamp : Datetime → String
  number : Nat → String

section diagram
variable (r : GraphResponse)

/-- The identifier of the node at a position. -/
def identifier (position : Nat) : String := "n" ++ toString (position + 1)

/-- The identifier of a node id: that of the last node that has it. -/
def identifierOf (id : String) : Option String :=
  (r.nodes.zipIdx.filter (fun x => x.1.id = id)).getLast?.map (fun x => identifier x.2)

/-- The identifier a node is drawn with. -/
def drawn (n : GraphNode) : String := (identifierOf r n.id).getD ""

variable (F : Format)

def header : List String :=
  ["%% Runtime topology observed from " ++ F.stamp r.window.start ++ " to " ++
      F.stamp r.window.end,
    "%% Edge labels count TCP connections, not requests."] ++
  (if r.summary.truncated then ["%% Truncated by the server; this is not the whole graph."]
    else []) ++
  ["flowchart LR"]

/-- A node in the group of its namespace. -/
def member (n : GraphNode) : String :=
  "    " ++ drawn r n ++ "[\"" ++ F.escape n.label ++ "<br/>" ++ n.kind.name ++ "\"]"

/-- A namespace at its position among the groups. -/
def group (ns : String × Nat) : List String :=
  ["  subgraph ns" ++ toString (ns.2 + 1) ++ "[\"" ++ F.escape ns.1 ++ "\"]"] ++
  (r.nodes.filter (fun n => n.namespace = some ns.1)).map (member r F) ++ ["  end"]

/-- A node of no namespace; the cluster boundary is a stadium. -/
def outsider (n : GraphNode) : String :=
  if n.kind = .external then "  " ++ drawn r n ++ "([\"" ++ F.escape n.label ++ "\"])"
  else "  " ++ drawn r n ++ "[\"" ++ F.escape n.label ++ "\"]"

/-- The label of an edge. -/
def edgeLabel (e : GraphEdge) : String :=
  e.protocol.name ++ ":" ++ F.number e.destinationPort ++ " · " ++ F.number e.connectionCount ++
    (if e.failedConnectionCount.getD 0 > 0 then
      " · " ++ F.number (e.failedConnectionCount.getD 0) ++ " failed" else "")

/-- An edge between listed nodes, dashed when nothing succeeded. -/
def arrow (e : GraphEdge) : List String :=
  match identifierOf r e.sourceId, identifierOf r e.targetId with
  | some source, some target =>
    ["  " ++ source ++ " " ++ (if e.connectionCount = 0 then "-.->" else "-->") ++ "|\"" ++
      edgeLabel F e ++ "\"| " ++ target]
  | _, _ => []

/-- The canaries, if there are any. -/
def canaryLines : List String :=
  match (r.nodes.filter GraphNode.canary).map (drawn r) with
  | [] => []
  | names =>
    ["  classDef canary fill:#fde2e2,stroke:#c62828,stroke-width:3px",
      "  class " ++ ",".intercalate names ++ " canary"]

/-- The lines of the diagram, with the groups in this order. -/
def document (namespaces : List String) : List String :=
  header r F ++ namespaces.zipIdx.flatMap (group r F) ++
  (r.nodes.filter (fun n => n.namespace = none)).map (outsider r F) ++
  r.edges.flatMap (arrow r F) ++ canaryLines r

end diagram

/-- A listed node has an identifier. -/
theorem identifierOf_of_mem {r : GraphResponse} {n : GraphNode} (h : n ∈ r.nodes) :
    identifierOf r n.id = some (drawn r n) := by
  obtain ⟨i, hi⟩ := List.getElem?_of_mem h
  have hmem : (n, i) ∈ r.nodes.zipIdx.filter (fun x => x.1.id = n.id) :=
    List.mem_filter.mpr ⟨List.mem_zipIdx_iff_getElem?.mpr hi, by simp⟩
  have hsome : (identifierOf r n.id).isSome := by
    unfold identifierOf
    rw [Option.isSome_map, Option.isSome_iff_ne_none, Ne, List.getLast?_eq_none_iff]
    exact List.ne_nil_of_mem hmem
  unfold drawn
  obtain ⟨x, hx⟩ := Option.isSome_iff_exists.mp hsome
  rw [hx, Option.getD_some]

/-- Diagrams in formats that write the labels, the window and the counts alike are the same. -/
theorem document_congr {r : GraphResponse} {F G : Format} (namespaces : List String)
    (hescape : F.escape = G.escape)
    (hstart : F.stamp r.window.start = G.stamp r.window.start)
    (hend : F.stamp r.window.end = G.stamp r.window.end)
    (hnumber : ∀ e ∈ r.edges, F.number e.destinationPort = G.number e.destinationPort ∧
      F.number e.connectionCount = G.number e.connectionCount ∧
      F.number (e.failedConnectionCount.getD 0) = G.number (e.failedConnectionCount.getD 0)) :
    document r F namespaces = document r G namespaces := by
  have hheader : header r F = header r G := by
    unfold header
    rw [hstart, hend]
  have hgroup : group r F = group r G := by
    funext ns
    unfold group
    have hmember : member r F = member r G := by
      funext n
      unfold member
      rw [hescape]
    rw [hmember, hescape]
  have houtsider : outsider r F = outsider r G := by
    funext n
    unfold outsider
    rw [hescape]
  have harrow : r.edges.flatMap (arrow r F) = r.edges.flatMap (arrow r G) := by
    apply List.flatMap_congr
    intro e he
    obtain ⟨hport, hcount, hfailed⟩ := hnumber e he
    unfold arrow edgeLabel
    rw [hport, hcount, hfailed]
  unfold document
  rw [hheader, hgroup, houtsider, harrow]

end TopologyVisualizer.Diagram
