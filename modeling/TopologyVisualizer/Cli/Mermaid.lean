import TopologyVisualizer.Diagram

/-! # The Mermaid Export of the CLI

    `cli/internal/render/mermaid.go`. The text is written line by line to a
    builder; nodes are kept by their position in the response.

    Go goes through a map in any order: `iterate` lists the keys of one, and
    all that is known of it is that it lists each key once.
-/

namespace TopologyVisualizer.Cli.Render

open Backend Diagram

/-- `line`, after formatting. -/
def line (b text : String) : String := b ++ text ++ "\n"

/-- The year in the layout of `time.Format`. -/
def formatYear (year : Int) : String :=
  if year < 0 then "-" ++ Text.pad 4 year.natAbs else Text.pad 4 year.toNat

/-- `mermaidStamp`: sub-second precision is dropped. -/
def mermaidStamp (t : Datetime) : String :=
  let c := Text.Civil.ofUnix (t / 1000000)
  formatYear c.year ++ "-" ++ Text.pad 2 c.month ++ "-" ++ Text.pad 2 c.day ++ "T" ++
    Text.pad 2 c.hour ++ ":" ++ Text.pad 2 c.minute ++ ":" ++ Text.pad 2 c.second ++ "Z"

/-- What `mermaidEscape` writes for a rune. -/
def escapeRune (c : Char) : String :=
  if c = '#' then "#35;"
  else if c = '\"' then "#quot;"
  else if c = '<' then "#lt;"
  else if c = '>' then "#gt;"
  else if c = '|' then "#124;"
  else if c = '&' then "#amp;"
  else if c = '\x60' then "#96;"
  else if c = '\r' ∨ c = '\n' then " "
  else String.singleton c

/-- `mermaidEscape`. -/
def mermaidEscape (s : String) : String := s.toList.foldl (fun b c => b ++ escapeRune c) ""

/-- What the loop over the nodes collects. -/
structure Collected where
  ids : Dict String String := .empty
  byNamespace : Dict String (List Nat) := .empty
  outside : List Nat := []
  canaries : List Nat := []

/-- One pass of the loop, on a node and its position. -/
def collect (c : Collected) (node : GraphNode × Nat) : Collected where
  ids := c.ids.set node.1.id ("n" ++ toString (node.2 + 1))
  byNamespace := match node.1.namespace with
    | none => c.byNamespace
    | some ns => c.byNamespace.pushAt ns node.2
  outside := match node.1.namespace with
    | none => c.outside ++ [node.2]
    | some _ => c.outside
  canaries := if node.1.canary then c.canaries ++ [node.2] else c.canaries

section render
variable (iterate : List String → List String) (r : GraphResponse)

def collected : Collected := r.nodes.zipIdx.foldl collect {}

/-- `ids[id]`: blank when it is missing. -/
def idAt (id : String) : String := ((collected r).ids.get? id).getD ""

/-- `namespaces`, sorted by bytes. -/
def sortedNamespaces : List String :=
  sortOn Text.utf8 (iterate (collected r).byNamespace.keys)

/-- `r.Nodes[i]`; the positions are those of the loop, so there always is a node. -/
def withNode (i : Nat) (b : String) (write : GraphNode → String) : String :=
  match r.nodes[i]? with
  | some n => write n
  | none => b

/-- A node of a namespace. -/
def writeMember (b : String) (i : Nat) : String :=
  withNode r i b fun n =>
    line b ("    " ++ idAt r n.id ++ "[\"" ++ mermaidEscape n.label ++ "<br/>" ++
      mermaidEscape n.kind.name ++ "\"]")

/-- One pass of the loop over the namespaces. -/
def writeNamespace (b : String) (ns : String × Nat) : String :=
  let b := line b ("  subgraph ns" ++ toString (ns.2 + 1) ++ "[\"" ++ mermaidEscape ns.1 ++ "\"]")
  let b := (((collected r).byNamespace.get? ns.1).getD []).foldl (writeMember r) b
  line b "  end"

/-- A node of no namespace. -/
def writeOutside (b : String) (i : Nat) : String :=
  withNode r i b fun n =>
    -- the cluster boundary is a stadium, not a box
    if n.kind = .external then
      line b ("  " ++ idAt r n.id ++ "([\"" ++ mermaidEscape n.label ++ "\"])")
    else line b ("  " ++ idAt r n.id ++ "[\"" ++ mermaidEscape n.label ++ "\"]")

/-- One pass of the loop over the edges. -/
def writeEdge (b : String) (e : GraphEdge) : String :=
  match (collected r).ids.get? e.sourceId, (collected r).ids.get? e.targetId with
  | some src, some dst =>
    let label := e.protocol.name ++ ":" ++ toString e.destinationPort ++ " · " ++
      toString e.connectionCount
    let label := match e.failedConnectionCount with
      | some failed => if failed > 0 then label ++ " · " ++ toString failed ++ " failed" else label
      | none => label
    -- dashed when nothing succeeded
    let arrowStyle := if e.connectionCount = 0 then "-.->" else "-->"
    line b ("  " ++ src ++ " " ++ arrowStyle ++ "|\"" ++ mermaidEscape label ++ "\"| " ++ dst)
  | _, _ => b

/-- The classes of the canaries. -/
def writeCanaries (b : String) : String :=
  if (collected r).canaries.length > 0 then
    let b := line b "  classDef canary fill:#fde2e2,stroke:#c62828,stroke-width:3px"
    let names := (collected r).canaries.map (fun i => (r.nodes[i]?.map (fun n => idAt r n.id)).getD "")
    line b ("  class " ++ ",".intercalate names ++ " canary")
  else b

/-- `Mermaid`. -/
def mermaid : String :=
  let b := line "" ("%% Runtime topology observed from " ++ mermaidStamp r.window.start ++ " to " ++
    mermaidStamp r.window.end)
  let b := line b "%% Edge labels count TCP connections, not requests."
  let b := if r.summary.truncated then
      line b "%% Truncated by the server; this is not the whole graph."
    else b
  let b := line b "flowchart LR"
  let b := (sortedNamespaces iterate r).zipIdx.foldl (writeNamespace r) b
  let b := (collected r).outside.foldl (writeOutside r) b
  let b := r.edges.foldl (writeEdge r) b
  writeCanaries r b

end render

/-! ### What the loop collects -/

variable {r : GraphResponse}

theorem get?_ids (id : String) : (collected r).ids.get? id = identifierOf r id := by
  have hids : (collected r).ids =
      r.nodes.zipIdx.foldl (fun d x => d.set x.1.id (identifier x.2)) .empty :=
    (List.foldl_hom Collected.ids (fun _ _ => rfl)).symm
  rw [hids, Dict.get?_foldl_set_map]
  rfl

theorem idAt_eq (n : GraphNode) : idAt r n.id = drawn r n := by
  unfold idAt drawn
  rw [get?_ids]

theorem byNamespace_eq : (collected r).byNamespace =
    r.nodes.zipIdx.foldl (fun d x => x.1.namespace.elim d (fun ns => d.pushAt ns x.2)) .empty := by
  refine (List.foldl_hom Collected.byNamespace ?_).symm
  intro c x
  unfold collect
  cases x.1.namespace <;> rfl

theorem get?_byNamespace (ns : String) : ((collected r).byNamespace.get? ns).getD [] =
    (r.nodes.zipIdx.filter (fun x => x.1.namespace = some ns)).map Prod.snd := by
  rw [byNamespace_eq, Dict.get?_foldl_pushAt (fun x : GraphNode × Nat => x.1.namespace) Prod.snd]
  rfl

theorem mem_byNamespace_keys {ns : String} :
    ns ∈ (collected r).byNamespace.keys ↔ ∃ n ∈ r.nodes, n.namespace = some ns := by
  rw [byNamespace_eq, Dict.mem_keys_foldl_pushAt (fun x : GraphNode × Nat => x.1.namespace) Prod.snd]
  constructor
  · intro h
    rcases h with h | ⟨x, hx, hns⟩
    · cases h
    · exact ⟨x.1, List.mem_of_getElem? (List.mem_zipIdx_iff_getElem?.mp hx), hns⟩
  · intro ⟨n, hn, hns⟩
    obtain ⟨i, hi⟩ := List.getElem?_of_mem hn
    exact .inr ⟨(n, i), List.mem_zipIdx_iff_getElem?.mpr hi, hns⟩

theorem outside_eq : (collected r).outside =
    (r.nodes.zipIdx.filter (fun x => x.1.namespace = none)).map Prod.snd := by
  have houtside : (collected r).outside = r.nodes.zipIdx.foldl
      (fun ls x => if x.1.namespace = none then ls ++ [x.2] else ls) [] := by
    refine (List.foldl_hom Collected.outside ?_).symm
    intro c x
    unfold collect
    cases x.1.namespace <;> simp
  rw [houtside, Text.foldl_push_if (p := fun x : GraphNode × Nat => x.1.namespace = none)
    (f := Prod.snd) (fun ls x => by simp)]
  rfl

theorem canaries_eq : (collected r).canaries =
    (r.nodes.zipIdx.filter (fun x => x.1.canary)).map Prod.snd := by
  have hcanaries : (collected r).canaries = r.nodes.zipIdx.foldl
      (fun ls x => if x.1.canary then ls ++ [x.2] else ls) [] :=
    (List.foldl_hom Collected.canaries (fun _ _ => rfl)).symm
  rw [hcanaries, Text.foldl_push_if (p := fun x : GraphNode × Nat => x.1.canary)
    (f := Prod.snd) (fun ls x => rfl)]
  rfl

/-! ### Nothing to escape -/

theorem mermaidEscape_eq (s : String) : mermaidEscape s = Text.substitute escapeRune s :=
  Text.foldl_substitute escapeRune s

theorem mermaidEscape_append (s t : String) :
    mermaidEscape (s ++ t) = mermaidEscape s ++ mermaidEscape t := by
  simp only [mermaidEscape_eq, Text.substitute_append]

/-- Kinds have only letters. -/
theorem mermaidEscape_kind (k : GraphKind) : mermaidEscape k.name = k.name := by
  cases k with
  | kind k => cases k <;> decide
  | external => decide

theorem mermaidEscape_number (n : Nat) : mermaidEscape (toString n) = toString n := by
  rw [mermaidEscape_eq]
  apply Text.substitute_of_fixed
  intro c hc
  have hdigit := Text.isDigit_of_mem_toString hc
  have hne : ∀ x : Char, x.isDigit = false → c ≠ x := by
    intro x hx hcx
    rw [hcx, hx] at hdigit
    cases hdigit
  unfold escapeRune
  rw [if_neg (hne '#' (by decide)), if_neg (hne '\"' (by decide)), if_neg (hne '<' (by decide)),
    if_neg (hne '>' (by decide)), if_neg (hne '|' (by decide)), if_neg (hne '&' (by decide)),
    if_neg (hne '\x60' (by decide)),
    if_neg (not_or.mpr ⟨hne '\r' (by decide), hne '\n' (by decide)⟩)]

/-! ### The text -/

/-- How the CLI writes. -/
def format : Format := ⟨mermaidEscape, mermaidStamp, toString⟩

/-- The label of an edge has nothing to escape. -/
theorem mermaidEscape_edgeLabel (e : GraphEdge) :
    mermaidEscape (edgeLabel format e) = edgeLabel format e := by
  have hprotocol : mermaidEscape e.protocol.name = e.protocol.name := by
    cases e.protocol
    decide
  have hcolon : mermaidEscape ":" = ":" := by decide
  have hdot : mermaidEscape " · " = " · " := by decide
  have hfailed : mermaidEscape " failed" = " failed" := by decide
  unfold edgeLabel
  by_cases h : e.failedConnectionCount.getD 0 > 0
  · simp only [if_pos h, mermaidEscape_append, hprotocol, hcolon, hdot, hfailed, format,
      mermaidEscape_number]
  · simp only [if_neg h, mermaidEscape_append, hprotocol, hcolon, hdot, format,
      mermaidEscape_number]
    rfl

theorem line_eq (b text : String) : line b text = b ++ Text.lines [text] := by
  simp [line, Text.lines, String.append_assoc]

theorem withNode_eq (i : Nat) (b : String) (text : GraphNode → String) :
    withNode r i b (fun n => line b (text n)) =
      b ++ Text.lines ((r.nodes[i]?.map (fun n => [text n])).getD []) := by
  unfold withNode
  cases r.nodes[i]? with
  | none => simp
  | some n => exact line_eq b (text n)

theorem foldl_writeMember (ns b : String) :
    (((collected r).byNamespace.get? ns).getD []).foldl (writeMember r) b =
      b ++ Text.lines ((r.nodes.filter (fun n => n.namespace = some ns)).map (member r format)) := by
  have hstep : ∀ b i, writeMember r b i =
      b ++ Text.lines ((r.nodes[i]?.map (fun n => [member r format n])).getD []) := by
    intro b i
    rw [← withNode_eq]
    unfold writeMember member
    simp only [idAt_eq, mermaidEscape_kind]
    rfl
  rw [Text.foldl_write hstep, get?_byNamespace, Text.flatMap_positions
    (fun n : GraphNode => n.namespace = some ns) (fun n => [member r format n])]
  rw [List.map_eq_flatMap]

theorem writeNamespace_eq (b : String) (ns : String × Nat) :
    writeNamespace r b ns = b ++ Text.lines (group r format ns) := by
  unfold writeNamespace group
  simp only [foldl_writeMember, line_eq, Text.lines_append, String.append_assoc]
  rfl

theorem foldl_writeOutside (b : String) :
    (collected r).outside.foldl (writeOutside r) b =
      b ++ Text.lines ((r.nodes.filter (fun n => n.namespace = none)).map (outsider r format)) := by
  have hstep : ∀ b i, writeOutside r b i =
      b ++ Text.lines ((r.nodes[i]?.map (fun n => [outsider r format n])).getD []) := by
    intro b i
    rw [← withNode_eq]
    unfold writeOutside outsider
    congr 1
    funext n
    rw [idAt_eq]
    split <;> rfl
  rw [Text.foldl_write hstep, outside_eq, Text.flatMap_positions
    (fun n : GraphNode => n.namespace = none) (fun n => [outsider r format n])]
  rw [List.map_eq_flatMap]

theorem writeEdge_eq (b : String) (e : GraphEdge) :
    writeEdge r b e = b ++ Text.lines (arrow r format e) := by
  unfold writeEdge arrow
  rw [get?_ids, get?_ids]
  cases identifierOf r e.sourceId with
  | none => simp
  | some source =>
    cases identifierOf r e.targetId with
    | none => simp
    | some target =>
      -- the label is built up in two steps here
      have hlabel : (match e.failedConnectionCount with
          | some failed => if failed > 0 then e.protocol.name ++ ":" ++ toString e.destinationPort ++
              " · " ++ toString e.connectionCount ++ " · " ++ toString failed ++ " failed"
            else e.protocol.name ++ ":" ++ toString e.destinationPort ++ " · " ++
              toString e.connectionCount
          | none => e.protocol.name ++ ":" ++ toString e.destinationPort ++ " · " ++
              toString e.connectionCount) = edgeLabel format e := by
        unfold edgeLabel format
        cases e.failedConnectionCount with
        | none => simp
        | some failed =>
          by_cases h : failed > 0
          · simp only [Option.getD_some, if_pos h, String.append_assoc]
          · simp only [Option.getD_some, if_neg h, String.append_empty]
      simp only [hlabel, mermaidEscape_edgeLabel, line_eq]

theorem writeCanaries_eq (b : String) :
    writeCanaries r b = b ++ Text.lines (canaryLines r) := by
  have hnames : (collected r).canaries.map
      (fun i => (r.nodes[i]?.map (fun n => idAt r n.id)).getD "") =
        (r.nodes.filter GraphNode.canary).map (drawn r) := by
    have hpositions := Text.flatMap_positions GraphNode.canary (fun n => [drawn r n]) r.nodes
    rw [← canaries_eq, ← List.map_eq_flatMap] at hpositions
    rw [← hpositions, List.map_eq_flatMap]
    apply List.flatMap_congr
    intro i hi
    rw [canaries_eq] at hi
    obtain ⟨x, hx, rfl⟩ := List.mem_map.mp hi
    rw [List.mem_zipIdx_iff_getElem?.mp (List.mem_filter.mp hx).1]
    simp [idAt_eq]
  unfold writeCanaries canaryLines
  rw [hnames]
  have hlength : (collected r).canaries.length =
      ((r.nodes.filter GraphNode.canary).map (drawn r)).length := by
    rw [← hnames, List.length_map]
  rw [hlength]
  cases (r.nodes.filter GraphNode.canary).map (drawn r) with
  | nil => simp
  | cons name names =>
    simp [line_eq, Text.lines, String.append_assoc]

/-- **The CLI's export** is the diagram, with the namespaces in the order of their bytes. -/
theorem mermaid_eq (iterate : List String → List String) :
    mermaid iterate r = Text.lines (document r format (sortedNamespaces iterate r)) := by
  unfold mermaid document
  simp only [writeCanaries_eq, Text.foldl_write writeEdge_eq, foldl_writeOutside,
    Text.foldl_write writeNamespace_eq, Text.lines_append]
  congr 4
  unfold header
  split <;> simp [line, Text.lines, String.append_assoc, format]

end TopologyVisualizer.Cli.Render
