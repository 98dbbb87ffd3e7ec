import TopologyVisualizer.Cli.Mermaid

/-! # The Mermaid Export of the Browser

    `frontend/src/features/export/mermaid.ts`, and that it is the same
    function as the export of the CLI. The lines are pushed to an array that
    is joined at the end; nodes are kept themselves, in maps that remember
    the order of insertion.

    What a JavaScript engine makes of an instant and of a number is an
    `Engine`: dates have milliseconds, and integers are exact up to 2^53.
-/

namespace TopologyVisualizer.Frontend

open Backend Diagram

/-! ### The engine -/

/-- What the export uses of the engine. -/
structure Engine where
  /-- The milliseconds of `new Date`, on an instant as the API writes it. -/
  date : Datetime → Int
  date_eq : ∀ t, date t = t / 1000
  /-- A number that `JSON.parse` has read, in a template. -/
  number : Nat → String
  number_eq : ∀ n < 2 ^ 53, number n = toString n

/-- The year of `toISOString`: six digits and a sign outside of 0000 to 9999. -/
def isoYear (year : Int) : String :=
  if 0 ≤ year ∧ year ≤ 9999 then Text.pad 4 year.toNat
  else (if year < 0 then "-" else "+") ++ Text.pad 6 year.natAbs

/-- `toISOString`. -/
def toISOString (ms : Int) : String :=
  let c := Text.Civil.ofUnix (ms / 1000)
  isoYear c.year ++ "-" ++ Text.pad 2 c.month ++ "-" ++ Text.pad 2 c.day ++ "T" ++
    Text.pad 2 c.hour ++ ":" ++ Text.pad 2 c.minute ++ ":" ++ Text.pad 2 c.second ++ "." ++
    Text.pad 3 (ms % 1000).toNat ++ "Z"

/-- `replace(/\.\d{3}Z$/, "Z")`. -/
def dropFraction (s : String) : String :=
  match s.toList.reverse with
  | 'Z' :: c :: b :: a :: '.' :: rest =>
    if a.isDigit && b.isDigit && c.isDigit then String.ofList rest.reverse ++ "Z" else s
  | _ => s

/-- A value in a template. -/
def template (value : Option String) : String := value.getD "undefined"

/-! ### The export -/

/-- `ESCAPES`. -/
def escapes : List (Char × String) :=
  [('#', "#35;"), ('\"', "#quot;"), ('<', "#lt;"), ('>', "#gt;"), ('|', "#124;"), ('&', "#amp;"),
    ('\x60', "#96;"), ('\r', " "), ('\n', " ")]

/-- `escapeMermaid`. -/
def escapeMermaid (text : String) : String :=
  text.toList.foldl (fun out ch => out ++ (escapes.lookup ch).getD (String.singleton ch)) ""

/-- `instant`. -/
def instant (js : Engine) (value : Datetime) : String := dropFraction (toISOString (js.date value))

/-- `byNamespace` and `outside`. -/
structure Placed where
  byNamespace : Dict String (List GraphNode) := .empty
  outside : List GraphNode := []

/-- One pass of the loop over the nodes. -/
def place (s : Placed) (node : GraphNode) : Placed :=
  match node.namespace with
  | none => { s with outside := s.outside ++ [node] }
  | some ns =>
    let members := (s.byNamespace.get? ns).getD []
    { s with byNamespace := s.byNamespace.set ns (members ++ [node]) }

section exporting
variable (js : Engine) (graph : GraphResponse)

/-- `ids`. An index is far below 2^53. -/
def ids : Dict String String :=
  (graph.nodes.zipIdx.map (fun x => (x.1.id, "n" ++ toString (x.2 + 1)))).foldl
    (fun d entry => d.set entry.1 entry.2) .empty

def placed : Placed := graph.nodes.foldl place {}

/-- `namespaces`, in code-unit order. -/
def namespaces : List String := sortOn Text.utf16 (placed graph).byNamespace.keys

/-- One pass of the loop over the namespaces. -/
def pushNamespace (lines : List String) (ns : String × Nat) : List String :=
  let lines := lines ++
    ["  subgraph ns" ++ toString (ns.2 + 1) ++ "[\"" ++ escapeMermaid ns.1 ++ "\"]"]
  let lines := (((placed graph).byNamespace.get? ns.1).getD []).foldl (fun lines node =>
    lines ++ ["    " ++ template ((ids graph).get? node.id) ++ "[\"" ++ escapeMermaid node.label ++
      "<br/>" ++ node.kind.name ++ "\"]"]) lines
  lines ++ ["  end"]

/-- One pass of the loop over the nodes outside. -/
def pushOutside (lines : List String) (node : GraphNode) : List String :=
  let label := escapeMermaid node.label
  lines ++ [if node.kind = .external then
      "  " ++ template ((ids graph).get? node.id) ++ "([\"" ++ label ++ "\"])"
    else "  " ++ template ((ids graph).get? node.id) ++ "[\"" ++ label ++ "\"]"]

/-- One pass of the loop over the edges. -/
def pushEdge (lines : List String) (edge : GraphEdge) : List String :=
  match (ids graph).get? edge.sourceId, (ids graph).get? edge.targetId with
  | some source, some target =>
    -- a blank text is as good as none
    if source = "" ∨ target = "" then lines
    else
      let failed := edge.failedConnectionCount.getD 0
      let label := edge.protocol.name ++ ":" ++ js.number edge.destinationPort ++ " · " ++
        js.number edge.connectionCount
      let label := if failed > 0 then label ++ " · " ++ js.number failed ++ " failed" else label
      let arrow := if edge.connectionCount = 0 then "-.->" else "-->"
      -- unlike the CLI, the label is not escaped
      lines ++ ["  " ++ source ++ " " ++ arrow ++ "|\"" ++ label ++ "\"| " ++ target]
  | _, _ => lines

/-- The classes of the canaries. -/
def pushCanaries (lines : List String) : List String :=
  let canaries := (graph.nodes.filter GraphNode.canary).map (fun n => (ids graph).get? n.id)
  if canaries.length > 0 then
    lines ++ ["  classDef canary fill:#fde2e2,stroke:#c62828,stroke-width:3px"] ++
      ["  class " ++ ",".intercalate (canaries.map (fun id => id.getD "")) ++ " canary"]
  else lines

/-- `toMermaid`. -/
def toMermaid : String :=
  let lines := ["%% Runtime topology observed from " ++ instant js graph.window.start ++ " to " ++
      instant js graph.window.end,
    "%% Edge labels count TCP connections, not requests."]
  let lines := if graph.summary.truncated then
      lines ++ ["%% Truncated by the server; this is not the whole graph."]
    else lines
  let lines := lines ++ ["flowchart LR"]
  let lines := (namespaces graph).zipIdx.foldl (pushNamespace graph) lines
  let lines := (placed graph).outside.foldl (pushOutside graph) lines
  let lines := graph.edges.foldl (pushEdge js graph) lines
  let lines := pushCanaries graph lines
  "\n".intercalate lines ++ "\n"

end exporting

/-! ### What the loops collect -/

variable {js : Engine} {graph : GraphResponse}

theorem get?_ids (id : String) : (ids graph).get? id = identifierOf graph id := by
  unfold ids
  rw [List.foldl_map, Dict.get?_foldl_set_map]
  rfl

theorem template_ids {n : GraphNode} (h : n ∈ graph.nodes) :
    template ((ids graph).get? n.id) = drawn graph n := by
  rw [get?_ids, identifierOf_of_mem h]
  rfl

theorem byNamespace_eq : (placed graph).byNamespace =
    graph.nodes.foldl (fun d n => n.namespace.elim d (fun ns => d.pushAt ns n)) .empty := by
  refine (List.foldl_hom Placed.byNamespace ?_).symm
  intro s n
  unfold place
  cases n.namespace <;> rfl

theorem get?_byNamespace (ns : String) : ((placed graph).byNamespace.get? ns).getD [] =
    graph.nodes.filter (fun n => n.namespace = some ns) := by
  rw [byNamespace_eq, Dict.get?_foldl_pushAt GraphNode.namespace (fun n => n), List.map_id']
  rfl

theorem mem_byNamespace_keys {ns : String} :
    ns ∈ (placed graph).byNamespace.keys ↔ ∃ n ∈ graph.nodes, n.namespace = some ns := by
  rw [byNamespace_eq, Dict.mem_keys_foldl_pushAt GraphNode.namespace (fun n => n)]
  constructor
  · intro h
    rcases h with h | h
    · cases h
    · exact h
  · intro h
    exact .inr h

theorem outside_eq : (placed graph).outside = graph.nodes.filter (fun n => n.namespace = none) := by
  have houtside : (placed graph).outside = graph.nodes.foldl
      (fun ls n => if n.namespace = none then ls ++ [n] else ls) [] := by
    refine (List.foldl_hom Placed.outside ?_).symm
    intro s n
    unfold place
    cases n.namespace <;> simp
  rw [houtside, Text.foldl_push_if (p := fun n : GraphNode => n.namespace = none)
    (f := fun n => n) (fun ls n => by simp), List.map_id']
  rfl

/-! ### The text -/

/-- How the browser writes. -/
def format (js : Engine) : Format := ⟨escapeMermaid, instant js, js.number⟩

theorem pushNamespace_eq (js : Engine) (lines : List String) (ns : String × Nat) :
    pushNamespace graph lines ns = lines ++ group graph (format js) ns := by
  have hmembers : (graph.nodes.filter (fun n => n.namespace = some ns.1)).flatMap (fun node =>
      ["    " ++ template ((ids graph).get? node.id) ++ "[\"" ++ escapeMermaid node.label ++
        "<br/>" ++ node.kind.name ++ "\"]"]) =
      (graph.nodes.filter (fun n => n.namespace = some ns.1)).map (member graph (format js)) := by
    rw [List.map_eq_flatMap]
    apply List.flatMap_congr
    intro n hn
    rw [template_ids (List.mem_filter.mp hn).1]
    rfl
  unfold pushNamespace group
  simp only [get?_byNamespace]
  rw [Text.foldl_push (fun _ _ => rfl), hmembers]
  simp only [List.append_assoc]
  rfl

theorem foldl_pushOutside (js : Engine) (lines : List String) :
    (placed graph).outside.foldl (pushOutside graph) lines =
      lines ++ (graph.nodes.filter (fun n => n.namespace = none)).map
        (outsider graph (format js)) := by
  have hstep : ∀ lines n, pushOutside graph lines n = lines ++
      [if n.kind = .external then
        "  " ++ template ((ids graph).get? n.id) ++ "([\"" ++ escapeMermaid n.label ++ "\"])"
      else "  " ++ template ((ids graph).get? n.id) ++ "[\"" ++ escapeMermaid n.label ++ "\"]"] :=
    fun _ _ => rfl
  rw [outside_eq, Text.foldl_push hstep, List.map_eq_flatMap]
  congr 1
  apply List.flatMap_congr
  intro n hn
  rw [template_ids (List.mem_filter.mp hn).1]
  rfl

/-- An identifier is never blank. -/
theorem identifierOf_ne_empty {id text : String} (h : identifierOf graph id = some text) :
    text ≠ "" := by
  obtain ⟨x, -, rfl⟩ := Option.map_eq_some_iff.mp h
  intro hempty
  have hlist := congrArg String.toList hempty
  simp [identifier] at hlist

theorem pushEdge_eq (lines : List String) (e : GraphEdge) :
    pushEdge js graph lines e = lines ++ arrow graph (format js) e := by
  unfold pushEdge arrow
  rw [get?_ids, get?_ids]
  cases hsource : identifierOf graph e.sourceId with
  | none => simp
  | some source =>
    cases htarget : identifierOf graph e.targetId with
    | none => simp
    | some target =>
      have hblank : ¬ (source = "" ∨ target = "") :=
        not_or.mpr ⟨identifierOf_ne_empty hsource, identifierOf_ne_empty htarget⟩
      simp only [if_neg hblank]
      unfold edgeLabel format
      by_cases h : e.failedConnectionCount.getD 0 > 0
      · simp only [if_pos h, String.append_assoc]
      · simp only [if_neg h, String.append_assoc, String.append_empty]

theorem pushCanaries_eq (lines : List String) :
    pushCanaries graph lines = lines ++ canaryLines graph := by
  have hnames : ((graph.nodes.filter GraphNode.canary).map
      (fun n => (ids graph).get? n.id)).map (fun id => id.getD "") =
        (graph.nodes.filter GraphNode.canary).map (drawn graph) := by
    rw [List.map_map]
    apply List.map_congr_left
    intro n hn
    rw [Function.comp, get?_ids, identifierOf_of_mem (List.mem_filter.mp hn).1]
    rfl
  unfold pushCanaries canaryLines
  simp only [hnames, List.length_map]
  cases graph.nodes.filter GraphNode.canary with
  | nil => simp
  | cons n ns => simp

/-- **The browser's export** is the diagram, with the namespaces in the order of their code
    units. -/
theorem toMermaid_eq (js : Engine) (graph : GraphResponse) :
    toMermaid js graph = Text.lines (document graph (format js) (namespaces graph)) := by
  have hlines : document graph (format js) (namespaces graph) ≠ [] := by
    simp [document, header]
  have hheader : (if graph.summary.truncated then
        ["%% Runtime topology observed from " ++ instant js graph.window.start ++ " to " ++
            instant js graph.window.end, "%% Edge labels count TCP connections, not requests."] ++
          ["%% Truncated by the server; this is not the whole graph."]
      else ["%% Runtime topology observed from " ++ instant js graph.window.start ++ " to " ++
            instant js graph.window.end, "%% Edge labels count TCP connections, not requests."]) ++
      ["flowchart LR"] = header graph (format js) := by
    simp only [header, format]
    split
    · rfl
    · rw [List.append_nil]
  rw [← Text.intercalate_newline hlines]
  unfold toMermaid document
  simp only [pushCanaries_eq, Text.foldl_push pushEdge_eq, foldl_pushOutside js,
    Text.foldl_push (pushNamespace_eq js), hheader]

/-! ### Agreement with the CLI -/

/-- Both escape alike: a switch here, a table there. -/
theorem escapeMermaid_eq : escapeMermaid = Cli.Render.mermaidEscape := by
  have hchar : (fun ch => (escapes.lookup ch).getD (String.singleton ch)) =
      Cli.Render.escapeRune := by
    funext ch
    simp only [escapes, Dict.lookup_cons_ite, List.lookup_nil, Cli.Render.escapeRune]
    grind
  funext text
  unfold escapeMermaid Cli.Render.mermaidEscape
  exact congrArg (fun f => text.toList.foldl (fun out ch => out ++ f ch) "") hchar

/-- The fraction of a second is three digits, and is dropped. -/
theorem dropFraction_append (s : String) {n : Nat} (h : n < 1000) :
    dropFraction (s ++ "." ++ Text.pad 3 n ++ "Z") = s ++ "Z" := by
  obtain ⟨a, b, c, hpad, ha, hb, hc⟩ := Text.pad_three h
  have hlist : (s ++ "." ++ Text.pad 3 n ++ "Z").toList.reverse =
      'Z' :: c :: b :: a :: '.' :: s.toList.reverse := by
    simp [String.toList_append, hpad]
  unfold dropFraction
  rw [hlist]
  simp [ha, hb, hc]

/-- Both write an instant of the years 0001 to 9999 alike. -/
theorem instant_eq (js : Engine) {t : Datetime} (h : 1 ≤ (Text.Civil.ofUnix (t / 1000000)).year ∧
    (Text.Civil.ofUnix (t / 1000000)).year ≤ 9999) :
    instant js t = Cli.Render.mermaidStamp t := by
  have hseconds : t / 1000 / 1000 = t / 1000000 := Int.ediv_ediv_of_nonneg (by decide)
  have hfraction : (t / 1000 % 1000).toNat < 1000 := by
    have hlt := Int.emod_lt_of_pos (t / 1000) (show (0 : Int) < 1000 by decide)
    omega
  have hyear : isoYear (Text.Civil.ofUnix (t / 1000000)).year =
      Cli.Render.formatYear (Text.Civil.ofUnix (t / 1000000)).year := by
    unfold isoYear Cli.Render.formatYear
    rw [if_pos (show 0 ≤ (Text.Civil.ofUnix (t / 1000000)).year ∧
        (Text.Civil.ofUnix (t / 1000000)).year ≤ 9999 by omega),
      if_neg (show ¬ (Text.Civil.ofUnix (t / 1000000)).year < 0 by omega)]
  unfold instant toISOString Cli.Render.mermaidStamp
  simp only [js.date_eq, hseconds, hyear]
  exact dropFraction_append _ hfraction

/-- Both order ASCII namespaces alike. -/
theorem namespaces_eq {iterate : List String → List String} (hiterate : ∀ l, (iterate l).Perm l)
    (hascii : ∀ n ∈ graph.nodes, ∀ ns ∈ n.namespace, Text.IsAscii ns) :
    Cli.Render.sortedNamespaces iterate graph = namespaces graph := by
  have hkeys : ∀ ns ∈ (placed graph).byNamespace.keys, Text.IsAscii ns := by
    intro ns hns
    obtain ⟨n, hn, hnamespace⟩ := mem_byNamespace_keys.mp hns
    exact hascii n hn ns hnamespace
  have hsame : (Cli.Render.collected graph).byNamespace.keys.Perm
      (placed graph).byNamespace.keys := by
    refine (List.perm_ext_iff_of_nodup (Cli.Render.collected graph).byNamespace.nodup
      (placed graph).byNamespace.nodup).mpr ?_
    intro ns
    exact Cli.Render.mem_byNamespace_keys.trans mem_byNamespace_keys.symm
  have hperm := ((hiterate _).trans hsame).symm
  have hnodup : ((placed graph).byNamespace.keys.map Text.utf8).Nodup :=
    List.Nodup.map Text.utf8_injective (placed graph).byNamespace.nodup
  unfold Cli.Render.sortedNamespaces namespaces
  rw [← sortOn_eq_of_perm hperm hnodup]
  apply sortOn_congr
  intro ns hns
  rw [Text.utf8_of_ascii (hkeys ns hns), Text.utf16_of_ascii (hkeys ns hns)]

/-- **The two exporters are one function**: on every response with ASCII namespaces, numbers
    below 2^53 and a window in the years 0001 to 9999, in whatever order Go goes through a
    map. -/
theorem exporters_agree (js : Engine) (iterate : List String → List String) (graph : GraphResponse)
    (hiterate : ∀ l, (iterate l).Perm l)
    (hascii : ∀ n ∈ graph.nodes, ∀ ns ∈ n.namespace, Text.IsAscii ns)
    (hnumbers : ∀ e ∈ graph.edges, e.destinationPort < 2 ^ 53 ∧ e.connectionCount < 2 ^ 53 ∧
      ∀ failed ∈ e.failedConnectionCount, failed < 2 ^ 53)
    (hyears : ∀ t ∈ [graph.window.start, graph.window.end],
      1 ≤ (Text.Civil.ofUnix (t / 1000000)).year ∧
        (Text.Civil.ofUnix (t / 1000000)).year ≤ 9999) :
    Cli.Render.mermaid iterate graph = toMermaid js graph := by
  have hformat : document graph (format js) (namespaces graph) =
      document graph Cli.Render.format (namespaces graph) := by
    have hstamp : ∀ t ∈ [graph.window.start, graph.window.end],
        (format js).stamp t = Cli.Render.format.stamp t := by
      intro t ht
      dsimp only [format, Cli.Render.format]
      exact instant_eq js (hyears t ht)
    refine document_congr (namespaces graph) escapeMermaid_eq (hstamp _ List.mem_cons_self)
      (hstamp _ (List.mem_cons_of_mem _ List.mem_cons_self)) ?_
    intro e he
    obtain ⟨hport, hcount, hfailed⟩ := hnumbers e he
    have hnumber : ∀ n < 2 ^ 53, (format js).number n = Cli.Render.format.number n := js.number_eq
    refine ⟨hnumber _ hport, hnumber _ hcount, hnumber _ ?_⟩
    cases hcase : e.failedConnectionCount with
    | none => simp
    | some failed => simpa using hfailed failed hcase
  rw [Cli.Render.mermaid_eq, toMermaid_eq, namespaces_eq hiterate hascii, hformat]

/-! ### A response with hostile labels -/

/-- An engine that is exact. -/
def exactEngine : Engine where
  date := fun t => t / 1000
  date_eq := fun _ => rfl
  number := toString
  number_eq := fun _ _ => rfl

def hostileNode : GraphNode where
  id := "k8s:c:shop:Pod:x"
  kind := .kind .pod
  «namespace» := some "shop"
  name := "x"
  label := "x\"]\nclick n1 <b>|&#"
  firstSeen := 0
  lastSeen := 0
  canary := true

/-- A node of another namespace, with the same label. -/
def hostileTarget : GraphNode :=
  { hostileNode with id := "k8s:c:bank:Pod:x", «namespace» := some "bank" }

/-- The largest count that a number of JavaScript can be sure of, with failures. -/
def hostileEdge : GraphEdge where
  id := "k8s:c:shop:Pod:x|k8s:c:bank:Pod:x|TCP|443"
  sourceId := "k8s:c:shop:Pod:x"
  targetId := "k8s:c:bank:Pod:x"
  protocol := .tcp
  destinationPort := 443
  connectionCount := 9007199254740991
  failedConnectionCount := some 7
  connectLatencyCount := 0
  connectLatencySumUs := 0
  bytesSent := none
  bytesReceived := none
  firstSeen := 0
  lastSeen := 0

/-- A response with two nodes and an edge, from 2026-08-10T11:00:00.5Z on. -/
def hostileResponse : GraphResponse where
  generatedAt := 0
  window := ⟨1786359600500000, 1786363200000000⟩
  filters := {}
  nodes := [hostileNode, hostileTarget]
  edges := [hostileEdge]
  summary := ⟨2, 1, 9007199254740991, true, none⟩

theorem exporters_agree_hostile :
    Cli.Render.mermaid List.reverse hostileResponse = toMermaid exactEngine hostileResponse := by
  have hascii : ∀ n ∈ hostileResponse.nodes, ∀ ns ∈ n.namespace, Text.IsAscii ns := by
    simp only [hostileResponse, hostileNode, hostileTarget, List.forall_mem_cons,
      Option.mem_some_iff, forall_eq']
    decide
  have hnumbers : ∀ e ∈ hostileResponse.edges, e.destinationPort < 2 ^ 53 ∧
      e.connectionCount < 2 ^ 53 ∧ ∀ failed ∈ e.failedConnectionCount, failed < 2 ^ 53 := by
    simp [hostileResponse, hostileEdge]
  exact exporters_agree exactEngine List.reverse hostileResponse List.reverse_perm hascii hnumbers
    (by decide)

end TopologyVisualizer.Frontend
