import TopologyVisualizer.Framework.Quoting
import TopologyVisualizer.Frontend.Mermaid

/-! # Labels in Diagrams

    Workload names are chosen by whoever can create workloads, and end up in
    a diagram as labels. That they stay labels is a statement about two
    runs: responses that differ only in their labels are exported as texts
    that differ only inside of double quotes.

    It is shown of the diagram (`skeleton_document`) for every format whose
    escapes have neither quotes nor line feeds, by comparing a response with
    the one that has no labels at all; both exporters have such a format.
-/

namespace TopologyVisualizer.Diagram

open Backend Text

/-! ### Lines with a label -/

/-- Escaped texts have neither quotes nor line feeds. -/
def Format.Inert (F : Format) : Prop := ∀ s, Text.Inert (F.escape s)

theorem inert_identifier (position : Nat) : Text.Inert (identifier position) :=
  Text.Inert.append ⟨by decide, by decide⟩ (inert_toString _)

section lines
variable {r : GraphResponse} {F : Format}

theorem inert_drawn (n : GraphNode) : Text.Inert (drawn r n) := by
  unfold drawn
  cases h : identifierOf r n.id with
  | none => exact ⟨by decide, by decide⟩
  | some text =>
    obtain ⟨x, -, rfl⟩ := Option.map_eq_some_iff.mp h
    exact inert_identifier x.2

theorem inert_kind (k : GraphKind) : Text.Inert k.name := by
  cases k with
  | kind k => cases k <;> exact ⟨by decide, by decide⟩
  | external => exact ⟨by decide, by decide⟩

/-- The line of a namespace. -/
def subgraphLine (F : Format) (ns : String × Nat) : String :=
  "  subgraph ns" ++ toString (ns.2 + 1) ++ "[\"" ++ F.escape ns.1 ++ "\"]"

theorem subgraphLine_eq (ns : String × Nat) :
    subgraphLine F ns = quotedLine ("  subgraph ns" ++ toString (ns.2 + 1) ++ "[")
      ("" ++ F.escape ns.1 ++ "") "]" := by
  unfold subgraphLine quotedLine
  generalize toString (ns.2 + 1) = position
  apply String.toList_inj.mp
  simp [String.toList_append]

theorem member_eq (n : GraphNode) :
    member r F n = quotedLine ("    " ++ drawn r n ++ "[")
      ("" ++ F.escape n.label ++ ("<br/>" ++ n.kind.name)) "]" := by
  apply String.toList_inj.mp
  simp [member, quotedLine, String.toList_append]

/-- The brackets around the label of a node of no namespace. -/
def brackets (n : GraphNode) : String × String :=
  if n.kind = .external then ("([", "])") else ("[", "]")

theorem outsider_eq (n : GraphNode) :
    outsider r F n = quotedLine ("  " ++ drawn r n ++ (brackets n).1)
      ("" ++ F.escape n.label ++ "") (brackets n).2 := by
  apply String.toList_inj.mp
  unfold outsider brackets
  split <;> simp [quotedLine, String.toList_append]

variable (hF : F.Inert)
include hF

theorem inert_label (s after : String) (h : Text.Inert after) :
    Text.Inert ("" ++ F.escape s ++ after) :=
  Text.Inert.append (Text.Inert.append ⟨by decide, by decide⟩ (hF s)) h

omit hF in
theorem inert_brackets (n : GraphNode) :
    Text.Inert (brackets n).1 ∧ Text.Inert (brackets n).2 := by
  unfold brackets
  split
  · exact ⟨⟨by decide, by decide⟩, by decide, by decide⟩
  · exact ⟨⟨by decide, by decide⟩, by decide, by decide⟩

theorem skeleton_member (n : GraphNode) :
    skeleton (member r F n) = [("    " ++ drawn r n ++ "[").toList ++ ['\"', '\"', ']']] := by
  rw [member_eq, skeleton_quotedLine]
  · rfl
  · exact .append (.append ⟨by decide, by decide⟩ (inert_drawn n)) ⟨by decide, by decide⟩
  · exact inert_label hF _ _ (.append ⟨by decide, by decide⟩ (inert_kind n.kind))
  · exact ⟨by decide, by decide⟩

theorem skeleton_outsider (n : GraphNode) :
    skeleton (outsider r F n) = [("  " ++ drawn r n ++ (brackets n).1).toList ++
      '\"' :: '\"' :: (brackets n).2.toList] := by
  rw [outsider_eq, skeleton_quotedLine]
  · exact .append (.append ⟨by decide, by decide⟩ (inert_drawn n)) (inert_brackets n).1
  · exact inert_label hF _ _ ⟨by decide, by decide⟩
  · exact (inert_brackets n).2

end lines

/-! ### Responses without labels -/

/-- A node without its label. -/
def unlabelledNode (n : GraphNode) : GraphNode := { n with label := "" }

/-- A response without its labels. -/
def unlabelled (r : GraphResponse) : GraphResponse :=
  { r with nodes := r.nodes.map unlabelledNode }

/-- Responses that differ only in their labels. -/
def SameButLabels (r r' : GraphResponse) : Prop := unlabelled r = unlabelled r'

section unlabelled
variable (r : GraphResponse)

theorem sameButLabels_unlabelled : SameButLabels r (unlabelled r) := by
  unfold SameButLabels unlabelled
  rw [List.map_map]
  rfl

theorem identifierOf_unlabelled (id : String) :
    identifierOf (unlabelled r) id = identifierOf r id := by
  unfold identifierOf unlabelled
  rw [List.zipIdx_map, List.filter_map, List.getLast?_map, Option.map_map]
  rfl

theorem drawn_unlabelled (n : GraphNode) : drawn (unlabelled r) (unlabelledNode n) = drawn r n := by
  unfold drawn
  rw [identifierOf_unlabelled]
  rfl

/-- A condition on anything but the label selects the same nodes. -/
theorem filter_unlabelled (p : GraphNode → Bool) (hp : ∀ n, p (unlabelledNode n) = p n) :
    (unlabelled r).nodes.filter p = (r.nodes.filter p).map unlabelledNode := by
  unfold unlabelled
  rw [List.filter_map]
  congr 1
  apply List.filter_congr
  intro n _
  exact hp n

variable {F : Format} (hF : F.Inert)

include hF in
theorem skeleton_group (ns : String × Nat) :
    (group (unlabelled r) F ns).flatMap skeleton = (group r F ns).flatMap skeleton := by
  have hmember : ((r.nodes.filter (fun n => n.namespace = some ns.1)).map unlabelledNode).flatMap
      (fun n => skeleton (member (unlabelled r) F n)) =
      (r.nodes.filter (fun n => n.namespace = some ns.1)).flatMap
        (fun n => skeleton (member r F n)) := by
    rw [List.flatMap_map]
    apply List.flatMap_congr
    intro n _
    rw [skeleton_member hF, skeleton_member hF, drawn_unlabelled]
  unfold group
  rw [filter_unlabelled r _ (fun _ => rfl)]
  simp only [List.flatMap_append, List.flatMap_map] at hmember ⊢
  rw [hmember]

include hF in
theorem skeleton_outside :
    (((unlabelled r).nodes.filter (fun n => n.namespace = none)).map
        (outsider (unlabelled r) F)).flatMap skeleton =
      ((r.nodes.filter (fun n => n.namespace = none)).map (outsider r F)).flatMap skeleton := by
  rw [filter_unlabelled r _ (fun _ => rfl)]
  simp only [List.flatMap_map]
  apply List.flatMap_congr
  intro n _
  rw [skeleton_outsider hF, skeleton_outsider hF, drawn_unlabelled]
  rfl

theorem arrow_unlabelled (e : GraphEdge) : arrow (unlabelled r) F e = arrow r F e := by
  unfold arrow
  rw [identifierOf_unlabelled, identifierOf_unlabelled]

theorem canaryLines_unlabelled : canaryLines (unlabelled r) = canaryLines r := by
  have hnames : ((unlabelled r).nodes.filter GraphNode.canary).map (drawn (unlabelled r)) =
      (r.nodes.filter GraphNode.canary).map (drawn r) := by
    rw [filter_unlabelled r _ (fun _ => rfl), List.map_map]
    exact List.map_congr_left (fun n _ => drawn_unlabelled r n)
  unfold canaryLines
  rw [hnames]

include hF in
/-- **A diagram** without labels is, outside of quotes, the diagram. -/
theorem skeleton_document (namespaces : List String) :
    skeleton (lines (document (unlabelled r) F namespaces)) =
      skeleton (lines (document r F namespaces)) := by
  have hgroups : (namespaces.zipIdx.flatMap (group (unlabelled r) F)).flatMap skeleton =
      (namespaces.zipIdx.flatMap (group r F)).flatMap skeleton := by
    rw [List.flatMap_assoc, List.flatMap_assoc]
    exact List.flatMap_congr (fun ns _ => skeleton_group r hF ns)
  have harrows : (unlabelled r).edges.flatMap (arrow (unlabelled r) F) =
      r.edges.flatMap (arrow r F) :=
    List.flatMap_congr (fun e _ => arrow_unlabelled r e)
  have hheader : header (unlabelled r) F = header r F := rfl
  rw [skeleton_lines, skeleton_lines]
  unfold document
  simp only [List.flatMap_append]
  rw [hgroups, skeleton_outside r hF, harrows, hheader, canaryLines_unlabelled]

end unlabelled

/-- So responses that differ only in their labels have diagrams that differ only in quotes. -/
theorem skeleton_eq {r r' : GraphResponse} (h : SameButLabels r r') {F : Format} (hF : F.Inert)
    (namespaces : List String) :
    skeleton (lines (document r F namespaces)) = skeleton (lines (document r' F namespaces)) := by
  have heq : unlabelled r = unlabelled r' := h
  rw [← skeleton_document r hF, heq, skeleton_document r' hF]

/-! ### Where labels are -/

section quotes
variable {r : GraphResponse} {F : Format} (hF : F.Inert) {namespaces : List String}

include hF in
theorem quotes_namespace {ns : String} (h : ns ∈ namespaces) :
    Quotes (lines (document r F namespaces)) (F.escape ns) := by
  obtain ⟨i, hi⟩ := List.getElem?_of_mem h
  have hline : subgraphLine F (ns, i) ∈ document r F namespaces := by
    have hgroup : subgraphLine F (ns, i) ∈ group r F (ns, i) := List.mem_cons_self
    simp only [document, List.mem_append]
    exact .inl (.inl (.inl (.inr
      (List.mem_flatMap.mpr ⟨(ns, i), List.mem_zipIdx_iff_getElem?.mpr hi, hgroup⟩))))
  rw [subgraphLine_eq] at hline
  refine quotes_of_mem ?_ ?_ ?_ hline
  · exact .append (.append ⟨by decide, by decide⟩ (inert_toString _)) ⟨by decide, by decide⟩
  · exact inert_label hF _ _ ⟨by decide, by decide⟩
  · exact ⟨by decide, by decide⟩

include hF in
theorem quotes_label {n : GraphNode} (hn : n ∈ r.nodes)
    (hlisted : ∀ ns, n.namespace = some ns → ns ∈ namespaces) :
    Quotes (lines (document r F namespaces)) (F.escape n.label) := by
  cases hns : n.namespace with
  | none =>
    have hline : outsider r F n ∈ document r F namespaces := by
      simp only [document, List.mem_append]
      exact .inl (.inl (.inr (List.mem_map.mpr
        ⟨n, List.mem_filter.mpr ⟨hn, decide_eq_true hns⟩, rfl⟩)))
    rw [outsider_eq] at hline
    refine quotes_of_mem ?_ ?_ ?_ hline
    · exact .append (.append ⟨by decide, by decide⟩ (inert_drawn n)) (inert_brackets n).1
    · exact inert_label hF _ _ ⟨by decide, by decide⟩
    · exact (inert_brackets n).2
  | some ns =>
    obtain ⟨i, hi⟩ := List.getElem?_of_mem (hlisted ns hns)
    have hline : member r F n ∈ document r F namespaces := by
      have hgroup : member r F n ∈ group r F (ns, i) :=
        List.mem_append_left _ (List.mem_append_right _ (List.mem_map.mpr
          ⟨n, List.mem_filter.mpr ⟨hn, decide_eq_true hns⟩, rfl⟩))
      simp only [document, List.mem_append]
      exact .inl (.inl (.inl (.inr
        (List.mem_flatMap.mpr ⟨(ns, i), List.mem_zipIdx_iff_getElem?.mpr hi, hgroup⟩))))
    rw [member_eq] at hline
    refine quotes_of_mem ?_ ?_ ?_ hline
    · exact .append (.append ⟨by decide, by decide⟩ (inert_drawn n)) ⟨by decide, by decide⟩
    · exact inert_label hF _ _ (.append ⟨by decide, by decide⟩ (inert_kind n.kind))
    · exact ⟨by decide, by decide⟩

end quotes

/-! ### The exporters -/

/-- Neither of the two characters is written for any rune. -/
theorem inert_escapeRune (c : Char) : Text.Inert (Cli.Render.escapeRune c) := by
  unfold Cli.Render.escapeRune
  split_ifs with h₁ h₂ h₃ h₄ h₅ h₆ h₇ h₈
  all_goals try exact ⟨by decide, by decide⟩
  rw [not_or] at h₈
  unfold Text.Inert
  rw [String.toList_singleton, List.mem_singleton, List.mem_singleton]
  exact ⟨Ne.symm h₂, Ne.symm h₈.2⟩

theorem inert_mermaidEscape (s : String) : Text.Inert (Cli.Render.mermaidEscape s) := by
  rw [Cli.Render.mermaidEscape_eq, substitute]
  unfold Text.Inert
  rw [String.toList_ofList]
  constructor
  · intro h
    obtain ⟨c, -, hc⟩ := List.mem_flatMap.mp h
    exact (inert_escapeRune c).1 hc
  · intro h
    obtain ⟨c, -, hc⟩ := List.mem_flatMap.mp h
    exact (inert_escapeRune c).2 hc

theorem inert_cli : Format.Inert Cli.Render.format := inert_mermaidEscape

theorem inert_frontend (js : Frontend.Engine) : Format.Inert (Frontend.format js) := by
  intro s
  show Text.Inert (Frontend.escapeMermaid s)
  rw [Frontend.escapeMermaid_eq]
  exact inert_mermaidEscape s

section namespaces
variable {r r' : GraphResponse}

/-- Responses that differ only in their labels have the same namespaces. -/
theorem exists_namespace_iff (h : SameButLabels r r') (ns : String) :
    (∃ n ∈ r.nodes, n.namespace = some ns) ↔ ∃ n ∈ r'.nodes, n.namespace = some ns := by
  have hall : ∀ r : GraphResponse, (∃ n ∈ r.nodes, n.namespace = some ns) ↔
      ∃ n ∈ (unlabelled r).nodes, n.namespace = some ns := by
    intro r
    simp [unlabelled, unlabelledNode]
  have heq : unlabelled r = unlabelled r' := h
  rw [hall r, heq, ← hall r']

/-- The browser lists them in the same order. -/
theorem frontend_namespaces (h : SameButLabels r r') :
    Frontend.namespaces r = Frontend.namespaces r' := by
  have hperm : (Frontend.placed r).byNamespace.keys.Perm (Frontend.placed r').byNamespace.keys := by
    refine (List.perm_ext_iff_of_nodup (Frontend.placed r).byNamespace.nodup
      (Frontend.placed r').byNamespace.nodup).mpr ?_
    intro ns
    exact Frontend.mem_byNamespace_keys.trans
      ((exists_namespace_iff h ns).trans Frontend.mem_byNamespace_keys.symm)
  exact sortOn_eq_of_perm hperm
    (List.Nodup.map utf16_injective (Frontend.placed r).byNamespace.nodup)

/-- The CLI does too, however Go goes through the map. -/
theorem cli_namespaces (h : SameButLabels r r') {iterate iterate' : List String → List String}
    (hiterate : ∀ l, (iterate l).Perm l) (hiterate' : ∀ l, (iterate' l).Perm l) :
    Cli.Render.sortedNamespaces iterate r = Cli.Render.sortedNamespaces iterate' r' := by
  have hkeys : (Cli.Render.collected r).byNamespace.keys.Perm
      (Cli.Render.collected r').byNamespace.keys := by
    refine (List.perm_ext_iff_of_nodup (Cli.Render.collected r).byNamespace.nodup
      (Cli.Render.collected r').byNamespace.nodup).mpr ?_
    intro ns
    exact Cli.Render.mem_byNamespace_keys.trans
      ((exists_namespace_iff h ns).trans Cli.Render.mem_byNamespace_keys.symm)
  have hperm := (hiterate _).trans (hkeys.trans (hiterate' _).symm)
  refine sortOn_eq_of_perm hperm (List.Nodup.map utf8_injective ?_)
  exact (hiterate _).nodup_iff.mpr (Cli.Render.collected r).byNamespace.nodup

theorem mem_frontend_namespaces {ns : String} :
    ns ∈ Frontend.namespaces r ↔ ∃ n ∈ r.nodes, n.namespace = some ns := by
  unfold Frontend.namespaces
  rw [mem_sortOn, Frontend.mem_byNamespace_keys]

theorem mem_cli_namespaces {iterate : List String → List String}
    (hiterate : ∀ l, (iterate l).Perm l) {ns : String} :
    ns ∈ Cli.Render.sortedNamespaces iterate r ↔ ∃ n ∈ r.nodes, n.namespace = some ns := by
  unfold Cli.Render.sortedNamespaces
  rw [mem_sortOn, (hiterate _).mem_iff, Cli.Render.mem_byNamespace_keys]

end namespaces

/-- **Labels are inert**: responses that differ only in their labels are exported as the same
    lines outside of double quotes, by the browser and by the CLI, in whatever orders Go goes
    through a map; and every label and every namespace is inside of one pair of quotes on one
    line. -/
theorem labels_inert (js : Frontend.Engine) (iterate iterate' : List String → List String)
    (hiterate : ∀ l, (iterate l).Perm l) (hiterate' : ∀ l, (iterate' l).Perm l)
    (r r' : GraphResponse) (h : SameButLabels r r') :
    skeleton (Frontend.toMermaid js r) = skeleton (Frontend.toMermaid js r') ∧
    skeleton (Cli.Render.mermaid iterate r) = skeleton (Cli.Render.mermaid iterate' r') ∧
    ∀ n ∈ r.nodes,
      Quotes (Frontend.toMermaid js r) (Frontend.escapeMermaid n.label) ∧
      Quotes (Cli.Render.mermaid iterate r) (Cli.Render.mermaidEscape n.label) ∧
      ∀ ns, n.namespace = some ns →
        Quotes (Frontend.toMermaid js r) (Frontend.escapeMermaid ns) ∧
        Quotes (Cli.Render.mermaid iterate r) (Cli.Render.mermaidEscape ns) := by
  rw [Frontend.toMermaid_eq, Frontend.toMermaid_eq, Cli.Render.mermaid_eq, Cli.Render.mermaid_eq,
    ← frontend_namespaces h, ← cli_namespaces h hiterate hiterate']
  refine ⟨skeleton_eq h (inert_frontend js) _, skeleton_eq h inert_cli _, ?_⟩
  intro n hn
  refine ⟨?_, ?_, ?_⟩
  · exact quotes_label (inert_frontend js) hn
      (fun ns hns => mem_frontend_namespaces.mpr ⟨n, hn, hns⟩)
  · exact quotes_label inert_cli hn
      (fun ns hns => (mem_cli_namespaces hiterate).mpr ⟨n, hn, hns⟩)
  · intro ns hns
    exact ⟨quotes_namespace (inert_frontend js) (mem_frontend_namespaces.mpr ⟨n, hn, hns⟩),
      quotes_namespace inert_cli ((mem_cli_namespaces hiterate).mpr ⟨n, hn, hns⟩)⟩

/-- The label of `hostileNode` tries to close its quote and to add a line; without labels, the
    lines are the same. -/
theorem labels_inert_hostile :
    skeleton (Frontend.toMermaid Frontend.exactEngine Frontend.hostileResponse) =
        skeleton (Frontend.toMermaid Frontend.exactEngine (unlabelled Frontend.hostileResponse)) ∧
      Quotes (Frontend.toMermaid Frontend.exactEngine Frontend.hostileResponse)
        "x#quot;] click n1 #lt;b#gt;#124;#amp;#35;" := by
  have hperm : ∀ l : List String, (id l).Perm l := fun l => List.Perm.refl l
  have hescaped : Frontend.escapeMermaid Frontend.hostileNode.label =
      "x#quot;] click n1 #lt;b#gt;#124;#amp;#35;" := by decide +kernel
  obtain ⟨hskeleton, -, hlabels⟩ := labels_inert Frontend.exactEngine id id hperm hperm
    Frontend.hostileResponse (unlabelled Frontend.hostileResponse) (sameButLabels_unlabelled _)
  exact ⟨hskeleton, hescaped ▸ (hlabels Frontend.hostileNode List.mem_cons_self).1⟩

end TopologyVisualizer.Diagram
