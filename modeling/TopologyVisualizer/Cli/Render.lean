import TopologyVisualizer.Cli.Mermaid

/-! # Relationship Lines

    `cli/internal/render/render.go`: a response as lines, and the nodes of a
    graph named by kind and name.

    A name is qualified by its namespace only if a count over all nodes says
    that it is shared, so that two nodes are never given one name is a fact
    about the whole list of nodes (`names_distinct`). It is shown through
    the fields that a name is joined from (`fields`).
-/

namespace TopologyVisualizer.Cli.Render

open Backend

/-! ### Texts -/

/-- `Text`: a response as lines. -/
structure Rendering where
  header : List String := []
  rows : List String := []
  notes : List String := []

/-- `Lines`. -/
def Rendering.lines (t : Rendering) : List String := t.header ++ t.rows ++ t.notes

/-- `String`. -/
def Rendering.string (t : Rendering) : String :=
  if t.lines.length = 0 then "" else "\n".intercalate t.lines ++ "\n"

theorem Rendering.string_eq (t : Rendering) : t.string = Text.lines t.lines := by
  unfold Rendering.string
  split
  · next h =>
    rw [List.length_eq_zero_iff.mp h]
    rfl
  · next h =>
    exact Text.intercalate_newline (fun hnil => h (by rw [hnil, List.length_nil]))

/-! ### Names -/

/-- `namer`. -/
structure Namer where
  byId : Dict String GraphNode := .empty
  short : Dict String Nat := .empty

/-- `shortName`. -/
def shortName (n : GraphNode) : String :=
  if n.kind = .external then n.name else n.kind.name ++ "/" ++ n.name

/-- One pass of the loop of `newNamer`. -/
def Namer.add (names : Namer) (node : GraphNode) : Namer :=
  if names.byId.contains node.id then names
  else
    { byId := names.byId.set node.id node
      short := names.short.set (shortName node) ((names.short.get? (shortName node)).getD 0 + 1) }

/-- `newNamer`. -/
def newNamer (nodes : List GraphNode) : Namer := nodes.foldl Namer.add {}

/-- `of`. -/
def Namer.of (names : Namer) (id fallback : String) : String :=
  match names.byId.get? id with
  | none => fallback
  | some node =>
    let s := shortName node
    match node.namespace with
    | some ns => if (names.short.get? s).getD 0 > 1 then ns ++ "/" ++ s else s
    | none => s

/-! ### What a namer knows -/

/-- A namer that has seen these nodes. -/
structure Namer.Knows (names : Namer) (nodes : List GraphNode) : Prop where
  byId : ∀ id, names.byId.get? id = nodes.find? (fun n => n.id = id)
  short : ∀ s, (names.short.get? s).getD 0 = nodes.countP (fun n => shortName n = s)

theorem Namer.Knows.add {names : Namer} {nodes : List GraphNode} (h : names.Knows nodes)
    {node : GraphNode} (hnew : node.id ∉ nodes.map GraphNode.id) :
    (names.add node).Knows (nodes ++ [node]) := by
  have hnone : nodes.find? (fun n => n.id = node.id) = none := by
    rw [List.find?_eq_none]
    intro n hn hid
    exact hnew (List.mem_map.mpr ⟨n, hn, of_decide_eq_true hid⟩)
  have hcontains : names.byId.contains node.id = false := by
    unfold Dict.contains
    rw [h.byId, hnone]
    rfl
  unfold Namer.add
  rw [hcontains]
  constructor
  · intro id
    show (names.byId.set node.id node).get? id = _
    rw [Dict.get?_set, List.find?_append]
    by_cases hid : id = node.id
    · rw [if_pos hid, hid, hnone]
      simp
    · rw [if_neg hid, h.byId]
      have hlast : [node].find? (fun n => n.id = id) = none := by simp [Ne.symm hid]
      rw [hlast, Option.or_none]
  · intro s
    show ((names.short.set (shortName node)
      ((names.short.get? (shortName node)).getD 0 + 1)).get? s).getD 0 = _
    rw [Dict.get?_set, List.countP_append, ← h.short]
    by_cases hs : s = shortName node
    · rw [if_pos hs, hs]
      simp
    · rw [if_neg hs]
      simp [Ne.symm hs]

theorem knows_newNamer {nodes : List GraphNode} (hids : (nodes.map GraphNode.id).Nodup) :
    (newNamer nodes).Knows nodes := by
  induction nodes using List.reverseRecOn with
  | nil => exact ⟨fun _ => rfl, fun _ => rfl⟩
  | append_singleton nodes node ih =>
    rw [List.map_append, List.map_singleton, List.nodup_append] at hids
    have hnew : node.id ∉ nodes.map GraphNode.id :=
      fun hmem => hids.2.2 _ hmem _ (List.mem_singleton_self _) rfl
    unfold newNamer at ih ⊢
    rw [List.foldl_append]
    exact (ih hids.1).add hnew

/-! ### Names are apart -/

/-- The fields that a name is joined from, given whether it is qualified. -/
def fields (qualified : Bool) (n : GraphNode) : List String :=
  (if qualified then n.namespace.toList else []) ++
    (if n.kind = .external then [] else [n.kind.name]) ++ [n.name]

/-- Joined by slashes. -/
def slashed (fs : List String) : List Char := ['/'].intercalate (fs.map String.toList)

theorem slashed_inj {fs gs : List String} (hfs : fs ≠ []) (hgs : gs ≠ [])
    (hf : ∀ f ∈ fs, '/' ∉ f.toList) (hg : ∀ g ∈ gs, '/' ∉ g.toList)
    (h : slashed fs = slashed gs) : fs = gs := by
  have hmap : fs.map String.toList = gs.map String.toList := by
    refine Decoding.intercalate_inj_of_ne_nil ?_ ?_ ?_ ?_ h
    · exact fun hnil => hfs (List.map_eq_nil_iff.mp hnil)
    · exact fun hnil => hgs (List.map_eq_nil_iff.mp hnil)
    · intro x hx
      obtain ⟨f, hmem, rfl⟩ := List.mem_map.mp hx
      exact hf f hmem
    · intro x hx
      obtain ⟨g, hmem, rfl⟩ := List.mem_map.mp hx
      exact hg g hmem
  exact List.map_injective_iff.mpr (fun _ _ => String.toList_inj.mp) hmap

theorem slashed_cons (f : String) {fs : List String} (h : fs ≠ []) :
    slashed (f :: fs) = f.toList ++ '/' :: slashed fs := by
  unfold slashed
  rw [List.map_cons, List.intercalate_cons_of_ne_nil (fun hnil => h (List.map_eq_nil_iff.mp hnil)),
    List.append_assoc, List.singleton_append]

theorem fields_ne_nil (qualified : Bool) (n : GraphNode) : fields qualified n ≠ [] := by
  simp [fields]

theorem fields_qualified {n : GraphNode} {ns : String} (h : n.namespace = some ns) :
    fields true n = ns :: fields false n := by
  unfold fields
  rw [h]
  rfl

theorem fields_of_none {n : GraphNode} (h : n.namespace = none) (qualified : Bool) :
    fields qualified n = fields false n := by
  unfold fields
  rw [h]
  cases qualified <;> rfl

theorem toList_shortName (n : GraphNode) : (shortName n).toList = slashed (fields false n) := by
  unfold shortName fields
  by_cases h : n.kind = .external
  · simp [h, slashed]
  · simp [h, slashed]

theorem kind_name_injective : Function.Injective GraphKind.name := by
  intro k k' h
  cases k with
  | kind k =>
    cases k' with
    | kind k' =>
      congr 1
      cases k <;> cases k' <;> first | rfl | exact absurd h (by decide)
    | external => cases k <;> exact absurd h (by decide)
  | external =>
    cases k' with
    | kind k' => cases k' <;> exact absurd h (by decide)
    | external => rfl

/-- Kinds have neither slashes nor colons. -/
theorem kind_plain (k : GraphKind) : '/' ∉ k.name.toList ∧ ':' ∉ k.name.toList := by
  cases k with
  | kind k => cases k <;> decide
  | external => decide

/-- A name or a namespace without this character. -/
def Without (c : Char) (n : GraphNode) : Prop :=
  c ∉ n.name.toList ∧ ∀ ns ∈ n.namespace, c ∉ ns.toList

theorem notMem_fields {c : Char} {n : GraphNode} (h : Without c n)
    (hkind : c ∉ n.kind.name.toList) (qualified : Bool) :
    ∀ f ∈ fields qualified n, c ∉ f.toList := by
  intro f hf
  unfold fields at hf
  rw [List.mem_append, List.mem_append, List.mem_singleton] at hf
  rcases hf with (hns | hk) | rfl
  · split at hns
    · exact h.2 f (Option.mem_toList.mp hns)
    · cases hns
  · split at hk
    · cases hk
    · rw [List.mem_singleton.mp hk]
      exact hkind
  · exact h.1

section names
variable {nodes : List GraphNode}

/-- Whether the short name of a node is shared. -/
def shared (nodes : List GraphNode) (n : GraphNode) : Bool :=
  nodes.countP (fun n' => shortName n' = shortName n) > 1

/-- A listed node is named by its fields, qualified if its short name is shared. -/
theorem of_eq_fields (hids : (nodes.map GraphNode.id).Nodup) {n : GraphNode} (hn : n ∈ nodes)
    (fallback : String) :
    ((newNamer nodes).of n.id fallback).toList = slashed (fields (shared nodes n) n) := by
  have hknows := knows_newNamer hids
  have hfind : nodes.find? (fun n' => n'.id = n.id) = some n := by
    have hsome : (nodes.find? (fun n' => n'.id = n.id)).isSome := by
      rw [List.find?_isSome]
      exact ⟨n, hn, decide_eq_true rfl⟩
    obtain ⟨n', hn'⟩ := Option.isSome_iff_exists.mp hsome
    have hid : n'.id = n.id := by simpa using List.find?_some hn'
    rw [hn', List.inj_on_of_nodup_map hids (List.mem_of_find?_eq_some hn') hn hid]
  unfold Namer.of
  rw [hknows.byId, hfind]
  simp only [hknows.short]
  cases hns : n.namespace with
  | none => rw [fields_of_none hns, toList_shortName]
  | some ns =>
    unfold shared
    dsimp only
    by_cases hmany : nodes.countP (fun n' => shortName n' = shortName n) > 1
    · rw [if_pos hmany, decide_eq_true hmany, fields_qualified hns,
        slashed_cons ns (fields_ne_nil false n), ← toList_shortName]
      simp [String.toList_append]
    · rw [if_neg hmany, decide_eq_false hmany, toList_shortName]

/-- An id that is not listed is printed as it is. -/
theorem of_missing (hids : (nodes.map GraphNode.id).Nodup) {id : String}
    (h : id ∉ nodes.map GraphNode.id) (fallback : String) :
    (newNamer nodes).of id fallback = fallback := by
  have hnone : nodes.find? (fun n => n.id = id) = none := by
    rw [List.find?_eq_none]
    intro n hn hid
    exact h (List.mem_map.mpr ⟨n, hn, of_decide_eq_true hid⟩)
  unfold Namer.of
  rw [(knows_newNamer hids).byId, hnone]

/-- Two nodes with one short name share it. -/
theorem shared_of_ne {n n' : GraphNode} (hn : n ∈ nodes) (hn' : n' ∈ nodes) (hne : n ≠ n')
    (h : shortName n' = shortName n) : shared nodes n = true := by
  have hpair : [n, n'].Subperm nodes := by
    refine List.subperm_of_subset ?_ ?_
    · simp [hne]
    · intro m hm
      rcases List.mem_cons.mp hm with rfl | hm
      · exact hn
      · rw [List.mem_singleton.mp hm]
        exact hn'
  have hle := hpair.countP_le (fun n' => shortName n' = shortName n)
  have htwo : [n, n'].countP (fun n' => shortName n' = shortName n) = 2 := by simp [h]
  unfold shared
  rw [htwo] at hle
  exact decide_eq_true (show 1 < _ by omega)

end names

section apart
variable {nodes : List GraphNode}
  (htriples : (nodes.map (fun n => (n.namespace, n.kind, n.name))).Nodup)
  (hexternal : (nodes.filter (fun n => n.kind = .external)).length ≤ 1)
  (hslashes : ∀ n ∈ nodes, Without '/' n)

/-- Only the external node has a short name without a slash. -/
theorem external_of_shortName {n : GraphNode} (h : '/' ∉ (shortName n).toList) :
    n.kind = .external := by
  by_contra hk
  unfold shortName at h
  rw [if_neg hk] at h
  exact h (by simp [String.toList_append])

include hexternal hslashes in
/-- The external node does not share its name. -/
theorem not_shared_external {n : GraphNode} (hn : n ∈ nodes) (hk : n.kind = .external) :
    shared nodes n = false := by
  have hname : shortName n = n.name := if_pos hk
  have hle : nodes.countP (fun n' => shortName n' = shortName n) ≤
      nodes.countP (fun n' => n'.kind = .external) := by
    apply List.countP_mono_left
    intro n' _ hn'
    have hshort : shortName n' = shortName n := of_decide_eq_true hn'
    apply decide_eq_true
    apply external_of_shortName
    rw [hshort, hname]
    exact (hslashes n hn).1
  have hone : nodes.countP (fun n' => n'.kind = .external) ≤ 1 := by
    rw [List.countP_eq_length_filter]
    exact hexternal
  unfold shared
  exact decide_eq_false (by omega)

include hexternal in
theorem external_unique {n n' : GraphNode} (hn : n ∈ nodes) (hn' : n' ∈ nodes)
    (hk : n.kind = .external) (hk' : n'.kind = .external) : n = n' := by
  have hmem : ∀ m ∈ nodes, m.kind = .external → m ∈ nodes.filter (fun n => n.kind = .external) :=
    fun m hm hmk => List.mem_filter.mpr ⟨hm, decide_eq_true hmk⟩
  rcases Nat.le_one_iff_eq_zero_or_eq_one.mp hexternal with hzero | hone
  · have hnone := hmem n hn hk
    rw [List.length_eq_zero_iff.mp hzero] at hnone
    cases hnone
  · obtain ⟨m, hm⟩ := List.length_eq_one_iff.mp hone
    have h := hmem n hn hk
    have h' := hmem n' hn' hk'
    rw [hm, List.mem_singleton] at h h'
    rw [h, h']

theorem fields_external {n : GraphNode} (hk : n.kind = .external) : fields false n = [n.name] := by
  simp [fields, hk]

theorem fields_kind {n : GraphNode} (hk : n.kind ≠ .external) (qualified : Bool) :
    fields qualified n =
      (if qualified then n.namespace.toList else []) ++ [n.kind.name] ++ [n.name] := by
  simp [fields, hk]

include htriples hexternal hslashes in
/-- Nodes are told apart by the fields of their names. -/
theorem eq_of_fields {n n' : GraphNode} (hn : n ∈ nodes) (hn' : n' ∈ nodes)
    (h : fields (shared nodes n) n = fields (shared nodes n') n') : n = n' := by
  by_cases hk : n.kind = .external
  · rw [not_shared_external hexternal hslashes hn hk, fields_external hk] at h
    by_cases hk' : n'.kind = .external
    · exact external_unique hexternal hn hn' hk hk'
    · rw [fields_kind hk'] at h
      exact absurd (congrArg List.length h) (by simp)
  · by_cases hk' : n'.kind = .external
    · rw [not_shared_external hexternal hslashes hn' hk', fields_external hk', fields_kind hk] at h
      exact absurd (congrArg List.length h) (by simp)
    · rw [fields_kind hk, fields_kind hk'] at h
      obtain ⟨hrest, hname⟩ := List.append_inj' h rfl
      obtain ⟨hns, hkind⟩ := List.append_inj' hrest rfl
      have hname := (List.cons.inj hname).1
      have hkind := kind_name_injective (List.cons.inj hkind).1
      have hshort : shortName n' = shortName n := by
        unfold shortName
        rw [hkind, hname]
      by_contra hne
      -- both are qualified, so their namespaces differ
      rw [shared_of_ne hn hn' hne hshort, shared_of_ne hn' hn (Ne.symm hne) hshort.symm,
        if_pos rfl, if_pos rfl] at hns
      have hnamespace : n.namespace = n'.namespace := by
        have hhead := congrArg List.head? hns
        rwa [Option.head?_toList, Option.head?_toList] at hhead
      exact hne (List.inj_on_of_nodup_map htriples hn hn' (by rw [hnamespace, hkind, hname]))

end apart

/-- **Two nodes never print as one**: for every response with distinct ids, distinct triples of
    namespace, kind and name, at most one external node and no slashes in names and namespaces,
    two nodes are given different names; and if there are no colons either, no node is given a
    name that an id with a colon, printed for a missing node, could be taken for. -/
theorem names_distinct (r : GraphResponse) (hids : (r.nodes.map GraphNode.id).Nodup)
    (htriples : (r.nodes.map (fun n => (n.namespace, n.kind, n.name))).Nodup)
    (hexternal : (r.nodes.filter (fun n => n.kind = .external)).length ≤ 1)
    (hslashes : ∀ n ∈ r.nodes, Without '/' n) :
    (∀ n ∈ r.nodes, ∀ n' ∈ r.nodes, n ≠ n' →
      (newNamer r.nodes).of n.id n.id ≠ (newNamer r.nodes).of n'.id n'.id) ∧
    ((∀ n ∈ r.nodes, Without ':' n) → ∀ n ∈ r.nodes, ∀ id,
      id ∉ r.nodes.map GraphNode.id → ':' ∈ id.toList →
        (newNamer r.nodes).of n.id n.id ≠ (newNamer r.nodes).of id id) := by
  constructor
  · intro n hn n' hn' hne hname
    have hchars := congrArg String.toList hname
    rw [of_eq_fields hids hn, of_eq_fields hids hn'] at hchars
    have hfields := slashed_inj (fields_ne_nil _ n) (fields_ne_nil _ n')
      (notMem_fields (hslashes n hn) (kind_plain n.kind).1 _)
      (notMem_fields (hslashes n' hn') (kind_plain n'.kind).1 _) hchars
    exact hne (eq_of_fields htriples hexternal hslashes hn hn' hfields)
  · intro hcolons n hn id hmissing hcolon hname
    have hchars := congrArg String.toList hname
    rw [of_eq_fields hids hn, of_missing hids hmissing] at hchars
    rw [← hchars] at hcolon
    rcases Decoding.mem_of_mem_intercalate hcolon with hsep | ⟨x, hx, hmem⟩
    · exact absurd hsep (by decide)
    · obtain ⟨f, hf, rfl⟩ := List.mem_map.mp hx
      exact notMem_fields (hcolons n hn) (kind_plain n.kind).2 _ f hf hmem

/-- A node of a kind in a namespace, with an id like the contract's. -/
def namedNode (id : String) (kind : GraphKind) (ns : Option String) (name : String) : GraphNode :=
  ⟨id, kind, ns, name, name, 0, 0, false⟩

/-- One name in two namespaces, and the outside. -/
def replicas : GraphResponse where
  generatedAt := 0
  window := ⟨0, 60000000⟩
  filters := {}
  nodes := [namedNode "k8s:c:a:Deployment:web" (.kind .deployment) (some "a") "web",
    namedNode "k8s:c:b:Deployment:web" (.kind .deployment) (some "b") "web",
    namedNode "external:EXTERNAL" .external none "EXTERNAL"]
  edges := []
  summary := ⟨3, 0, 0, false, none⟩

/-- The deployments are qualified, and an id that is not listed is neither of them. -/
theorem names_distinct_replicas :
    (newNamer replicas.nodes).of "k8s:c:a:Deployment:web" "" = "a/Deployment/web" ∧
    (newNamer replicas.nodes).of "k8s:c:a:Deployment:web" "k8s:c:a:Deployment:web" ≠
      (newNamer replicas.nodes).of "k8s:c:b:Deployment:web" "k8s:c:b:Deployment:web" ∧
    (newNamer replicas.nodes).of "k8s:c:a:Deployment:web" "k8s:c:a:Deployment:web" ≠
      (newNamer replicas.nodes).of "k8s:c:a:Pod:gone" "k8s:c:a:Pod:gone" := by
  have hplain : ∀ c ∈ ['/', ':'], ∀ n ∈ replicas.nodes, Without c n := by
    intro c hc n hn
    have hc : c = '/' ∨ c = ':' := by simpa using hc
    have hn : n = namedNode "k8s:c:a:Deployment:web" (.kind .deployment) (some "a") "web" ∨
        n = namedNode "k8s:c:b:Deployment:web" (.kind .deployment) (some "b") "web" ∨
        n = namedNode "external:EXTERNAL" .external none "EXTERNAL" := by
      simpa [replicas] using hn
    unfold Without
    rcases hc with rfl | rfl <;> rcases hn with rfl | rfl | rfl <;> simp [namedNode]
  obtain ⟨hnames, hmissing⟩ := names_distinct replicas (by decide) (by decide) (by decide)
    (hplain '/' (by simp))
  refine ⟨by decide +kernel, ?_, ?_⟩
  · exact hnames _ List.mem_cons_self _ (List.mem_cons_of_mem _ List.mem_cons_self) (by decide)
  · exact hmissing (hplain ':' (by simp)) _ List.mem_cons_self _ (by decide) (by decide)

end TopologyVisualizer.Cli.Render
