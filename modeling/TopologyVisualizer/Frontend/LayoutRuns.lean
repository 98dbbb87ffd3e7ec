import TopologyVisualizer.Framework.Decoding
import TopologyVisualizer.Backend.EdgeIds
import TopologyVisualizer.Frontend.GroupedTraffic
import TopologyVisualizer.Frontend.Layout

/-! # Layouts from Poll to Poll

    Sequences of graphs, each laid out with what is kept of the layout before
    (`layoutFrames`).

    A layout is kept when the signature is the same, and a signature is a
    joined text. It can be taken apart, because of what ids look like: the
    ids of nodes have no bar and no two colons in a row, and those of edges
    have four fields without a bar, or one that begins with a bracket
    (`ids_of_signature`). So the nodes, the edges and with them the sizes of
    boxes are those of the layout that is kept, and no two boxes overlap
    after any sequence (`layout_stable`).
-/

namespace TopologyVisualizer.Frontend.Layout

open Backend Decoding

/-! ### What ids look like -/

/-- A text of letters, digits, `-` and `.`. -/
def PlainText (s : String) : Prop := ∀ c ∈ s.toList, c.isAlphanum ∨ c = '-' ∨ c = '.'

instance (s : String) : Decidable (PlainText s) :=
  List.decidableBAll (fun c : Char => c.isAlphanum ∨ c = '-' ∨ c = '.') s.toList

/-- Ids of nodes that are drawn. -/
inductive DrawnId : String → Prop where
  | external : DrawnId externalNodeId
  | built {c ns kind name id : String} : PlainText c → PlainText ns → PlainText kind →
      PlainText name → buildNodeId c ns kind name = .ok id → DrawnId id
  | group {nodes : List GraphNode} {ns id : String} : PlainText ns →
      (naming nodes).namespaceIds.get? ns = some id → DrawnId id

/-- An edge between such nodes, with an id of the API or of a grouped edge. -/
structure DrawnEdge (e : Edge) : Prop where
  source : DrawnId e.sourceId
  target : DrawnId e.targetId
  id : e.id = buildEdgeId e.key ∨ e.id = groupedEdgeId e.key

/-- Segments between colons. -/
structure Segments (id : String) (segments : List (List Char)) : Prop where
  text : id.toList = [':'].intercalate segments
  nonempty : segments ≠ []
  segment : ∀ s ∈ segments, s ≠ [] ∧ ':' ∉ s ∧ '|' ∉ s
  head : id.toList.head? ≠ some '['

theorem PlainText.notMem {s : String} (h : PlainText s) {c : Char}
    (hc : ¬ (c.isAlphanum ∨ c = '-' ∨ c = '.')) : c ∉ s.toList :=
  fun hmem => hc (h c hmem)

/-- A segment that `build_node_id` takes, of plain characters. -/
theorem PlainText.segment {s : String} (h : PlainText s) (hs : Agent.IsSegment s) :
    s.toList ≠ [] ∧ ':' ∉ s.toList ∧ '|' ∉ s.toList := by
  refine ⟨?_, h.notMem (by decide), h.notMem (by decide)⟩
  intro hnil
  exact hs.1 (String.toList_inj.mp hnil)

theorem DrawnId.segments {id : String} (h : DrawnId id) : ∃ segments, Segments id segments := by
  cases h with
  | external =>
    refine ⟨["external".toList, "EXTERNAL".toList], ?_, ?_, ?_, ?_⟩
    all_goals decide
  | @built c ns kind name _ hc hns hkind hname hbuilt =>
    obtain ⟨hc', hns', hkind', hname', rfl⟩ := buildNodeId_eq_ok_iff.mp hbuilt
    refine ⟨["k8s".toList, c.toList, ns.toList, kind.toList, name.toList], ?_, ?_, ?_, ?_⟩
    · rw [toList_built]
      simp [List.intercalate]
    · exact List.cons_ne_nil _ _
    · simp only [List.forall_mem_cons]
      exact ⟨by decide, hc.segment hc', hns.segment hns', hkind.segment hkind',
        hname.segment hname', fun _ h => absurd h List.not_mem_nil⟩
    · rw [toList_built]
      simp
  | @group nodes ns _ hns hget =>
    obtain ⟨k, rfl⟩ := (named_naming nodes).shape ns _ hget
    have hquote : (JsonText.quote ns).toList = '"' :: (ns.toList ++ ['"']) := by
      apply JsonText.toList_quote_of_plain
      intro c hc hspecial
      have hall : JsonText.specials.all
          (fun c => !(c.isAlphanum || c == '-' || c == '.')) = true := by decide
      have hnot := List.all_eq_true.mp hall c hspecial
      have hplain := hns c hc
      simp_all
    refine ⟨[List.replicate k '_' ++ "namespace".toList, '"' :: (ns.toList ++ ['"'])], ?_, ?_, ?_, ?_⟩
    · simp [String.toList_append, hquote, List.intercalate]
    · exact List.cons_ne_nil _ _
    · simp only [List.forall_mem_cons]
      refine ⟨⟨by simp, by simp [List.mem_replicate], by simp [List.mem_replicate]⟩,
        ⟨by simp, ?_, ?_⟩, fun _ h => absurd h List.not_mem_nil⟩
      · simp [hns.notMem (c := ':') (by decide)]
      · simp [hns.notMem (c := '|') (by decide)]
    · cases k with
      | zero => simp [String.toList_append]
      | succ k => simp [String.toList_append, List.replicate_succ]

/-- An id, as a field of a signature. -/
theorem DrawnId.field {id : String} (h : DrawnId id) :
    id.toList ≠ [] ∧ '|' ∉ id.toList ∧ id.toList.head? ≠ some '[' ∧ Unpaired ':' id.toList ∧
      id.toList.head? ≠ some ':' ∧ id.toList.getLast? ≠ some ':' := by
  obtain ⟨segments, htext, hnonempty, hsegment, hhead⟩ := h.segments
  have hends : ∀ s ∈ segments, s ≠ [] ∧ s.head? ≠ some ':' ∧ s.getLast? ≠ some ':' := by
    intro s hs
    obtain ⟨hne, hcolon, _⟩ := hsegment s hs
    exact ⟨hne, fun heq => hcolon (List.mem_of_mem_head? heq),
      fun heq => hcolon (List.mem_of_mem_getLast? heq)⟩
  have hunpaired := Unpaired.intercalate (c := ':') ':'
    (fun s hs => unpaired_of_notMem (hsegment s hs).2.1) hends
  rw [← htext] at hunpaired
  refine ⟨?_, ?_, hhead, hunpaired⟩
  · rw [htext]
    exact intercalate_ne_nil hnonempty (fun s hs => (hsegment s hs).1)
  · intro hbar
    rw [htext] at hbar
    rcases mem_of_mem_intercalate hbar with hcolon | ⟨s, hs, hmem⟩
    · exact absurd hcolon (by decide)
    · exact (hsegment s hs).2.2 hmem

/-! ### Signatures -/

/-- An edge id, as fields of a signature. -/
def edgeFields (id : String) : List (List Char) := id.toList.splitOn '|'

theorem intercalate_edgeFields (id : String) : ['|'].intercalate (edgeFields id) = id.toList :=
  List.intercalate_splitOn '|'

/-- Edge ids that are drawn. -/
def DrawnEdgeId (id : String) : Prop := ∃ e : Edge, DrawnEdge e ∧ e.id = id

/-- An edge id of the API has four fields. -/
theorem edgeFields_built {e : Edge} (h : DrawnEdge e) : edgeFields (buildEdgeId e.key) =
    [e.sourceId.toList, e.targetId.toList, e.protocol.name.toList,
      (toString e.destinationPort).toList] := by
  have htext : (buildEdgeId e.key).toList = ['|'].intercalate
      [e.sourceId.toList, e.targetId.toList, e.protocol.name.toList,
        (toString e.destinationPort).toList] := by
    simp [buildEdgeId, Edge.key, String.toList_append, List.intercalate]
  rw [edgeFields, htext, List.splitOn_intercalate]
  · simp only [List.forall_mem_cons]
    exact ⟨h.source.field.2.1, h.target.field.2.1, Protocol.bar_notMem_name _,
      bar_notMem_toString _, fun _ h => absurd h List.not_mem_nil⟩
  · exact List.cons_ne_nil _ _

/-- A grouped edge has one, in brackets. -/
theorem edgeFields_grouped {e : Edge} (h : DrawnEdge e) :
    edgeFields (groupedEdgeId e.key) = [(groupedEdgeId e.key).toList] ∧
      (groupedEdgeId e.key).toList.head? = some '[' ∧ '|' ∉ (groupedEdgeId e.key).toList := by
  have hquote : ∀ {s : String}, '|' ∉ s.toList → '|' ∉ (JsonText.quote s).toList :=
    JsonText.notMem_quote (by decide)
  have hbar : '|' ∉ (groupedEdgeId e.key).toList := by
    have hsource := hquote h.source.field.2.1
    have htarget := hquote h.target.field.2.1
    have hprotocol := hquote (Protocol.bar_notMem_name e.protocol)
    have hport := bar_notMem_toString e.destinationPort
    simp only [groupedEdgeId, Edge.key, String.toList_append, List.mem_append, not_or]
    refine ⟨⟨⟨⟨⟨⟨⟨⟨?_, hsource⟩, ?_⟩, htarget⟩, ?_⟩, hprotocol⟩, ?_⟩, hport⟩, ?_⟩
    all_goals decide
  refine ⟨?_, ?_, hbar⟩
  · have hsplit : (['|'].intercalate [(groupedEdgeId e.key).toList]).splitOn '|' = _ :=
      List.splitOn_intercalate '|' (by simpa using hbar) (List.cons_ne_nil _ _)
    rwa [List.intercalate_singleton] at hsplit
  · simp [groupedEdgeId, String.toList_append]

/-- What an edge that is drawn goes between can be read from its id. -/
theorem DrawnEdge.key_eq {e e' : Edge} (h : DrawnEdge e) (h' : DrawnEdge e') (hid : e.id = e'.id) :
    e.key = e'.key := by
  have hfirst : ∀ {e e' : Edge}, DrawnEdge e → DrawnEdge e' →
      buildEdgeId e.key ≠ groupedEdgeId e'.key := by
    intro e e' h h' heq
    have hfields := edgeFields_built h
    rw [heq, (edgeFields_grouped h').1] at hfields
    exact absurd (congrArg List.length hfields) (by simp)
  rcases h.id with hbuilt | hgrouped
  · rcases h'.id with hbuilt' | hgrouped'
    · have hfields := edgeFields_built h
      rw [← hbuilt, hid, hbuilt', edgeFields_built h'] at hfields
      obtain ⟨hsource, hfields⟩ := List.cons.inj hfields
      obtain ⟨htarget, hfields⟩ := List.cons.inj hfields
      obtain ⟨hprotocol, hfields⟩ := List.cons.inj hfields
      have hport := (List.cons.inj hfields).1
      unfold Edge.key
      rw [String.toList_inj.mp hsource, String.toList_inj.mp htarget,
        Protocol.name_injective (String.toList_inj.mp hprotocol),
        Text.toString_nat_inj (String.toList_inj.mp hport)]
    · exact absurd (hbuilt.symm.trans (hid.trans hgrouped')) (hfirst h h')
  · rcases h'.id with hbuilt' | hgrouped'
    · exact absurd (hbuilt'.symm.trans (hid.symm.trans hgrouped)) (hfirst h' h)
    · exact groupedEdgeId_injective (hgrouped.symm.trans (hid.trans hgrouped'))

/-- The first field tells how many there are. -/
theorem DrawnEdge.fields {e : Edge} (h : DrawnEdge e) :
    ∃ f fs, edgeFields e.id = f :: fs ∧ fs.length = if f.head? = some '[' then 0 else 3 := by
  rcases h.id with hbuilt | hgrouped
  · refine ⟨_, _, (congrArg edgeFields hbuilt).trans (edgeFields_built h), ?_⟩
    rw [if_neg h.source.field.2.2.1]
    rfl
  · obtain ⟨hfields, hhead, _⟩ := edgeFields_grouped h
    refine ⟨_, _, (congrArg edgeFields hgrouped).trans hfields, ?_⟩
    rw [if_pos hhead]
    rfl

theorem edgeFields_selfDelimiting : SelfDelimiting DrawnEdgeId edgeFields := by
  rintro a b ⟨e, he, rfl⟩ ⟨e', he', rfl⟩ r s h
  have hlength : (edgeFields e.id).length = (edgeFields e'.id).length := by
    obtain ⟨f, fs, hfields, hcount⟩ := he.fields
    obtain ⟨f', fs', hfields', hcount'⟩ := he'.fields
    rw [hfields, hfields'] at h
    rw [hfields, hfields', List.length_cons, List.length_cons, hcount, hcount',
      (List.cons.inj h).1]
  obtain ⟨hfields, hrest⟩ := List.append_inj h hlength
  refine ⟨String.toList_inj.mp ?_, hrest⟩
  rw [← intercalate_edgeFields, hfields, intercalate_edgeFields]

theorem edgeFields_field {id : String} (h : DrawnEdgeId id) :
    edgeFields id ≠ [] ∧ ∀ f ∈ edgeFields id, f ≠ [] ∧ '|' ∉ f := by
  obtain ⟨e, he, rfl⟩ := h
  rcases he.id with hbuilt | hgrouped
  · have hprotocol : e.protocol.name.toList ≠ [] := by
      cases e.protocol
      decide
    rw [hbuilt, edgeFields_built he]
    refine ⟨List.cons_ne_nil _ _, ?_⟩
    simp only [List.forall_mem_cons]
    exact ⟨⟨he.source.field.1, he.source.field.2.1⟩, ⟨he.target.field.1, he.target.field.2.1⟩,
      ⟨hprotocol, Protocol.bar_notMem_name _⟩, ⟨by simp, bar_notMem_toString _⟩,
      fun _ h => absurd h List.not_mem_nil⟩
  · obtain ⟨hfields, hhead, hbar⟩ := edgeFields_grouped he
    rw [hgrouped, hfields]
    refine ⟨List.cons_ne_nil _ _, ?_⟩
    simp only [List.forall_mem_cons]
    refine ⟨⟨?_, hbar⟩, fun _ h => absurd h List.not_mem_nil⟩
    intro hnil
    rw [hnil] at hhead
    cases hhead

/-- **Signatures** can be taken apart. -/
theorem signature_inj {ns es ns' es' : List String} (hns : ∀ id ∈ ns, DrawnId id)
    (hes : ∀ id ∈ es, DrawnEdgeId id) (hns' : ∀ id ∈ ns', DrawnId id)
    (hes' : ∀ id ∈ es', DrawnEdgeId id)
    (h : "::".intercalate ["|".intercalate ns, "|".intercalate es] =
      "::".intercalate ["|".intercalate ns', "|".intercalate es']) : ns = ns' ∧ es = es' := by
  have htext : ∀ a b : List String,
      ("::".intercalate ["|".intercalate a, "|".intercalate b]).toList =
        ['|'].intercalate (a.map String.toList) ++ ':' :: ':' ::
          ['|'].intercalate (b.map String.toList) := by
    intro a b
    simp [String.toList_intercalate, List.intercalate]
  have hnodes : ∀ {a : List String}, (∀ id ∈ a, DrawnId id) →
      ∀ f ∈ a.map String.toList, f ≠ [] ∧ '|' ∉ f := by
    intro a ha f hf
    obtain ⟨id, hid, rfl⟩ := List.mem_map.mp hf
    exact ⟨(ha id hid).field.1, (ha id hid).field.2.1⟩
  have hunpaired : ∀ {a : List String}, (∀ id ∈ a, DrawnId id) →
      ¬ [':', ':'] <:+: ['|'].intercalate (a.map String.toList) ∧
        (['|'].intercalate (a.map String.toList)).getLast? ≠ some ':' := by
    intro a ha
    have hall : ∀ f ∈ a.map String.toList, Unpaired ':' f ∧ f ≠ [] ∧ f.head? ≠ some ':' ∧
        f.getLast? ≠ some ':' := by
      intro f hf
      obtain ⟨id, hid, rfl⟩ := List.mem_map.mp hf
      obtain ⟨hne, _, _, hfree, hhead, hlast⟩ := (ha id hid).field
      exact ⟨hfree, hne, hhead, hlast⟩
    obtain ⟨hfree, _, hlast⟩ := Unpaired.intercalate '|' (fun f hf => (hall f hf).1)
      (fun f hf => (hall f hf).2)
    exact ⟨hfree.not_infix, hlast⟩
  have hchars := congrArg String.toList h
  rw [htext, htext] at hchars
  obtain ⟨hfirst, hsecond⟩ := split_pair (hunpaired hns).1 (hunpaired hns).2 (hunpaired hns').1
    (hunpaired hns').2 hchars
  constructor
  · exact List.map_injective_iff.mpr (fun _ _ heq => String.toList_injective heq)
      (intercalate_inj (hnodes hns) (hnodes hns') hfirst)
  · refine joined_inj edgeFields_selfDelimiting (fun _ => edgeFields_field) hes hes' ?_
    simp only [intercalate_edgeFields]
    exact hsecond

/-! ### Degrees -/

/-- What an edge adds to the neighbours of a node. -/
def peersIn (id : String) (e : Edge) : List String :=
  if e.sourceId = e.targetId then []
  else (if id = e.sourceId then [e.targetId] else []) ++
    if id = e.targetId then [e.sourceId] else []

theorem get?_addNeighbour (d : Dict String (List String)) (id peer k : String) :
    (addNeighbour d id peer).get? k =
      (d.get? k).map (fun peers => (if k = id then [peer] else []).foldl appendNew peers) := by
  unfold addNeighbour
  by_cases hk : k = id
  · subst hk
    cases hget : d.get? k with
    | none => simp [hget]
    | some peers => simp
  · cases hget : d.get? id with
    | none => simp [hk]
    | some peers => simp [hk, Dict.get?_set]

theorem get?_meet (d : Dict String (List String)) (e : Edge) (id : String) :
    (meet d e).get? id = (d.get? id).map (fun peers => (peersIn id e).foldl appendNew peers) := by
  unfold meet peersIn
  split
  · simp
  · rw [get?_addNeighbour, get?_addNeighbour, Option.map_map]
    congr 1
    funext peers
    rw [Function.comp_apply, ← List.foldl_append]

theorem get?_foldl_meet (d : Dict String (List String)) (edges : List Edge) (id : String) :
    (edges.foldl meet d).get? id =
      (d.get? id).map (fun peers => (edges.flatMap (peersIn id)).foldl appendNew peers) := by
  induction edges generalizing d with
  | nil => simp
  | cons e edges ih =>
    rw [List.foldl_cons, ih, get?_meet, Option.map_map, List.flatMap_cons]
    congr 1
    funext peers
    rw [Function.comp_apply, ← List.foldl_append]

theorem get?_degreesOf {nodes : List GraphNode} (edges : List Edge) {n : GraphNode}
    (hn : n ∈ nodes) : (degreesOf nodes edges).get? n.id =
      some ((edges.flatMap (peersIn n.id)).foldl appendNew []).length := by
  have hpeers : (neighboursOf nodes edges).get? n.id =
      some ((edges.flatMap (peersIn n.id)).foldl appendNew []) := by
    rw [neighboursOf, get?_foldl_meet, get?_start (fun _ => []) hn, Option.map_some]
  unfold degreesOf
  rw [Dict.get?_foldl_set_map Prod.fst (fun e : String × List String => e.2.length)]
  cases hlast : ((neighboursOf nodes edges).entries.filter (fun e => e.1 = n.id)).getLast? with
  | none =>
    rw [List.getLast?_eq_none_iff, List.filter_eq_nil_iff] at hlast
    exact absurd (decide_eq_true rfl) (hlast _ (Dict.get?_eq_some_iff.mp hpeers))
  | some e =>
    obtain ⟨hmem, hkey⟩ := List.mem_filter.mp (List.mem_of_getLast? hlast)
    have hget : (neighboursOf nodes edges).get? e.1 = some e.2 := Dict.get?_eq_some_iff.mpr hmem
    rw [of_decide_eq_true hkey, hpeers, Option.some.injEq] at hget
    rw [Option.map_some, hget]

/-- How many neighbours there are depends on what the edges go between only. -/
theorem degree_congr {edges edges' : List Edge} (id : String)
    (h : ∀ e ∈ edges, ∃ e' ∈ edges', e'.key = e.key)
    (h' : ∀ e' ∈ edges', ∃ e ∈ edges, e.key = e'.key) :
    ((edges.flatMap (peersIn id)).foldl appendNew []).length =
      ((edges'.flatMap (peersIn id)).foldl appendNew []).length := by
  have hpeers : ∀ {e e' : Edge}, e.key = e'.key → peersIn id e = peersIn id e' := by
    intro e e' hkey
    have hsource : e.sourceId = e'.sourceId := congrArg EdgeKey.sourceId hkey
    have htarget : e.targetId = e'.targetId := congrArg EdgeKey.targetId hkey
    rw [peersIn, peersIn, hsource, htarget]
  refine List.Perm.length_eq ((List.perm_ext_iff_of_nodup (nodup_foldl_appendNew List.nodup_nil)
    (nodup_foldl_appendNew List.nodup_nil)).mpr ?_)
  intro peer
  rw [mem_foldl_appendNew, mem_foldl_appendNew, List.mem_flatMap, List.mem_flatMap]
  constructor
  · rintro (hnil | ⟨e, he, hpeer⟩)
    · exact .inl hnil
    · obtain ⟨e', he', hkey⟩ := h e he
      exact .inr ⟨e', he', hpeers hkey ▸ hpeer⟩
  · rintro (hnil | ⟨e', he', hpeer⟩)
    · exact .inl hnil
    · obtain ⟨e, he, hkey⟩ := h' e' he'
      exact .inr ⟨e, he, hpeers hkey ▸ hpeer⟩

/-! ### Sequences of graphs -/

/-- A graph that is drawn. -/
structure Frame where
  nodes : List GraphNode
  edges : List Edge

/-- Ids are distinct, and of the kinds that are drawn. -/
structure Frame.Drawable (f : Frame) : Prop where
  nodeIds : (f.nodes.map GraphNode.id).Nodup
  edgeIds : (f.edges.map Edge.id).Nodup
  node : ∀ n ∈ f.nodes, DrawnId n.id
  edge : ∀ e ∈ f.edges, DrawnEdge e

/-- The sizes of boxes in a graph. -/
def Frame.boxOf (f : Frame) : String → Size := Layout.boxOf (some (degreesOf f.nodes f.edges))

/-- A graph laid out, its nodes sized by degree. -/
def layoutFrame (dagre : Dagre) (collation : Collation) (previous : Option LayoutCache)
    (f : Frame) : LayoutResult :=
  layoutGraph dagre collation f.nodes f.edges previous (some (degreesOf f.nodes f.edges))

/-- What is kept after a sequence of graphs. -/
def layoutFrames (dagre : Dagre) (collation : Collation) (frames : List Frame) :
    Option LayoutCache :=
  frames.foldl (fun previous f => some (layoutFrame dagre collation previous f).toLayoutCache) none

/-- **What a signature identifies**: the ids of nodes and of edges. -/
theorem ids_of_signature {f g : Frame} (hf : f.Drawable) (hg : g.Drawable)
    (h : topologySignature f.nodes f.edges = topologySignature g.nodes g.edges) :
    (f.nodes.map GraphNode.id).Perm (g.nodes.map GraphNode.id) ∧
      (f.edges.map Edge.id).Perm (g.edges.map Edge.id) := by
  have hnodes : ∀ {f : Frame}, f.Drawable →
      ∀ id ∈ sortOn Text.utf16 (f.nodes.map GraphNode.id), DrawnId id := by
    intro f hf id hid
    obtain ⟨n, hn, rfl⟩ := List.mem_map.mp (mem_sortOn.mp hid)
    exact hf.node n hn
  have hedges : ∀ {f : Frame}, f.Drawable →
      ∀ id ∈ sortOn Text.utf16 (f.edges.map Edge.id), DrawnEdgeId id := by
    intro f hf id hid
    obtain ⟨e, he, rfl⟩ := List.mem_map.mp (mem_sortOn.mp hid)
    exact ⟨e, hf.edge e he, rfl⟩
  obtain ⟨hns, hes⟩ := signature_inj (hnodes hf) (hedges hf) (hnodes hg) (hedges hg) h
  constructor
  · refine (sortOn_perm Text.utf16 _).symm.trans ?_
    rw [hns]
    exact sortOn_perm _ _
  · refine (sortOn_perm Text.utf16 _).symm.trans ?_
    rw [hes]
    exact sortOn_perm _ _

/-- Graphs with one signature have boxes of the same sizes. -/
theorem boxOf_of_signature {f g : Frame} (hf : f.Drawable) (hg : g.Drawable)
    (h : topologySignature f.nodes f.edges = topologySignature g.nodes g.edges) {n : GraphNode}
    (hn : n ∈ f.nodes) : f.boxOf n.id = g.boxOf n.id := by
  obtain ⟨hnodes, hedges⟩ := ids_of_signature hf hg h
  obtain ⟨m, hm, hid⟩ := List.mem_map.mp (hnodes.mem_iff.mp (List.mem_map_of_mem hn))
  have hkeys : ∀ {f g : Frame}, f.Drawable → g.Drawable →
      (f.edges.map Edge.id).Perm (g.edges.map Edge.id) →
      ∀ e ∈ f.edges, ∃ e' ∈ g.edges, e'.key = e.key := by
    intro f g hf hg hperm e he
    obtain ⟨e', he', hid⟩ := List.mem_map.mp (hperm.mem_iff.mp (List.mem_map_of_mem he))
    exact ⟨e', he', (hg.edge e' he').key_eq (hf.edge e he) hid⟩
  have hdegree := degree_congr n.id (hkeys hf hg hedges) (hkeys hg hf hedges.symm)
  unfold Frame.boxOf Layout.boxOf
  rw [Option.bind_some, Option.bind_some, get?_degreesOf f.edges hn, ← hid,
    get?_degreesOf g.edges hm, hid, hdegree]

/-- What is kept of a graph: its nodes are placed, a gap apart. -/
structure Settled (f : Frame) (cache : LayoutCache) : Prop where
  signature : cache.signature = topologySignature f.nodes f.edges
  placed : ∀ n ∈ f.nodes, ∃ q, cache.positions.get? n.id = some q
  apart : ∀ n ∈ f.nodes, ∀ m ∈ f.nodes, n.id ≠ m.id →
    ¬ Near nodeGap (boxAt f.boxOf cache.positions n.id) (boxAt f.boxOf cache.positions m.id)

section runs
variable {dagre : Dagre} {collation : Collation} {f : Frame} (hf : f.Drawable)

include hf in
theorem settled_of_miss {previous : Option LayoutCache}
    (hmiss : ∀ p, previous = some p → p.signature ≠ topologySignature f.nodes f.edges) :
    Settled f (layoutFrame dagre collation previous f).toLayoutCache where
  signature := by rw [layoutFrame, layoutGraph_of_miss hmiss]
  placed := fun _ hn => layoutGraph_miss_placed hmiss hn
  apart := fun _ hn _ hm hne => layoutGraph_miss_apart hf.nodeIds hmiss hn hm hne

include hf in
/-- A layout that is kept fits the new graph as it fitted the one before. -/
theorem settled_of_hit {g : Frame} (hg : g.Drawable) {p : LayoutCache} (hp : Settled g p)
    (hsig : p.signature = topologySignature f.nodes f.edges) :
    Settled f (layoutFrame dagre collation (some p) f).toLayoutCache := by
  have hsame : topologySignature f.nodes f.edges = topologySignature g.nodes g.edges :=
    hsig.symm.trans hp.signature
  have hnode : ∀ n ∈ f.nodes, ∃ m ∈ g.nodes, m.id = n.id := by
    intro n hn
    exact List.mem_map.mp ((ids_of_signature hf hg hsame).1.mem_iff.mp (List.mem_map_of_mem hn))
  rw [layoutFrame, layoutGraph_of_hit rfl hsig]
  constructor
  · rfl
  · intro n hn
    obtain ⟨m, hm, hid⟩ := hnode n hn
    exact hid ▸ hp.placed m hm
  · intro n hn n' hn' hne
    obtain ⟨m, hm, hid⟩ := hnode n hn
    obtain ⟨m', hm', hid'⟩ := hnode n' hn'
    have hapart := hp.apart m hm m' hm' (by rw [hid, hid']; exact hne)
    unfold boxAt at hapart ⊢
    rwa [boxOf_of_signature hf hg hsame hn, boxOf_of_signature hf hg hsame hn', ← hid, ← hid']

include hf in
/-- One more graph settles what is kept. -/
theorem settled_step {previous : Option LayoutCache}
    (hprevious : ∀ p, previous = some p → ∃ g : Frame, g.Drawable ∧ Settled g p) :
    Settled f (layoutFrame dagre collation previous f).toLayoutCache := by
  by_cases hhit : ∃ p, previous = some p ∧ p.signature = topologySignature f.nodes f.edges
  · obtain ⟨p, rfl, hsig⟩ := hhit
    obtain ⟨g, hg, hp⟩ := hprevious p rfl
    exact settled_of_hit hf hg hp hsig
  · refine settled_of_miss hf ?_
    intro p hp hsig
    exact hhit ⟨p, hp, hsig⟩

variable (dagre collation) in
/-- After a sequence, what is kept is what its last graph settled. -/
theorem settled_run {frames : List Frame} (hframes : ∀ g ∈ frames, g.Drawable) {p : LayoutCache}
    (h : layoutFrames dagre collation frames = some p) :
    ∃ g, frames.getLast? = some g ∧ g.Drawable ∧ Settled g p := by
  induction frames using List.reverseRecOn generalizing p with
  | nil => cases h
  | append_singleton frames g ih =>
    have hg : g.Drawable := hframes g (by simp)
    have hlast : layoutFrames dagre collation (frames ++ [g]) =
        some (layoutFrame dagre collation (layoutFrames dagre collation frames) g).toLayoutCache := by
      simp [layoutFrames]
    rw [hlast] at h
    cases h
    refine ⟨g, by simp, hg, settled_step hg ?_⟩
    intro p hp
    obtain ⟨g', _, hg', hsettled⟩ := ih (fun g' hg' => hframes g' (List.mem_append_left _ hg')) hp
    exact ⟨g', hg', hsettled⟩

end runs

/-- **Layouts are stable and never overlap.** For every sequence of graphs and one more, each laid
    out with what was kept of the one before: the loop that moves a box ends, after at most as many
    passes as there are boxes; every node has a position, no two boxes overlap, a layout is kept
    only for the same nodes and edges, and nodes that were placed stay where they are if their
    boxes, in their new sizes, keep the gap. -/
theorem layout_stable (dagre : Dagre) (collation : Collation) (frames : List Frame) (f : Frame)
    (hframes : ∀ g ∈ frames, g.Drawable) (hf : f.Drawable) :
    let previous := layoutFrames dagre collation frames
    let result := layoutFrame dagre collation previous f
    (∀ placed size p, ∃ k ≤ placed.length,
      push placed size ((fun p => (push placed size p).getD p)^[k] p) = none) ∧
    (∀ n ∈ f.nodes, ∃ q, result.positions.get? n.id = some q) ∧
    (∀ n ∈ f.nodes, ∀ m ∈ f.nodes, n.id ≠ m.id →
      ¬ Near 0 (boxAt f.boxOf result.positions n.id) (boxAt f.boxOf result.positions m.id)) ∧
    (result.recomputed = false → ∃ g, frames.getLast? = some g ∧
      (f.nodes.map GraphNode.id).Perm (g.nodes.map GraphNode.id) ∧
      (f.edges.map Edge.id).Perm (g.edges.map Edge.id)) ∧
    ∀ p, previous = some p →
      (∀ n ∈ f.nodes, ∀ m ∈ f.nodes, n.id ≠ m.id →
        (p.positions.get? n.id).isSome → (p.positions.get? m.id).isSome →
        ¬ Near nodeGap (boxAt f.boxOf p.positions n.id) (boxAt f.boxOf p.positions m.id)) →
      ∀ n ∈ f.nodes, ∀ q, p.positions.get? n.id = some q → result.positions.get? n.id = some q := by
  intro previous result
  have hrun : ∀ p, previous = some p →
      ∃ g, frames.getLast? = some g ∧ g.Drawable ∧ Settled g p :=
    fun p hp => settled_run dagre collation hframes hp
  have hsettled : Settled f result.toLayoutCache := by
    apply settled_step hf
    intro p hp
    obtain ⟨g, _, hg, hsettled⟩ := hrun p hp
    exact ⟨g, hg, hsettled⟩
  refine ⟨?_, hsettled.placed, ?_, ?_, ?_⟩
  · intro placed size p
    obtain ⟨k, hk, hpasses, hend⟩ := settle_passes placed size p false
    exact ⟨k, hk.trans (List.length_filter_le _ _), hpasses ▸ hend⟩
  · intro n hn m hm hne hoverlap
    exact hsettled.apart n hn m hm hne (hoverlap.mono (by unfold nodeGap; norm_num))
  · intro hkept
    by_cases hhit : ∃ p, previous = some p ∧ p.signature = topologySignature f.nodes f.edges
    · obtain ⟨p, hp, hsig⟩ := hhit
      obtain ⟨g, hlast, hg, hpsettled⟩ := hrun p hp
      exact ⟨g, hlast, ids_of_signature hf hg (hsig.symm.trans hpsettled.signature)⟩
    · have hmiss : ∀ p, previous = some p → p.signature ≠ topologySignature f.nodes f.edges :=
        fun p hp hsig => hhit ⟨p, hp, hsig⟩
      change (layoutGraph dagre collation f.nodes f.edges previous _).recomputed = false at hkept
      rw [layoutGraph_of_miss hmiss] at hkept
      cases hkept
  · intro p hp hapart n hn q hq
    by_cases hsig : p.signature = topologySignature f.nodes f.edges
    · change (layoutGraph dagre collation f.nodes f.edges previous _).positions.get? n.id = some q
      rw [layoutGraph_of_hit hp hsig]
      exact hq
    · have hmiss : ∀ p', previous = some p' →
          p'.signature ≠ topologySignature f.nodes f.edges := by
        intro p' hp'
        rw [hp] at hp'
        cases hp'
        exact hsig
      exact layoutGraph_miss_kept hf.nodeIds hmiss hp hapart hn hq

/-- A graph of the external node only. -/
def loneFrame : Frame :=
  { nodes := [⟨externalNodeId, .external, none, "EXTERNAL", "EXTERNAL", 0, 0, false⟩], edges := [] }

/-- A workload appears, and connects to it. -/
def pairFrame : Frame :=
  { nodes := [⟨externalNodeId, .external, none, "EXTERNAL", "EXTERNAL", 0, 0, false⟩,
      ⟨"k8s:c:ns:Deployment:a", .kind .deployment, some "ns", "a", "a", 0, 0, false⟩]
    edges := [{
      id := buildEdgeId ⟨"k8s:c:ns:Deployment:a", externalNodeId, .tcp, 443⟩,
      sourceId := "k8s:c:ns:Deployment:a", targetId := externalNodeId, protocol := .tcp,
      destinationPort := 443, connectionCount := 1, failedConnectionCount := none,
      connectLatencyCount := none, connectLatencySumUs := none, bytesSent := none,
      bytesReceived := none, firstSeen := "", lastSeen := "" }] }

theorem loneFrame_drawable : loneFrame.Drawable where
  nodeIds := by decide
  edgeIds := by decide
  node := by
    intro n hn
    rw [List.mem_singleton.mp hn]
    exact .external
  edge := fun _ he => absurd he List.not_mem_nil

theorem pairFrame_drawable : pairFrame.Drawable := by
  have hworkload : DrawnId "k8s:c:ns:Deployment:a" :=
    @DrawnId.built "c" "ns" "Deployment" "a" _ (by decide) (by decide) (by decide) (by decide) rfl
  constructor
  · decide
  · decide
  · intro n hn
    rcases List.mem_cons.mp hn with rfl | hn
    · exact .external
    · rw [List.mem_singleton.mp hn]
      exact hworkload
  · intro e he
    rw [List.mem_singleton.mp he]
    exact ⟨hworkload, .external, .inl rfl⟩

/-- Even if Dagre puts all nodes on one spot, the two are drawn apart. -/
theorem layout_stable_spot :
    let result := layoutFrame (fun _ _ => some ⟨0, 0⟩) ⟨Text.utf16⟩
      (layoutFrames (fun _ _ => some ⟨0, 0⟩) ⟨Text.utf16⟩ [loneFrame]) pairFrame
    ¬ Near 0 (boxAt pairFrame.boxOf result.positions externalNodeId)
      (boxAt pairFrame.boxOf result.positions "k8s:c:ns:Deployment:a") := by
  obtain ⟨_, _, hoverlap, _⟩ := layout_stable (fun _ _ => some ⟨0, 0⟩) ⟨Text.utf16⟩ [loneFrame]
    pairFrame (fun g hg => List.mem_singleton.mp hg ▸ loneFrame_drawable) pairFrame_drawable
  have hexternal : (⟨externalNodeId, .external, none, "EXTERNAL", "EXTERNAL", 0, 0, false⟩ :
      GraphNode) ∈ pairFrame.nodes := List.mem_cons_self
  have hworkload : (⟨"k8s:c:ns:Deployment:a", .kind .deployment, some "ns", "a", "a", 0, 0, false⟩ :
      GraphNode) ∈ pairFrame.nodes := List.mem_cons_of_mem _ List.mem_cons_self
  have hpair := hoverlap _ hexternal _ hworkload (by decide)
  exact hpair

end TopologyVisualizer.Frontend.Layout
