import Mathlib.Algebra.BigOperators.Group.List.Basic
import Mathlib.Algebra.Group.Prod
import TopologyVisualizer.Framework.KeyedSum
import TopologyVisualizer.Backend.EdgeIds
import TopologyVisualizer.Frontend.Grouping

/-! # Traffic of Grouped Namespaces

    What `groupTopology` does to edges. Each edge whose endpoints are listed
    lands between the representatives of its endpoints, and is added to the
    one edge there (`Merged`).

    Traffic is attributed to homes: the namespaces, and the nodes that are in
    none. A representative is of the home of the nodes that it shows, so
    every measure between two homes is that of the input, whichever
    namespaces are expanded (`groupTopology_conserves`). Sums of failures are
    taken with `null` as a zero that is not the number, so a sum is `null`
    exactly when everything that was added is. Measures are natural numbers:
    a number of JavaScript adds them exactly as long as no total exceeds 2^53
    (2^53, 1 and 1 add up to 2^53 there).
-/

namespace TopologyVisualizer.Frontend

open Backend

/-! ### Ids of grouped edges -/

theorem groupedEdgeId_injective : Function.Injective groupedEdgeId := by
  intro k k' h
  obtain ⟨source, target, protocol, port⟩ := k
  obtain ⟨source', target', protocol', port'⟩ := k'
  have hchars := congrArg String.toList h
  simp only [groupedEdgeId, String.toList_append, List.append_assoc] at hchars
  obtain ⟨hsource, hrest⟩ := JsonText.quote_append_inj (List.append_cancel_left hchars)
  obtain ⟨htarget, hrest⟩ := JsonText.quote_append_inj (List.append_cancel_left hrest)
  obtain ⟨hprotocol, hrest⟩ := JsonText.quote_append_inj (List.append_cancel_left hrest)
  have hport : port = port' := by
    have hdigits := List.append_cancel_right (List.append_cancel_left hrest)
    exact Text.toString_nat_inj (String.toList_inj.mp hdigits)
  rw [hsource, htarget, Protocol.name_injective hprotocol, hport]

/-! ### Merging -/

/-- What identifies a grouped edge. -/
def Edge.key (e : Edge) : EdgeKey := ⟨e.sourceId, e.targetId, e.protocol, e.destinationPort⟩

/-- Successful and failed connections, latency samples and their sum. -/
abbrev Tally := ℕ × WithZero ℕ × ℕ × ℕ

/-- A failure count to be summed: `null` is the zero that is not the number. -/
def failures : Option ℕ → WithZero ℕ
  | none => 0
  | some n => WithZero.coe n

/-- The measures of an edge. -/
def Edge.tally (e : Edge) : Tally :=
  (e.connectionCount, failures e.failedConnectionCount, e.connectLatencyCount.getD 0,
    e.connectLatencySumUs.getD 0)

theorem failures_add (a b : Option ℕ) :
    failures (if a.isNone && b.isNone then none else some (a.getD 0 + b.getD 0)) =
      failures a + failures b := by
  cases a with
  | none =>
    cases b with
    | none => simp [failures]
    | some n => simp [failures]
  | some m =>
    cases b with
    | none => simp [failures]
    | some n => simp [failures, WithZero.coe_add]

@[simp] theorem tally_mergeInto (previous edge : Edge) :
    (mergeInto previous edge).tally = previous.tally + edge.tally := by
  unfold Edge.tally mergeInto
  simp only [failures_add, Option.getD_some, Prod.mk_add_mk]

@[simp] theorem tally_copyEdge (key : EdgeKey) (edge : Edge) :
    (copyEdge key edge).tally = edge.tally := rfl

/-- The grouped edge that some edges are merged into, one after the other. -/
def mergedEdge (key : EdgeKey) : List Edge → Option Edge
  | [] => none
  | e :: es => some (es.foldl mergeInto (copyEdge key e))

theorem mergedEdge_append (key : EdgeKey) (members : List Edge) (e : Edge) :
    mergedEdge key (members ++ [e]) =
      match mergedEdge key members with
      | none => some (copyEdge key e)
      | some previous => some (mergeInto previous e) := by
  cases members with
  | nil => rfl
  | cons m ms => simp [mergedEdge]

/-- A measure, or any other part of a grouped edge, that merging keeps. -/
theorem foldl_mergeInto_eq {β : Type} (part : Edge → β)
    (hpart : ∀ previous edge, part (mergeInto previous edge) = part previous) (members : List Edge)
    (first : Edge) : part (members.foldl mergeInto first) = part first := by
  induction members generalizing first with
  | nil => rfl
  | cons m ms ih => rw [List.foldl_cons, ih, hpart]

theorem tally_foldl_mergeInto (members : List Edge) (first : Edge) :
    (members.foldl mergeInto first).tally = first.tally + (members.map Edge.tally).sum := by
  induction members generalizing first with
  | nil => simp
  | cons m ms ih => rw [List.foldl_cons, ih, tally_mergeInto, List.map_cons, List.sum_cons, add_assoc]

/-- What a merger of edges with a protocol and a port is. -/
theorem mergedEdge_spec {key : EdgeKey} {members : List Edge} {g : Edge}
    (h : mergedEdge key members = some g)
    (hmembers : ∀ m ∈ members, m.protocol = key.protocol ∧ m.destinationPort = key.destinationPort) :
    g.key = key ∧ g.id = groupedEdgeId key ∧ g.tally = (members.map Edge.tally).sum := by
  cases members with
  | nil => cases h
  | cons m ms =>
    cases h
    obtain ⟨hprotocol, hport⟩ := hmembers m List.mem_cons_self
    refine ⟨?_, ?_, ?_⟩
    · rw [foldl_mergeInto_eq Edge.key (fun _ _ => rfl)]
      simp only [Edge.key, copyEdge, hprotocol, hport]
    · rw [foldl_mergeInto_eq Edge.id (fun _ _ => rfl)]
      rfl
    · rw [tally_foldl_mergeInto, tally_copyEdge, List.map_cons, List.sum_cons]

/-! ### The loop over the edges -/

/-- The edges that land on a key. -/
def members (representatives : Dict String String) (edges : List Edge) (key : EdgeKey) : List Edge :=
  edges.filter (fun e => landing representatives e = some key)

theorem members_append_of_eq {representatives : Dict String String} {e : Edge} {key : EdgeKey}
    (h : landing representatives e = some key) (edges : List Edge) :
    members representatives (edges ++ [e]) key = members representatives edges key ++ [e] := by
  simp [members, h]

theorem members_append_of_ne {representatives : Dict String String} {e : Edge} {key : EdgeKey}
    (h : landing representatives e ≠ some key) (edges : List Edge) :
    members representatives (edges ++ [e]) key = members representatives edges key := by
  simp [members, h]

section merged
variable (representatives : Dict String String) (input : List Edge)

/-- What is known after the loop has passed some of the edges, with `input` the heap it began
    with: grouped edges lie beyond it, and each is the merger of the edges that landed on it. -/
structure Merged (done : List Edge) (s : Grouping) : Prop where
  kept : ∀ ref, ref < input.length → s.heap[ref]? = input[ref]?
  made : ∀ id ref, s.groupedEdges.get? id = some ref → input.length ≤ ref ∧ ref < s.heap.length
  distinct : ∀ id id' ref, s.groupedEdges.get? id = some ref → s.groupedEdges.get? id' = some ref →
    id = id'
  named : ∀ id ref, s.groupedEdges.get? id = some ref → ∃ key, id = groupedEdgeId key
  content : ∀ key, ((s.groupedEdges.get? (groupedEdgeId key)).bind fun ref => s.heap[ref]?) =
    mergedEdge key (members representatives done key)

variable {representatives input} {done : List Edge} {s : Grouping}

theorem Merged.length_le (h : Merged representatives input done s) :
    input.length ≤ s.heap.length := by
  by_contra hlt
  have hend := h.kept s.heap.length (by omega)
  rw [List.getElem?_eq_none (Nat.le_refl _), List.getElem?_eq_getElem (by omega)] at hend
  cases hend

/-- Another edge is merged into the grouped edge that it lands on. -/
theorem Merged.add (h : Merged representatives input done s) {e : Edge} {key : EdgeKey}
    (hkey : landing representatives e = some key) {previous : Nat}
    (hget : s.groupedEdges.get? (groupedEdgeId key) = some previous) :
    Merged representatives input (done ++ [e])
      { s with heap := s.heap.modify previous (fun p => mergeInto p e) } := by
  have hbound := h.made _ _ hget
  refine ⟨?_, ?_, h.distinct, h.named, ?_⟩
  · intro ref href
    have hne : previous ≠ ref := by omega
    exact (List.getElem?_modify_ne _ _ hne).trans (h.kept ref href)
  · intro id ref hid
    rw [List.length_modify]
    exact h.made id ref hid
  · intro key'
    have hold := h.content key'
    by_cases heq : key' = key
    · subst heq
      rw [hget, Option.bind_some] at hold
      rw [hget, Option.bind_some, List.getElem?_modify_eq, hold, members_append_of_eq hkey,
        mergedEdge_append]
      rw [List.getElem?_eq_getElem hbound.2] at hold
      rw [← hold]
      rfl
    · -- other grouped edges lie elsewhere
      rw [members_append_of_ne (by rw [hkey]; simpa using Ne.symm heq), ← hold]
      cases hget' : s.groupedEdges.get? (groupedEdgeId key') with
      | none => rfl
      | some ref =>
        have hne : previous ≠ ref := by
          rintro rfl
          exact heq (groupedEdgeId_injective (h.distinct _ _ _ hget' hget))
        simp only [Option.bind_some]
        exact List.getElem?_modify_ne _ _ hne

/-- The first edge that lands on a key is copied. -/
theorem Merged.copy (h : Merged representatives input done s) {e : Edge} {key : EdgeKey}
    (hkey : landing representatives e = some key)
    (hget : s.groupedEdges.get? (groupedEdgeId key) = none) :
    Merged representatives input (done ++ [e])
      { heap := s.heap ++ [copyEdge key e]
        groupedEdges := s.groupedEdges.set (groupedEdgeId key) s.heap.length } := by
  have hcases : ∀ id ref, (s.groupedEdges.set (groupedEdgeId key) s.heap.length).get? id =
      some ref → (id = groupedEdgeId key ∧ ref = s.heap.length) ∨
        (s.groupedEdges.get? id = some ref ∧ ref < s.heap.length) := by
    intro id ref hid
    rcases Dict.get?_set_eq_some.mp hid with hnew | ⟨-, hold⟩
    · exact .inl hnew
    · exact .inr ⟨hold, (h.made id ref hold).2⟩
  have hinput := h.length_le
  refine ⟨?_, ?_, ?_, ?_, ?_⟩
  · intro ref href
    rw [List.getElem?_append_left (by omega), h.kept ref href]
  · intro id ref hid
    rw [List.length_append, List.length_singleton]
    rcases hcases id ref hid with ⟨_, rfl⟩ | ⟨hold, hlt⟩
    · omega
    · have := (h.made id ref hold).1
      omega
  · intro id id' ref hid hid'
    rcases hcases id ref hid with ⟨rfl, rfl⟩ | ⟨hold, hlt⟩
    · rcases hcases id' _ hid' with ⟨rfl, _⟩ | ⟨_, hlt'⟩
      · rfl
      · omega
    · rcases hcases id' ref hid' with ⟨_, rfl⟩ | ⟨hold', _⟩
      · omega
      · exact h.distinct id id' ref hold hold'
  · intro id ref hid
    rcases hcases id ref hid with ⟨rfl, _⟩ | ⟨hold, _⟩
    · exact ⟨key, rfl⟩
    · exact h.named id ref hold
  · intro key'
    have hold := h.content key'
    by_cases heq : key' = key
    · subst heq
      rw [hget, Option.bind_none] at hold
      rw [Dict.get?_set_self, Option.bind_some, members_append_of_eq hkey, mergedEdge_append,
        ← hold, List.getElem?_append_right (Nat.le_refl _), Nat.sub_self]
      rfl
    · have hne : groupedEdgeId key' ≠ groupedEdgeId key := fun hid =>
        heq (groupedEdgeId_injective hid)
      rw [members_append_of_ne (by rw [hkey]; simpa using Ne.symm heq), ← hold,
        Dict.get?_set_ne _ _ hne]
      cases hget' : s.groupedEdges.get? (groupedEdgeId key') with
      | none => rfl
      | some ref =>
        simp only [Option.bind_some]
        rw [List.getElem?_append_left (h.made _ _ hget').2]

theorem Merged.step (h : Merged representatives input done s) {ref : Nat} {e : Edge}
    (href : input[ref]? = some e) :
    Merged representatives input (done ++ [e]) (groupEdge representatives s ref) := by
  have hlt : ref < input.length := (List.getElem?_eq_some_iff.mp href).1
  have hread : s.heap[ref]? = some e := (h.kept ref hlt).trans href
  unfold groupEdge
  rw [hread]
  cases hkey : landing representatives e with
  | none =>
    simp only [hkey]
    refine ⟨h.kept, h.made, h.distinct, h.named, ?_⟩
    intro key
    rw [members_append_of_ne (by rw [hkey]; simp)]
    exact h.content key
  | some key =>
    simp only [hkey]
    cases hget : s.groupedEdges.get? (groupedEdgeId key) with
    | some previous => exact h.add hkey hget
    | none => exact h.copy hkey hget

theorem Merged.foldl (refs : List Nat) (hrefs : ∀ ref ∈ refs, ref < input.length)
    (h : Merged representatives input done s) :
    Merged representatives input (done ++ refs.filterMap (fun ref => input[ref]?))
      (refs.foldl (groupEdge representatives) s) := by
  induction refs generalizing done s with
  | nil => simpa using h
  | cons ref refs ih =>
    have href := List.getElem?_eq_getElem (hrefs ref List.mem_cons_self)
    rw [List.filterMap_cons_some href, List.append_cons]
    exact ih (fun r hr => hrefs r (List.mem_cons_of_mem _ hr)) (h.step href)

/-- The edges that a state of the loop refers to. -/
def Grouping.edgeValues (s : Grouping) : List Edge :=
  (s.groupedEdges.entries.map Prod.snd).filterMap (fun ref => s.heap[ref]?)

/-- The grouped edges are the mergers for the keys that edges land on. -/
theorem Merged.edgeValues_eq (h : Merged representatives input done s) :
    ∃ keys : List EdgeKey, keys.Nodup ∧
      (∀ key, key ∈ keys ↔ members representatives done key ≠ []) ∧
      s.edgeValues = keys.filterMap (fun key =>
        mergedEdge key (members representatives done key)) := by
  have hnamed : ∀ id ∈ s.groupedEdges.keys, id ∈ Set.range groupedEdgeId := by
    intro id hid
    obtain ⟨ref, hget⟩ := Dict.mem_keys_iff.mp hid
    obtain ⟨key, rfl⟩ := h.named id ref hget
    exact ⟨key, rfl⟩
  obtain ⟨keys, hkeys⟩ : s.groupedEdges.keys ∈ Set.range (List.map groupedEdgeId) := by
    rw [Set.range_list_map]
    exact hnamed
  refine ⟨keys, ?_, ?_, ?_⟩
  · apply List.Nodup.of_map groupedEdgeId
    rw [hkeys]
    exact s.groupedEdges.nodup
  · intro key
    have hcontent := h.content key
    rw [← List.mem_map_of_injective groupedEdgeId_injective, hkeys, Dict.mem_keys_iff]
    cases hget : s.groupedEdges.get? (groupedEdgeId key) with
    | none =>
      rw [hget, Option.bind_none] at hcontent
      cases hmembers : members representatives done key with
      | nil => simp
      | cons m ms =>
        rw [hmembers] at hcontent
        cases hcontent
    | some ref =>
      rw [hget, Option.bind_some, List.getElem?_eq_getElem (h.made _ _ hget).2] at hcontent
      refine iff_of_true ⟨ref, rfl⟩ ?_
      intro hnil
      rw [hnil] at hcontent
      cases hcontent
  · have hread : ∀ e ∈ s.groupedEdges.entries, s.heap[e.2]? =
        (s.groupedEdges.get? e.1).bind fun ref => s.heap[ref]? := by
      intro e he
      rw [Dict.get?_eq_some_iff.mpr (show (e.1, e.2) ∈ _ from he)]
      rfl
    calc s.edgeValues
        = s.groupedEdges.entries.filterMap (fun e => s.heap[e.2]?) := by
          rw [Grouping.edgeValues, List.filterMap_map]
          rfl
      _ = s.groupedEdges.entries.filterMap (fun e =>
            (s.groupedEdges.get? e.1).bind fun ref => s.heap[ref]?) :=
          List.filterMap_congr hread
      _ = s.groupedEdges.keys.filterMap (fun id =>
            (s.groupedEdges.get? id).bind fun ref => s.heap[ref]?) := by
          rw [Dict.keys, List.filterMap_map]
          rfl
      _ = keys.filterMap (fun key =>
            (s.groupedEdges.get? (groupedEdgeId key)).bind fun ref => s.heap[ref]?) := by
          rw [← hkeys, List.filterMap_map]
          rfl
      _ = keys.filterMap (fun key => mergedEdge key (members representatives done key)) :=
          List.filterMap_congr (fun key _ => h.content key)

theorem mem_members {edges : List Edge} {key : EdgeKey} {e : Edge} :
    e ∈ members representatives edges key ↔ e ∈ edges ∧ landing representatives e = some key := by
  simp [members]

/-- An edge keeps its protocol and port. -/
theorem landing_protocol_port {e : Edge} {key : EdgeKey}
    (h : landing representatives e = some key) :
    e.protocol = key.protocol ∧ e.destinationPort = key.destinationPort := by
  unfold landing at h
  split at h
  · split at h
    · cases h
    · cases h
      exact ⟨rfl, rfl⟩
  · cases h

/-- One grouped edge for each key that edges land on, and it is their merger. -/
theorem Merged.edgeValues_spec (h : Merged representatives input done s) :
    (s.edgeValues.map Edge.key).Nodup ∧
      (∀ key, key ∈ s.edgeValues.map Edge.key ↔ members representatives done key ≠ []) ∧
      ∀ g ∈ s.edgeValues, mergedEdge g.key (members representatives done g.key) = some g ∧
        g.id = groupedEdgeId g.key ∧
        g.tally = ((members representatives done g.key).map Edge.tally).sum := by
  obtain ⟨keys, hnodup, hmem, hvalues⟩ := h.edgeValues_eq
  have hspec : ∀ key g, mergedEdge key (members representatives done key) = some g →
      g.key = key ∧ g.id = groupedEdgeId key ∧
        g.tally = ((members representatives done key).map Edge.tally).sum := by
    intro key g hg
    exact mergedEdge_spec hg fun m hm => landing_protocol_port (mem_members.mp hm).2
  have hkeys : s.edgeValues.map Edge.key = keys := by
    rw [hvalues, List.map_filterMap]
    refine Eq.trans ?_ List.filterMap_some
    apply List.filterMap_congr
    intro key hkey
    cases hg : mergedEdge key (members representatives done key) with
    | none =>
      cases hms : members representatives done key with
      | nil => exact absurd hms ((hmem key).mp hkey)
      | cons m ms =>
        rw [hms] at hg
        cases hg
    | some g => rw [Option.map_some, (hspec key g hg).1]
  refine ⟨hkeys ▸ hnodup, hkeys ▸ hmem, ?_⟩
  intro g hg
  rw [hvalues, List.mem_filterMap] at hg
  obtain ⟨key, _, hg⟩ := hg
  obtain ⟨hkey, hid, htally⟩ := hspec key g hg
  rw [hkey]
  exact ⟨hg, hid, htally⟩

end merged

/-! ### Homes -/

/-- The home of a listed node. -/
def homeOf (nodes : List GraphNode) (id : String) : Option Home :=
  (nodes.find? (fun n => n.id = id)).map home

/-- From where to where traffic goes, and how. -/
structure Route where
  source : Home
  target : Home
  protocol : Protocol
  destinationPort : Nat
  deriving DecidableEq

def route (nodes : List GraphNode) (e : Edge) : Option Route :=
  (homeOf nodes e.sourceId).bind fun source =>
    (homeOf nodes e.targetId).map fun target => ⟨source, target, e.protocol, e.destinationPort⟩

/-- Both endpoints are among the nodes. -/
def Listed (nodes : List GraphNode) (e : Edge) : Prop :=
  e.sourceId ∈ nodes.map GraphNode.id ∧ e.targetId ∈ nodes.map GraphNode.id

instance (nodes : List GraphNode) (e : Edge) : Decidable (Listed nodes e) :=
  inferInstanceAs (Decidable (_ ∧ _))

/-- The measures of a route, added up. -/
def traffic (nodes : List GraphNode) (edges : List Edge) (r : Route) : Tally :=
  ((edges.filter (fun e => route nodes e = some r)).map Edge.tally).sum

theorem homeOf_eq {nodes : List GraphNode} (hids : (nodes.map GraphNode.id).Nodup) {n : GraphNode}
    (hn : n ∈ nodes) : homeOf nodes n.id = some (home n) := by
  cases hfind : nodes.find? (fun m => m.id = n.id) with
  | none =>
    rw [List.find?_eq_none] at hfind
    exact absurd (decide_eq_true rfl) (hfind n hn)
  | some m =>
    have hm : m ∈ nodes := List.mem_of_find?_eq_some hfind
    have hid : m.id = n.id := by simpa using List.find?_some hfind
    rw [homeOf, hfind, List.inj_on_of_nodup_map hids hm hn hid]
    rfl

theorem listed_of_route {nodes : List GraphNode} {e : Edge} {r : Route}
    (h : route nodes e = some r) : Listed nodes e := by
  have hmem : ∀ {id : String} {k : Home}, homeOf nodes id = some k →
      id ∈ nodes.map GraphNode.id := by
    intro id k hk
    obtain ⟨n, hfind, _⟩ := Option.map_eq_some_iff.mp hk
    have hid : n.id = id := by simpa using List.find?_some hfind
    exact hid ▸ List.mem_map_of_mem (List.mem_of_find?_eq_some hfind)
  obtain ⟨source, hsource, hrest⟩ := Option.bind_eq_some_iff.mp h
  obtain ⟨target, htarget, _⟩ := Option.map_eq_some_iff.mp hrest
  exact ⟨hmem hsource, hmem htarget⟩

section topology
variable {nodes : List GraphNode} {expanded : List String}

/-- A representative has a name. -/
theorem representative_ne_empty (hne : ∀ n ∈ nodes, n.id ≠ "") {n : GraphNode} (hn : n ∈ nodes) :
    representative nodes expanded n ≠ "" := by
  cases hc : collapsedInto expanded n with
  | none =>
    rw [representative_of_shown hc]
    exact hne n hn
  | some ns =>
    obtain ⟨k, hk⟩ := (named_naming nodes).shape ns _ (representative_of_collapsedInto hn hc)
    rw [hk]
    intro hempty
    have hlength := congrArg String.length hempty
    simp [String.length_append] at hlength

theorem landing_eq_some_iff (hids : (nodes.map GraphNode.id).Nodup)
    (hne : ∀ n ∈ nodes, n.id ≠ "") {e : Edge} {key : EdgeKey} :
    landing (placement nodes expanded).representatives e = some key ↔
      ∃ n ∈ nodes, ∃ m ∈ nodes, n.id = e.sourceId ∧ m.id = e.targetId ∧
        key = ⟨representative nodes expanded n, representative nodes expanded m, e.protocol,
          e.destinationPort⟩ := by
  have hplaced := placed_placement expanded hids
  constructor
  · intro h
    unfold landing at h
    split at h
    · next source target hsource htarget =>
      obtain ⟨n, hn, hnid⟩ := hplaced.listed _ _ hsource
      obtain ⟨m, hm, hmid⟩ := hplaced.listed _ _ htarget
      rw [← hnid, hplaced.representatives n hn] at hsource
      rw [← hmid, hplaced.representatives m hm] at htarget
      cases hsource
      cases htarget
      split at h
      · cases h
      · exact ⟨n, hn, m, hm, hnid, hmid, (Option.some.inj h).symm⟩
    · cases h
  · rintro ⟨n, hn, m, hm, hnid, hmid, rfl⟩
    unfold landing
    rw [← hnid, ← hmid, hplaced.representatives n hn, hplaced.representatives m hm]
    simp [representative_ne_empty hne hn, representative_ne_empty hne hm]

/-- An edge lands on some key if its endpoints are listed. -/
theorem isSome_landing_iff (hids : (nodes.map GraphNode.id).Nodup)
    (hne : ∀ n ∈ nodes, n.id ≠ "") {e : Edge} :
    (landing (placement nodes expanded).representatives e).isSome = true ↔ Listed nodes e := by
  rw [Option.isSome_iff_exists]
  constructor
  · rintro ⟨key, hkey⟩
    obtain ⟨n, hn, m, hm, hnid, hmid, _⟩ := (landing_eq_some_iff hids hne).mp hkey
    exact ⟨hnid ▸ List.mem_map_of_mem hn, hmid ▸ List.mem_map_of_mem hm⟩
  · rintro ⟨hsource, htarget⟩
    obtain ⟨n, hn, hnid⟩ := List.mem_map.mp hsource
    obtain ⟨m, hm, hmid⟩ := List.mem_map.mp htarget
    exact ⟨_, (landing_eq_some_iff hids hne).mpr ⟨n, hn, m, hm, hnid, hmid, rfl⟩⟩

theorem groupTopology_nodes_ids (hids : (nodes.map GraphNode.id).Nodup) (heap : List Edge)
    (edges : List Nat) : (groupTopology nodes heap edges expanded).nodes.map GraphNode.id =
      (placement nodes expanded).groupedNodes.keys := by
  have hplaced := placed_placement expanded hids
  unfold groupTopology Dict.keys
  rw [List.map_map]
  apply List.map_congr_left
  intro e he
  exact hplaced.shownId e.1 e.2 (Dict.get?_eq_some_iff.mpr he)

theorem representative_mem_nodes (hids : (nodes.map GraphNode.id).Nodup) (heap : List Edge)
    (edges : List Nat) {n : GraphNode} (hn : n ∈ nodes) :
    representative nodes expanded n ∈
      (groupTopology nodes heap edges expanded).nodes.map GraphNode.id := by
  obtain ⟨v, hv, _⟩ := (placed_placement expanded hids).shown n hn
  rw [groupTopology_nodes_ids hids]
  exact Dict.mem_keys_iff.mpr ⟨v, hv⟩

/-- A representative is returned, and is of the home of what it shows. -/
theorem homeOf_representative (hids : (nodes.map GraphNode.id).Nodup) (heap : List Edge)
    (edges : List Nat) {n : GraphNode} (hn : n ∈ nodes) :
    homeOf (groupTopology nodes heap edges expanded).nodes (representative nodes expanded n) =
      some (home n) := by
  have hplaced := placed_placement expanded hids
  obtain ⟨v, hv, hhome⟩ := hplaced.shown n hn
  have hnodup : ((groupTopology nodes heap edges expanded).nodes.map GraphNode.id).Nodup := by
    rw [groupTopology_nodes_ids hids]
    exact (placement nodes expanded).groupedNodes.nodup
  have hmem : v ∈ (groupTopology nodes heap edges expanded).nodes :=
    List.mem_map.mpr ⟨_, Dict.get?_eq_some_iff.mp hv, rfl⟩
  rw [← hplaced.shownId _ v hv, homeOf_eq hnodup hmem, hhome]

/-- A grouped edge is on the route of the edges that land on it. -/
theorem route_of_landing (hids : (nodes.map GraphNode.id).Nodup)
    (hne : ∀ n ∈ nodes, n.id ≠ "") (heap : List Edge) (edges : List Nat) {e g : Edge}
    (h : landing (placement nodes expanded).representatives e = some g.key) :
    route (groupTopology nodes heap edges expanded).nodes g = route nodes e := by
  obtain ⟨n, hn, m, hm, hnid, hmid, hkey⟩ := (landing_eq_some_iff hids hne).mp h
  have hsource : g.sourceId = _ := congrArg EdgeKey.sourceId hkey
  have htarget : g.targetId = _ := congrArg EdgeKey.targetId hkey
  have hprotocol : g.protocol = _ := congrArg EdgeKey.protocol hkey
  have hport : g.destinationPort = _ := congrArg EdgeKey.destinationPort hkey
  unfold route
  rw [hsource, htarget, hprotocol, hport, ← hnid, ← hmid, homeOf_representative hids heap edges hn,
    homeOf_representative hids heap edges hm, homeOf_eq hids hn, homeOf_eq hids hm]

variable (nodes expanded) in
/-- What the loop over the edges leaves. -/
theorem merged_groupTopology {heap : List Edge} {edges : List Nat}
    (hrefs : ∀ ref ∈ edges, ref < heap.length) :
    Merged (placement nodes expanded).representatives heap
      (edges.filterMap (fun ref => heap[ref]?))
      (edges.foldl (groupEdge (placement nodes expanded).representatives) { heap := heap }) := by
  have hstart : Merged (placement nodes expanded).representatives heap [] { heap := heap } := by
    constructor
    case content =>
      intro key
      rfl
    all_goals simp
  exact hstart.foldl edges hrefs

end topology

/-! ### Conservation -/

/-- A sum of failure counts is `null` if each of them is. -/
theorem failures_sum_eq_zero_iff {l : List (Option ℕ)} :
    (l.map failures).sum = 0 ↔ ∀ a ∈ l, a = none := by
  induction l with
  | nil => simp
  | cons a l ih =>
    rw [List.map_cons, List.sum_cons, List.forall_mem_cons, ← ih]
    cases a with
    | none => simp [failures]
    | some n =>
      cases (l.map failures).sum using WithZero.recZeroCoe with
      | zero => simp [failures]
      | coe m =>
        rw [failures, ← WithZero.coe_add]
        simp

theorem failures_eq_zero_iff {a : Option ℕ} : failures a = 0 ↔ a = none := by
  cases a with
  | none => simp [failures]
  | some n => simp [failures]

theorem failures_of_sum_tally (l : List Edge) :
    (l.map Edge.tally).sum.2.1 = ((l.map Edge.failedConnectionCount).map failures).sum := by
  induction l with
  | nil => rfl
  | cons e l ih =>
    simp only [List.map_cons, List.sum_cons, Prod.snd_add, Prod.fst_add, ih]
    rfl

/-- **Grouping conserves traffic.** Edges with listed endpoints are distributed over the grouped
    edges, between the representatives of their endpoints, and the others are dropped. Grouped
    edges differ in what they go between and in their ids, and go between returned nodes. The
    measures of each route, as natural numbers, are those of the input, whatever is expanded. The
    groups count the collapsed nodes, and what the input refers to is as it was. -/
theorem groupTopology_conserves (nodes : List GraphNode) (heap : List Edge) (edges : List Nat)
    (expanded : List String) (hids : (nodes.map GraphNode.id).Nodup)
    (hne : ∀ n ∈ nodes, n.id ≠ "") (hrefs : ∀ ref ∈ edges, ref < heap.length) :
    let input := edges.filterMap (fun ref => heap[ref]?)
    let t := groupTopology nodes heap edges expanded
    (∃ contributions : EdgeKey → List Edge,
      (t.edgeValues.flatMap (fun g => contributions g.key)).Perm
        (input.filter (fun e => Listed nodes e)) ∧
      ∀ g ∈ t.edgeValues, contributions g.key ≠ [] ∧
        (∀ e ∈ contributions g.key, ∃ n ∈ nodes, ∃ m ∈ nodes,
          n.id = e.sourceId ∧ m.id = e.targetId ∧
          g.key = ⟨representative nodes expanded n, representative nodes expanded m, e.protocol,
            e.destinationPort⟩) ∧
        g.tally = ((contributions g.key).map Edge.tally).sum ∧
        (g.failedConnectionCount = none ↔
          ∀ e ∈ contributions g.key, e.failedConnectionCount = none)) ∧
    (t.edgeValues.map Edge.key).Nodup ∧ (t.edgeValues.map Edge.id).Nodup ∧
    (∀ g ∈ t.edgeValues, Listed t.nodes g) ∧ (t.nodes.map GraphNode.id).Nodup ∧
    (∀ r, traffic t.nodes t.edgeValues r = traffic nodes input r) ∧
    workloads t.groups = (collapsed expanded nodes).length ∧
    (∀ ref, ref < heap.length → t.heap[ref]? = heap[ref]?) ∧
    ∀ ref ∈ t.edges, heap.length ≤ ref := by
  intro input t
  have hplaced := placed_placement expanded hids
  have hmerged := merged_groupTopology nodes expanded hrefs
  set representatives := (placement nodes expanded).representatives
  obtain ⟨hkeys, hmem, hspec⟩ := hmerged.edgeValues_spec
  have hnodes : (t.nodes.map GraphNode.id).Nodup := by
    rw [groupTopology_nodes_ids hids]
    exact (placement nodes expanded).groupedNodes.nodup
  have hperm : (t.edgeValues.flatMap (fun g => members representatives input g.key)).Perm
      (input.filter (fun e => Listed nodes e)) := by
    have hcover : ∀ e ∈ input, ∀ key, landing representatives e = some key →
        key ∈ t.edgeValues.map Edge.key := by
      intro e he key hkey
      exact (hmem key).mpr (List.ne_nil_of_mem (mem_members.mpr ⟨he, hkey⟩))
    have hparts := flatMap_filter_perm (landing representatives) input hkeys hcover
    rw [List.flatMap_map] at hparts
    refine hparts.trans (.of_eq (List.filter_congr fun e _ => ?_))
    rw [Bool.eq_iff_iff, isSome_landing_iff hids hne, decide_eq_true_iff]
  have hlands : ∀ g : Edge, ∀ e ∈ members representatives input g.key,
      landing representatives e = some g.key := fun g e he => (mem_members.mp he).2
  have hnonempty : ∀ g ∈ t.edgeValues, members representatives input g.key ≠ [] :=
    fun g hg => (hmem g.key).mp (List.mem_map_of_mem hg)
  refine ⟨⟨members representatives input, hperm, ?_⟩, hkeys, ?_, ?_, hnodes, ?_, hplaced.workloads,
    hmerged.kept, ?_⟩
  · intro g hg
    obtain ⟨_, _, htally⟩ := hspec g hg
    refine ⟨hnonempty g hg, ?_, htally, ?_⟩
    · intro e he
      exact (landing_eq_some_iff hids hne).mp (hlands g e he)
    · have hfailures : failures g.failedConnectionCount = _ :=
        (congrArg (fun x : Tally => x.2.1) htally).trans (failures_of_sum_tally _)
      rw [← failures_eq_zero_iff, hfailures, failures_sum_eq_zero_iff, List.forall_mem_map]
  · have hgids : t.edgeValues.map Edge.id = (t.edgeValues.map Edge.key).map groupedEdgeId := by
      rw [List.map_map]
      exact List.map_congr_left fun g hg => (hspec g hg).2.1
    rw [hgids]
    exact hkeys.map groupedEdgeId_injective
  · intro g hg
    obtain ⟨e, he⟩ := List.exists_mem_of_ne_nil _ (hnonempty g hg)
    obtain ⟨n, hn, m, hm, _, _, hkey⟩ := (landing_eq_some_iff hids hne).mp (hlands g e he)
    have hsource : g.sourceId = _ := congrArg EdgeKey.sourceId hkey
    have htarget : g.targetId = _ := congrArg EdgeKey.targetId hkey
    rw [Listed, hsource, htarget]
    exact ⟨representative_mem_nodes hids heap edges hn, representative_mem_nodes hids heap edges hm⟩
  · intro r
    have hroute : ∀ g ∈ t.edgeValues, ∀ e ∈ members representatives input g.key,
        decide (route nodes e = some r) = decide (route t.nodes g = some r) := by
      intro g _ e he
      rw [route_of_landing hids hne heap edges (hlands g e he)]
    calc traffic t.nodes t.edgeValues r
        = ((t.edgeValues.filter (fun g => route t.nodes g = some r)).map (fun g =>
            ((members representatives input g.key).map Edge.tally).sum)).sum := by
          rw [traffic, List.map_congr_left]
          intro g hg
          exact (hspec g (List.mem_of_mem_filter hg)).2.2
      _ = (((t.edgeValues.flatMap (fun g => members representatives input g.key)).filter
            (fun e => route nodes e = some r)).map Edge.tally).sum :=
          sum_flatMap_filter _ _ _ _ _ hroute
      _ = (((input.filter (fun e => Listed nodes e)).filter
            (fun e => route nodes e = some r)).map Edge.tally).sum :=
          ((hperm.filter _).map _).sum_eq
      _ = traffic nodes input r := by
          rw [traffic, List.filter_filter]
          congr 2
          apply List.filter_congr
          intro e _
          rw [← Bool.decide_and, decide_eq_decide]
          exact and_iff_left_of_imp listed_of_route
  · intro ref href
    obtain ⟨e, he, rfl⟩ := List.mem_map.mp href
    exact (hmerged.made e.1 e.2 (Dict.get?_eq_some_iff.mpr he)).1

/-- Two workloads of a namespace, and a node outside whose id is the one their group would get. -/
def rivalNodes : List GraphNode :=
  [⟨"a", .kind .deployment, some "x", "a", "a", 0, 0, false⟩,
    ⟨"b", .kind .deployment, some "x", "b", "b", 0, 0, false⟩,
    ⟨"namespace:\"x\"", .external, none, "EXTERNAL", "EXTERNAL", 0, 0, false⟩]

/-- Edges within the namespace and out of it, and one to a node that is not listed. -/
def rivalEdges : List Edge :=
  let edge (source target : String) (count : Nat) (failed : Option Nat) : Edge :=
    { id := source ++ target, sourceId := source, targetId := target, protocol := .tcp,
      destinationPort := 80, connectionCount := count, failedConnectionCount := failed,
      connectLatencyCount := none, connectLatencySumUs := none, bytesSent := none,
      bytesReceived := none, firstSeen := "2024-01-01T00:00:00Z",
      lastSeen := "2024-01-01T00:00:00Z" }
  [edge "a" "b" 1 none, edge "b" "a" 2 (some 0), edge "a" "a" 4 none,
    edge "b" "namespace:\"x\"" 8 none, edge "a" "c" 16 none]

/-- The three edges within the namespace become one, or stay apart. -/
theorem groupTopology_conserves_rival :
    let within : Route := ⟨.namespace "x", .namespace "x", .tcp, 80⟩
    let folded := groupTopology rivalNodes rivalEdges [0, 1, 2, 3, 4] []
    let unfolded := groupTopology rivalNodes rivalEdges [0, 1, 2, 3, 4] ["x"]
    traffic folded.nodes folded.edgeValues within = (7, WithZero.coe 0, 0, 0) ∧
      traffic unfolded.nodes unfolded.edgeValues within = (7, WithZero.coe 0, 0, 0) ∧
      workloads folded.groups = 2 := by
  intro within folded unfolded
  have hids : (rivalNodes.map GraphNode.id).Nodup := by decide
  have hne : ∀ n ∈ rivalNodes, n.id ≠ "" := by decide
  have hrefs : ∀ ref ∈ [0, 1, 2, 3, 4], ref < rivalEdges.length := by decide
  have hinput : traffic rivalNodes rivalEdges within = (7, WithZero.coe 0, 0, 0) := by rfl
  have hfolded := groupTopology_conserves rivalNodes rivalEdges [0, 1, 2, 3, 4] [] hids hne hrefs
  have hunfolded := groupTopology_conserves rivalNodes rivalEdges [0, 1, 2, 3, 4] ["x"] hids hne
    hrefs
  obtain ⟨_, _, _, _, _, htraffic, hworkloads, _⟩ := hfolded
  obtain ⟨_, _, _, _, _, htraffic', _⟩ := hunfolded
  exact ⟨(htraffic within).trans hinput, (htraffic' within).trans hinput,
    hworkloads.trans (by decide)⟩

end TopologyVisualizer.Frontend
