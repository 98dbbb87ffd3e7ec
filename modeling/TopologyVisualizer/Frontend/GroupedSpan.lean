import TopologyVisualizer.Framework.Timestamp
import TopologyVisualizer.Frontend.GroupedTraffic

/-! # Time Spans of Grouped Edges

    `groupTopology` keeps the lower of two `first_seen` and the greater of
    two `last_seen`, as texts. The API writes whole seconds without a
    fraction, and such a text is after those with one in its second.

    So a grouped edge spans its members in time exactly when whole seconds
    and fractions do not meet: for `first_seen` in the earliest second of
    the members, for `last_seen` in the latest (`grouped_span_iff`).
-/

namespace TopologyVisualizer.Frontend

open Backend Text

/-! ### Instants of one second -/

/-- A whole second and a fraction of it are both there. -/
def MixedAt (instants : List Int) (second : Int) : Prop :=
  (∃ t ∈ instants, t / 1000000 = second ∧ t % 1000000 = 0) ∧
    ∃ t ∈ instants, t / 1000000 = second ∧ t % 1000000 ≠ 0

section instants
variable {instants : List Int} {t : Int}

/-- The instant that is written first is the earliest unless the earliest second is mixed. -/
theorem earliest_iff (ht : t ∈ instants) (hfirst : ∀ z ∈ instants, rank t ≤ rank z) :
    (∀ z ∈ instants, t ≤ z) ↔
      ∀ second, (∀ z ∈ instants, second ≤ z / 1000000) → ¬ MixedAt instants second := by
  simp only [← not_lt (a := rank _), rank_lt_iff] at hfirst
  constructor
  · intro hearliest second hsecond hmixed
    obtain ⟨⟨x, hx, hxs, hwhole⟩, y, hy, hys, hfraction⟩ := hmixed
    -- the whole second is then the earliest itself, and is written last
    have htx := hearliest x hx
    have hts := hsecond t ht
    have hrank := hfirst y hy
    omega
  · intro hmixed z hz
    by_contra hlt
    have hrank := hfirst z hz
    refine hmixed (t / 1000000) ?_ ⟨⟨z, hz, by omega, by omega⟩, t, ht, rfl, by omega⟩
    intro w hw
    have hrank' := hfirst w hw
    omega

/-- The instant that is written last is the latest unless the latest second is mixed. -/
theorem latest_iff (ht : t ∈ instants) (hlast : ∀ z ∈ instants, rank z ≤ rank t) :
    (∀ z ∈ instants, z ≤ t) ↔
      ∀ second, (∀ z ∈ instants, z / 1000000 ≤ second) → ¬ MixedAt instants second := by
  simp only [← not_lt (a := rank _), rank_lt_iff] at hlast
  constructor
  · intro hlatest second hsecond hmixed
    obtain ⟨⟨x, hx, hxs, hwhole⟩, y, hy, hys, hfraction⟩ := hmixed
    -- a fraction is then the latest, and the whole second is written after it
    have hyt := hlatest y hy
    have hts := hsecond t ht
    have hrank := hlast x hx
    omega
  · intro hmixed z hz
    by_contra hlt
    have hrank := hlast z hz
    refine hmixed (t / 1000000) ?_ ⟨⟨t, ht, rfl, by omega⟩, z, hz, by omega, by omega⟩
    intro w hw
    have hrank' := hlast w hw
    omega

end instants

/-! ### Merged timestamps -/

theorem firstSeen_foldl_mergeInto (members : List Edge) (first : Edge) :
    (members.foldl mergeInto first).firstSeen =
      (members.map Edge.firstSeen).foldl lesser first.firstSeen := by
  induction members generalizing first with
  | nil => rfl
  | cons m ms ih =>
    rw [List.foldl_cons, ih]
    rfl

theorem lastSeen_foldl_mergeInto (members : List Edge) (first : Edge) :
    (members.foldl mergeInto first).lastSeen =
      (members.map Edge.lastSeen).foldl greater first.lastSeen := by
  induction members generalizing first with
  | nil => rfl
  | cons m ms ih =>
    rw [List.foldl_cons, ih]
    rfl

/-- The timestamps of a grouped edge are extreme texts of its members. -/
theorem mergedEdge_seen {key : EdgeKey} {members : List Edge} {g : Edge}
    (h : mergedEdge key members = some g) :
    (g.firstSeen ∈ members.map Edge.firstSeen ∧
      ∀ s ∈ members.map Edge.firstSeen, utf16 g.firstSeen ≤ utf16 s) ∧
    (g.lastSeen ∈ members.map Edge.lastSeen ∧
      ∀ s ∈ members.map Edge.lastSeen, utf16 s ≤ utf16 g.lastSeen) := by
  cases members with
  | nil => cases h
  | cons m ms =>
    cases h
    rw [firstSeen_foldl_mergeInto, lastSeen_foldl_mergeInto]
    constructor
    · exact foldl_select utf16 (fun _ _ h => if_pos h) (fun _ _ h => if_neg h)
        (ms.map Edge.firstSeen) m.firstSeen
    · -- the same loop, in the order turned around
      exact foldl_select (fun s => OrderDual.toDual (utf16 s)) (fun _ _ h => if_pos h)
        (fun _ _ h => if_neg h) (ms.map Edge.lastSeen) m.lastSeen

theorem mergedEdge_pair {key : EdgeKey} {a b g : Edge} (h : mergedEdge key [a, b] = some g) :
    g.firstSeen = lesser a.firstSeen b.firstSeen ∧ g.lastSeen = greater a.lastSeen b.lastSeen := by
  cases h
  exact ⟨rfl, rfl⟩

section span
variable {members : List Edge} {seen : Edge → String} {instant : Edge → Int}
  (hseen : ∀ m ∈ members, Writable (instant m) ∧ seen m = timestamp (instant m))

include hseen in
/-- A text of the members, as an instant of theirs. -/
theorem exists_instant {s : String} (hs : s ∈ members.map seen) :
    ∃ t ∈ members.map instant, Writable t ∧ s = timestamp t := by
  obtain ⟨m, hm, rfl⟩ := List.mem_map.mp hs
  exact ⟨instant m, List.mem_map_of_mem hm, hseen m hm⟩

include hseen in
theorem timestamp_mem {t : Int} (ht : t ∈ members.map instant) :
    Writable t ∧ timestamp t ∈ members.map seen := by
  obtain ⟨m, hm, rfl⟩ := List.mem_map.mp ht
  obtain ⟨hwritable, htext⟩ := hseen m hm
  exact ⟨hwritable, htext ▸ List.mem_map_of_mem hm⟩

include hseen in
theorem isLeast_iff {s : String} (hs : s ∈ members.map seen)
    (hle : ∀ s' ∈ members.map seen, utf16 s ≤ utf16 s') :
    (∃ t, s = timestamp t ∧ IsLeast {t | t ∈ members.map instant} t) ↔
      ∀ second, (∀ z ∈ members.map instant, second ≤ z / 1000000) →
        ¬ MixedAt (members.map instant) second := by
  obtain ⟨t, ht, hwritable, rfl⟩ := exists_instant hseen hs
  have hrank : ∀ z ∈ members.map instant, rank t ≤ rank z := by
    intro z hz
    obtain ⟨hwritable', htext⟩ := timestamp_mem hseen hz
    rw [← not_lt, ← timestamp_lt_iff hwritable' hwritable, not_lt]
    exact hle _ htext
  rw [← earliest_iff ht hrank]
  constructor
  · rintro ⟨t', heq, hmem, hlower⟩
    rw [timestamp_inj hwritable (timestamp_mem hseen hmem).1 heq]
    exact hlower
  · intro hearliest
    exact ⟨t, rfl, ht, hearliest⟩

include hseen in
theorem isGreatest_iff {s : String} (hs : s ∈ members.map seen)
    (hle : ∀ s' ∈ members.map seen, utf16 s' ≤ utf16 s) :
    (∃ t, s = timestamp t ∧ IsGreatest {t | t ∈ members.map instant} t) ↔
      ∀ second, (∀ z ∈ members.map instant, z / 1000000 ≤ second) →
        ¬ MixedAt (members.map instant) second := by
  obtain ⟨t, ht, hwritable, rfl⟩ := exists_instant hseen hs
  have hrank : ∀ z ∈ members.map instant, rank z ≤ rank t := by
    intro z hz
    obtain ⟨hwritable', htext⟩ := timestamp_mem hseen hz
    rw [← not_lt, ← timestamp_lt_iff hwritable hwritable', not_lt]
    exact hle _ htext
  rw [← latest_iff ht hrank]
  constructor
  · rintro ⟨t', heq, hmem, hupper⟩
    rw [timestamp_inj hwritable (timestamp_mem hseen hmem).1 heq]
    exact hupper
  · intro hlatest
    exact ⟨t, rfl, ht, hlatest⟩

end span

/-! ### Spans -/

/-- The input edges that `groupTopology` merges into a grouped edge. -/
def contributions (nodes : List GraphNode) (heap : List Edge) (edges : List Nat)
    (expanded : List String) (g : Edge) : List Edge :=
  members (placement nodes expanded).representatives (edges.filterMap (fun ref => heap[ref]?)) g.key

/-- **Spans of grouped edges.** With timestamps as the API writes them, `first_seen` denotes the
    earliest instant exactly when the earliest second does not have both a whole second and a
    fraction, and `last_seen` the latest exactly when the latest second does not. -/
theorem grouped_span_iff (nodes : List GraphNode) (heap : List Edge) (edges : List Nat)
    (expanded : List String) (hrefs : ∀ ref ∈ edges, ref < heap.length) (g : Edge)
    (hg : g ∈ (groupTopology nodes heap edges expanded).edgeValues) (first last : Edge → Int)
    (hseen : ∀ m ∈ contributions nodes heap edges expanded g,
      (Writable (first m) ∧ m.firstSeen = timestamp (first m)) ∧
        Writable (last m) ∧ m.lastSeen = timestamp (last m)) :
    let firsts := (contributions nodes heap edges expanded g).map first
    let lasts := (contributions nodes heap edges expanded g).map last
    ((∃ t, g.firstSeen = timestamp t ∧ IsLeast {t | t ∈ firsts} t) ↔
      ∀ second, (∀ t ∈ firsts, second ≤ t / 1000000) → ¬ MixedAt firsts second) ∧
    ((∃ t, g.lastSeen = timestamp t ∧ IsGreatest {t | t ∈ lasts} t) ↔
      ∀ second, (∀ t ∈ lasts, t / 1000000 ≤ second) → ¬ MixedAt lasts second) := by
  intro firsts lasts
  obtain ⟨_, _, hspec⟩ := (merged_groupTopology nodes expanded hrefs).edgeValues_spec
  obtain ⟨⟨hfirst, hfirst'⟩, hlast, hlast'⟩ := mergedEdge_seen (hspec g hg).1
  exact ⟨isLeast_iff (fun m hm => (hseen m hm).1) hfirst hfirst',
    isGreatest_iff (fun m hm => (hseen m hm).2) hlast hlast'⟩

/-- Two workloads of a namespace, and what they connect to. -/
def spanNodes : List GraphNode :=
  [⟨"a", .kind .deployment, some "x", "a", "a", 0, 0, false⟩,
    ⟨"b", .kind .deployment, some "x", "b", "b", 0, 0, false⟩,
    ⟨externalNodeId, .external, none, "EXTERNAL", "EXTERNAL", 0, 0, false⟩]

/-- A connection out of the namespace, seen once. -/
def spanEdge (source seen : String) : Edge :=
  { id := source, sourceId := source, targetId := externalNodeId, protocol := .tcp,
    destinationPort := 443, connectionCount := 1, failedConnectionCount := none,
    connectLatencyCount := none, connectLatencySumUs := none, bytesSent := none,
    bytesReceived := none, firstSeen := seen, lastSeen := seen }

/-- Collapsing the namespace merges the two. -/
theorem exists_grouped_span (s s' : String) :
    let heap := [spanEdge "a" s, spanEdge "b" s']
    ∃ g ∈ (groupTopology spanNodes heap [0, 1] []).edgeValues,
      contributions spanNodes heap [0, 1] [] g = heap ∧
      g.firstSeen = lesser s s' ∧ g.lastSeen = greater s s' := by
  intro heap
  have hids : (spanNodes.map GraphNode.id).Nodup := by decide
  have hne : ∀ n ∈ spanNodes, n.id ≠ "" := by decide
  obtain ⟨id, hid⟩ := ((named_naming spanNodes).named "x").mp (by decide)
  let key : EdgeKey := ⟨id, externalNodeId, .tcp, 443⟩
  have hlanding : ∀ n ∈ spanNodes, collapsedInto [] n = some "x" → ∀ seen,
      landing (placement spanNodes []).representatives (spanEdge n.id seen) = some key := by
    intro n hn hcollapsed seen
    refine (landing_eq_some_iff hids hne).mpr ⟨n, hn, _,
      List.mem_of_getElem? (i := 2) rfl, rfl, rfl, ?_⟩
    rw [Option.some.inj ((representative_of_collapsedInto hn hcollapsed).symm.trans hid),
      representative_of_shown rfl]
    rfl
  have ha := hlanding _ (List.mem_of_getElem? (i := 0) rfl) rfl s
  have hb := hlanding _ (List.mem_of_getElem? (i := 1) rfl) rfl s'
  have hmembers : members (placement spanNodes []).representatives heap key = heap := by
    unfold members
    rw [List.filter_eq_self]
    intro e he
    rcases List.mem_cons.mp he with rfl | he
    · exact decide_eq_true ha
    · rw [List.mem_singleton.mp he]
      exact decide_eq_true hb
  have hrefs : ∀ ref ∈ [0, 1], ref < heap.length := by
    show ∀ ref ∈ [0, 1], ref < 2
    decide
  obtain ⟨_, hmem, hspec⟩ := (merged_groupTopology spanNodes [] hrefs).edgeValues_spec
  have hthere : key ∈ List.map Edge.key
      (groupTopology spanNodes heap [0, 1] []).edgeValues := by
    refine (hmem key).mpr ?_
    show members _ heap key ≠ []
    rw [hmembers]
    exact List.cons_ne_nil _ _
  obtain ⟨g, hg, hkey⟩ := List.mem_map.mp hthere
  have hmerged := (hspec g hg).1
  change mergedEdge g.key (members _ heap g.key) = some g at hmerged
  rw [hkey, hmembers] at hmerged
  refine ⟨g, hg, ?_, ?_⟩
  · show members _ heap g.key = heap
    rw [hkey, hmembers]
  · have hpair := mergedEdge_pair hmerged
    simpa only [spanEdge] using hpair

/-- A second and a half after it: the second is written last, so it becomes `last_seen`, and the
    half becomes `first_seen`. -/
theorem grouped_span_inverted :
    let heap := [spanEdge "a" "2026-08-10T11:00:00Z", spanEdge "b" "2026-08-10T11:00:00.500000Z"]
    timestamp 1786359600000000 = "2026-08-10T11:00:00Z" ∧
    timestamp 1786359600500000 = "2026-08-10T11:00:00.500000Z" ∧
    ∃ g ∈ (groupTopology spanNodes heap [0, 1] []).edgeValues,
      contributions spanNodes heap [0, 1] [] g = heap ∧
      g.firstSeen = "2026-08-10T11:00:00.500000Z" ∧ g.lastSeen = "2026-08-10T11:00:00Z" := by
  intro heap
  refine ⟨by decide +kernel, by decide +kernel, ?_⟩
  obtain ⟨g, hg, hheap, hfirst, hlast⟩ :=
    exists_grouped_span "2026-08-10T11:00:00Z" "2026-08-10T11:00:00.500000Z"
  refine ⟨g, hg, hheap, hfirst.trans ?_, hlast.trans ?_⟩
  all_goals decide +kernel

/-- Two instants of one second that both have a fraction are spanned. -/
theorem grouped_span_halves :
    let heap := [spanEdge "a" "2026-08-10T11:00:00.500000Z",
      spanEdge "b" "2026-08-10T11:00:00.250000Z"]
    let instants : List Int := [1786359600500000, 1786359600250000]
    ∃ g ∈ (groupTopology spanNodes heap [0, 1] []).edgeValues,
      (∃ t, g.firstSeen = timestamp t ∧ IsLeast {t | t ∈ instants} t) ∧
        ∃ t, g.lastSeen = timestamp t ∧ IsGreatest {t | t ∈ instants} t := by
  intro heap instants
  obtain ⟨g, hg, hheap, _⟩ :=
    exists_grouped_span "2026-08-10T11:00:00.500000Z" "2026-08-10T11:00:00.250000Z"
  refine ⟨g, hg, ?_⟩
  let instant : Edge → Int := fun e =>
    if e.sourceId = "a" then 1786359600500000 else 1786359600250000
  have hinstants : (contributions spanNodes heap [0, 1] [] g).map instant = instants := by
    rw [hheap]
    rfl
  have hunmixed : ∀ second, ¬ MixedAt instants second := by
    rintro second ⟨⟨t, ht, _, hwhole⟩, _⟩
    have hfraction : ∀ t ∈ instants, t % 1000000 ≠ 0 := by decide
    exact hfraction t ht hwhole
  have hrefs : ∀ ref ∈ [0, 1], ref < heap.length := by decide
  have hseen : ∀ m ∈ contributions spanNodes heap [0, 1] [] g,
      (Writable (instant m) ∧ m.firstSeen = timestamp (instant m)) ∧
        Writable (instant m) ∧ m.lastSeen = timestamp (instant m) := by
    rw [hheap]
    decide +kernel
  obtain ⟨hfirst, hlast⟩ := grouped_span_iff spanNodes heap [0, 1] [] hrefs g hg instant instant hseen
  rw [hinstants] at hfirst hlast
  exact ⟨hfirst.mpr fun second _ => hunmixed second, hlast.mpr fun second _ => hunmixed second⟩

end TopologyVisualizer.Frontend
