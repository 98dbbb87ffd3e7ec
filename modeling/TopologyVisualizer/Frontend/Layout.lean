import Mathlib.Algebra.Order.Ring.Rat
import Mathlib.Tactic.Linarith
import TopologyVisualizer.Framework.Dict
import TopologyVisualizer.Framework.KeyedSum
import TopologyVisualizer.Framework.Text
import TopologyVisualizer.Frontend.Grouping

/-! # Graph Layout

    `frontend/src/features/graph/layout.ts`: the boxes of nodes, and where
    they are put from one poll to the next.

    * Arithmetic is exact: numbers are rationals.
    * Dagre is any function from the graph it is given to positions.
    * `localeCompare` compares sort keys, whatever these are (`Collation`).

    `separate` moves boxes down until none hits another. Each move puts a box
    below one that it will not hit again, so the loop ends (`settle`), and
    what it leaves keeps a gap between any two boxes (`separate_apart`). Boxes
    that come first and keep the gap already are not moved (`separate_kept`).
-/

namespace TopologyVisualizer.Frontend.Layout

open Backend

/-! ### Geometry -/

/-- `Position`: the upper left corner. -/
structure Position where
  x : ℚ
  y : ℚ
  deriving DecidableEq

structure Size where
  width : ℚ
  height : ℚ
  deriving DecidableEq

/-- A node on the canvas. -/
structure Box where
  x : ℚ
  y : ℚ
  width : ℚ
  height : ℚ
  deriving DecidableEq

/-- A box of some size at a position. -/
def Position.box (p : Position) (size : Size) : Box := ⟨p.x, p.y, size.width, size.height⟩

/-- Two boxes are less than a gap apart, in both directions. -/
def Near (gap : ℚ) (b o : Box) : Prop :=
  b.x < o.x + o.width + gap ∧ o.x < b.x + b.width + gap ∧
    b.y < o.y + o.height + gap ∧ o.y < b.y + b.height + gap

instance (gap : ℚ) (b o : Box) : Decidable (Near gap b o) :=
  inferInstanceAs (Decidable (_ ∧ _ ∧ _ ∧ _))

theorem Near.symm {gap : ℚ} {b o : Box} (h : Near gap b o) : Near gap o b :=
  ⟨h.2.1, h.1, h.2.2.2, h.2.2.1⟩

/-- Boxes that overlap are near each other. -/
theorem Near.mono {gap gap' : ℚ} (hgap : gap ≤ gap') {b o : Box} (h : Near gap b o) :
    Near gap' b o := by
  obtain ⟨h₁, h₂, h₃, h₄⟩ := h
  exact ⟨by linarith, by linarith, by linarith, by linarith⟩

/-- `NODE_MIN_DIAMETER`. -/
def nodeMinDiameter : ℚ := 84

/-- `NODE_MAX_DIAMETER`. -/
def nodeMaxDiameter : ℚ := 132

/-- `NODE_LABEL_BAND`. -/
def nodeLabelBand : ℚ := 18

/-- `NODE_GAP`. -/
def nodeGap : ℚ := 32

/-- `FAST_LAYOUT_EDGES`. -/
def fastLayoutEdges : Nat := 300

def nodeDiameter (degree : Nat) : ℚ :=
  min nodeMaxDiameter (nodeMinDiameter + max 0 (degree : ℚ) * 8)

/-! ### Degrees -/

/-- `neighbours.get(id)?.add(peer)`. -/
def addNeighbour (neighbours : Dict String (List String)) (id peer : String) :
    Dict String (List String) :=
  match neighbours.get? id with
  | none => neighbours
  | some peers => neighbours.set id (appendNew peers peer)

/-- One pass of the loop over the edges. -/
def meet (neighbours : Dict String (List String)) (edge : Edge) : Dict String (List String) :=
  if edge.sourceId = edge.targetId then neighbours
  else
    addNeighbour (addNeighbour neighbours edge.sourceId edge.targetId) edge.targetId edge.sourceId

/-- `neighbours`, after both loops. -/
def neighboursOf (nodes : List GraphNode) (edges : List Edge) : Dict String (List String) :=
  edges.foldl meet (nodes.foldl (fun d n => d.set n.id []) .empty)

def degreesOf (nodes : List GraphNode) (edges : List Edge) : Dict String Nat :=
  (neighboursOf nodes edges).entries.foldl (fun d e => d.set e.1 e.2.length) .empty

/-! ### Layout -/

/-- `topologySignature`. -/
def topologySignature (nodes : List GraphNode) (edges : List Edge) : String :=
  "::".intercalate
    ["|".intercalate (sortOn Text.utf16 (nodes.map GraphNode.id)),
      "|".intercalate (sortOn Text.utf16 (edges.map Edge.id))]

/-- What Dagre is given: nodes and edges in the order they are inserted, and which algorithm. -/
structure DagreGraph where
  nodes : List (String × Size)
  edges : List (String × String)
  fast : Bool

/-- Where Dagre puts the centre of a node. -/
abbrev Dagre := DagreGraph → String → Option Position

/-- How `localeCompare` orders strings: by a sort key. -/
structure Collation where
  key : String → List Nat

/-- What is kept from a layout: `PositionCache` and the signature. -/
structure LayoutCache where
  positions : Dict String Position
  signature : String

/-- `LayoutResult`. -/
structure LayoutResult extends LayoutCache where
  recomputed : Bool

/-- Fewer boxes reach below a box that was moved below one of them. -/
theorem length_filter_below {placed : List Box} {y : ℚ} {hit : Box} (hmem : hit ∈ placed)
    (h : y < hit.y + hit.height + nodeGap) :
    (placed.filter (fun o => hit.y + hit.height + nodeGap < o.y + o.height + nodeGap)).length <
      (placed.filter (fun o => y < o.y + o.height + nodeGap)).length := by
  refine length_filter_lt ?_ hmem (decide_eq_true h) (decide_eq_false (lt_irrefl _))
  intro o ho
  rw [decide_eq_true_eq] at ho ⊢
  exact h.trans ho

/-- The inner loop of `separate`: where a box ends up, and whether it was moved. -/
def settle (placed : List Box) (size : Size) (p : Position) (moved : Bool) : Position × Bool :=
  match _ : placed.find? (fun o => Near nodeGap (p.box size) o) with
  | none => (p, moved)
  | some hit => settle placed size ⟨p.x, hit.y + hit.height + nodeGap⟩ true
termination_by (placed.filter (fun o => p.y < o.y + o.height + nodeGap)).length
decreasing_by
  have hfind := ‹placed.find? _ = some hit›
  have hnear : Near nodeGap (p.box size) hit := by simpa using List.find?_some hfind
  exact length_filter_below (List.mem_of_find?_eq_some hfind) hnear.2.2.1

/-- The positions, and the boxes that are done. -/
structure Separation where
  positions : Dict String Position
  placed : List Box

/-- One pass of the loop of `separate`. -/
def place (boxOf : String → Size) (s : Separation) (id : String) : Separation :=
  let size := boxOf id
  let settled := settle s.placed size ((s.positions.get? id).getD ⟨0, 0⟩) false
  { positions := if settled.2 then s.positions.set id settled.1 else s.positions
    placed := s.placed ++ [settled.1.box size] }

def separate (order : List String) (positions : Dict String Position) (boxOf : String → Size) :
    Dict String Position :=
  (order.foldl (place boxOf) { positions := positions, placed := [] }).positions

/-- `boxOf`. -/
def boxOf (degrees : Option (Dict String Nat)) (id : String) : Size :=
  let diameter := nodeDiameter ((degrees.bind (fun d => d.get? id)).getD 0)
  { width := diameter, height := diameter + nodeLabelBand }

/-- The graph that Dagre lays out. Edges without a listed endpoint are left out. -/
def dagreGraph (collation : Collation) (nodes : List GraphNode) (edges : List Edge)
    (boxOf : String → Size) : DagreGraph :=
  let inserted := sortOn collation.key (nodes.map GraphNode.id)
  { nodes := inserted.map (fun id => (id, boxOf id))
    edges := ((sortOn (fun e => collation.key e.id) edges).filter (fun e =>
      e.sourceId ∈ inserted ∧ e.targetId ∈ inserted)).map (fun e => (e.sourceId, e.targetId))
    fast := fastLayoutEdges < edges.length }

/-- Where a node is put before boxes are separated: where it was, or where Dagre has it. -/
def startAt (previous : Option LayoutCache) (laid : String → Option Position)
    (boxOf : String → Size) (id : String) : Position :=
  match previous.bind (fun p => p.positions.get? id) with
  | some cached => cached
  | none =>
    match laid id with
    | some centre => ⟨centre.x - (boxOf id).width / 2, centre.y - (boxOf id).height / 2⟩
    | none => ⟨0, 0⟩

/-- Whether a node was placed before. -/
def isCached (previous : Option LayoutCache) (id : String) : Bool :=
  (previous.bind (fun p => p.positions.get? id)).isSome

/-- Cached nodes first, then by `localeCompare`. -/
def placeOrder (collation : Collation) (previous : Option LayoutCache) (nodes : List GraphNode) :
    List String :=
  sortOn (fun id => toLex (if isCached previous id then 0 else 1, collation.key id))
    (nodes.map GraphNode.id)

def layoutGraph (dagre : Dagre) (collation : Collation) (nodes : List GraphNode)
    (edges : List Edge) (previous : Option LayoutCache) (degrees : Option (Dict String Nat)) :
    LayoutResult :=
  let signature := topologySignature nodes edges
  match previous.filter (fun p => p.signature = signature) with
  | some p => { positions := p.positions, signature := signature, recomputed := false }
  | none =>
    let laid := dagre (dagreGraph collation nodes edges (boxOf degrees))
    let positions := nodes.foldl (fun d n =>
      d.set n.id (startAt previous laid (boxOf degrees) n.id)) .empty
    { positions := separate (placeOrder collation previous nodes) positions (boxOf degrees)
      signature := signature
      recomputed := true }

/-! ### Separating boxes -/

theorem settle_spec (placed : List Box) (size : Size) (p : Position) (moved : Bool) :
    (∀ o ∈ placed, ¬ Near nodeGap ((settle placed size p moved).1.box size) o) ∧
      (moved = true → (settle placed size p moved).2 = true) ∧
      ((settle placed size p moved).2 = false → (settle placed size p moved).1 = p) := by
  fun_induction settle placed size p moved with
  | case1 p moved hfind =>
    refine ⟨?_, fun h => h, fun _ => rfl⟩
    simpa using hfind
  | case2 p moved hit hfind ih =>
    obtain ⟨hfree, hmoved, _⟩ := ih
    refine ⟨hfree, fun _ => hmoved rfl, ?_⟩
    intro hfalse
    rw [hmoved rfl] at hfalse
    cases hfalse

/-- One pass of the inner loop: where a box that hits another one goes. -/
def push (placed : List Box) (size : Size) (p : Position) : Option Position :=
  (placed.find? (fun o => Near nodeGap (p.box size) o)).map fun hit =>
    ⟨p.x, hit.y + hit.height + nodeGap⟩

/-- **Termination**: the loop makes at most one pass for each box that reaches below, and ends
    where nothing is hit. -/
theorem settle_passes (placed : List Box) (size : Size) (p : Position) (moved : Bool) :
    ∃ k ≤ (placed.filter (fun o => p.y < o.y + o.height + nodeGap)).length,
      (fun p => (push placed size p).getD p)^[k] p = (settle placed size p moved).1 ∧
        push placed size (settle placed size p moved).1 = none := by
  fun_induction settle placed size p moved with
  | case1 p moved hfind =>
    refine ⟨0, Nat.zero_le _, rfl, ?_⟩
    rw [push, hfind]
    rfl
  | case2 p moved hit hfind ih =>
    obtain ⟨k, hk, hpasses, hend⟩ := ih
    have hnear : Near nodeGap (p.box size) hit := by simpa using List.find?_some hfind
    have hreach : p.y < hit.y + hit.height + nodeGap := hnear.2.2.1
    have hlt := length_filter_below (List.mem_of_find?_eq_some hfind) hreach
    refine ⟨k + 1, Nat.succ_le_of_lt (Nat.lt_of_le_of_lt hk hlt), ?_, hend⟩
    rw [Function.iterate_succ_apply, push, hfind]
    exact hpasses

/-- A box that hits nothing stays. -/
theorem settle_of_apart {placed : List Box} {size : Size} {p : Position}
    (h : ∀ o ∈ placed, ¬ Near nodeGap (p.box size) o) (moved : Bool) :
    settle placed size p moved = (p, moved) := by
  have hfind : placed.find? (fun o => Near nodeGap (p.box size) o) = none := by
    rw [List.find?_eq_none]
    simpa using h
  rw [settle]
  split
  · rfl
  · next hit hhit =>
    rw [hfind] at hhit
    cases hhit

section separate
variable (boxOf : String → Size)

/-- The box of a node, by the positions. -/
def boxAt (positions : Dict String Position) (id : String) : Box :=
  ((positions.get? id).getD ⟨0, 0⟩).box (boxOf id)

variable {boxOf}

theorem place_positions_ne (s : Separation) {id id' : String} (h : id' ≠ id) :
    (place boxOf s id).positions.get? id' = s.positions.get? id' := by
  simp only [place]
  split
  · rw [Dict.get?_set_ne _ _ h]
  · rfl

theorem place_isSome (s : Separation) {id id' : String} (h : (s.positions.get? id').isSome) :
    ((place boxOf s id).positions.get? id').isSome := by
  simp only [place]
  split
  · rw [Dict.get?_set]
    split
    · rfl
    · exact h
  · exact h

/-- Where a pass leaves its node. -/
theorem boxAt_place (s : Separation) (id : String) :
    boxAt boxOf (place boxOf s id).positions id =
      (settle s.placed (boxOf id) ((s.positions.get? id).getD ⟨0, 0⟩) false).1.box (boxOf id) := by
  have hspec := settle_spec s.placed (boxOf id) ((s.positions.get? id).getD ⟨0, 0⟩) false
  simp only [place, boxAt]
  split
  · rw [Dict.get?_set_self, Option.getD_some]
  · next hmoved => rw [hspec.2.2 (by simpa using hmoved)]

theorem place_placed (s : Separation) (id : String) :
    (place boxOf s id).placed = s.placed ++ [boxAt boxOf (place boxOf s id).positions id] := by
  rw [boxAt_place]
  rfl

/-- It keeps the gap to the boxes that are done. -/
theorem place_apart (s : Separation) (id : String) :
    ∀ o ∈ s.placed, ¬ Near nodeGap (boxAt boxOf (place boxOf s id).positions id) o := by
  rw [boxAt_place]
  exact (settle_spec s.placed (boxOf id) _ false).1

theorem foldl_place_positions {ids : List String} (s : Separation) {id : String} (h : id ∉ ids) :
    (ids.foldl (place boxOf) s).positions.get? id = s.positions.get? id := by
  induction ids generalizing s with
  | nil => rfl
  | cons id' ids ih =>
    rw [List.mem_cons, not_or] at h
    obtain ⟨hne, hmem⟩ := h
    rw [List.foldl_cons, ih _ hmem, place_positions_ne s hne]

theorem foldl_place_isSome (ids : List String) (s : Separation) {id : String}
    (h : (s.positions.get? id).isSome) :
    ((ids.foldl (place boxOf) s).positions.get? id).isSome := by
  induction ids generalizing s with
  | nil => exact h
  | cons id' ids ih =>
    rw [List.foldl_cons]
    exact ih _ (place_isSome s h)

variable (boxOf) in
/-- The boxes that are done are where their nodes are, a gap apart. -/
structure Separated (done : List String) (s : Separation) : Prop where
  placed : s.placed = done.map (boxAt boxOf s.positions)
  apart : done.Pairwise (fun a b =>
    ¬ Near nodeGap (boxAt boxOf s.positions b) (boxAt boxOf s.positions a))

theorem Separated.step {done : List String} {s : Separation} (h : Separated boxOf done s)
    {id : String} (hid : id ∉ done) : Separated boxOf (done ++ [id]) (place boxOf s id) := by
  have hold : ∀ a ∈ done, boxAt boxOf (place boxOf s id).positions a =
      boxAt boxOf s.positions a := by
    intro a ha
    have hne : a ≠ id := fun heq => hid (heq ▸ ha)
    unfold boxAt
    rw [place_positions_ne s hne]
  constructor
  · rw [place_placed, h.placed, List.map_append, List.map_singleton, List.map_congr_left hold]
  · rw [List.pairwise_append]
    refine ⟨h.apart.imp_of_mem ?_, List.pairwise_singleton _ _, ?_⟩
    · intro a b ha hb hab
      rwa [hold a ha, hold b hb]
    · intro a ha b hb
      rw [List.mem_singleton.mp hb, hold a ha]
      refine place_apart s id _ ?_
      rw [h.placed]
      exact List.mem_map_of_mem ha

theorem Separated.foldl (ids : List String) {done : List String} {s : Separation}
    (h : Separated boxOf done s) (hnodup : (done ++ ids).Nodup) :
    Separated boxOf (done ++ ids) (ids.foldl (place boxOf) s) := by
  induction ids generalizing done s with
  | nil => simpa using h
  | cons id ids ih =>
    have hid : id ∉ done := fun hmem =>
      (List.nodup_append.mp hnodup).2.2 id hmem id List.mem_cons_self rfl
    rw [List.append_cons] at hnodup ⊢
    exact ih (h.step hid) hnodup

/-- **Separation**: no two boxes are near each other. -/
theorem separate_apart {order : List String} (hnodup : order.Nodup)
    (positions : Dict String Position) {a b : String} (ha : a ∈ order) (hb : b ∈ order)
    (hab : a ≠ b) : ¬ Near nodeGap (boxAt boxOf (separate order positions boxOf) a)
      (boxAt boxOf (separate order positions boxOf) b) := by
  have hstart : Separated boxOf [] { positions := positions, placed := [] } :=
    ⟨rfl, List.Pairwise.nil⟩
  have hend : order.Pairwise (fun a b =>
      ¬ Near nodeGap (boxAt boxOf (separate order positions boxOf) b)
        (boxAt boxOf (separate order positions boxOf) a)) := (hstart.foldl order hnodup).apart
  have : Std.Symm (fun a b => ¬ Near nodeGap (boxAt boxOf (separate order positions boxOf) b)
      (boxAt boxOf (separate order positions boxOf) a)) := ⟨fun _ _ h hnear => h hnear.symm⟩
  exact fun hnear => List.Pairwise.forall hend ha hb hab hnear.symm

/-- Boxes that keep the gap are passed without a move. -/
theorem foldl_place_of_apart {positions : Dict String Position} (done ids : List String)
    (h : (done ++ ids).Pairwise (fun a b =>
      ¬ Near nodeGap (boxAt boxOf positions b) (boxAt boxOf positions a))) :
    ids.foldl (place boxOf) { positions := positions, placed := done.map (boxAt boxOf positions) } =
      { positions := positions, placed := (done ++ ids).map (boxAt boxOf positions) } := by
  induction ids generalizing done with
  | nil => simp
  | cons id ids ih =>
    have hfree : ∀ o ∈ done.map (boxAt boxOf positions),
        ¬ Near nodeGap (((positions.get? id).getD ⟨0, 0⟩).box (boxOf id)) o := by
      intro o ho
      obtain ⟨a, ha, rfl⟩ := List.mem_map.mp ho
      exact (List.pairwise_append.mp h).2.2 a ha id List.mem_cons_self
    have hstep : place boxOf { positions := positions, placed := done.map (boxAt boxOf positions) }
        id = { positions := positions, placed := (done ++ [id]).map (boxAt boxOf positions) } := by
      simp only [place, settle_of_apart hfree, List.map_append, List.map_singleton]
      rfl
    rw [List.append_cons] at h ⊢
    rw [List.foldl_cons, hstep, ih _ h]

/-- **Stability**: boxes in front that keep the gap stay where they are. -/
theorem separate_kept {front rest : List String} (hnodup : (front ++ rest).Nodup)
    {positions : Dict String Position} (h : front.Pairwise (fun a b =>
      ¬ Near nodeGap (boxAt boxOf positions b) (boxAt boxOf positions a)))
    {id : String} (hid : id ∈ front) :
    (separate (front ++ rest) positions boxOf).get? id = positions.get? id := by
  have hfront := foldl_place_of_apart [] front h
  have hrest : id ∉ rest := fun hmem => (List.nodup_append.mp hnodup).2.2 id hid id hmem rfl
  rw [List.map_nil] at hfront
  rw [separate, List.foldl_append, hfront, foldl_place_positions _ hrest]

end separate

/-! ### One layout -/

section layout
variable {dagre : Dagre} {collation : Collation} {nodes : List GraphNode} {edges : List Edge}
  {previous : Option LayoutCache} {degrees : Option (Dict String Nat)}

theorem layoutGraph_of_hit {p : LayoutCache} (h : previous = some p)
    (hsig : p.signature = topologySignature nodes edges) :
    layoutGraph dagre collation nodes edges previous degrees =
      { positions := p.positions, signature := topologySignature nodes edges,
        recomputed := false } := by
  have hfilter : previous.filter (fun p => p.signature = topologySignature nodes edges) = some p :=
    Option.filter_eq_some_iff.mpr ⟨h, decide_eq_true hsig⟩
  simp only [layoutGraph, hfilter]

theorem layoutGraph_of_miss
    (h : ∀ p, previous = some p → p.signature ≠ topologySignature nodes edges) :
    layoutGraph dagre collation nodes edges previous degrees =
      { positions := separate (placeOrder collation previous nodes)
          (nodes.foldl (fun d n => d.set n.id (startAt previous
            (dagre (dagreGraph collation nodes edges (boxOf degrees))) (boxOf degrees) n.id)) .empty)
          (boxOf degrees)
        signature := topologySignature nodes edges
        recomputed := true } := by
  have hfilter : previous.filter (fun p => p.signature = topologySignature nodes edges) = none := by
    rw [Option.filter_eq_none_iff]
    simpa using h
  simp only [layoutGraph, hfilter]

theorem get?_start {ν : Type} (start : String → ν) {n : GraphNode} (hn : n ∈ nodes) :
    (nodes.foldl (fun d n => d.set n.id (start n.id)) Dict.empty).get? n.id =
      some (start n.id) := by
  rw [Dict.get?_foldl_set_map GraphNode.id (fun n => start n.id)]
  cases hlast : (nodes.filter (fun m => m.id = n.id)).getLast? with
  | none =>
    rw [List.getLast?_eq_none_iff, List.filter_eq_nil_iff] at hlast
    exact absurd (decide_eq_true rfl) (hlast n hn)
  | some m =>
    have hid : m.id = n.id := by simpa using (List.mem_filter.mp (List.mem_of_getLast? hlast)).2
    rw [Option.map_some, hid]

variable (collation previous nodes) in
theorem placeOrder_perm : (placeOrder collation previous nodes).Perm (nodes.map GraphNode.id) :=
  sortOn_perm _ _

variable (collation previous nodes) in
/-- Cached nodes are in front. -/
theorem placeOrder_split :
    (placeOrder collation previous nodes).filter (isCached previous) ++
      (placeOrder collation previous nodes).filter (fun id => !isCached previous id) =
        placeOrder collation previous nodes := by
  apply filter_append_filter_not
  refine (sortOn_pairwise _ _).imp ?_
  intro a b hab hb
  rw [Prod.Lex.toLex_le_toLex] at hab
  cases ha : isCached previous a with
  | true => rfl
  | false => simp [ha, hb] at hab

section miss
variable (hids : (nodes.map GraphNode.id).Nodup)
  (hmiss : ∀ p, previous = some p → p.signature ≠ topologySignature nodes edges)

include hmiss in
theorem layoutGraph_miss_placed {n : GraphNode} (hn : n ∈ nodes) :
    ∃ q, (layoutGraph dagre collation nodes edges previous degrees).positions.get? n.id = some q := by
  rw [layoutGraph_of_miss hmiss, ← Option.isSome_iff_exists]
  apply foldl_place_isSome
  rw [get?_start _ hn]
  rfl

include hids hmiss in
theorem layoutGraph_miss_apart {n m : GraphNode} (hn : n ∈ nodes) (hm : m ∈ nodes)
    (hne : n.id ≠ m.id) :
    ¬ Near nodeGap
      (boxAt (boxOf degrees)
        (layoutGraph dagre collation nodes edges previous degrees).positions n.id)
      (boxAt (boxOf degrees)
        (layoutGraph dagre collation nodes edges previous degrees).positions m.id) := by
  have hperm := placeOrder_perm collation nodes previous
  rw [layoutGraph_of_miss hmiss]
  exact separate_apart (hperm.nodup_iff.mpr hids) _ (hperm.mem_iff.mpr (List.mem_map_of_mem hn))
    (hperm.mem_iff.mpr (List.mem_map_of_mem hm)) hne

include hids hmiss in
/-- Nodes that were placed before stay, if their boxes keep the gap. -/
theorem layoutGraph_miss_kept {p : LayoutCache} (hp : previous = some p)
    (hapart : ∀ n ∈ nodes, ∀ m ∈ nodes, n.id ≠ m.id →
      (p.positions.get? n.id).isSome → (p.positions.get? m.id).isSome →
      ¬ Near nodeGap (boxAt (boxOf degrees) p.positions n.id)
        (boxAt (boxOf degrees) p.positions m.id))
    {n : GraphNode} (hn : n ∈ nodes) {q : Position} (hq : p.positions.get? n.id = some q) :
    (layoutGraph dagre collation nodes edges previous degrees).positions.get? n.id = some q := by
  subst hp
  have hperm := placeOrder_perm collation nodes (some p)
  have hnodup : (placeOrder collation (some p) nodes).Nodup := hperm.nodup_iff.mpr hids
  rw [layoutGraph_of_miss hmiss]
  set start := nodes.foldl (fun d n => d.set n.id (startAt (some p)
    (dagre (dagreGraph collation nodes edges (boxOf degrees))) (boxOf degrees) n.id)) Dict.empty
    with hstart
  -- a cached node starts from where it was
  have hcached : ∀ m ∈ nodes, (p.positions.get? m.id).isSome →
      start.get? m.id = p.positions.get? m.id := by
    intro m hm hsome
    obtain ⟨q', hq'⟩ := Option.isSome_iff_exists.mp hsome
    rw [hstart, get?_start _ hm, startAt, Option.bind_some, hq']
  have hfront : ((placeOrder collation (some p) nodes).filter (isCached (some p))).Pairwise
      (fun a b => ¬ Near nodeGap (boxAt (boxOf degrees) start b) (boxAt (boxOf degrees) start a)) := by
    refine List.Pairwise.imp_of_mem ?_ (hnodup.filter _)
    intro a b ha hb hab
    obtain ⟨ha, hca⟩ := List.mem_filter.mp ha
    obtain ⟨hb, hcb⟩ := List.mem_filter.mp hb
    obtain ⟨na, hna, rfl⟩ := List.mem_map.mp (hperm.mem_iff.mp ha)
    obtain ⟨nb, hnb, rfl⟩ := List.mem_map.mp (hperm.mem_iff.mp hb)
    unfold boxAt
    rw [hcached na hna hca, hcached nb hnb hcb]
    exact hapart nb hnb na hna (Ne.symm hab) hcb hca
  have hmem : n.id ∈ (placeOrder collation (some p) nodes).filter (isCached (some p)) := by
    refine List.mem_filter.mpr ⟨hperm.mem_iff.mpr (List.mem_map_of_mem hn), ?_⟩
    rw [isCached, Option.bind_some, hq]
    rfl
  have hsplit := placeOrder_split collation nodes (some p)
  rw [← hsplit] at hnodup
  have hkept := separate_kept hnodup hfront hmem
  rw [hsplit] at hkept
  rw [hkept, hcached n hn (by rw [hq]; rfl), hq]

end miss

end layout

end TopologyVisualizer.Frontend.Layout
