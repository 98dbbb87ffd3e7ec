import TopologyVisualizer.Framework.LockOrder
import TopologyVisualizer.Agent.Conservation
import TopologyVisualizer.Backend.PurgeRace
import TopologyVisualizer.Acceptance
import Mathlib.Data.Sum.Order

/-! # Locks of Concurrent Ingest Transactions

    Any number of `ingest_batch` transactions, each on a connection of its
    own. An INSERT locks the row it inserts or updates, and the lock is kept
    to the end of the transaction; the insert of a bucket then locks the two
    node rows it references.

    The rows are locked in three groups: the batch row, the node rows in the
    order of `sorted`, the bucket rows in the order in which `Flush` sorted
    the edges. A bucket row also has a minute, but a batch has one edge for
    each key, so the keys alone order the bucket rows of a transaction. The
    reference locks come after bucket locks and break the order of the
    groups; they are covered by the locks the transaction took on its nodes.

    Both sorts compare by code points: Python does, and the order of UTF-8
    bytes, which Go compares, is the same.
-/

open LTS LockOrder

namespace TopologyVisualizer.IngestLocks

open Backend Backend.Postgres
open Backend.PurgeRace (nodeIds)

/-! ### Rows and locks -/

/-- A row of one of the three tables. -/
inductive Row where
  | batch (batchId : String)
  | node (nid : String)
  | bucket (pk : BucketPk)
  deriving DecidableEq

inductive Mode where
  /-- Of an INSERT on the row it inserts or updates. -/
  | exclusive
  /-- Of a foreign key on the row it references. -/
  | keyShare
  deriving DecidableEq

structure Lock where
  row : Row
  mode : Mode
  deriving DecidableEq

/-- Two transactions cannot hold both. -/
def Lock.Conflicts (l l' : Lock) : Prop :=
  l.row = l'.row ∧ (l.mode = .exclusive ∨ l'.mode = .exclusive)

instance (l l' : Lock) : Decidable (l.Conflicts l') :=
  inferInstanceAs (Decidable (_ ∧ _))

/-- The locks the insert of one bucket asks for. -/
def bucketRequests (clusterId : String) (e : EdgeObservation) : List Lock :=
  [⟨.bucket (Database.pkOf clusterId e), .exclusive⟩, ⟨.node e.source.id, .keyShare⟩,
    ⟨.node e.target.id, .keyShare⟩]

/-- The locks `ingest_batch` asks for, in the order of its statements. -/
def requests (batch : IngestBatch) : List Lock :=
  ⟨.batch batch.batchId, .exclusive⟩ ::
    ((nodeIds batch).map (fun nid => ⟨.node nid, .exclusive⟩) ++
      batch.edges.flatMap (bucketRequests batch.clusterId))

/-! ### State -/

/-- An open transaction and the locks it has. -/
structure Txn where
  batch : IngestBatch
  receivedAt : Datetime
  held : List Lock

/-- The lock the transaction asks for next. -/
def Txn.next (t : Txn) : Option Lock := (requests t.batch)[t.held.length]?

structure State where
  /-- What is committed. -/
  db : Database
  /-- The transaction of each connection. -/
  active : Nat → Option Txn

def State.held (s : State) (c : Nat) : List Lock := (s.active c).elim [] Txn.held

def State.next (s : State) (c : Nat) : Option Lock := (s.active c).bind Txn.next

/-- The wait-for graph. -/
def State.WaitsFor (s : State) : Nat → Nat → Prop := Waits Lock.Conflicts s.held s.next

/-- No other transaction has a lock that conflicts with this one. -/
def State.Free (s : State) (c : Nat) (l : Lock) : Prop :=
  ∀ d, d ≠ c → ∀ l' ∈ s.held d, ¬ l.Conflicts l'

def State.set (s : State) (c : Nat) (t : Option Txn) : State :=
  { s with active := fun d => if d = c then t else s.active d }

/-! ### The system -/

inductive Label where
  | begin (c : Nat) (batch : IngestBatch) (receivedAt : Datetime)
  /-- The transaction gets the lock it asks for. -/
  | lock (c : Nat)
  /-- The batch row is there: nothing is inserted, and the transaction ends. -/
  | alreadyIngested (c : Nat)
  | commit (c : Nat)
  | rollback (c : Nat)

/-- Transactions over batches that meet `batches`, on whatever was committed before. -/
def system (batches : IngestBatch → Prop) : System State Label where
  init := fun s => ∀ c, s.active c = none
  step := fun s l s' =>
    match l with
    | .begin c batch receivedAt =>
        s.active c = none ∧ batches batch ∧ s' = s.set c (some ⟨batch, receivedAt, []⟩)
    | .lock c =>
        ∃ t l, s.active c = some t ∧ t.next = some l ∧ s.Free c l ∧
          -- the first lock is the one of the gate
          (t.held = [] → s.db.ingestBatches.contains t.batch.batchId = false) ∧
          s' = s.set c (some { t with held := t.held ++ [l] })
    | .alreadyIngested c =>
        ∃ t l, s.active c = some t ∧ t.held = [] ∧ t.next = some l ∧ s.Free c l ∧
          s.db.ingestBatches.contains t.batch.batchId = true ∧ s' = s.set c none
    | .commit c =>
        ∃ t db', s.active c = some t ∧ t.next = none ∧
          s.db.ingestBatch t.batch t.receivedAt = .ok (db', .ingested) ∧
          s' = { s.set c none with db := db' }
    | .rollback c =>
        s.active c ≠ none ∧ s' = s.set c none

/-! ### The order of the rows -/

/-- Batch rows, then node rows by id, then bucket rows by edge key. -/
def Row.rank : Row → String ⊕ₗ (String ⊕ₗ EdgeKey)
  | .batch batchId => Sum.inlₗ batchId
  | .node nid => Sum.inrₗ (Sum.inlₗ nid)
  | .bucket pk => Sum.inrₗ (Sum.inrₗ pk.edge)

def Lock.rank (l : Lock) : String ⊕ₗ (String ⊕ₗ EdgeKey) := l.row.rank

theorem Lock.Conflicts.symm {l l' : Lock} (h : l.Conflicts l') : l'.Conflicts l :=
  ⟨h.1.symm, h.2.symm⟩

theorem Lock.Conflicts.rank_eq {l l' : Lock} (h : l.Conflicts l') : l.rank = l'.rank :=
  congrArg Row.rank h.1

theorem batch_lt_node (batchId nid : String) : (Row.batch batchId).rank < (Row.node nid).rank :=
  Sum.Lex.inl_lt_inr _ _

theorem batch_lt_bucket (batchId : String) (pk : BucketPk) :
    (Row.batch batchId).rank < (Row.bucket pk).rank :=
  Sum.Lex.inl_lt_inr _ _

theorem node_lt_node {nid nid' : String} (h : nid < nid') :
    (Row.node nid).rank < (Row.node nid').rank :=
  Sum.Lex.inr_lt_inr_iff.mpr (Sum.Lex.inl_lt_inl_iff.mpr h)

theorem node_lt_bucket (nid : String) (pk : BucketPk) :
    (Row.node nid).rank < (Row.bucket pk).rank :=
  Sum.Lex.inr_lt_inr_iff.mpr (Sum.Lex.inl_lt_inr _ _)

theorem bucket_lt_bucket {pk pk' : BucketPk} (h : pk.edge < pk'.edge) :
    (Row.bucket pk).rank < (Row.bucket pk').rank :=
  Sum.Lex.inr_lt_inr_iff.mpr (Sum.Lex.inr_lt_inr_iff.mpr h)

/-- A lock on a row that is held exclusively is covered. -/
theorem covered {held : List Lock} {row : Row} {mode : Mode} (h : ⟨row, .exclusive⟩ ∈ held) :
    Admissible Lock.Conflicts Lock.rank held ⟨row, mode⟩ :=
  .inr ⟨_, h, fun _ hconf => ⟨hconf.1, .inl rfl⟩⟩

/-- The bucket inserts keep the order, once the nodes are locked. -/
theorem bucketRequests_inOrder (clusterId : String) {edges : List EdgeObservation}
    {held : List Lock} (hsorted : (edges.map EdgeObservation.key).Pairwise (· < ·))
    (hbelow : ∀ l ∈ held, ∀ e ∈ edges, l.rank < (Row.bucket (Database.pkOf clusterId e)).rank)
    (hnodes : ∀ e ∈ edges, ⟨.node e.source.id, .exclusive⟩ ∈ held ∧
      ⟨.node e.target.id, .exclusive⟩ ∈ held) :
    InOrder Lock.Conflicts Lock.rank held (edges.flatMap (bucketRequests clusterId)) := by
  induction edges generalizing held with
  | nil => trivial
  | cons e es ih =>
    rw [List.map_cons, List.pairwise_cons] at hsorted
    obtain ⟨hsource, htarget⟩ := hnodes e List.mem_cons_self
    rw [List.flatMap_cons, inOrder_append]
    constructor
    · refine ⟨.inl fun l hl => hbelow l hl e List.mem_cons_self, ?_, ?_, trivial⟩
      · exact covered (List.mem_append_left _ hsource)
      · exact covered (List.mem_append_left _ (List.mem_append_left _ htarget))
    · apply ih hsorted.2
      · intro l hl e' he'
        rcases List.mem_append.mp hl with hl | hl
        · exact hbelow l hl e' (List.mem_cons_of_mem _ he')
        · -- the locks of this insert: its bucket, and two nodes
          simp only [bucketRequests, List.mem_cons, List.not_mem_nil, or_false] at hl
          rcases hl with rfl | rfl | rfl
          · exact bucket_lt_bucket (hsorted.1 e'.key (List.mem_map_of_mem he'))
          · exact node_lt_bucket _ _
          · exact node_lt_bucket _ _
      · intro e' he'
        obtain ⟨hsource', htarget'⟩ := hnodes e' (List.mem_cons_of_mem _ he')
        exact ⟨List.mem_append_left _ hsource', List.mem_append_left _ htarget'⟩

/-- **The order of one transaction**: with its edges sorted by key, every request is
    admissible. -/
theorem requests_inOrder {batch : IngestBatch}
    (hsorted : (batch.edges.map EdgeObservation.key).Pairwise (· < ·)) :
    InOrder Lock.Conflicts Lock.rank [] (requests batch) := by
  have hfirst : InOrder Lock.Conflicts Lock.rank [⟨.batch batch.batchId, .exclusive⟩]
      ((nodeIds batch).map (fun nid => (⟨.node nid, .exclusive⟩ : Lock))) := by
    apply inOrder_of_increasing
    · intro l' hl' l hl
      obtain ⟨nid, -, rfl⟩ := List.mem_map.mp hl
      rw [List.mem_singleton.mp hl']
      exact batch_lt_node _ _
    · rw [List.pairwise_map]
      exact (sortOn_id_strict (Dict.nodup _)).imp fun h => node_lt_node h
  refine ⟨.inl fun l' hl' => absurd hl' List.not_mem_nil, inOrder_append.mpr ⟨hfirst, ?_⟩⟩
  apply bucketRequests_inOrder batch.clusterId hsorted
  · intro l hl e _
    rcases List.mem_append.mp hl with hl | hl
    · rw [List.mem_singleton.mp hl]
      exact batch_lt_bucket _ _
    · obtain ⟨nid, -, rfl⟩ := List.mem_map.mp hl
      exact node_lt_bucket _ _
  · intro e he
    have hlocked : ∀ nid ∈ (Database.collectNodes batch.edges).keys,
        (⟨.node nid, .exclusive⟩ : Lock) ∈ [⟨.batch batch.batchId, .exclusive⟩] ++
          (nodeIds batch).map (fun nid => (⟨.node nid, .exclusive⟩ : Lock)) := by
      intro nid hnid
      exact List.mem_append_right _ (List.mem_map_of_mem (mem_sortOn.mpr hnid))
    obtain ⟨hsource, htarget⟩ := Database.mem_collectNodes_of_edge he
    exact ⟨hlocked _ hsource, hlocked _ htarget⟩

/-! ### Reachable states -/

/-- What every reachable state has. -/
structure Inv (batches : IngestBatch → Prop) (s : State) : Prop where
  granted : Granted Lock.Conflicts s.held
  ofBatches : ∀ c t, s.active c = some t → batches t.batch
  /-- A transaction holds a first part of what it asks for. -/
  started : ∀ c t, s.active c = some t → t.held <+: requests t.batch

/-- The next lock comes right after what is held. -/
theorem Txn.requests_eq {t : Txn} {l : Lock} (hstarted : t.held <+: requests t.batch)
    (hnext : t.next = some l) : ∃ rest, requests t.batch = t.held ++ l :: rest := by
  obtain ⟨rest, hrest⟩ := hstarted
  unfold Txn.next at hnext
  rw [← hrest, List.getElem?_append_right (le_refl _), Nat.sub_self] at hnext
  cases rest with
  | nil => cases hnext
  | cons m rest =>
    cases hnext
    exact ⟨rest, hrest.symm⟩

section steps
variable {batches : IngestBatch → Prop} {s s' : State} {c : Nat}

@[simp] theorem set_active_same (t : Option Txn) : (s.set c t).active c = t := by
  simp [State.set]

@[simp] theorem set_active_other {d : Nat} (h : d ≠ c) (t : Option Txn) :
    (s.set c t).active d = s.active d := by
  simp [State.set, h]

theorem held_eq {t : Txn} (h : s.active c = some t) : s.held c = t.held := by
  simp [State.held, h]

theorem held_set_other {d : Nat} (h : d ≠ c) (t : Option Txn) :
    (s.set c t).held d = s.held d := by
  simp [State.held, h]

/-- Opening and ending a transaction: nobody gets a lock. -/
theorem Inv.set_unlocked (h : Inv batches s) {t : Option Txn}
    (ht : ∀ u, t = some u → batches u.batch ∧ u.held = []) : Inv batches (s.set c t) := by
  have hactive : ∀ d u, (s.set c t).active d = some u →
      (batches u.batch ∧ u.held = []) ∨ s.active d = some u := by
    intro d u hu
    by_cases hd : d = c
    · rw [hd, set_active_same] at hu
      exact .inl (ht u hu)
    · rw [set_active_other hd] at hu
      exact .inr hu
  constructor
  · apply h.granted.mono
    intro d l hl
    by_cases hd : d = c
    · rw [hd] at hl ⊢
      cases t with
      | none => simp [State.held] at hl
      | some u =>
        rw [held_eq (set_active_same _), (ht u rfl).2] at hl
        cases hl
    · rwa [held_set_other hd] at hl
  · intro d u hu
    exact (hactive d u hu).elim (fun hnew => hnew.1) (fun hold => h.ofBatches d u hold)
  · intro d u hu
    rcases hactive d u hu with hnew | hold
    · rw [hnew.2]
      exact ⟨_, rfl⟩
    · exact h.started d u hold

/-- A transaction gets the next lock it asks for. -/
theorem Inv.lock (h : Inv batches s) {t : Txn} {l : Lock} (ht : s.active c = some t)
    (hnext : t.next = some l) (hfree : s.Free c l) :
    Inv batches (s.set c (some { t with held := t.held ++ [l] })) := by
  constructor
  · apply h.granted.acquire (fun _ _ hconf => hconf.symm) hfree
    · rw [held_eq (set_active_same _), held_eq ht]
    · exact fun d hd => held_set_other hd _
  · intro d u hu
    by_cases hd : d = c
    · rw [hd, set_active_same] at hu
      cases hu
      exact h.ofBatches c t ht
    · rw [set_active_other hd] at hu
      exact h.ofBatches d u hu
  · intro d u hu
    by_cases hd : d = c
    · rw [hd, set_active_same] at hu
      cases hu
      obtain ⟨rest, hrest⟩ := Txn.requests_eq (h.started c t ht) hnext
      exact ⟨rest, by rw [hrest, List.append_assoc, List.singleton_append]⟩
    · rw [set_active_other hd] at hu
      exact h.started d u hu

/-- **One step** keeps the invariant. -/
theorem Inv.step (h : Inv batches s) {l : Label} (hstep : (system batches).step s l s') :
    Inv batches s' := by
  cases l with
  | begin c batch receivedAt =>
    obtain ⟨-, hbatch, rfl⟩ := hstep
    apply h.set_unlocked
    intro u hu
    cases hu
    exact ⟨hbatch, rfl⟩
  | lock c =>
    obtain ⟨t, l, ht, hnext, hfree, -, rfl⟩ := hstep
    exact h.lock ht hnext hfree
  | alreadyIngested c =>
    obtain ⟨t, l, -, -, -, -, -, rfl⟩ := hstep
    exact h.set_unlocked nofun
  | commit c =>
    obtain ⟨t, db', -, -, -, rfl⟩ := hstep
    have hended : Inv batches (s.set c none) := h.set_unlocked nofun
    exact ⟨hended.granted, hended.ofBatches, hended.started⟩
  | rollback c =>
    obtain ⟨-, rfl⟩ := hstep
    exact h.set_unlocked nofun

theorem inv_of_reachable (h : Reachable (system batches) s) : Inv batches s := by
  refine System.invariant (Inv batches) ?_ (fun s l s' h hstep => h.step hstep) s h
  intro s hinit
  have hnone : ∀ c t, s.active c = some t → False := by
    intro c t ht
    rw [hinit c] at ht
    cases ht
  refine ⟨?_, fun c t ht => (hnone c t ht).elim, fun c t ht => (hnone c t ht).elim⟩
  intro c d _ l hl
  simp [State.held, hinit c] at hl

/-- With sorted batches, no transaction ever waits for itself. -/
theorem waitsFor_acyclic
    (hsorted : ∀ b, batches b → (b.edges.map EdgeObservation.key).Pairwise (· < ·))
    (h : Reachable (system batches) s) (c : Nat) : ¬ Relation.TransGen s.WaitsFor c c := by
  have hinv := inv_of_reachable h
  apply acyclic (fun _ _ hconf => Lock.Conflicts.rank_eq hconf) hinv.granted
  intro c l hl
  obtain ⟨t, ht, hnext⟩ := Option.bind_eq_some_iff.mp hl
  obtain ⟨rest, hrest⟩ := Txn.requests_eq (hinv.started c t ht) hnext
  have horder := requests_inOrder (hsorted t.batch (hinv.ofBatches c t ht))
  rw [hrest] at horder
  rw [held_eq ht]
  exact horder.admissible

end steps

/-! ### Flushed batches -/

/-- A batch that an aggregator handed over after whatever calls, as the route read it. -/
def Flushed (r : IngestBatch) : Prop :=
  ∃ clusterID agentID infraPorts calls,
    ∃ b ∈ (Agent.History.run clusterID agentID infraPorts calls).batches,
      ∃ body, Wire.marshal b = .ok body ∧ Wire.parse body = some r

/-- The key of a read edge as `Flush` sorts it. -/
def flushKey (k : EdgeKey) : String ×ₗ String ×ₗ String ×ₗ Int :=
  toLex (k.sourceId, toLex (k.targetId, toLex (k.protocol.name, (k.destinationPort : Int))))

/-- Go and Python order edge keys alike. -/
theorem lt_of_flushKey_lt {k k' : EdgeKey} (h : flushKey k < flushKey k') : k < k' := by
  show k.tuple < k'.tuple
  simp only [flushKey, EdgeKey.tuple, Prod.Lex.toLex_lt_toLex, Int.ofNat_lt] at h ⊢
  exact h

theorem flushKeys_eq {es : List Agent.EdgeObservation} {os : List EdgeObservation}
    (h : List.Forall₂ Wire.KeyDenotes es os) :
    (os.map EdgeObservation.key).map flushKey = es.map Agent.EdgeObservation.sortKey := by
  induction h with
  | nil => rfl
  | cons hkey _ ih =>
    rw [List.map_cons, List.map_cons, List.map_cons, ih]
    congr 1
    simp only [flushKey, EdgeObservation.key, Agent.EdgeObservation.sortKey, hkey.source,
      hkey.target, hkey.protocol, hkey.port]

/-- What `Flush` sorted arrives sorted. -/
theorem Flushed.sorted {r : IngestBatch} (h : Flushed r) :
    (r.edges.map EdgeObservation.key).Pairwise (· < ·) := by
  obtain ⟨clusterID, agentID, infraPorts, calls, b, hb, body, hbody, hparse⟩ := h
  have hordered := Agent.History.run_ordered clusterID agentID infraPorts calls b hb
  rw [← flushKeys_eq (Wire.keys_of_parse_marshal hbody hparse), List.pairwise_map] at hordered
  exact hordered.imp lt_of_flushKey_lt

/-- **Concurrent ingestion cannot deadlock**: whatever flushed batches any number of
    transactions ingest, with whatever overlap and whatever replays, in every reachable state
    the wait-for graph has no cycle. -/
theorem ingest_deadlock_free (s : State) (h : Reachable (system Flushed) s) :
    ∀ c, ¬ Relation.TransGen s.WaitsFor c c :=
  waitsFor_acyclic (fun _ hb => hb.sorted) h

/-- One refused connection, flushed and read. -/
theorem exists_flushed : ∃ r, Flushed r := by
  have hread : ∃ b ∈ (Agent.History.run "c" "topology-agent/n1" []
      [.add (refusedObservation 5432), .flush 10 Agent.sampleNow Agent.sampleUlid]).batches,
      ((Wire.marshal b).toOption.bind Wire.parse).isSome := by
    decide +kernel
  obtain ⟨b, hb, hsome⟩ := hread
  cases hbody : Wire.marshal b with
  | error m =>
    rw [hbody] at hsome
    cases hsome
  | ok body =>
    rw [hbody] at hsome
    obtain ⟨r, hr⟩ := Option.isSome_iff_exists.mp hsome
    exact ⟨r, _, _, _, _, b, hb, body, hbody, hr⟩

/-- A replay beside the transaction of the same batch: it waits at the gate, and only that. -/
theorem ingest_deadlock_free_replay : ∃ s, Reachable (system Flushed) s ∧ s.WaitsFor 1 0 ∧
    ∀ c, ¬ Relation.TransGen s.WaitsFor c c := by
  obtain ⟨r, hr⟩ := exists_flushed
  have h₀ : Reachable (system Flushed) ⟨Database.empty, fun _ => none⟩ := .init fun _ => rfl
  have h₁ := h₀.step (l := Label.begin 0 r 0) ⟨rfl, hr, rfl⟩
  have hfree : (State.set ⟨Database.empty, fun _ => none⟩ 0 (some ⟨r, 0, []⟩)).Free 0
      ⟨.batch r.batchId, .exclusive⟩ := by
    intro d hd l' hl'
    rw [held_set_other hd] at hl'
    cases hl'
  have h₂ := h₁.step (l := Label.lock 0)
    ⟨⟨r, 0, []⟩, ⟨.batch r.batchId, .exclusive⟩, rfl, rfl, hfree, fun _ => rfl, rfl⟩
  have h₃ := h₂.step (l := Label.begin 1 r 0) ⟨rfl, hr, rfl⟩
  refine ⟨_, h₃, ?_, ingest_deadlock_free _ h₃⟩
  exact ⟨by decide, ⟨.batch r.batchId, .exclusive⟩, rfl, ⟨.batch r.batchId, .exclusive⟩,
    List.mem_cons_self, rfl, .inl rfl⟩

end TopologyVisualizer.IngestLocks
