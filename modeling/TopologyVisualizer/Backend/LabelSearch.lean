import TopologyVisualizer.Backend.AdapterRefinement
import TopologyVisualizer.Backend.Graph
import TopologyVisualizer.Framework.Text

/-! # The Label Search of the Two Adapters

    The text query of `GET /graph`. The in-memory adapter looks for the
    folded text in the folded labels; the other one puts the lowered text
    between two wildcards of a LIKE pattern, unescaped. So a `%`, a `_` or a
    backslash that the user typed is part of the text on one side and a
    metacharacter on the other, and the adapters agree on all stores exactly
    when the text has none of them (`label_search_agrees_iff`).
-/

namespace TopologyVisualizer.Backend

open Postgres InMemoryRepository

/-! ### Lowering ASCII -/

/-- Lowering of the letters `A` to `Z`. -/
def asciiLower (s : String) : String := String.ofList (s.toList.map Char.toLower)

/-- An ASCII text as a column can hold it. PostgreSQL has no texts with a NUL, and refuses a query
    with one, which in memory is only a text that no label contains. -/
structure AsciiText (s : String) : Prop where
  ascii : Text.IsAscii s
  noNul : '\x00' ∉ s.toList

/-- What `lower()`, `str.lower` and `str.casefold` do to ASCII. -/
structure LowersAscii (lower : Database.Lowering) (casefold : String → String) : Prop where
  server : ∀ s, Text.IsAscii s → lower.server s = asciiLower s
  client : ∀ s, Text.IsAscii s → lower.client s = asciiLower s
  folded : ∀ s, Text.IsAscii s → casefold s = asciiLower s

theorem toLower_ascii {c : Char} (hc : c.toNat < 128) :
    c.toLower.toNat < 128 ∧ (c.toLower = '\x00' → c = '\x00') ∧ c.toLower.toLower = c.toLower :=
  Text.forall_ascii (P := fun c => c.toLower.toNat < 128 ∧ (c.toLower = '\x00' → c = '\x00') ∧
    c.toLower.toLower = c.toLower) (by decide) hc

/-- Lowering neither makes a metacharacter nor removes one. -/
theorem toLower_metacharacter {c : Char} (hc : c.toNat < 128) :
    (c.toLower ≠ '%' ∧ c.toLower ≠ '_' ∧ c.toLower ≠ '\\') ↔ (c ≠ '%' ∧ c ≠ '_' ∧ c ≠ '\\') :=
  Text.forall_ascii (P := fun c => (c.toLower ≠ '%' ∧ c.toLower ≠ '_' ∧ c.toLower ≠ '\\') ↔
    (c ≠ '%' ∧ c ≠ '_' ∧ c ≠ '\\')) (by decide) hc

theorem plain_asciiLower {q : String} (hq : Text.IsAscii q) :
    Sql.Plain (asciiLower q).toList ↔ Sql.Plain q.toList := by
  unfold Sql.Plain asciiLower
  rw [String.toList_ofList, List.forall_mem_map]
  exact forall₂_congr (fun c hc => toLower_metacharacter (hq c hc))

/-- A label contains a text, whatever the case. -/
def LabelContains (q label : String) : Prop :=
  (asciiLower q).toList <:+: (asciiLower label).toList

/-! ### The condition of either adapter -/

/-- `EdgeFilters(query=q)`. -/
def searchFor (q : String) : EdgeFilters := { query := some q }

section conditions
variable {lower : Database.Lowering} {casefold : String → String}
  (hlower : LowersAscii lower casefold) {q : String} (hq : Text.IsAscii q)
  {source target : StoredNode} (hsource : Text.IsAscii source.label)
  (htarget : Text.IsAscii target.label)

include hlower hq hsource htarget in
/-- In memory, a label has to contain the text. -/
theorem viewsPass_searchFor : viewsPass casefold source.view target.view (searchFor q) = true ↔
    LabelContains q source.label ∨ LabelContains q target.label := by
  unfold viewsPass searchFor StoredNode.view isSubstring LabelContains
  by_cases hempty : q = ""
  · subst hempty
    simp [asciiLower]
  · have hne : q.isEmpty = false := by simpa using hempty
    simp [hne, hlower.folded q hq, hlower.folded _ hsource, hlower.folded _ htarget]

include hlower hq hsource htarget in
/-- In SQL, a label has to match the pattern. -/
theorem holds_queryCondition : q ≠ "" →
    ((Database.queryCondition lower (searchFor q) source target).all Sql.Truth.holds = true ↔
      Sql.like ('%' :: (asciiLower q).toList ++ ['%']) (asciiLower source.label).toList = true ∨
      Sql.like ('%' :: (asciiLower q).toList ++ ['%']) (asciiLower target.label).toList = true) := by
  intro hempty
  have hne : q.isEmpty = false := by simpa using hempty
  unfold Database.queryCondition searchFor
  simp [hne, hlower.client q hq, hlower.server _ hsource, hlower.server _ htarget]

end conditions

/-! ### Stores with the same data -/

section stores
variable {clusterId : String} {seen : List String} {kept : Dict String Datetime}
  {repo : InMemoryRepository} {db : Database}

/-- Every stored label is an ASCII text. -/
def AsciiLabels (repo : InMemoryRepository) : Prop :=
  ∀ nid n, repo.nodes.get? nid = some n → AsciiText n.label

/-- With only a text query, the WHERE clause checks the bucket and the text. -/
theorem holds_conditions_searchFor (lower : Database.Lowering) (clusterId : String)
    (window : ResolvedWindow) (q : String) (pk : BucketPk) (source target : StoredNode) :
    (Sql.Truth.all (Database.conditions lower clusterId window (searchFor q) pk source
      target)).holds =
      (decide (pk.clusterId = clusterId) && window.contains pk.bucketStart &&
        (Database.queryCondition lower (searchFor q) source target).all Sql.Truth.holds) := by
  have hexternal : Database.externalCondition (searchFor q) source target = [] := rfl
  have hnamespaces : Database.namespacesCondition (searchFor q) source target = [] := rfl
  have hkind : Database.kindCondition (searchFor q) source target = [] := rfl
  rw [Sql.Truth.holds_all, Database.conditions, hexternal, hnamespaces, hkind, List.append_nil,
    List.append_nil, List.append_nil, List.all_append, Database.holds_bucketConditions]

/-- A text without metacharacters is the same condition in both adapters. -/
theorem queryCondition_eq_viewsPass {lower : Database.Lowering} {casefold : String → String}
    (hlower : LowersAscii lower casefold) {q : String} (hq : Text.IsAscii q)
    (hplain : Sql.Plain q.toList) {source target : StoredNode}
    (hsource : Text.IsAscii source.label) (htarget : Text.IsAscii target.label) :
    (Database.queryCondition lower (searchFor q) source target).all Sql.Truth.holds =
      viewsPass casefold source.view target.view (searchFor q) := by
  rw [Bool.eq_iff_iff, viewsPass_searchFor hlower hq hsource htarget]
  by_cases hempty : q = ""
  · subst hempty
    simp [Database.queryCondition, searchFor, LabelContains, asciiLower]
  · rw [holds_queryCondition hlower hq hsource htarget hempty,
      Sql.like_contains_iff ((plain_asciiLower hq).mpr hplain),
      Sql.like_contains_iff ((plain_asciiLower hq).mpr hplain)]
    rfl

/-- For such a text the adapters answer alike. -/
theorem Matches.queryEdges_searchFor (h : Matches clusterId seen kept repo db)
    (hlabels : AsciiLabels repo) {lower : Database.Lowering} {casefold : String → String}
    (hlower : LowersAscii lower casefold) {q : String} (hq : Text.IsAscii q)
    (hplain : Sql.Plain q.toList) (window : ResolvedWindow) :
    db.queryEdges lower clusterId window (searchFor q) =
      if ∀ a ∈ repo.queryEdges casefold window (searchFor q), Database.AnswerInRange a
      then .ok (repo.queryEdges casefold window (searchFor q))
      else .error .numericValueOutOfRange := by
  apply h.queryEdges_of_accepts
  intro key
  apply h.accepts
  intro s t hs ht
  rw [holds_conditions_searchFor, queryCondition_eq_viewsPass hlower hq hplain
    (hlabels _ s hs).ascii (hlabels _ t ht).ascii]
  rfl

/-- What either adapter should select: the edges with a label that contains the text. -/
theorem mem_queryEdges_searchFor (hlabels : AsciiLabels repo) {lower : Database.Lowering}
    {casefold : String → String} (hlower : LowersAscii lower casefold) {q : String}
    (hq : Text.IsAscii q) (window : ResolvedWindow) {k : EdgeKey} :
    k ∈ (repo.queryEdges casefold window (searchFor q)).map EdgeAggregate.key ↔
      ∃ key ∈ repo.buckets.keys, key.edge = k ∧ window.contains key.bucketStart = true ∧
        ∃ s t, repo.nodes.get? k.sourceId = some s ∧ repo.nodes.get? k.targetId = some t ∧
          (LabelContains q s.label ∨ LabelContains q t.label) := by
  rw [mem_queryEdges_keys_iff]
  have hpass : ∀ s t, repo.nodes.get? k.sourceId = some s → repo.nodes.get? k.targetId = some t →
      (viewsPass casefold s.view t.view (searchFor q) = true ↔
        LabelContains q s.label ∨ LabelContains q t.label) := by
    intro s t hs ht
    exact viewsPass_searchFor hlower hq (hlabels _ s hs).ascii (hlabels _ t ht).ascii
  constructor
  · intro h
    obtain ⟨key, hkey, hedge, hwindow, s, t, hs, ht, hviews⟩ := h
    exact ⟨key, hkey, hedge, hwindow, s, t, hs, ht, (hpass s t hs ht).mp hviews⟩
  · intro h
    obtain ⟨key, hkey, hedge, hwindow, s, t, hs, ht, hcontains⟩ := h
    exact ⟨key, hkey, hedge, hwindow, s, t, hs, ht, (hpass s t hs ht).mpr hcontains⟩

end stores

/-! ### Metacharacters -/

section labelled
variable (label : String) (hlabel : label ≠ "")

/-- A workload with a label of its own. -/
def labelledRef (nid : String) (hnid : nid ≠ "") : NodeRef where
  id := nid
  kind := .deployment
  «namespace» := some "shop"
  name := label
  id_nonempty := hnid
  name_nonempty := hlabel

theorem web_nonempty : "web" ≠ "" := by decide

theorem db_nonempty : "db" ≠ "" := by decide

/-- An edge between two workloads with this label. -/
def labelledEdge : EdgeObservation :=
  { sampleEdgeA with
    source := labelledRef label hlabel "web" web_nonempty
    target := labelledRef label hlabel "db" db_nonempty }

theorem labelledEdge_bound : [labelledEdge label hlabel].length ≤ 10000 := by
  rw [List.length_singleton]
  decide

/-- A batch with this edge only. -/
def labelledBatch : IngestBatch :=
  { sampleBatchA with
    edges := [labelledEdge label hlabel]
    edges_bound := labelledEdge_bound label hlabel }

def labelledKey : BucketKey := ⟨0, ⟨"web", "db", .tcp, 5432⟩⟩

def labelledStore : InMemoryRepository :=
  ((InMemoryRepository.new "c").ingestBatch (labelledBatch label hlabel)).1

theorem label_of_labelledStore : ∀ nid n,
    (labelledStore label hlabel).nodes.get? nid = some n → n.label = label := by
  have hempty : ∀ nid n, (Dict.empty : Dict String StoredNode).get? nid = some n →
      n.label = label := fun _ _ hn => by cases hn
  exact forall_upsertNode (forall_upsertNode hempty "c" _ 1000 1000 rfl (fun _ h => h)) "c" _ 1000
    1000 rfl (fun _ h => h)

/-- A database that was sent the same batch. -/
theorem exists_labelledDatabase :
    ∃ seen kept db, Matches "c" seen kept (labelledStore label hlabel) db := by
  have hfresh := Matches.fresh "c"
  have hnew : (labelledBatch label hlabel).batchId ∈ ([] : List String) →
      (Dict.empty : Dict String Datetime).contains (labelledBatch label hlabel).batchId = true :=
    fun h => absurd h List.not_mem_nil
  have hagree : NodeRefsAgree (labelledBatch label hlabel).nodeRefs := by
    intro r hr r' hr' _
    have hname : ∀ r ∈ (labelledBatch label hlabel).nodeRefs,
        r.kind = .deployment ∧ r.namespace = some "shop" ∧ r.name = label := by
      intro r hr
      rcases List.mem_cons.mp hr with rfl | hr
      · exact ⟨rfl, rfl, rfl⟩
      · rcases List.mem_singleton.mp hr with rfl
        exact ⟨rfl, rfl, rfl⟩
    obtain ⟨hkind, hns, hlabel⟩ := hname r hr
    obtain ⟨hkind', hns', hlabel'⟩ := hname r' hr'
    exact ⟨hkind.trans hkind'.symm, hns.trans hns'.symm, hlabel.trans hlabel'.symm⟩
  have hfit : ∀ e ∈ ((InMemoryRepository.new "c").ingestBatch
      (labelledBatch label hlabel)).1.buckets.entries, InRange e.2 := by
    intro e he
    rcases List.mem_singleton.mp he with rfl
    exact of_decide_eq_true rfl
  obtain ⟨db, outcome, hok⟩ := hfresh.ingest_ok 2000 rfl hnew hfit
  obtain ⟨-, hmatch⟩ := hfresh.ingest rfl hagree hnew (Database.ingests_of_ok hok)
  exact ⟨_, _, db, hmatch⟩

end labelled

/-- A label that the pattern of a text matches. -/
def sampleLabel (q : String) : String := String.ofList (Sql.sample (asciiLower q).toList)

section sampleLabel
variable {q : String} (hq : AsciiText q)

include hq in
theorem mem_sampleLabel {c : Char} (hc : c ∈ (sampleLabel q).toList) :
    c.toNat < 128 ∧ c ≠ '\x00' ∧ c.toLower = c := by
  rw [sampleLabel, String.toList_ofList] at hc
  rcases Sql.mem_sample hc with hc | rfl | rfl
  · rw [asciiLower, String.toList_ofList] at hc
    obtain ⟨x, hx, rfl⟩ := List.mem_map.mp hc
    obtain ⟨hascii, hnul, hlowered⟩ := toLower_ascii (hq.ascii x hx)
    exact ⟨hascii, fun h => hq.noNul (hnul h ▸ hx), hlowered⟩
  · decide
  · decide

include hq in
theorem asciiText_sampleLabel : AsciiText (sampleLabel q) where
  ascii := fun _ hc => (mem_sampleLabel hq hc).1
  noNul := fun h => (mem_sampleLabel hq h).2.1 rfl

include hq in
theorem asciiLower_sampleLabel : asciiLower (sampleLabel q) = sampleLabel q := by
  unfold asciiLower
  rw [List.map_congr_left (fun c hc => (mem_sampleLabel hq hc).2.2), List.map_id',
    String.ofList_toList]

include hq in
/-- It does not contain a text with metacharacters, which the pattern does not see. -/
theorem sampleLabel_of_not_plain (hmeta : ¬ Sql.Plain q.toList) :
    Sql.like ('%' :: (asciiLower q).toList ++ ['%']) (asciiLower (sampleLabel q)).toList = true ∧
      ¬ LabelContains q (sampleLabel q) ∧ sampleLabel q ≠ "" := by
  have hlowered : ¬ Sql.Plain (asciiLower q).toList := fun h =>
    hmeta ((plain_asciiLower hq.ascii).mp h)
  obtain ⟨hlike, hinside⟩ := Sql.exists_like_not_infix hlowered
  have hlist : (sampleLabel q).toList = Sql.sample (asciiLower q).toList :=
    String.toList_ofList
  refine ⟨?_, ?_, ?_⟩
  · rw [asciiLower_sampleLabel hq, hlist]
    exact hlike
  · unfold LabelContains
    rw [asciiLower_sampleLabel hq, hlist]
    exact hinside
  · intro hempty
    rw [hempty] at hlist
    refine Sql.sample_ne_nil ?_ hlist.symm
    intro hchars
    rw [hchars] at hlowered
    exact hlowered (fun c hc => absurd hc List.not_mem_nil)

end sampleLabel

/-- Every store of the same batch accepts its bucket, by the pattern. -/
theorem accepts_sampleLabel {lower : Database.Lowering} {casefold : String → String}
    (hlower : LowersAscii lower casefold) {q : String} (hq : AsciiText q)
    (hmeta : ¬ Sql.Plain q.toList) {hlabel : sampleLabel q ≠ ""} {seen : List String}
    {kept : Dict String Datetime} {db : Database}
    (hmatch : Matches "c" seen kept (labelledStore (sampleLabel q) hlabel) db) :
    db.accepts lower "c" ⟨0, 60000000⟩ (searchFor q) (labelledKey.pk "c") =
      some labelledKey.edge := by
  have hne : q ≠ "" := by
    intro hempty
    subst hempty
    exact hmeta (fun c hc => absurd hc List.not_mem_nil)
  have hlabels := label_of_labelledStore (sampleLabel q) hlabel
  have hascii := (asciiText_sampleLabel hq).ascii
  obtain ⟨s, hs⟩ : ∃ s, (labelledStore (sampleLabel q) hlabel).nodes.get? "web" = some s :=
    ⟨_, rfl⟩
  obtain ⟨t, ht⟩ : ∃ t, (labelledStore (sampleLabel q) hlabel).nodes.get? "db" = some t :=
    ⟨_, rfl⟩
  have htext : (Database.queryCondition lower (searchFor q) s t).all Sql.Truth.holds = true := by
    rw [holds_queryCondition hlower hq.ascii (hlabels _ s hs ▸ hascii) (hlabels _ t ht ▸ hascii) hne,
      hlabels _ s hs]
    exact .inl (sampleLabel_of_not_plain hq hmeta).1
  unfold Database.accepts
  rw [show (labelledKey.pk "c").edge.sourceId = "web" from rfl,
    show (labelledKey.pk "c").edge.targetId = "db" from rfl, hmatch.nodes, hmatch.nodes, hs, ht]
  simp only [Option.bind_some, holds_conditions_searchFor, htext]
  rfl

/-- **Metacharacters**: a text that has one finds an edge in the database although neither of its
    labels contains the text. -/
theorem exists_disagreement {lower : Database.Lowering} {casefold : String → String}
    (hlower : LowersAscii lower casefold) {q : String} (hq : AsciiText q)
    (hmeta : ¬ Sql.Plain q.toList) :
    ∃ (hlabel : sampleLabel q ≠ "") (seen : List String) (kept : Dict String Datetime)
      (db : Database), Matches "c" seen kept (labelledStore (sampleLabel q) hlabel) db ∧
      AsciiLabels (labelledStore (sampleLabel q) hlabel) ∧
      (labelledStore (sampleLabel q) hlabel).queryEdges casefold ⟨0, 60000000⟩ (searchFor q) = [] ∧
      ∃ a, db.queryEdges lower "c" ⟨0, 60000000⟩ (searchFor q) = .ok [a] := by
  obtain ⟨-, hcontains, hlabel⟩ := sampleLabel_of_not_plain hq hmeta
  obtain ⟨seen, kept, db, hmatch⟩ := exists_labelledDatabase (sampleLabel q) hlabel
  have hlabels := label_of_labelledStore (sampleLabel q) hlabel
  have hascii : AsciiLabels (labelledStore (sampleLabel q) hlabel) := by
    intro nid n hn
    rw [hlabels nid n hn]
    exact asciiText_sampleLabel hq
  refine ⟨hlabel, seen, kept, db, hmatch, hascii, ?_, ?_⟩
  · rw [← List.map_eq_nil_iff (f := EdgeAggregate.key), List.eq_nil_iff_forall_not_mem]
    intro k hk
    obtain ⟨key, -, -, -, s, t, hs, ht, hfound⟩ :=
      (mem_queryEdges_searchFor hascii hlower hq.ascii _).mp hk
    rw [hlabels _ s hs, hlabels _ t ht, or_self] at hfound
    exact hcontains hfound
  · -- the table has the one row of the batch
    obtain ⟨b, hb⟩ : ∃ b, (labelledStore (sampleLabel q) hlabel).buckets.entries =
        [(labelledKey, b)] ∧ Database.AnswerInRange (toAggregate (labelledKey.edge, b)) :=
      ⟨_, rfl, of_decide_eq_true rfl⟩
    have hrows : db.edgeBuckets.entries = [(labelledKey.pk "c", b)] := by
      have hperm := hmatch.buckets.entries
      rw [hb.1] at hperm
      exact List.perm_singleton.mp hperm
    have haccepts := accepts_sampleLabel hlower hq hmeta hmatch
    have hanswer : answerOf (regroup (db.accepts lower "c" ⟨0, 60000000⟩ (searchFor q))
        db.edgeBuckets.entries) = [toAggregate (labelledKey.edge, b)] := by
      rw [hrows, regroup, List.filterMap_cons]
      simp only [haccepts, Option.map_some, List.filterMap_nil]
      rfl
    rw [Database.queryEdges_eq, hanswer, if_pos]
    · exact ⟨_, rfl⟩
    · exact List.forall_mem_singleton.mpr hb.2

/-- **The label search** selects, in memory, the edges with a label that contains the text; the
    database selects the same ones, for every store with ASCII labels, exactly when the text, which
    is without NUL, has no `%`, no `_` and no backslash. -/
theorem label_search_agrees_iff (lower : Database.Lowering) (casefold : String → String)
    (hlower : LowersAscii lower casefold) (q : String) (hq : AsciiText q) :
    (∀ repo, AsciiLabels repo → ∀ (window : ResolvedWindow) (k : EdgeKey),
      k ∈ (repo.queryEdges casefold window (searchFor q)).map EdgeAggregate.key ↔
        ∃ key ∈ repo.buckets.keys, key.edge = k ∧ window.contains key.bucketStart = true ∧
          ∃ s t, repo.nodes.get? k.sourceId = some s ∧ repo.nodes.get? k.targetId = some t ∧
            (LabelContains q s.label ∨ LabelContains q t.label)) ∧
    ((∀ clusterId seen kept repo db, Matches clusterId seen kept repo db → AsciiLabels repo →
      ∀ window : ResolvedWindow, db.queryEdges lower clusterId window (searchFor q) =
        if ∀ a ∈ repo.queryEdges casefold window (searchFor q), Database.AnswerInRange a
        then .ok (repo.queryEdges casefold window (searchFor q))
        else .error .numericValueOutOfRange) ↔
      Sql.Plain q.toList) := by
  refine ⟨?_, ?_, ?_⟩
  · intro repo hlabels window k
    exact mem_queryEdges_searchFor hlabels hlower hq.ascii window
  · intro hagree
    by_contra hmeta
    obtain ⟨hlabel, seen, kept, db, hmatch, hlabels, hmemory, a, hdatabase⟩ :=
      exists_disagreement hlower hq hmeta
    have hsame := hagree "c" seen kept _ db hmatch hlabels ⟨0, 60000000⟩
    rw [hmemory, hdatabase, if_pos (fun a ha => absurd ha List.not_mem_nil)] at hsame
    cases hsame
  · intro hplain clusterId seen kept repo db hmatch hlabels window
    exact hmatch.queryEdges_searchFor hlabels hlower hq.ascii hplain window

/-- Lowering that leaves everything but ASCII alone. -/
theorem lowersAscii_asciiLower : LowersAscii ⟨asciiLower, asciiLower⟩ asciiLower where
  server := fun _ _ => rfl
  client := fun _ _ => rfl
  folded := fun _ _ => rfl

/-- A search for `a-b` is the same in both adapters. -/
theorem label_search_agrees_dash :
    Sql.Plain "a-b".toList ∧
    ∀ clusterId seen kept repo db, Matches clusterId seen kept repo db → AsciiLabels repo →
      ∀ window : ResolvedWindow,
        db.queryEdges ⟨asciiLower, asciiLower⟩ clusterId window (searchFor "a-b") =
          if ∀ a ∈ repo.queryEdges asciiLower window (searchFor "a-b"), Database.AnswerInRange a
          then .ok (repo.queryEdges asciiLower window (searchFor "a-b"))
          else .error .numericValueOutOfRange := by
  have hplain : Sql.Plain "a-b".toList := by decide
  exact ⟨hplain, (label_search_agrees_iff ⟨asciiLower, asciiLower⟩ asciiLower
    lowersAscii_asciiLower "a-b" ⟨by decide, by decide⟩).2.mpr hplain⟩

/-- A search for an underscore finds, in the database, an edge between two nodes labelled `a`. -/
theorem label_search_underscore :
    ∃ (hlabel : "a" ≠ "") (seen : List String) (kept : Dict String Datetime) (db : Database),
      Matches "c" seen kept (labelledStore "a" hlabel) db ∧
      AsciiLabels (labelledStore "a" hlabel) ∧
      (labelledStore "a" hlabel).queryEdges asciiLower ⟨0, 60000000⟩ (searchFor "_") = [] ∧
      ∃ a, db.queryEdges ⟨asciiLower, asciiLower⟩ "c" ⟨0, 60000000⟩ (searchFor "_") = .ok [a] := by
  have hsample : sampleLabel "_" = "a" := by decide
  have hfound := exists_disagreement lowersAscii_asciiLower (q := "_") ⟨by decide, by decide⟩
    (by decide)
  rw [hsample] at hfound
  exact hfound

end TopologyVisualizer.Backend
