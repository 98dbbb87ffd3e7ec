import Mathlib.Data.List.Sort
import Mathlib.Data.List.Nodup
import Mathlib.Data.List.Dedup

/-! # Insertion-Ordered Dictionaries

    A dictionary is a list of entries whose keys are distinct; a new key is
    appended, an existing key keeps its place. Two dictionaries with the
    same content may list it in different orders, so the lemmas below say
    what an operation does to `get?`, and `perm_of_get?_eq` says that
    `get?` determines the entries up to their order.
-/

universe u v w

/-- A dictionary: entries in insertion order, no key twice. -/
structure Dict (κ : Type u) (ν : Type v) where
  /-- The entries, oldest key first. -/
  entries : List (κ × ν)
  /-- No key occurs twice. -/
  nodup : (entries.map Prod.fst).Nodup

namespace Dict

variable {κ : Type u} {ν : Type v}

/-- The empty dictionary. -/
def empty : Dict κ ν := ⟨[], List.nodup_nil⟩

instance : Inhabited (Dict κ ν) := ⟨empty⟩

/-- The keys, in insertion order. -/
def keys (d : Dict κ ν) : List κ := d.entries.map Prod.fst

/-- The number of entries. -/
def size (d : Dict κ ν) : Nat := d.entries.length

/-- Keep the entries that meet `p`. -/
def filter (p : κ → ν → Bool) (d : Dict κ ν) : Dict κ ν where
  entries := d.entries.filter (fun e => p e.1 e.2)
  nodup := d.nodup.sublist (List.filter_sublist.map Prod.fst)

theorem entries_nodup (d : Dict κ ν) : d.entries.Nodup :=
  d.nodup.of_map Prod.fst

variable [DecidableEq κ]

/-- The value stored under a key. -/
def get? (d : Dict κ ν) (k : κ) : Option ν := d.entries.lookup k

/-- Whether a key is present. -/
def contains (d : Dict κ ν) (k : κ) : Bool := (d.get? k).isSome

/-- Replace the value under `k`, or append it. -/
def setEntries (k : κ) (v : ν) : List (κ × ν) → List (κ × ν)
  | [] => [(k, v)]
  | e :: es => if e.1 = k then (k, v) :: es else e :: setEntries k v es

theorem setEntries_keys (k : κ) (v : ν) (es : List (κ × ν)) :
    (setEntries k v es).map Prod.fst =
      if k ∈ es.map Prod.fst then es.map Prod.fst else es.map Prod.fst ++ [k] := by
  induction es with
  | nil => simp [setEntries]
  | cons e es ih =>
    by_cases he : e.1 = k
    · simp [setEntries, he]
    · have he' : k ≠ e.1 := fun h => he h.symm
      simp only [setEntries, if_neg he, List.map_cons, ih, List.mem_cons, he', false_or]
      split <;> simp

/-- Assignment `d[k] = v`. -/
def set (d : Dict κ ν) (k : κ) (v : ν) : Dict κ ν where
  entries := setEntries k v d.entries
  nodup := by
    rw [setEntries_keys]
    split
    · exact d.nodup
    · next hk =>
      refine List.nodup_append.mpr ⟨d.nodup, List.nodup_singleton k, ?_⟩
      intro a ha b hb hab
      rw [List.mem_singleton] at hb
      exact hk (hb ▸ hab ▸ ha)

/-! ### What the operations do to `get?` -/

@[simp] theorem get?_empty (k : κ) : (empty : Dict κ ν).get? k = none := rfl

theorem lookup_cons_ite (k a : κ) (b : ν) (es : List (κ × ν)) :
    ((a, b) :: es).lookup k = if k = a then some b else es.lookup k := by
  rw [List.lookup_cons]
  by_cases h : k = a
  · simp [h]
  · have hbeq : (k == a) = false := by simpa using h
    simp [hbeq, h]

theorem lookup_eq_some_iff {es : List (κ × ν)} (hnd : (es.map Prod.fst).Nodup) (k : κ) (v : ν) :
    es.lookup k = some v ↔ (k, v) ∈ es := by
  induction es with
  | nil => simp
  | cons e es ih =>
    obtain ⟨a, b⟩ := e
    simp only [List.map_cons, List.nodup_cons] at hnd
    rw [lookup_cons_ite]
    by_cases hak : k = a
    · subst hak
      have hnot : (k, v) ∉ es := fun h => hnd.1 (List.mem_map_of_mem (f := Prod.fst) h)
      simp [hnot, eq_comm]
    · simp [ih hnd.2, hak]

theorem get?_eq_some_iff {d : Dict κ ν} {k : κ} {v : ν} :
    d.get? k = some v ↔ (k, v) ∈ d.entries :=
  lookup_eq_some_iff d.nodup k v

theorem mem_keys_iff {d : Dict κ ν} {k : κ} : k ∈ d.keys ↔ ∃ v, d.get? k = some v := by
  simp [keys, get?_eq_some_iff]

theorem get?_eq_none_iff {d : Dict κ ν} {k : κ} : d.get? k = none ↔ k ∉ d.keys := by
  rw [mem_keys_iff]
  cases d.get? k <;> simp

theorem lookup_setEntries (k k' : κ) (v : ν) (es : List (κ × ν)) :
    (setEntries k v es).lookup k' = if k' = k then some v else es.lookup k' := by
  induction es with
  | nil => simp only [setEntries, lookup_cons_ite]
  | cons e es ih =>
    obtain ⟨a, b⟩ := e
    by_cases ha : a = k
    · subst ha
      by_cases h : k' = a <;> simp [setEntries, lookup_cons_ite, h]
    · simp only [setEntries, if_neg ha, lookup_cons_ite, ih]
      by_cases h : k' = k
      · have hka : k' ≠ a := fun h' => ha (h' ▸ h)
        simp only [if_neg hka, if_pos h]
      · simp only [if_neg h]

theorem get?_set (d : Dict κ ν) (k k' : κ) (v : ν) :
    (d.set k v).get? k' = if k' = k then some v else d.get? k' :=
  lookup_setEntries k k' v d.entries

@[simp] theorem get?_set_self (d : Dict κ ν) (k : κ) (v : ν) : (d.set k v).get? k = some v := by
  simp [get?_set]

theorem get?_set_ne (d : Dict κ ν) {k k' : κ} (v : ν) (h : k' ≠ k) :
    (d.set k v).get? k' = d.get? k' := by
  simp [get?_set, h]

/-- An entry is the one that was set, or was there before. -/
theorem get?_set_eq_some {d : Dict κ ν} {k k' : κ} {v w : ν} :
    (d.set k v).get? k' = some w ↔ k' = k ∧ w = v ∨ k' ≠ k ∧ d.get? k' = some w := by
  rw [get?_set]
  by_cases h : k' = k
  · simp [h, eq_comm]
  · simp [h]

/-- What holds of all entries and of the new one holds of all when it is set. -/
theorem forall_set {P : κ → ν → Prop} {d : Dict κ ν} {k : κ} {v : ν}
    (h : ∀ k' w, d.get? k' = some w → P k' w) (hv : P k v) :
    ∀ k' w, (d.set k v).get? k' = some w → P k' w := by
  intro k' w hw
  rcases get?_set_eq_some.mp hw with ⟨rfl, rfl⟩ | ⟨-, hold⟩
  · exact hv
  · exact h k' w hold

theorem keys_set (d : Dict κ ν) (k : κ) (v : ν) :
    (d.set k v).keys = if k ∈ d.keys then d.keys else d.keys ++ [k] :=
  setEntries_keys k v d.entries

theorem mem_keys_set {d : Dict κ ν} {k k' : κ} {v : ν} :
    k' ∈ (d.set k v).keys ↔ k' = k ∨ k' ∈ d.keys := by
  rw [keys_set]
  split
  · next hk =>
    constructor
    · exact Or.inr
    · rintro (rfl | h)
      · exact hk
      · exact h
  · simp [or_comm]

theorem get?_filter (p : κ → ν → Bool) (d : Dict κ ν) (k : κ) :
    (d.filter p).get? k = (d.get? k).filter (p k) := by
  apply Option.ext
  intro v
  rw [get?_eq_some_iff, Option.filter_eq_some_iff, get?_eq_some_iff]
  simp [filter]

theorem contains_set {d : Dict κ ν} {k k' : κ} {v : ν} (h : d.contains k' = true) :
    (d.set k v).contains k' = true := by
  unfold contains at h ⊢
  rw [get?_set]
  split
  · rfl
  · exact h

/-- Remove a key. -/
def erase (d : Dict κ ν) (k : κ) : Dict κ ν := d.filter (fun k' _ => k' ≠ k)

theorem get?_erase (d : Dict κ ν) (k k' : κ) :
    (d.erase k).get? k' = if k' = k then none else d.get? k' := by
  unfold erase
  rw [get?_filter]
  cases d.get? k' with
  | none => simp
  | some v =>
    by_cases h : k' = k
    · simp [h]
    · simp [h]

/-- What is left was there before. -/
theorem get?_erase_eq_some {d : Dict κ ν} {k k' : κ} {v : ν} :
    (d.erase k).get? k' = some v ↔ k' ≠ k ∧ d.get? k' = some v := by
  rw [get?_erase]
  by_cases h : k' = k
  · simp [h]
  · simp [h]

/-! ### Filtering -/

/-- Filters that agree on the entries keep the same ones. -/
theorem filter_congr {p q : κ → ν → Bool} {d : Dict κ ν}
    (h : ∀ k v, d.get? k = some v → p k v = q k v) : d.filter p = d.filter q := by
  simp only [filter, Dict.mk.injEq]
  apply List.filter_congr
  intro e he
  exact h e.1 e.2 (get?_eq_some_iff.mpr he)

omit [DecidableEq κ] in
theorem filter_true (d : Dict κ ν) : d.filter (fun _ _ => true) = d := by
  simp only [filter, List.filter_true]

omit [DecidableEq κ] in
theorem filter_filter (p q : κ → ν → Bool) (d : Dict κ ν) :
    (d.filter p).filter q = d.filter (fun k v => p k v && q k v) := by
  simp only [filter, List.filter_filter, Bool.and_comm]

omit [DecidableEq κ] in
theorem keys_filter (p : κ → Bool) (d : Dict κ ν) :
    (d.filter (fun k _ => p k)).keys = d.keys.filter p := by
  unfold keys filter
  rw [List.filter_map]
  rfl

/-! ### Updating in place -/

/-- Replace the value under `k` by a function of what is there. -/
def upsert (d : Dict κ ν) (k : κ) (f : Option ν → ν) : Dict κ ν := d.set k (f (d.get? k))

/-- A pass of updates leaves under each key the fold of the elements that have this key. -/
theorem get?_foldl_upsert {α : Type w} (key : α → κ) (f : α → Option ν → ν) (l : List α)
    (d : Dict κ ν) (k : κ) :
    (l.foldl (fun d a => d.upsert (key a) (f a)) d).get? k =
      (l.filter (fun a => key a = k)).foldl (fun v a => some (f a v)) (d.get? k) := by
  induction l generalizing d with
  | nil => rfl
  | cons a l ih =>
    rw [List.foldl_cons, ih, upsert, get?_set]
    by_cases h : key a = k
    · subst h; simp
    · have h' : ¬k = key a := fun hk => h hk.symm
      simp [h, h']

/-- A pass of assignments leaves under each key what the last element with this key assigned. -/
theorem get?_foldl_set_map {α : Type w} (key : α → κ) (f : α → ν) (l : List α) (k : κ) :
    (l.foldl (fun d a => d.set (key a) (f a)) empty).get? k =
      (l.filter (fun a => key a = k)).getLast?.map f := by
  have hlast : ∀ l : List α, l.foldl (fun _ a => some (f a)) none = l.getLast?.map f := by
    intro l
    rcases List.eq_nil_or_concat l with rfl | ⟨l, a, rfl⟩
    · rfl
    · simp
  rw [← hlast]
  exact get?_foldl_upsert key (fun a _ => f a) l empty k

theorem get?_foldl_set (key : ν → κ) (l : List ν) (k : κ) :
    (l.foldl (fun d a => d.set (key a) a) empty).get? k =
      (l.filter (fun a => key a = k)).getLast? := by
  rw [get?_foldl_set_map key (fun a => a), Option.map_id']

theorem mem_of_get?_foldl_set {key : ν → κ} {l : List ν} {k : κ} {a : ν}
    (h : (l.foldl (fun d a => d.set (key a) a) empty).get? k = some a) : a ∈ l ∧ key a = k := by
  rw [get?_foldl_set] at h
  simpa using List.mem_filter.mp (List.mem_of_getLast? h)

theorem isSome_get?_foldl_set {key : ν → κ} {l : List ν} {k : κ} :
    ((l.foldl (fun d a => d.set (key a) a) empty).get? k).isSome ↔ ∃ a ∈ l, key a = k := by
  constructor
  · intro h
    obtain ⟨a, ha⟩ := Option.isSome_iff_exists.mp h
    exact ⟨a, mem_of_get?_foldl_set ha⟩
  · rintro ⟨a, ha, hk⟩
    rw [get?_foldl_set, Option.isSome_iff_ne_none, Ne, List.getLast?_eq_none_iff]
    exact List.ne_nil_of_mem (List.mem_filter.mpr ⟨ha, decide_eq_true hk⟩)

/-! ### Groups -/

/-- Put a value at the end of the group of `k`. -/
def pushAt (d : Dict κ (List ν)) (k : κ) (v : ν) : Dict κ (List ν) :=
  d.set k ((d.get? k).getD [] ++ [v])

/-- Grouping the elements that have a key: each group has its elements in order. -/
theorem get?_foldl_pushAt {α : Type w} (key : α → Option κ) (f : α → ν) (l : List α)
    (d : Dict κ (List ν)) (k : κ) :
    ((l.foldl (fun d a => (key a).elim d (fun k => d.pushAt k (f a))) d).get? k).getD [] =
      (d.get? k).getD [] ++ (l.filter (fun a => key a = some k)).map f := by
  induction l generalizing d with
  | nil => simp
  | cons a l ih =>
    rw [List.foldl_cons, ih]
    cases hkey : key a with
    | none => simp [hkey]
    | some k' =>
      by_cases h : k' = k
      · simp [hkey, h, pushAt]
      · have h' : ¬ k = k' := fun hk => h hk.symm
        simp [hkey, h, h', pushAt, get?_set]

/-- The groups are those of the keys that occur. -/
theorem mem_keys_foldl_pushAt {α : Type w} (key : α → Option κ) (f : α → ν) (l : List α)
    (d : Dict κ (List ν)) (k : κ) :
    k ∈ (l.foldl (fun d a => (key a).elim d (fun k => d.pushAt k (f a))) d).keys ↔
      k ∈ d.keys ∨ ∃ a ∈ l, key a = some k := by
  induction l generalizing d with
  | nil => simp
  | cons a l ih =>
    rw [List.foldl_cons, ih]
    cases hkey : key a with
    | none => simp [hkey]
    | some k' =>
      simp only [Option.elim_some, pushAt, mem_keys_set, List.mem_cons, exists_eq_or_imp, hkey,
        Option.some.injEq]
      constructor
      · rintro ((h | h) | h)
        · exact .inr (.inl h.symm)
        · exact .inl h
        · exact .inr (.inr h)
      · rintro (h | h | h)
        · exact .inl (.inr h)
        · exact .inl (.inl h.symm)
        · exact .inr h

/-! ### Order -/

/-- Equal content means equal entries up to their order. -/
theorem perm_of_get?_eq {d d' : Dict κ ν} (h : ∀ k, d.get? k = d'.get? k) :
    d.entries.Perm d'.entries := by
  refine (List.perm_ext_iff_of_nodup d.entries_nodup d'.entries_nodup).mpr ?_
  rintro ⟨k, v⟩
  rw [← get?_eq_some_iff, ← get?_eq_some_iff, h]

theorem keys_perm_of_get?_eq {d d' : Dict κ ν} (h : ∀ k, d.get? k = d'.get? k) :
    d.keys.Perm d'.keys :=
  (perm_of_get?_eq h).map Prod.fst

/-- Replacing the value under a present key swaps one entry for another. -/
theorem set_perm_of_get? {d : Dict κ ν} {k : κ} {a : ν} (v : ν) (h : d.get? k = some a) :
    ∃ rest, d.entries.Perm ((k, a) :: rest) ∧ (d.set k v).entries.Perm ((k, v) :: rest) ∧
      k ∉ rest.map Prod.fst := by
  obtain ⟨es, hnd⟩ := d
  simp only [get?, set] at h ⊢
  induction es with
  | nil => simp at h
  | cons e es ih =>
    obtain ⟨b, w⟩ := e
    simp only [List.map_cons, List.nodup_cons] at hnd
    rw [lookup_cons_ite] at h
    by_cases hb : b = k
    · subst hb
      simp only [if_true, Option.some.injEq] at h
      subst h
      exact ⟨es, .refl _, by simp [setEntries], hnd.1⟩
    · rw [if_neg (fun h' => hb h'.symm)] at h
      obtain ⟨rest, h₁, h₂, h₃⟩ := ih hnd.2 h
      refine ⟨(b, w) :: rest, ?_, ?_, ?_⟩
      · exact (h₁.cons _).trans (List.Perm.swap _ _ _)
      · simp only [setEntries, if_neg hb]
        exact (h₂.cons _).trans (List.Perm.swap _ _ _)
      · simp only [List.map_cons, List.mem_cons, not_or]
        exact ⟨fun h' => hb h'.symm, h₃⟩

/-- Assigning to an absent key appends. -/
theorem set_entries_of_get?_none {d : Dict κ ν} {k : κ} (v : ν) (h : d.get? k = none) :
    (d.set k v).entries = d.entries ++ [(k, v)] := by
  obtain ⟨es, hnd⟩ := d
  simp only [get?, set] at h ⊢
  induction es with
  | nil => rfl
  | cons e es ih =>
    obtain ⟨b, w⟩ := e
    simp only [List.map_cons, List.nodup_cons] at hnd
    rw [lookup_cons_ite] at h
    by_cases hb : b = k
    · simp [hb] at h
    · rw [if_neg (fun h' => hb h'.symm)] at h
      simp [setEntries, if_neg hb, ih hnd.2 h]

/-- Filing a list of entries with distinct keys. -/
theorem get?_foldl_set_entries {l : List (κ × ν)} (hnd : (l.map Prod.fst).Nodup) (d : Dict κ ν)
    (k : κ) : (l.foldl (fun d e => d.set e.1 e.2) d).get? k = (l.lookup k).or (d.get? k) := by
  induction l generalizing d with
  | nil => rfl
  | cons e l ih =>
    obtain ⟨a, b⟩ := e
    rw [List.map_cons, List.nodup_cons] at hnd
    rw [List.foldl_cons, ih hnd.2, get?_set, lookup_cons_ite]
    by_cases hk : k = a
    · have hnone : l.lookup k = none := by
        cases hl : l.lookup k with
        | none => rfl
        | some v =>
          have hmem := (lookup_eq_some_iff hnd.2 k v).mp hl
          rw [hk] at hmem
          exact absurd (List.mem_map_of_mem (f := Prod.fst) hmem) hnd.1
      rw [hnone, if_pos hk, if_pos hk]
      rfl
    · rw [if_neg hk, if_neg hk]

/-- Filing the entries of a dictionary again, in whatever order, gives the same content. -/
theorem get?_foldl_set_of_perm {d : Dict κ ν} {l : List (κ × ν)} (h : l.Perm d.entries) (k : κ) :
    (l.foldl (fun d e => d.set e.1 e.2) empty).get? k = d.get? k := by
  have hnd : (l.map Prod.fst).Nodup := ((h.map Prod.fst).nodup_iff).mpr d.nodup
  rw [get?_foldl_set_entries hnd, get?_empty, Option.or_none]
  apply Option.ext
  intro v
  rw [lookup_eq_some_iff hnd, h.mem_iff, get?_eq_some_iff]

end Dict

/-! ### Insertion-ordered sets -/

section appendNew
variable {α : Type u} [DecidableEq α]

/-- Append an element unless it is there. -/
def appendNew (seen : List α) (a : α) : List α := if a ∈ seen then seen else seen ++ [a]

theorem mem_foldl_appendNew {l seen : List α} {a : α} :
    a ∈ l.foldl appendNew seen ↔ a ∈ seen ∨ a ∈ l := by
  induction l generalizing seen with
  | nil => simp
  | cons b l ih =>
    rw [List.foldl_cons, ih, appendNew, List.mem_cons]
    by_cases hb : b ∈ seen
    · rw [if_pos hb]
      constructor
      · exact Or.imp_right .inr
      · rintro (h | rfl | h)
        · exact .inl h
        · exact .inl hb
        · exact .inr h
    · rw [if_neg hb, List.mem_append, List.mem_singleton, or_assoc]

theorem nodup_foldl_appendNew {l seen : List α} (h : seen.Nodup) :
    (l.foldl appendNew seen).Nodup := by
  induction l generalizing seen with
  | nil => exact h
  | cons a l ih =>
    apply ih
    unfold appendNew
    split
    · exact h
    · next ha =>
      rw [← List.concat_eq_append]
      exact h.concat ha

end appendNew
