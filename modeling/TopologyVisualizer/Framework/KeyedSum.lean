import TopologyVisualizer.Framework.Dict
import Mathlib.Algebra.Group.WithOne.Basic
import Mathlib.Algebra.BigOperators.Group.List.Basic
import Mathlib.Algebra.Ring.Nat

/-! # Keyed Sums

    Values of a commutative semigroup, accumulated under keys. Absent is
    the zero of `WithZero`, so the content of an accumulating dictionary at
    a key is the sum of the values filed there:

    * `total_sumInto`: one accumulation pass computes the keyed sums;
    * `sum_entries_sumInto`: an additive measure of the result is that of what
      was accumulated;
    * `keyedSum_perm`: keyed sums do not depend on the order of the pass;
    * `keyedSum_regroup`: accumulating under fine keys and then again under
      coarser ones is accumulating once under the coarse ones;
    * `sortOn_eq_of_perm`: sorting by distinct keys forgets the order.
-/

universe u v w

/-! ### Keyed sums of a list -/

section keyedSum
variable {κ : Type u} {κ' : Type w} {ν : Type v}

/-- File the entries under the keys `g` gives them; `none` leaves an entry out. -/
def regroup (g : κ → Option κ') (l : List (κ × ν)) : List (κ' × ν) :=
  l.filterMap (fun e => (g e.1).map (fun k' => (k', e.2)))

theorem regroup_perm (g : κ → Option κ') {l l' : List (κ × ν)} (h : l.Perm l') :
    (regroup g l).Perm (regroup g l') :=
  h.filterMap _

/-- Summing a value that is nonzero at one of distinct keys. -/
theorem sum_map_single {M : Type v} [AddMonoid M] [DecidableEq κ] {ks : List κ}
    (hnd : ks.Nodup) (a : κ) (x : M) :
    (ks.map (fun k => if a = k then x else 0)).sum = if a ∈ ks then x else 0 := by
  induction ks with
  | nil => simp
  | cons k ks ih =>
    rw [List.nodup_cons] at hnd
    rw [List.map_cons, List.sum_cons, ih hnd.2]
    by_cases h : a = k
    · subst h; simp [hnd.1]
    · simp [h]

/-- Distributing a list over distinct keys keeps each element that has one of the keys. -/
theorem flatMap_filter_perm {α : Type v} [DecidableEq α] [DecidableEq κ] (key : α → Option κ)
    (l : List α) {ks : List κ} (hnd : ks.Nodup) (hcover : ∀ a ∈ l, ∀ k, key a = some k → k ∈ ks) :
    (ks.flatMap (fun k => l.filter (fun a => key a = some k))).Perm
      (l.filter (fun a => (key a).isSome)) := by
  rw [List.perm_iff_count]
  intro a
  have hcount : ∀ p : α → Bool, (l.filter p).count a = if p a then l.count a else 0 := by
    intro p
    split
    · next hp => rw [List.count_filter hp]
    · next hp =>
      rw [List.count_eq_zero, List.mem_filter]
      exact fun hmem => hp hmem.2
  rw [List.count_flatMap, hcount]
  cases hkey : key a with
  | none => simp [Function.comp_def, hcount, hkey]
  | some k =>
    have hsingle : ks.map (List.count a ∘ fun k => l.filter (fun a => key a = some k)) =
        ks.map (fun k' => if k = k' then l.count a else 0) := by
      apply List.map_congr_left
      intro k' _
      simp [hcount, hkey]
    rw [hsingle, sum_map_single hnd]
    by_cases hmem : a ∈ l
    · simp [hcover a hmem k hkey]
    · simp [List.count_eq_zero.mpr hmem]

/-- Adding up a list that is distributed over others, some of which are left out. -/
theorem sum_flatMap_filter {α β M : Type*} [AddMonoid M] (parts : α → List β)
    (measure : β → M) (p : α → Bool) (q : β → Bool) (l : List α)
    (h : ∀ a ∈ l, ∀ b ∈ parts a, q b = p a) :
    ((l.filter p).map (fun a => ((parts a).map measure).sum)).sum =
      (((l.flatMap parts).filter q).map measure).sum := by
  induction l with
  | nil => simp
  | cons a l ih =>
    have hpart : (parts a).filter q = if p a then parts a else [] := by
      split
      · next hp =>
        rw [List.filter_eq_self]
        intro b hb
        rw [h a List.mem_cons_self b hb, hp]
      · next hp =>
        rw [List.filter_eq_nil_iff]
        intro b hb
        rw [h a List.mem_cons_self b hb]
        exact hp
    rw [List.flatMap_cons, List.filter_append, List.map_append, List.sum_append, hpart,
      ← ih (fun a' ha' => h a' (List.mem_cons_of_mem a ha'))]
    by_cases hp : p a = true
    · simp [hp]
    · simp [hp]

/-- A stronger condition that some element stops meeting is met by fewer elements. -/
theorem length_filter_lt {α : Type*} {p q : α → Bool} {l : List α} (h : ∀ a, q a = true → p a = true)
    {a : α} (ha : a ∈ l) (hp : p a = true) (hq : q a = false) :
    (l.filter q).length < (l.filter p).length := by
  have hnested : l.filter q = (l.filter p).filter q := by
    rw [List.filter_filter]
    apply List.filter_congr
    intro b _
    cases hb : q b with
    | false => rfl
    | true => rw [h b hb, Bool.and_self]
  rw [hnested, List.length_filter_lt_length_iff_exists]
  exact ⟨a, List.mem_filter.mpr ⟨ha, hp⟩, by simp [hq]⟩

/-- A list that has what meets `p` in front. -/
theorem filter_append_filter_not {α : Type*} {p : α → Bool} {l : List α}
    (h : l.Pairwise (fun a b => p b = true → p a = true)) :
    l.filter p ++ l.filter (fun a => !p a) = l := by
  induction l with
  | nil => rfl
  | cons a l ih =>
    obtain ⟨ha, hl⟩ := List.pairwise_cons.mp h
    cases hp : p a with
    | true => simp [hp, ih hl]
    | false =>
      have hnone : ∀ b ∈ l, p b = false := by
        intro b hb
        cases hpb : p b with
        | false => rfl
        | true => rw [ha b hb hpb] at hp; cases hp
      have hfront : l.filter p = [] := List.filter_eq_nil_iff.mpr fun b hb => by simp [hnone b hb]
      have hback : l.filter (fun b => !p b) = l :=
        List.filter_eq_self.mpr fun b hb => by simp [hnone b hb]
      simp [hp, hfront, hback]

variable [DecidableEq κ] [DecidableEq κ'] [AddCommSemigroup ν]

/-- The sum of the values that `l` files under `k`; zero when there is none. -/
def keyedSum (l : List (κ × ν)) (k : κ) : WithZero ν :=
  ((l.filter (fun e => e.1 = k)).map (fun e => (e.2 : WithZero ν))).sum

@[simp] theorem keyedSum_nil (k : κ) : keyedSum ([] : List (κ × ν)) k = 0 := rfl

theorem keyedSum_cons (e : κ × ν) (l : List (κ × ν)) (k : κ) :
    keyedSum (e :: l) k = (if e.1 = k then (e.2 : WithZero ν) else 0) + keyedSum l k := by
  by_cases h : e.1 = k <;> simp [keyedSum, h]

/-- A keyed sum over the whole list, what is filed elsewhere adding nothing. -/
theorem keyedSum_eq_sum_ite (l : List (κ × ν)) (k : κ) :
    keyedSum l k = (l.map (fun e => if e.1 = k then (e.2 : WithZero ν) else 0)).sum := by
  induction l with
  | nil => rfl
  | cons e l ih => rw [keyedSum_cons, ih, List.map_cons, List.sum_cons]

theorem keyedSum_append (l l' : List (κ × ν)) (k : κ) :
    keyedSum (l ++ l') k = keyedSum l k + keyedSum l' k := by
  simp [keyedSum]

theorem keyedSum_perm {l l' : List (κ × ν)} (h : l.Perm l') (k : κ) :
    keyedSum l k = keyedSum l' k :=
  ((h.filter _).map _).sum_eq

/-- Renaming the keys one-to-one renames the keyed sums. -/
theorem keyedSum_map_key {f : κ → κ'} (hf : Function.Injective f) (l : List (κ × ν)) (k : κ) :
    keyedSum (l.map (fun e => (f e.1, e.2))) (f k) = keyedSum l k := by
  induction l with
  | nil => rfl
  | cons e l ih =>
    rw [List.map_cons, keyedSum_cons, keyedSum_cons, ih]
    by_cases h : e.1 = k
    · rw [if_pos (congrArg f h), if_pos h]
    · rw [if_neg (fun hfe => h (hf hfe)), if_neg h]

omit [DecidableEq κ'] in
/-- Leaving keys out empties their sums and no others. -/
theorem keyedSum_filter_key (p : κ → Bool) (l : List (κ × ν)) (k : κ) :
    keyedSum (l.filter (fun e => p e.1)) k = if p k then keyedSum l k else 0 := by
  induction l with
  | nil => simp
  | cons e l ih =>
    by_cases hp : p e.1 = true
    · have hkept : (e :: l).filter (fun e => p e.1) = e :: l.filter (fun e => p e.1) := by
        simp [hp]
      rw [hkept, keyedSum_cons, keyedSum_cons, ih]
      by_cases h : e.1 = k
      · rw [h] at hp
        simp [hp]
      · simp [h]
    · have hleft : (e :: l).filter (fun e => p e.1) = l.filter (fun e => p e.1) := by
        simp [hp]
      rw [hleft, keyedSum_cons, ih]
      by_cases h : e.1 = k
      · rw [h] at hp
        simp [hp]
      · simp [h]

/-- A keyed sum is zero exactly at the keys nothing is filed under. -/
theorem keyedSum_eq_zero_iff {l : List (κ × ν)} {k : κ} :
    keyedSum l k = 0 ↔ k ∉ l.map Prod.fst := by
  induction l with
  | nil => simp
  | cons e l ih =>
    rw [keyedSum_cons, List.map_cons, List.mem_cons, not_or]
    by_cases h : e.1 = k
    · have hne : ∀ x : WithZero ν, (e.2 : WithZero ν) + x ≠ 0 := by
        intro x
        cases x using WithZero.recZeroCoe with
        | zero => simp
        | coe a => rw [← WithZero.coe_add]; exact WithZero.coe_ne_zero
      simp [h, hne]
    · have h' : k ≠ e.1 := fun hk => h hk.symm
      simp [h, h', ih]

/-- Over distinct keys the keyed sum is the single value filed there. -/
theorem keyedSum_eq_lookup {l : List (κ × ν)} (hnd : (l.map Prod.fst).Nodup) (k : κ) :
    keyedSum l k = (l.lookup k : WithZero ν) := by
  induction l with
  | nil => rfl
  | cons e l ih =>
    obtain ⟨a, b⟩ := e
    simp only [List.map_cons, List.nodup_cons] at hnd
    rw [keyedSum_cons, Dict.lookup_cons_ite]
    by_cases h : k = a
    · subst h
      rw [keyedSum_eq_zero_iff.mpr hnd.1]
      simp; rfl
    · have h' : a ≠ k := fun hk => h hk.symm
      rw [if_neg h', if_neg h, zero_add, ih hnd.2]

/-! ### Regrouping under coarser keys -/

omit [DecidableEq κ] in
theorem keyedSum_regroup_cons (g : κ → Option κ') (e : κ × ν) (l : List (κ × ν)) (k' : κ') :
    keyedSum (regroup g (e :: l)) k' =
      (if g e.1 = some k' then (e.2 : WithZero ν) else 0) + keyedSum (regroup g l) k' := by
  cases hg : g e.1 with
  | none => simp [regroup, hg]
  | some a =>
    simp only [regroup, List.filterMap_cons, hg, Option.map_some, Option.some.injEq]
    rw [keyedSum_cons]

/-- A coarse sum is the sum of the fine sums it is made of, over any list of
    distinct keys that covers the entries. -/
theorem keyedSum_regroup_eq (g : κ → Option κ') (l : List (κ × ν)) (ks : List κ)
    (hnd : ks.Nodup) (hcover : ∀ e ∈ l, e.1 ∈ ks) (k' : κ') :
    keyedSum (regroup g l) k' =
      ((ks.filter (fun k => g k = some k')).map (keyedSum l)).sum := by
  induction l with
  | nil =>
    have hfun : keyedSum ([] : List (κ × ν)) = fun _ => 0 := rfl
    simp [regroup, hfun]
  | cons e l ih =>
    have hcover' : ∀ e ∈ l, e.1 ∈ ks := fun e' he' => hcover e' (List.mem_cons_of_mem _ he')
    have hfun : keyedSum (e :: l) =
        fun k => (if e.1 = k then (e.2 : WithZero ν) else 0) + keyedSum l k := by
      funext k; exact keyedSum_cons e l k
    rw [keyedSum_regroup_cons, ih hcover', hfun, List.sum_map_add]
    congr 1
    -- the value of `e` enters at its own fine key, which `ks` lists once
    have hnd' : (ks.filter (fun k => g k = some k')).Nodup := hnd.filter _
    rw [sum_map_single hnd']
    have hmem : e.1 ∈ ks := hcover e List.mem_cons_self
    simp [hmem]

/-- **Regrouping**: lists with the same fine sums have the same coarse sums. -/
theorem keyedSum_regroup (g : κ → Option κ') {l l' : List (κ × ν)}
    (h : ∀ k, keyedSum l k = keyedSum l' k) (k' : κ') :
    keyedSum (regroup g l) k' = keyedSum (regroup g l') k' := by
  have hkeys : ∀ k, k ∈ l.map Prod.fst ↔ k ∈ l'.map Prod.fst := by
    intro k
    have := keyedSum_eq_zero_iff (l := l) (k := k)
    rw [h k, keyedSum_eq_zero_iff] at this
    exact (not_iff_not.mp this).symm
  have hnd := List.nodup_dedup (l.map Prod.fst)
  rw [keyedSum_regroup_eq g l _ hnd, keyedSum_regroup_eq g l' _ hnd]
  · rw [show keyedSum l = keyedSum l' from funext h]
  · intro e he
    exact List.mem_dedup.mpr ((hkeys e.1).mpr (List.mem_map_of_mem he))
  · intro e he
    exact List.mem_dedup.mpr (List.mem_map_of_mem he)

end keyedSum

/-! ### Accumulating dictionaries -/

namespace Dict

variable {κ : Type u} {ν : Type v} [DecidableEq κ]

/-- The content at a key, absent read as zero. -/
def total (d : Dict κ ν) (k : κ) : WithZero ν := d.get? k

@[simp] theorem total_empty (k : κ) : (empty : Dict κ ν).total k = 0 := rfl

/-- Dictionaries with the same totals have the same content. -/
theorem get?_eq_of_total_eq {d d' : Dict κ ν} (h : ∀ k, d.total k = d'.total k) (k : κ) :
    d.get? k = d'.get? k := h k

theorem total_filter_key (p : κ → Bool) (d : Dict κ ν) (k : κ) :
    (d.filter (fun k _ => p k)).total k = if p k then d.total k else 0 := by
  have hget : (d.filter (fun k _ => p k)).get? k = if p k then d.get? k else none := by
    rw [get?_filter]
    cases d.get? k with
    | none => simp
    | some v => exact Option.filter_some
  by_cases hp : p k = true
  · rw [if_pos hp] at hget ⊢
    exact hget
  · rw [if_neg hp] at hget ⊢
    exact hget

variable [AddCommSemigroup ν]

/-- Add `v` to what is filed under `k`, or file it there. -/
def addAt (d : Dict κ ν) (k : κ) (v : ν) : Dict κ ν :=
  d.set k (match d.get? k with
    | none => v
    | some a => a + v)

/-- One accumulation pass. -/
def sumInto (d : Dict κ ν) (l : List (κ × ν)) : Dict κ ν :=
  l.foldl (fun d e => d.addAt e.1 e.2) d

theorem total_addAt (d : Dict κ ν) (k k' : κ) (v : ν) :
    (d.addAt k v).total k' = d.total k' + (if k = k' then (v : WithZero ν) else 0) := by
  unfold total addAt
  rw [get?_set]
  by_cases h : k' = k
  · subst h
    cases hd : d.get? k' with
    | none => simp; exact (zero_add (v : WithZero ν)).symm
    | some a => simp; exact WithZero.coe_add a v
  · have h' : k ≠ k' := fun hk => h hk.symm
    rw [if_neg h, if_neg h']
    exact (add_zero _).symm

/-- **Accumulation** computes the keyed sums. -/
theorem total_sumInto (d : Dict κ ν) (l : List (κ × ν)) (k : κ) :
    (d.sumInto l).total k = d.total k + keyedSum l k := by
  induction l generalizing d with
  | nil => simp [sumInto]
  | cons e l ih =>
    have : d.sumInto (e :: l) = (d.addAt e.1 e.2).sumInto l := rfl
    rw [this, ih, total_addAt, keyedSum_cons, add_assoc]

theorem mem_keys_sumInto {d : Dict κ ν} {l : List (κ × ν)} {k : κ} :
    k ∈ (d.sumInto l).keys ↔ k ∈ d.keys ∨ k ∈ l.map Prod.fst := by
  induction l generalizing d with
  | nil => simp [sumInto]
  | cons e l ih =>
    have hstep : d.sumInto (e :: l) = (d.addAt e.1 e.2).sumInto l := rfl
    rw [hstep, ih, addAt, mem_keys_set, List.map_cons, List.mem_cons]
    tauto

theorem keyedSum_entries (d : Dict κ ν) (k : κ) : keyedSum d.entries k = d.total k :=
  keyedSum_eq_lookup d.nodup k

section measure
variable {M : Type w} [AddCommMonoid M] {f : κ → ν → M}
  (hf : ∀ k a b, f k (a + b) = f k a + f k b)

include hf in
theorem sum_entries_addAt (d : Dict κ ν) (k : κ) (v : ν) :
    ((d.addAt k v).entries.map (fun e => f e.1 e.2)).sum =
      (d.entries.map (fun e => f e.1 e.2)).sum + f k v := by
  unfold addAt
  cases hget : d.get? k with
  | none =>
    rw [set_entries_of_get?_none _ hget]
    simp
  | some a =>
    obtain ⟨rest, hbefore, hafter, -⟩ := set_perm_of_get? (a + v) hget
    rw [(hbefore.map _).sum_eq, (hafter.map _).sum_eq]
    simp only [List.map_cons, List.sum_cons, hf]
    rw [add_assoc, add_assoc, add_comm (f k v)]

include hf in
/-- **Measures**: an additive measure of an accumulation is that of what was accumulated. -/
theorem sum_entries_sumInto (d : Dict κ ν) (l : List (κ × ν)) :
    ((d.sumInto l).entries.map (fun e => f e.1 e.2)).sum =
      (d.entries.map (fun e => f e.1 e.2)).sum + (l.map (fun e => f e.1 e.2)).sum := by
  induction l generalizing d with
  | nil => simp [sumInto]
  | cons e l ih =>
    have hstep : d.sumInto (e :: l) = (d.addAt e.1 e.2).sumInto l := rfl
    rw [hstep, ih, sum_entries_addAt hf, List.map_cons, List.sum_cons, add_assoc]

end measure

section readings
variable {κ' : Type w} {μ : Type v} [DecidableEq κ'] [AddCommSemigroup μ]

/-- **Coarser keys, additive readings**: read off an accumulation, the keyed sums are those of
    what was accumulated. -/
theorem keyedSum_entries_sumInto (g : κ → κ') {h : ν → μ} (hadd : ∀ a b, h (a + b) = h a + h b)
    (l : List (κ × ν)) (k' : κ') :
    keyedSum ((empty.sumInto l).entries.map (fun e => (g e.1, h e.2))) k' =
      keyedSum (l.map (fun e => (g e.1, h e.2))) k' := by
  have hf : ∀ k a b, (if g k = k' then (h (a + b) : WithZero μ) else 0) =
      (if g k = k' then (h a : WithZero μ) else 0) + (if g k = k' then (h b : WithZero μ) else 0) := by
    intro k a b
    split
    · rw [hadd, WithZero.coe_add]
    · rw [add_zero]
  have hsum := sum_entries_sumInto (f := fun k v => if g k = k' then (h v : WithZero μ) else 0)
    hf empty l
  rw [keyedSum_eq_sum_ite, keyedSum_eq_sum_ite, List.map_map, List.map_map]
  refine hsum.trans ?_
  exact zero_add _

end readings

end Dict

/-! ### Sorting by key -/

section sorting
variable {α : Type u} {κ : Type v} [LinearOrder κ]

/-- Sort by a key. -/
def sortOn (key : α → κ) (l : List α) : List α :=
  l.insertionSort (fun a b => key a ≤ key b)

theorem sortOn_perm (key : α → κ) (l : List α) : (sortOn key l).Perm l :=
  List.perm_insertionSort _ l

theorem sortOn_pairwise (key : α → κ) (l : List α) :
    (sortOn key l).Pairwise (fun a b => key a ≤ key b) := by
  have : Std.Total (fun a b : α => key a ≤ key b) := ⟨fun a b => le_total _ _⟩
  have : IsTrans α (fun a b : α => key a ≤ key b) := ⟨fun _ _ _ => le_trans⟩
  exact List.pairwise_insertionSort _ l

theorem mem_sortOn {key : α → κ} {l : List α} {a : α} : a ∈ sortOn key l ↔ a ∈ l :=
  (sortOn_perm key l).mem_iff

/-- Sorting on distinct keys gives strictly increasing keys. -/
theorem sortOn_strict {key : α → κ} {l : List α} (hnd : (l.map key).Nodup) :
    ((sortOn key l).map key).Pairwise (· < ·) := by
  have hnd' : ((sortOn key l).map key).Nodup := ((sortOn_perm key l).map key).nodup_iff.mpr hnd
  have hle : ((sortOn key l).map key).Pairwise (· ≤ ·) :=
    List.pairwise_map.mpr (sortOn_pairwise key l)
  exact (hle.and hnd').imp fun ⟨h₁, h₂⟩ => lt_of_le_of_ne h₁ h₂

theorem sortOn_id_strict {l : List κ} (hnd : l.Nodup) : (sortOn id l).Pairwise (· < ·) := by
  have hnd' : (l.map id).Nodup := by rwa [List.map_id]
  have hstrict := sortOn_strict hnd'
  rwa [List.map_id] at hstrict

/-- `sorted(set(l))` is strictly increasing. -/
theorem sortOn_dedup_strict (l : List κ) : (sortOn id l.dedup).Pairwise (· < ·) :=
  sortOn_id_strict (List.nodup_dedup l)

/-- A loop that keeps the element with the lower key ends with one of the lowest. -/
theorem foldl_select {step : α → α → α} (key : α → κ) (hlt : ∀ a b, key a < key b → step a b = a)
    (hge : ∀ a b, ¬ key a < key b → step a b = b) (l : List α) (a : α) :
    l.foldl step a ∈ a :: l ∧ ∀ b ∈ a :: l, key (l.foldl step a) ≤ key b := by
  induction l generalizing a with
  | nil => simp
  | cons b l ih =>
    rw [List.foldl_cons]
    by_cases hab : key a < key b
    · rw [hlt a b hab]
      obtain ⟨hmem, hle⟩ := ih a
      refine ⟨?_, ?_⟩
      · rcases List.mem_cons.mp hmem with heq | hmem
        · rw [heq]
          exact List.mem_cons_self
        · exact List.mem_cons_of_mem a (List.mem_cons_of_mem b hmem)
      · intro c hc
        have ha := hle a List.mem_cons_self
        rcases List.mem_cons.mp hc with rfl | hc
        · exact ha
        · rcases List.mem_cons.mp hc with rfl | hc
          · exact ha.trans hab.le
          · exact hle c (List.mem_cons_of_mem a hc)
    · rw [hge a b hab]
      obtain ⟨hmem, hle⟩ := ih b
      refine ⟨List.mem_cons_of_mem a hmem, ?_⟩
      intro c hc
      rcases List.mem_cons.mp hc with rfl | hc
      · exact (hle b List.mem_cons_self).trans (not_lt.mp hab)
      · exact hle c hc

/-- **Sorting on distinct keys** does not depend on the order of the input. -/
theorem sortOn_eq_of_perm {key : α → κ} {l l' : List α} (h : l.Perm l')
    (hnd : (l.map key).Nodup) : sortOn key l = sortOn key l' := by
  have hinj : ∀ a ∈ l, ∀ b ∈ l, key a = key b → a = b := fun a ha b hb =>
    List.inj_on_of_nodup_map hnd ha hb
  refine List.Perm.eq_of_pairwise ?_ (sortOn_pairwise key l) (sortOn_pairwise key l') ?_
  · intro a b ha hb hab hba
    have hb' : b ∈ l := h.mem_iff.mpr (mem_sortOn.mp hb)
    exact hinj a (mem_sortOn.mp ha) b hb' (le_antisymm hab hba)
  · exact (sortOn_perm key l).trans (h.trans (sortOn_perm key l').symm)

/-- Sorting images by a key sorts the elements by the key of their image. -/
theorem sortOn_map {β : Type w} (f : β → α) (key : α → κ) (l : List β) :
    sortOn key (l.map f) = (sortOn (fun b => key (f b)) l).map f :=
  (List.map_insertionSort _ _ f l (fun _ _ _ _ => Iff.rfl)).symm

/-- Sorting depends on the keys of the elements only. -/
theorem sortOn_congr {key key' : α → κ} {l : List α} (h : ∀ a ∈ l, key a = key' a) :
    sortOn key l = sortOn key' l := by
  induction l with
  | nil => rfl
  | cons a l ih =>
    have hl : sortOn key l = sortOn key' l := ih (fun b hb => h b (List.mem_cons_of_mem a hb))
    have hinsert : ∀ l' : List α, (∀ b ∈ l', key b = key' b) →
        l'.orderedInsert (fun a b => key a ≤ key b) a =
          l'.orderedInsert (fun a b => key' a ≤ key' b) a := by
      intro l' h'
      induction l' with
      | nil => rfl
      | cons b l' ih' =>
        simp only [List.orderedInsert, h a List.mem_cons_self, h' b List.mem_cons_self,
          ih' (fun c hc => h' c (List.mem_cons_of_mem b hc))]
    show (sortOn key l).orderedInsert _ a = (sortOn key' l).orderedInsert _ a
    rw [← hl]
    refine hinsert _ ?_
    intro b hb
    exact h b (List.mem_cons_of_mem a (mem_sortOn.mp hb))

/-- Strictly increasing lists are equal when they have the same elements. -/
theorem strict_eq_of_mem_iff {l l' : List κ} (h : l.Pairwise (· < ·)) (h' : l'.Pairwise (· < ·))
    (hmem : ∀ a, a ∈ l ↔ a ∈ l') : l = l' := by
  have hperm : l.Perm l' := (List.perm_ext_iff_of_nodup
    (h.imp fun hab => ne_of_lt hab) (h'.imp fun hab => ne_of_lt hab)).mpr hmem
  exact hperm.eq_of_pairwise (fun a b _ _ hab hba => absurd hab (lt_asymm hba)) h h'

/-- Lists with strictly increasing keys are equal when they have the same elements. -/
theorem strict_on_eq_of_mem_iff {key : α → κ} {l l' : List α}
    (h : (l.map key).Pairwise (· < ·)) (h' : (l'.map key).Pairwise (· < ·))
    (hmem : ∀ a, a ∈ l ↔ a ∈ l') : l = l' := by
  rw [List.pairwise_map] at h h'
  have hne : ∀ {a b : α}, key a < key b → a ≠ b := fun hab heq => absurd (heq ▸ hab) (lt_irrefl _)
  have hperm : l.Perm l' := (List.perm_ext_iff_of_nodup (h.imp hne) (h'.imp hne)).mpr hmem
  exact hperm.eq_of_pairwise (fun a b _ _ hab hba => absurd hab (lt_asymm hba)) h h'

/-- With strictly increasing keys, the elements up to one are those up to its position. -/
theorem filter_le_getElem {key : α → κ} {l : List α} (hstrict : (l.map key).Pairwise (· < ·))
    {i : Nat} (hi : i < l.length) :
    l.filter (fun a => key a ≤ key l[i]) = l.take (i + 1) := by
  rw [List.pairwise_map] at hstrict
  have hbefore : ∀ a ∈ l.take (i + 1), key a ≤ key l[i] := by
    intro a ha
    obtain ⟨j, hj, rfl⟩ := List.getElem_of_mem ha
    rw [List.length_take] at hj
    rw [List.getElem_take]
    rcases Nat.lt_or_eq_of_le (show j ≤ i by omega) with hlt | rfl
    · exact le_of_lt (List.pairwise_iff_getElem.mp hstrict j i (by omega) hi hlt)
    · exact le_refl _
  have hafter : ∀ a ∈ l.drop (i + 1), ¬ key a ≤ key l[i] := by
    intro a ha
    obtain ⟨j, hj, rfl⟩ := List.getElem_of_mem ha
    rw [List.length_drop] at hj
    rw [List.getElem_drop]
    exact not_le.mpr (List.pairwise_iff_getElem.mp hstrict i (i + 1 + j) hi (by omega) (by omega))
  generalize key l[i] = k at hbefore hafter ⊢
  have htake : (l.take (i + 1)).filter (fun a => key a ≤ k) = l.take (i + 1) :=
    List.filter_eq_self.mpr fun a ha => decide_eq_true (hbefore a ha)
  have hdrop : (l.drop (i + 1)).filter (fun a => key a ≤ k) = [] :=
    List.filter_eq_nil_iff.mpr fun a ha => by simpa using hafter a ha
  calc l.filter (fun a => key a ≤ k)
      = (l.take (i + 1) ++ l.drop (i + 1)).filter (fun a => key a ≤ k) := by
        rw [List.take_append_drop]
    _ = l.take (i + 1) := by rw [List.filter_append, htake, hdrop, List.append_nil]

/-- So the first `n` elements are those of rank at most `n`. -/
theorem mem_take_iff_rank {key : α → κ} {l : List α} (hstrict : (l.map key).Pairwise (· < ·))
    {a : α} (ha : a ∈ l) {n : Nat} :
    a ∈ l.take n ↔ (l.filter (fun b => key b ≤ key a)).length ≤ n := by
  obtain ⟨i, hi, rfl⟩ := List.getElem_of_mem ha
  rw [filter_le_getElem hstrict hi, List.length_take]
  constructor
  · intro hmem
    obtain ⟨j, hj, heq⟩ := List.mem_take_iff_getElem.mp hmem
    have hnd : l.Nodup := (List.pairwise_map.mp hstrict).imp fun hab heq =>
      absurd (heq ▸ hab) (lt_irrefl _)
    have : j = i := (List.Nodup.getElem_inj_iff hnd).mp heq
    omega
  · intro hrank
    exact List.mem_take_iff_getElem.mpr ⟨i, by omega, rfl⟩

end sorting
