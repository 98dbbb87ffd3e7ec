import TopologyVisualizer.Framework.Dict
import Mathlib.Algebra.Order.Group.Unbundled.Basic
import Mathlib.Algebra.Order.Monoid.Defs
import Mathlib.Data.Finset.Card

/-! # Cooldown Tables

    A table that lets an attempt for a key pass when the last one that
    passed is a cooldown ago. It keeps one time stamp for each key; when it
    has grown to a limit, stamps that have cooled down are removed first.

    Time is read off a clock, and all that is needed of it is that the time
    since an instant does not get shorter, so that differences may be
    rounded. The invariant is `Tracks`: every attempt that passed and is
    still fresh is the stamp of its key.

    * `Tracks.grant_eq_none_iff`: an attempt is held back exactly when one
      that passed is fresh;
    * `Tracks.size_le_iff`: the table stays within its limit exactly when
      fewer keys than that are fresh.
-/

universe u v w

theorem Dict.size_eq_card {κ : Type u} {ν : Type v} [DecidableEq κ] (d : Dict κ ν) :
    d.size = d.keys.toFinset.card := by
  rw [keys, List.toFinset_card_of_nodup d.nodup, List.length_map]
  rfl

namespace Cooldown

/-- The time between two readings of a clock. -/
structure Clock (τ : Type u) (δ : Type v) [LE τ] [LE δ] where
  /-- `elapsed now t`: the time since `t`. -/
  elapsed : τ → τ → δ
  mono : ∀ {now now' : τ} (t : τ), now ≤ now' → elapsed now t ≤ elapsed now' t

/-- A clock whose differences are exact. -/
def Clock.exact (τ : Type u) [AddCommGroup τ] [LinearOrder τ] [IsOrderedAddMonoid τ] :
    Clock τ τ where
  elapsed := fun now t => now - t
  mono := fun t h => sub_le_sub_right h t

section table
variable {κ : Type u} {τ : Type v} {δ : Type w} [DecidableEq κ] [LinearOrder τ] [LinearOrder δ]
  (clock : Clock τ δ) (cooldown : δ) (limit : Nat)

/-- Less than a cooldown has passed. -/
def fresh (now t : τ) : Bool := decide (clock.elapsed now t < cooldown)

/-- The table after an attempt that passed. -/
def stamp (table : Dict κ τ) (key : κ) (now : τ) : Dict κ τ :=
  (if limit ≤ table.size then table.filter (fun _ t => fresh clock cooldown now t)
    else table).set key now

/-- An attempt: it is held back, or the table is stamped. -/
def grant (table : Dict κ τ) (key : κ) (now : τ) : Option (Dict κ τ) :=
  if (table.get? key).any (fresh clock cooldown now) then none
  else some (stamp clock cooldown limit table key now)

/-- The keys with an attempt that passed and is fresh. -/
def freshKeys (passed : List (κ × τ)) (now : τ) : Finset κ :=
  ((passed.filter (fun e => fresh clock cooldown now e.2)).map Prod.fst).toFinset

/-- What the table knows of the attempts that passed, in their order. -/
structure Tracks (table : Dict κ τ) (passed : List (κ × τ)) (now : τ) : Prop where
  stamped : ∀ key t, table.get? key = some t → (key, t) ∈ passed
  kept : ∀ e ∈ passed, fresh clock cooldown now e.2 = true → table.get? e.1 = some e.2

variable {clock cooldown limit} {table table' : Dict κ τ} {passed : List (κ × τ)} {key : κ}
  {now now' : τ}

theorem mem_freshKeys : key ∈ freshKeys clock cooldown passed now ↔
    ∃ t, (key, t) ∈ passed ∧ fresh clock cooldown now t = true := by
  simp [freshKeys]

theorem Tracks.empty (now : τ) : Tracks clock cooldown (.empty : Dict κ τ) [] now where
  stamped := fun _ _ h => by cases h
  kept := fun _ h => absurd h List.not_mem_nil

/-- What is fresh later is fresh now. -/
theorem fresh_of_le {t : τ} (h : now ≤ now') (hfresh : fresh clock cooldown now' t = true) :
    fresh clock cooldown now t = true := by
  unfold fresh at hfresh ⊢
  rw [decide_eq_true_eq] at hfresh ⊢
  exact lt_of_le_of_lt (clock.mono t h) hfresh

theorem Tracks.advance (h : Tracks clock cooldown table passed now) (hle : now ≤ now') :
    Tracks clock cooldown table passed now' where
  stamped := h.stamped
  kept := fun e he hfresh => h.kept e he (fresh_of_le hle hfresh)

/-- **Held back**: exactly when the key is fresh. -/
theorem Tracks.grant_eq_none_iff (h : Tracks clock cooldown table passed now) :
    grant clock cooldown limit table key now = none ↔
      ∃ t, (key, t) ∈ passed ∧ fresh clock cooldown now t = true := by
  have hnone : grant clock cooldown limit table key now = none ↔
      ∃ t, table.get? key = some t ∧ fresh clock cooldown now t = true := by
    unfold grant
    rw [ite_eq_left_iff, ← Option.any_eq_true]
    simp
  rw [hnone]
  constructor
  · intro hstamp
    obtain ⟨t, ht, hfresh⟩ := hstamp
    exact ⟨t, h.stamped key t ht, hfresh⟩
  · intro hpassed
    obtain ⟨t, ht, hfresh⟩ := hpassed
    exact ⟨t, h.kept (key, t) ht hfresh, hfresh⟩

/-- The stamps that are left when the table is cleared of the others. -/
theorem get?_cleared (h : Tracks clock cooldown table passed now) {t : τ} :
    (table.filter (fun _ t => fresh clock cooldown now t)).get? key = some t ↔
      (key, t) ∈ passed ∧ fresh clock cooldown now t = true := by
  rw [Dict.get?_filter, Option.filter_eq_some_iff]
  constructor
  · intro ht
    exact ⟨h.stamped key t ht.1, ht.2⟩
  · intro ht
    exact ⟨h.kept (key, t) ht.1 ht.2, ht.2⟩

/-- The table keeps track of an attempt that passed. -/
theorem Tracks.stamp (h : Tracks clock cooldown table passed now)
    (hpassed : ∀ t, (key, t) ∈ passed → fresh clock cooldown now t = false) :
    Tracks clock cooldown (stamp clock cooldown limit table key now) (passed ++ [(key, now)])
      now := by
  unfold Cooldown.stamp
  set base := if limit ≤ table.size then table.filter (fun _ t => fresh clock cooldown now t)
    else table with hbase
  -- clearing the table removes nothing fresh
  have htracks : Tracks clock cooldown base passed now := by
    rw [hbase]
    split
    · exact ⟨fun k t ht => ((get?_cleared h).mp ht).1,
        fun e he hfresh => (get?_cleared h).mpr ⟨he, hfresh⟩⟩
    · exact h
  constructor
  · refine Dict.forall_set ?_ (List.mem_append_right _ List.mem_cons_self)
    intro k t ht
    exact List.mem_append_left _ (htracks.stamped k t ht)
  · intro e he hfresh
    rw [Dict.get?_set]
    rcases List.mem_append.mp he with hold | hnew
    · split
      · next hk =>
        have hcold := hpassed e.2 (hk ▸ hold)
        rw [hfresh] at hcold
        cases hcold
      · exact htracks.kept e hold hfresh
    · rw [List.mem_singleton.mp hnew, if_pos rfl]

theorem Tracks.grant (h : Tracks clock cooldown table passed now)
    (hgrant : grant clock cooldown limit table key now = some table') :
    Tracks clock cooldown table' (passed ++ [(key, now)]) now := by
  have hpassed : ∀ t, (key, t) ∈ passed → fresh clock cooldown now t = false := by
    intro t ht
    by_contra hfresh
    rw [Bool.not_eq_false] at hfresh
    rw [h.grant_eq_none_iff.mpr ⟨t, ht, hfresh⟩] at hgrant
    cases hgrant
  unfold Cooldown.grant at hgrant
  split at hgrant
  · cases hgrant
  · cases hgrant
    exact h.stamp hpassed

/-- **The limit**: a table is within it after an attempt that passed exactly when fewer keys were
    fresh. -/
theorem Tracks.size_le_iff (h : Tracks clock cooldown table passed now)
    (hgrant : Cooldown.grant clock cooldown limit table key now = some table') :
    table'.size ≤ limit ↔ (freshKeys clock cooldown passed now).card < limit := by
  have hnot : key ∉ freshKeys clock cooldown passed now := by
    intro hkey
    rw [h.grant_eq_none_iff.mpr (mem_freshKeys.mp hkey)] at hgrant
    cases hgrant
  have htable : table' = Cooldown.stamp clock cooldown limit table key now := by
    unfold Cooldown.grant at hgrant
    split at hgrant
    · cases hgrant
    · exact (Option.some.inj hgrant).symm
  rw [htable, Cooldown.stamp]
  by_cases hfull : limit ≤ table.size
  · -- what is left of a full table is what is fresh
    have hkeys : ((table.filter (fun _ t => fresh clock cooldown now t)).set key now).keys.toFinset =
        insert key (freshKeys clock cooldown passed now) := by
      ext k
      rw [List.mem_toFinset, Dict.mem_keys_set, Finset.mem_insert, Dict.mem_keys_iff,
        mem_freshKeys]
      simp only [get?_cleared h]
    rw [if_pos hfull, Dict.size_eq_card, hkeys, Finset.card_insert_of_notMem hnot]
    omega
  · have hsize : (table.set key now).size ≤ table.size + 1 := by
      rw [Dict.size_eq_card, Dict.size_eq_card]
      refine le_trans (Finset.card_le_card ?_) (Finset.card_insert_le key _)
      intro k hk
      rw [List.mem_toFinset, Dict.mem_keys_set] at hk
      rw [Finset.mem_insert, List.mem_toFinset]
      exact hk
    have hsubset : (freshKeys clock cooldown passed now).card ≤ table.size := by
      rw [Dict.size_eq_card]
      apply Finset.card_le_card
      intro k hk
      obtain ⟨t, ht, hfresh⟩ := mem_freshKeys.mp hk
      rw [List.mem_toFinset, Dict.mem_keys_iff]
      exact ⟨t, h.kept (k, t) ht hfresh⟩
    rw [if_neg hfull]
    omega

end table

end Cooldown
