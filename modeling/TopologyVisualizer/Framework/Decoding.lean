import Mathlib.Data.List.Basic
import Mathlib.Data.List.Chain

/-! # Unique Decoding

    When a text can be taken apart again.

    * `split_first`, `split_last`: at a separator that one side does not
      contain.
    * `split_pair`: at a separator of two characters.
    * `SelfDelimiting`: a code whose words show where they end, because none
      begins another (`SelfDelimiting.of_prefixFree`). A sequence of such
      words can be decoded (`SelfDelimiting.flatMap_inj`), also in front
      of a character that no word begins with (`SelfDelimiting.terminated`).
    * `intercalate_inj`: a list of fields joined by a separator, and
      `joined_inj`: words of several fields, joined by it too.
    * `Unpaired`: that a text does not have a separator of two characters.
-/

namespace Decoding

universe u v

variable {α : Type u} {β : Type v}

/-! ### Separators -/

/-- A text is taken apart at the first occurrence of `c`. -/
theorem split_first {c : β} {a a' b b' : List β} (ha : c ∉ a) (ha' : c ∉ a')
    (h : a ++ c :: b = a' ++ c :: b') : a = a' ∧ b = b' := by
  induction a generalizing a' with
  | nil =>
    cases a' with
    | nil => exact ⟨rfl, (List.cons.inj h).2⟩
    | cons x a' =>
      have hx : c = x := (List.cons.inj h).1
      exact absurd (hx ▸ List.mem_cons_self) ha'
  | cons x a ih =>
    cases a' with
    | nil =>
      have hx : x = c := (List.cons.inj h).1
      exact absurd (hx ▸ List.mem_cons_self) ha
    | cons x' a' =>
      obtain ⟨hx, hrest⟩ := List.cons.inj h
      obtain ⟨haa, hbb⟩ := ih (fun hc => ha (List.mem_cons_of_mem x hc))
        (fun hc => ha' (List.mem_cons_of_mem x' hc)) hrest
      exact ⟨by rw [hx, haa], hbb⟩

/-- A text is taken apart at the last occurrence of `c`. -/
theorem split_last {c : β} {a a' b b' : List β} (hb : c ∉ b) (hb' : c ∉ b')
    (h : a ++ c :: b = a' ++ c :: b') : a = a' ∧ b = b' := by
  have hrev : b.reverse ++ c :: a.reverse = b'.reverse ++ c :: a'.reverse := by
    have hboth := congrArg List.reverse h
    simpa using hboth
  obtain ⟨hbb, haa⟩ := split_first (by simpa using hb) (by simpa using hb') hrev
  exact ⟨List.reverse_injective haa, List.reverse_injective hbb⟩

/-- A text is taken apart at the first `cc`, when what is in front of it has none and does not
    end in `c`. -/
theorem split_pair {c : β} {a a' b b' : List β} (ha : ¬ [c, c] <:+: a) (hlast : a.getLast? ≠ some c)
    (ha' : ¬ [c, c] <:+: a') (hlast' : a'.getLast? ≠ some c)
    (h : a ++ c :: c :: b = a' ++ c :: c :: b') : a = a' ∧ b = b' := by
  -- a longer front part would begin its surplus with the separator
  have hshort : ∀ {a a' b b' : List β}, ¬ [c, c] <:+: a' → a'.getLast? ≠ some c →
      a ++ c :: c :: b = a' ++ c :: c :: b' → a'.length ≤ a.length := by
    intro a a' b b' hfree hend heq
    by_contra hlt
    obtain ⟨d, hd⟩ : a <+: a' := by
      have hstart : a' <+: a ++ c :: c :: b := by
        rw [heq]
        exact List.prefix_append a' _
      exact List.prefix_of_prefix_length_le (List.prefix_append a _) hstart (by omega)
    subst hd
    rw [List.append_assoc, List.append_cancel_left_eq] at heq
    cases d with
    | nil => simp at hlt
    | cons x d =>
      obtain ⟨hx, hrest⟩ := List.cons.inj heq
      cases d with
      | nil => exact hend (by simp [hx])
      | cons y d =>
        have hy : c = y := (List.cons.inj hrest).1
        exact hfree ⟨a, d, by simp [← hx, ← hy]⟩
  have hlen : a.length = a'.length :=
    Nat.le_antisymm (hshort ha hlast h.symm) (hshort ha' hlast' h)
  obtain ⟨haa, hrest⟩ := List.append_inj h hlen
  exact ⟨haa, (List.cons.inj (List.cons.inj hrest).2).2⟩

/-! ### Self-delimiting codes -/

/-- The words of `code` for the values that meet `p` show where they end. -/
def SelfDelimiting (p : α → Prop) (code : α → List β) : Prop :=
  ∀ ⦃a b⦄, p a → p b → ∀ ⦃r s⦄, code a ++ r = code b ++ s → a = b ∧ r = s

namespace SelfDelimiting

variable {p : α → Prop} {code : α → List β}

/-- A code none of whose words is the beginning of another one. -/
theorem of_prefixFree (h : ∀ ⦃a b⦄, p a → p b → code a <+: code b → a = b) :
    SelfDelimiting p code := by
  intro a b ha hb r s heq
  have hab : a = b := by
    have hword : code b <+: code a ++ r := by
      rw [heq]
      exact List.prefix_append _ _
    rcases List.prefix_or_prefix_of_prefix (List.prefix_append (code a) r) hword with hab | hba
    · exact h ha hb hab
    · exact (h hb ha hba).symm
  subst hab
  exact ⟨rfl, List.append_cancel_left heq⟩

/-- Words in front of a character that no word begins with. -/
theorem terminated (hcode : SelfDelimiting p code) {stop : β}
    (hstart : ∀ a, p a → ∃ x xs, code a = x :: xs ∧ x ≠ stop) {l l' : List α}
    (hl : ∀ a ∈ l, p a) (hl' : ∀ a ∈ l', p a) {r r' : List β}
    (h : l.flatMap code ++ stop :: r = l'.flatMap code ++ stop :: r') : l = l' ∧ r = r' := by
  induction l generalizing l' with
  | nil =>
    cases l' with
    | nil => exact ⟨rfl, (List.cons.inj h).2⟩
    | cons a' l' =>
      obtain ⟨x, xs, hx, hne⟩ := hstart a' (hl' a' List.mem_cons_self)
      rw [List.flatMap_cons, hx] at h
      exact absurd (List.cons.inj h).1.symm hne
  | cons a l ih =>
    have ha := hl a List.mem_cons_self
    cases l' with
    | nil =>
      obtain ⟨x, xs, hx, hne⟩ := hstart a ha
      rw [List.flatMap_cons, hx] at h
      exact absurd (List.cons.inj h).1 hne
    | cons a' l' =>
      rw [List.flatMap_cons, List.flatMap_cons, List.append_assoc, List.append_assoc] at h
      obtain ⟨haa, hrest⟩ := hcode ha (hl' a' List.mem_cons_self) h
      obtain ⟨hll, hrr⟩ := ih (fun b hb => hl b (List.mem_cons_of_mem a hb))
        (fun b hb => hl' b (List.mem_cons_of_mem a' hb)) hrest
      exact ⟨by rw [haa, hll], hrr⟩

/-- A sequence of words can be decoded. -/
theorem flatMap_inj (hcode : SelfDelimiting p code) (hne : ∀ a, p a → code a ≠ []) {l l' : List α}
    (hl : ∀ a ∈ l, p a) (hl' : ∀ a ∈ l', p a) (h : l.flatMap code = l'.flatMap code) :
    l = l' := by
  induction l generalizing l' with
  | nil =>
    cases l' with
    | nil => rfl
    | cons a' l' =>
      rw [List.flatMap_nil, List.flatMap_cons] at h
      exact absurd (List.append_eq_nil_iff.mp h.symm).1 (hne a' (hl' a' List.mem_cons_self))
  | cons a l ih =>
    have ha := hl a List.mem_cons_self
    cases l' with
    | nil =>
      rw [List.flatMap_nil, List.flatMap_cons] at h
      exact absurd (List.append_eq_nil_iff.mp h).1 (hne a ha)
    | cons a' l' =>
      rw [List.flatMap_cons, List.flatMap_cons] at h
      obtain ⟨haa, hrest⟩ := hcode ha (hl' a' List.mem_cons_self) h
      have hll := ih (fun b hb => hl b (List.mem_cons_of_mem a hb))
        (fun b hb => hl' b (List.mem_cons_of_mem a' hb)) hrest
      rw [haa, hll]

end SelfDelimiting

/-! ### Joined fields -/

/-- Some fields that do not contain the separator, joined by it. -/
theorem intercalate_inj_of_ne_nil {sep : β} [DecidableEq β] {fs gs : List (List β)}
    (hfs : fs ≠ []) (hgs : gs ≠ []) (hf : ∀ f ∈ fs, sep ∉ f) (hg : ∀ g ∈ gs, sep ∉ g)
    (h : [sep].intercalate fs = [sep].intercalate gs) : fs = gs := by
  rw [← List.splitOn_intercalate sep hf hfs, h, List.splitOn_intercalate sep hg hgs]

/-- Fields that are not empty and do not contain the separator, joined by it. -/
theorem intercalate_inj {sep : β} [DecidableEq β] {fs gs : List (List β)}
    (hf : ∀ f ∈ fs, f ≠ [] ∧ sep ∉ f) (hg : ∀ g ∈ gs, g ≠ [] ∧ sep ∉ g)
    (h : [sep].intercalate fs = [sep].intercalate gs) : fs = gs := by
  have hempty : ∀ hs : List (List β), (∀ f ∈ hs, f ≠ [] ∧ sep ∉ f) →
      [sep].intercalate hs = [] → hs = [] := by
    intro hs hhs hnil
    cases hs with
    | nil => rfl
    | cons f hs =>
      have hsplit := List.splitOn_intercalate sep (fun l hl => (hhs l hl).2) (List.cons_ne_nil f hs)
      rw [hnil, List.splitOn_nil] at hsplit
      exact absurd (List.cons.inj hsplit).1.symm (hhs f List.mem_cons_self).1
  by_cases hfs : fs = []
  · subst hfs
    exact (hempty gs hg h.symm).symm
  · by_cases hgs : gs = []
    · subst hgs
      exact absurd (hempty fs hf h) hfs
    · exact intercalate_inj_of_ne_nil hfs hgs (fun l hl => (hf l hl).2)
        (fun l hl => (hg l hl).2) h

theorem intercalate_append {sep : List β} {fs gs : List (List β)} (hf : fs ≠ []) (hg : gs ≠ []) :
    sep.intercalate (fs ++ gs) = sep.intercalate fs ++ sep ++ sep.intercalate gs := by
  induction fs with
  | nil => exact absurd rfl hf
  | cons f fs ih =>
    cases fs with
    | nil =>
      cases gs with
      | nil => exact absurd rfl hg
      | cons g gs => rw [List.singleton_append, List.intercalate_cons_cons, List.intercalate_singleton]
    | cons f' fs =>
      rw [List.cons_append, List.cons_append, List.intercalate_cons_cons, ← List.cons_append,
        ih (List.cons_ne_nil f' fs), List.intercalate_cons_cons]
      simp only [List.append_assoc]

theorem mem_of_mem_intercalate {sep c : β} {fs : List (List β)}
    (h : c ∈ [sep].intercalate fs) : c = sep ∨ ∃ f ∈ fs, c ∈ f := by
  induction fs with
  | nil => cases h
  | cons f fs ih =>
    by_cases hfs : fs = []
    · rw [hfs, List.intercalate_singleton] at h
      exact .inr ⟨f, List.mem_cons_self, h⟩
    · rw [List.intercalate_cons_of_ne_nil hfs, List.mem_append, List.mem_append,
        List.mem_singleton] at h
      rcases h with (hf | hsep) | hrest
      · exact .inr ⟨f, List.mem_cons_self, hf⟩
      · exact .inl hsep
      · rcases ih hrest with hsep | ⟨g, hg, hmem⟩
        · exact .inl hsep
        · exact .inr ⟨g, List.mem_cons_of_mem f hg, hmem⟩

theorem intercalate_ne_nil {sep : β} {fs : List (List β)} (hfs : fs ≠ [])
    (h : ∀ f ∈ fs, f ≠ []) : [sep].intercalate fs ≠ [] := by
  cases fs with
  | nil => exact absurd rfl hfs
  | cons f fs =>
    have hf := h f List.mem_cons_self
    by_cases hrest : fs = []
    · rwa [hrest, List.intercalate_singleton]
    · rw [List.intercalate_cons_of_ne_nil hrest, List.append_assoc]
      exact List.append_ne_nil_of_left_ne_nil hf _

/-- Joining words that are joined fields joins all of the fields. -/
theorem intercalate_intercalate (sep : List β) (words : List (List (List β)))
    (h : ∀ w ∈ words, w ≠ []) :
    sep.intercalate (words.map sep.intercalate) = sep.intercalate words.flatten := by
  induction words with
  | nil => rfl
  | cons w words ih =>
    have hrest := ih fun w' hw' => h w' (List.mem_cons_of_mem w hw')
    cases words with
    | nil => simp
    | cons w' words =>
      have hne : (w' :: words).flatten ≠ [] := by
        rw [List.flatten_cons]
        exact List.append_ne_nil_of_left_ne_nil (h w' (by simp)) _
      rw [List.flatten_cons, intercalate_append (h w List.mem_cons_self) hne, ← hrest, List.map_cons,
        List.map_cons, List.intercalate_cons_cons]

/-- **Words of several fields**, all joined by one separator. -/
theorem joined_inj {p : α → Prop} {code : α → List (List β)} {sep : β} [DecidableEq β]
    (hcode : SelfDelimiting p code)
    (hfields : ∀ a, p a → code a ≠ [] ∧ ∀ f ∈ code a, f ≠ [] ∧ sep ∉ f) {l l' : List α}
    (hl : ∀ a ∈ l, p a) (hl' : ∀ a ∈ l', p a)
    (h : [sep].intercalate (l.map (fun a => [sep].intercalate (code a))) =
      [sep].intercalate (l'.map (fun a => [sep].intercalate (code a)))) : l = l' := by
  have hjoin : ∀ l : List α, (∀ a ∈ l, p a) →
      [sep].intercalate (l.map (fun a => [sep].intercalate (code a))) =
        [sep].intercalate (l.flatMap code) := by
    intro l hl
    have hne : ∀ w ∈ l.map code, w ≠ [] := by
      intro w hw
      obtain ⟨a, ha, rfl⟩ := List.mem_map.mp hw
      exact (hfields a (hl a ha)).1
    have hwords := intercalate_intercalate [sep] (l.map code) hne
    rwa [List.map_map, ← List.flatMap_def] at hwords
  have hall : ∀ l : List α, (∀ a ∈ l, p a) → ∀ f ∈ l.flatMap code, f ≠ [] ∧ sep ∉ f := by
    intro l hl f hf
    obtain ⟨a, ha, hf⟩ := List.mem_flatMap.mp hf
    exact (hfields a (hl a ha)).2 f hf
  rw [hjoin l hl, hjoin l' hl'] at h
  exact hcode.flatMap_inj (fun a ha => (hfields a ha).1) hl hl'
    (intercalate_inj (hall l hl) (hall l' hl') h)

/-! ### Separators of two characters -/

/-- The character does not stand next to itself. -/
def Unpaired (c : β) (l : List β) : Prop := l.IsChain (fun x y => ¬ (x = c ∧ y = c))

theorem Unpaired.not_infix {c : β} {l : List β} (h : Unpaired c l) : ¬ [c, c] <:+: l := by
  intro hinside
  have hpair := List.IsChain.infix h hinside
  simp at hpair

theorem unpaired_of_notMem {c : β} {l : List β} (h : c ∉ l) : Unpaired c l := by
  refine List.Pairwise.isChain (List.pairwise_of_forall_mem_list ?_)
  rintro x hx y _ ⟨rfl, _⟩
  exact h hx

/-- Fields that do not begin or end with the character, joined by any one. -/
theorem Unpaired.intercalate {c : β} (sep : β) {fs : List (List β)} (h : ∀ f ∈ fs, Unpaired c f)
    (hends : ∀ f ∈ fs, f ≠ [] ∧ f.head? ≠ some c ∧ f.getLast? ≠ some c) :
    Unpaired c ([sep].intercalate fs) ∧ ([sep].intercalate fs).head? ≠ some c ∧
      ([sep].intercalate fs).getLast? ≠ some c := by
  induction fs with
  | nil => exact ⟨List.isChain_nil, by simp, by simp⟩
  | cons f fs ih =>
    obtain ⟨hne, hhead, hlast⟩ := hends f List.mem_cons_self
    have hf := h f List.mem_cons_self
    obtain ⟨hrest, hrhead, hrlast⟩ := ih (fun g hg => h g (List.mem_cons_of_mem f hg))
      (fun g hg => hends g (List.mem_cons_of_mem f hg))
    cases fs with
    | nil =>
      rw [List.intercalate_singleton]
      exact ⟨hf, hhead, hlast⟩
    | cons g gs =>
      rw [List.intercalate_cons_cons, List.append_assoc, List.singleton_append]
      have hafter : Unpaired c (sep :: [sep].intercalate (g :: gs)) := by
        refine List.isChain_cons.mpr ⟨?_, hrest⟩
        rintro y hy ⟨_, rfl⟩
        exact hrhead hy
      refine ⟨List.isChain_append.mpr ⟨hf, hafter, ?_⟩, ?_, ?_⟩
      · rintro x hx y _ ⟨rfl, _⟩
        exact hlast hx
      · rwa [List.head?_append_of_ne_nil _ hne]
      · have hjoined : [sep].intercalate (g :: gs) ≠ [] := intercalate_ne_nil (List.cons_ne_nil _ _)
          (fun g' hg' => (hends g' (List.mem_cons_of_mem f hg')).1)
        rwa [List.getLast?_append_of_ne_nil _ (List.cons_ne_nil _ _),
          List.getLast?_cons_of_ne_nil hjoined]

end Decoding
