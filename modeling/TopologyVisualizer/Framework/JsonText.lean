import TopologyVisualizer.Framework.Decoding

/-! # JSON Texts

    How `JSON.stringify` writes a string: between quotes, with quotes,
    backslashes and control characters escaped. A quoted string shows where
    it ends (`quote_append_inj`), so values that are written one after the
    other can be told apart.
-/

namespace JsonText

open Decoding

/-- The letter of a two-character escape. -/
def shortEscape (c : Char) : Option Char :=
  if c = '"' then some '"'
  else if c = '\\' then some '\\'
  else if c = '\x08' then some 'b'
  else if c = '\t' then some 't'
  else if c = '\n' then some 'n'
  else if c = '\x0c' then some 'f'
  else if c = '\r' then some 'r'
  else none

/-- A character as it is written in a string. -/
def escape (c : Char) : List Char :=
  match shortEscape c with
  | some letter => ['\\', letter]
  | none =>
    if c.toNat < 32 then
      ['\\', 'u', '0', '0', Nat.digitChar (c.toNat / 16), Nat.digitChar (c.toNat % 16)]
    else [c]

/-- `JSON.stringify`, of a string. -/
def quote (s : String) : String := String.ofList ('"' :: (s.toList.flatMap escape ++ ['"']))

/-- The characters that are escaped. -/
def specials : List Char := '"' :: '\\' :: (List.range 32).map Char.ofNat

/-- A property of all of them is checked one by one, not over the type of characters. -/
theorem forall_mem_of_all {p : Char → Prop} [DecidablePred p] {cs : List Char}
    (h : cs.all (fun c => decide (p c)) = true) : ∀ c ∈ cs, p c :=
  fun c hc => of_decide_eq_true (List.all_eq_true.mp h c hc)

/-- Other characters are written as they are. -/
theorem escape_of_notMem {c : Char} (h : c ∉ specials) : escape c = [c] := by
  have hcode : ¬ c.toNat < 32 := by
    intro hlt
    apply h
    refine List.mem_cons_of_mem _ (List.mem_cons_of_mem _ (List.mem_map.mpr ⟨c.toNat, ?_, ?_⟩))
    · exact List.mem_range.mpr hlt
    · exact Char.ofNat_toNat c
  have hshort : ∀ d ∈ ['"', '\\', '\x08', '\t', '\n', '\x0c', '\r'], c ≠ d := by
    intro d hd hcd
    have hspecial : ∀ d ∈ ['"', '\\', '\x08', '\t', '\n', '\x0c', '\r'], d ∈ specials :=
      forall_mem_of_all (by decide)
    exact h (hcd ▸ hspecial d hd)
  unfold escape shortEscape
  simp only [List.forall_mem_cons] at hshort
  simp [hshort, hcode]

/-- An escape is longer than a character, and begins with a backslash. -/
theorem escape_of_mem {c : Char} (h : c ∈ specials) :
    (escape c).head? = some '\\' ∧ 2 ≤ (escape c).length := by
  have hall : ∀ c ∈ specials, (escape c).head? = some '\\' ∧ 2 ≤ (escape c).length :=
    forall_mem_of_all (by decide)
  exact hall c h

/-- No character is written as the beginning of another one. -/
theorem escape_prefixFree {a b : Char} (h : escape a <+: escape b) : a = b := by
  by_cases ha : a ∈ specials
  · by_cases hb : b ∈ specials
    · have hall : specials.all (fun a => specials.all (fun b =>
          decide (escape a <+: escape b → a = b))) = true := by decide +kernel
      exact forall_mem_of_all (List.all_eq_true.mp hall a ha) b hb h
    · have hlength := h.length_le
      rw [escape_of_notMem hb, List.length_singleton] at hlength
      have hlong := (escape_of_mem ha).2
      omega
  · rw [escape_of_notMem ha] at h
    by_cases hb : b ∈ specials
    · -- a plain character is not the backslash
      obtain ⟨rest, hrest⟩ := h
      have hhead := (escape_of_mem hb).1
      rw [← hrest, List.singleton_append, List.head?_cons, Option.some.injEq] at hhead
      exact absurd (hhead ▸ by decide) ha
    · rw [escape_of_notMem hb] at h
      exact (List.cons_prefix_cons.mp h).1

theorem escape_selfDelimiting : SelfDelimiting (fun _ => True) escape :=
  .of_prefixFree (fun _ _ _ _ h => escape_prefixFree h)

theorem escape_head (c : Char) : ∃ x xs, escape c = x :: xs ∧ x ≠ '"' := by
  by_cases hc : c ∈ specials
  · cases hescape : escape c with
    | nil =>
      have hlong := (escape_of_mem hc).2
      rw [hescape] at hlong
      exact absurd hlong (by decide)
    | cons x xs =>
      have hhead := (escape_of_mem hc).1
      rw [hescape, List.head?_cons, Option.some.injEq] at hhead
      exact ⟨x, xs, rfl, hhead ▸ by decide⟩
  · refine ⟨c, [], escape_of_notMem hc, ?_⟩
    rintro rfl
    exact hc (by decide)

/-- **Quoted strings** show where they end. -/
theorem quote_append_inj {s s' : String} {r r' : List Char}
    (h : (quote s).toList ++ r = (quote s').toList ++ r') : s = s' ∧ r = r' := by
  unfold quote at h
  rw [String.toList_ofList, String.toList_ofList, List.cons_append, List.cons_append,
    List.append_assoc, List.append_assoc] at h
  obtain ⟨hchars, hrest⟩ := escape_selfDelimiting.terminated (fun c _ => escape_head c)
    (fun _ _ => trivial) (fun _ _ => trivial) (List.cons.inj h).2
  exact ⟨String.toList_inj.mp hchars, hrest⟩

/-- A string without special characters is only put between quotes. -/
theorem toList_quote_of_plain {s : String} (h : ∀ c ∈ s.toList, c ∉ specials) :
    (quote s).toList = '"' :: (s.toList ++ ['"']) := by
  have hplain : s.toList.flatMap escape = s.toList := by
    rw [List.flatMap_congr (g := fun c => [c]) fun c hc => escape_of_notMem (h c hc),
      List.flatMap_singleton']
  rw [quote, String.toList_ofList, hplain]

/-- Quoting adds no character but quotes and those of escapes. -/
theorem notMem_quote {c : Char} (hc : c ∉ '"' :: specials.flatMap escape) {s : String}
    (hs : c ∉ s.toList) : c ∉ (quote s).toList := by
  rw [List.mem_cons, not_or] at hc
  rw [quote, String.toList_ofList, List.mem_cons, List.mem_append, List.mem_singleton]
  rintro (hquote | hescape | hquote)
  · exact hc.1 hquote
  · obtain ⟨d, hd, hmem⟩ := List.mem_flatMap.mp hescape
    by_cases hspecial : d ∈ specials
    · exact hc.2 (List.mem_flatMap.mpr ⟨d, hspecial, hmem⟩)
    · rw [escape_of_notMem hspecial, List.mem_singleton] at hmem
      exact hs (hmem ▸ hd)
  · exact hc.1 hquote

end JsonText
