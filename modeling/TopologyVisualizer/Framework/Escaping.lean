import Mathlib.Data.List.Basic
import Mathlib.Data.List.Infix

/-! # Escaping

    A text is made inert by writing some of its characters as a mark and a
    code. A `Scheme` is such a way of writing in which the mark itself is
    escaped and no code begins another one, so that one pass from left to
    right reads the text back (`unescape_escape`).

    The same pass tells the role of every character that was written:
    whether it is a mark, belongs to a code, or stands for itself (`roles`).
    A character that is escaped never stands for itself (`escaped_role`).
-/

namespace Escaping

universe u

variable {α : Type u}

/-- The characters that are escaped, and what follows the mark for each of them. -/
structure Scheme (α : Type u) where
  mark : α
  specials : List α
  code : α → Option (List α)
  listed : ∀ c x, code c = some x → c ∈ specials
  mark_escaped : code mark ≠ none
  unambiguous : ∀ c d x y, code c = some x → code d = some y → x <+: y → c = d

namespace Scheme

variable (S : Scheme α)

/-- How one character is written. -/
def write (c : α) : List α :=
  match S.code c with
  | none => [c]
  | some x => S.mark :: x

def escape (s : List α) : List α := s.flatMap S.write

section writing
variable {S}

theorem write_of_none {c : α} (h : S.code c = none) : S.write c = [c] := by
  unfold write
  rw [h]

theorem write_of_some {c : α} {x : List α} (h : S.code c = some x) : S.write c = S.mark :: x := by
  unfold write
  rw [h]

/-- What is written as it is, is not the mark. -/
theorem ne_mark {c : α} (h : S.code c = none) : c ≠ S.mark := by
  intro hc
  exact S.mark_escaped (hc ▸ h)

theorem escape_cons (c : α) (s : List α) : S.escape (c :: s) = S.write c ++ S.escape s :=
  List.flatMap_cons

end writing

/-! ### Reading back -/

section reading
variable [DecidableEq α]

/-- A text begins with the code of a character. -/
def begins (s : List α) (c : α) : Bool :=
  match S.code c with
  | none => false
  | some x => x.isPrefixOf s

/-- The character whose code a text begins with. -/
def read? (s : List α) : Option α := S.specials.find? (S.begins s)

/-- One pass from left to right. -/
def unescape : List α → List α
  | [] => []
  | c :: s =>
    if c = S.mark then
      match S.read? s with
      | none => c :: unescape s
      | some d => d :: unescape (s.drop ((S.code d).getD []).length)
    else c :: unescape s
  termination_by s => s.length
  decreasing_by
    all_goals simp only [List.length_cons, List.length_drop]
    all_goals omega

variable {S}

theorem begins_iff {s : List α} {c : α} :
    S.begins s c = true ↔ ∃ x, S.code c = some x ∧ x <+: s := by
  unfold begins
  cases S.code c with
  | none => simp
  | some x => simp

/-- A code is read as the character it is the code of, whatever comes after it. -/
theorem read?_code {c : α} {x : List α} (h : S.code c = some x) (rest : List α) :
    S.read? (x ++ rest) = some c := by
  unfold read?
  cases hfind : S.specials.find? (S.begins (x ++ rest)) with
  | none =>
    have hnone := List.find?_eq_none.mp hfind c (S.listed c x h)
    exact absurd (begins_iff.mpr ⟨x, h, List.prefix_append x rest⟩) hnone
  | some d =>
    obtain ⟨y, hy, hle⟩ := begins_iff.mp (List.find?_some hfind)
    -- one of the two codes begins the other
    rcases List.prefix_or_prefix_of_prefix hle (List.prefix_append x rest) with hyx | hxy
    · rw [S.unambiguous d c y x hy h hyx]
    · rw [S.unambiguous c d x y h hy hxy]

theorem unescape_write (c : α) (rest : List α) :
    S.unescape (S.write c ++ rest) = c :: S.unescape rest := by
  cases h : S.code c with
  | none => rw [write_of_none h, List.singleton_append, unescape, if_neg (ne_mark h)]
  | some x =>
    rw [write_of_some h, List.cons_append, unescape, if_pos rfl, read?_code h]
    simp [h]

/-- **Nothing is lost**: the text is read back. -/
theorem unescape_escape (s : List α) : S.unescape (S.escape s) = s := by
  induction s with
  | nil =>
    show S.unescape [] = []
    rw [unescape]
  | cons c s ih =>
    rw [escape_cons, unescape_write, ih]

end reading

/-! ### The roles of the characters -/

/-- What a written character is there for. -/
inductive Role where
  /-- It begins an escape. -/
  | mark
  /-- It belongs to the code after a mark. -/
  | code
  /-- It stands for itself. -/
  | plain
  deriving DecidableEq

section roles
variable [DecidableEq α]

/-- The roles of the characters of a text, in one pass from left to right. -/
def roles : List α → List (α × Role)
  | [] => []
  | c :: s =>
    if c = S.mark then
      match S.read? s with
      | none => (c, .plain) :: roles s
      | some d =>
        let code := (S.code d).getD []
        (c, .mark) :: (code.map (fun x => (x, .code)) ++ roles (s.drop code.length))
    else (c, .plain) :: roles s
  termination_by s => s.length
  decreasing_by
    all_goals simp only [List.length_cons, List.length_drop]
    all_goals omega

/-- The roles of what is written for one character. -/
def written (c : α) : List (α × Role) :=
  match S.code c with
  | none => [(c, .plain)]
  | some x => (S.mark, .mark) :: x.map (fun d => (d, .code))

variable {S}

omit [DecidableEq α] in
theorem written_of_none {c : α} (h : S.code c = none) : S.written c = [(c, .plain)] := by
  unfold written
  rw [h]

omit [DecidableEq α] in
theorem written_of_some {c : α} {x : List α} (h : S.code c = some x) :
    S.written c = (S.mark, .mark) :: x.map (fun d => (d, .code)) := by
  unfold written
  rw [h]

theorem roles_write (c : α) (rest : List α) :
    S.roles (S.write c ++ rest) = S.written c ++ S.roles rest := by
  cases h : S.code c with
  | none =>
    rw [write_of_none h, written_of_none h, List.singleton_append, roles, if_neg (ne_mark h),
      List.singleton_append]
  | some x =>
    rw [write_of_some h, written_of_some h, List.cons_append, roles, if_pos rfl, read?_code h]
    simp [h]

/-- The marks and the codes of an escaped text are the ones that were written. -/
theorem roles_escape (s : List α) : S.roles (S.escape s) = s.flatMap S.written := by
  induction s with
  | nil =>
    show S.roles [] = []
    rw [roles]
  | cons c s ih =>
    rw [escape_cons, roles_write, ih, List.flatMap_cons]

/-- The roles are those of the characters of the text, in order. -/
theorem map_fst_roles (s : List α) : (S.roles s).map Prod.fst = s := by
  induction s using roles.induct S with
  | case1 => rw [roles, List.map_nil]
  | case2 s hread ih => rw [roles, if_pos rfl, hread, List.map_cons, ih]
  | case3 s d hread code ih =>
    obtain ⟨x, hx, rest, rfl⟩ := begins_iff.mp (List.find?_some hread)
    have hcode : code = x := by simp [code, hx]
    have hfst : (x.map (fun c => (c, Role.code))).map Prod.fst = x := by
      rw [List.map_map]
      exact List.map_id x
    rw [hcode, List.drop_left] at ih
    rw [roles, if_pos rfl, hread]
    simp only [hx, Option.getD_some, List.drop_left, List.map_cons, List.map_append, hfst, ih]
  | case4 c s hc ih => rw [roles, if_neg hc, List.map_cons, ih]

end roles

/-! ### What can occur -/

/-- An element of a text that is put together was put there by one part of it. -/
theorem flatMap_split {β : Type u} {f : α → List β} {s : List α} {before after : List β} {b : β}
    (h : s.flatMap f = before ++ b :: after) :
    ∃ c ∈ s, ∃ (earlier x y later : List β),
      f c = x ++ b :: y ∧ before = earlier ++ x ∧ after = y ++ later := by
  induction s generalizing before with
  | nil => exact absurd h (by simp)
  | cons c s ih =>
    rw [List.flatMap_cons, List.append_eq_append_iff] at h
    rcases h with ⟨x, hbefore, hrest⟩ | ⟨x, hc, hrest⟩
    · -- it is in a later part
      obtain ⟨d, hd, earlier, x', y, later, hfd, hx, hafter⟩ := ih hrest
      refine ⟨d, List.mem_cons_of_mem c hd, f c ++ earlier, x', y, later, hfd, ?_, hafter⟩
      rw [hbefore, hx, List.append_assoc]
    · cases x with
      | nil =>
        obtain ⟨d, hd, earlier, x', y, later, hfd, hx, hafter⟩ :=
          @ih [] (by simpa using hrest.symm)
        refine ⟨d, List.mem_cons_of_mem c hd, f c ++ earlier, x', y, later, hfd, ?_, hafter⟩
        rw [List.append_assoc, ← hx, hc, List.append_nil, List.append_nil]
      | cons b' y =>
        rw [List.cons_append, List.cons.injEq] at hrest
        obtain ⟨rfl, hafter⟩ := hrest
        exact ⟨c, List.mem_cons_self, [], before, y, s.flatMap f, hc, rfl, hafter⟩

section occurrences
variable {S}

/-- A character that is escaped, and is in no code, occurs only as the mark. -/
theorem notMem_escape {c : α} (hspecial : S.code c ≠ none) (hmark : c ≠ S.mark)
    (hcodes : ∀ d x, S.code d = some x → c ∉ x) (s : List α) : c ∉ S.escape s := by
  intro hc
  obtain ⟨d, -, hd⟩ := List.mem_flatMap.mp hc
  cases hcode : S.code d with
  | none =>
    rw [write_of_none hcode, List.mem_singleton] at hd
    exact hspecial (hd ▸ hcode)
  | some x =>
    rw [write_of_some hcode, List.mem_cons] at hd
    exact hd.elim hmark (hcodes d x hcode)

/-- If no code has a mark in it, every mark is followed by a code. -/
theorem code_after_mark (hcodes : ∀ d x, S.code d = some x → S.mark ∉ x) {s before after : List α}
    (h : S.escape s = before ++ S.mark :: after) : ∃ c x, S.code c = some x ∧ x <+: after := by
  obtain ⟨c, -, -, x, y, later, hc, -, hafter⟩ := flatMap_split h
  cases hcode : S.code c with
  | none =>
    rw [write_of_none hcode] at hc
    have hmem : S.mark ∈ [c] := by
      rw [hc]
      exact List.mem_append_right x List.mem_cons_self
    exact absurd (List.mem_singleton.mp hmem).symm (ne_mark hcode)
  | some code =>
    rw [write_of_some hcode] at hc
    cases x with
    | nil =>
      have heq : code = y := (List.cons.inj hc).2
      exact ⟨c, code, hcode, later, by rw [hafter, heq]⟩
    | cons d x =>
      -- the mark would be in the code
      have heq : code = x ++ S.mark :: y := (List.cons.inj hc).2
      refine absurd ?_ (hcodes c code hcode)
      rw [heq]
      exact List.mem_append_right x List.mem_cons_self

variable [DecidableEq α]

/-- **An escaped character** never stands for itself. -/
theorem escaped_role {c : α} {role : Role} {s : List α} (hspecial : S.code c ≠ none)
    (h : (c, role) ∈ S.roles (S.escape s)) : role ≠ .plain := by
  rw [roles_escape] at h
  obtain ⟨d, -, hd⟩ := List.mem_flatMap.mp h
  intro hplain
  cases hcode : S.code d with
  | none =>
    rw [written_of_none hcode, List.mem_singleton] at hd
    exact hspecial ((Prod.mk.inj hd).1 ▸ hcode)
  | some x =>
    rw [written_of_some hcode, hplain, List.mem_cons, List.mem_map] at hd
    rcases hd with hd | ⟨e, -, hd⟩
    · cases (Prod.mk.inj hd).2
    · cases (Prod.mk.inj hd).2

/-- If codes are single characters, each of them comes right after its mark. -/
theorem mark_before_code (hcodes : ∀ d x, S.code d = some x → x.length = 1) {s : List α}
    {before after : List (α × Role)} {c : α}
    (h : S.roles (S.escape s) = before ++ (c, .code) :: after) :
    ∃ earlier, before = earlier ++ [(S.mark, .mark)] := by
  rw [roles_escape] at h
  obtain ⟨d, -, earlier, x, y, -, hd, hbefore, -⟩ := flatMap_split h
  cases hcode : S.code d with
  | none =>
    rw [written_of_none hcode] at hd
    have hmem : (c, Role.code) ∈ [(d, Role.plain)] := by
      rw [hd]
      exact List.mem_append_right x List.mem_cons_self
    cases (Prod.mk.inj (List.mem_singleton.mp hmem)).2
  | some code =>
    rw [written_of_some hcode] at hd
    obtain ⟨e, rfl⟩ := List.length_eq_one_iff.mp (hcodes d code hcode)
    cases x with
    | nil => cases (Prod.mk.inj (List.cons.inj hd).1).2
    | cons m x =>
      obtain ⟨hm, hrest⟩ := List.cons.inj hd
      cases x with
      | nil => exact ⟨earlier, by rw [hbefore, hm]⟩
      | cons e' x => exact absurd (congrArg List.length hrest) (by simp)

end occurrences

end Scheme

end Escaping
