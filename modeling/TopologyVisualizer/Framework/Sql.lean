import TopologyVisualizer.Framework.KeyedSum

/-! # A Fragment of SQL

    What a relational store computes, over lists of rows: three-valued
    conditions, joins, grouping with aggregates over nullable columns, and
    the range of BIGINT. A table with a primary key is a `Dict`; the order
    of its entries stands for the order of a scan, which no result below
    depends on.

    * `holds_all` and its companions turn a WHERE clause into a Boolean
      condition: unknown drops the row.
    * `like_contains_iff`: between wildcards, text without metacharacters is
      looked for as it is; `exists_like_not_infix`: any other is not.
    * `scan_eq_toList`: joining on a primary key finds at most one row.
    * `mem_groupBy`: a group is the rows of its key.
-/

universe u v w

namespace Sql

/-! ### Three-valued logic -/

/-- A truth value; `none` is unknown. -/
abbrev Truth := Option Bool

namespace Truth

/-- `AND`: one false makes it false. -/
def and : Truth → Truth → Truth
  | some false, _ => some false
  | _, some false => some false
  | some true, some true => some true
  | _, _ => none

/-- `OR`: one true makes it true. -/
def or : Truth → Truth → Truth
  | some true, _ => some true
  | _, some true => some true
  | some false, some false => some false
  | _, _ => none

/-- Conditions joined by `AND`. -/
def all (conditions : List Truth) : Truth := conditions.foldr and (some true)

/-- `WHERE` keeps a row when the condition is true, neither false nor unknown. -/
def holds (t : Truth) : Bool := t == some true

@[simp] theorem holds_none : holds none = false := rfl

@[simp] theorem holds_some (b : Bool) : holds (some b) = b := by
  cases b <;> rfl

@[simp] theorem holds_and (a b : Truth) : (a.and b).holds = (a.holds && b.holds) := by
  rcases a with _ | _ | _ <;> rcases b with _ | _ | _ <;> rfl

@[simp] theorem holds_or (a b : Truth) : (a.or b).holds = (a.holds || b.holds) := by
  rcases a with _ | _ | _ <;> rcases b with _ | _ | _ <;> rfl

theorem holds_all (conditions : List Truth) :
    (all conditions).holds = conditions.all holds := by
  induction conditions with
  | nil => rfl
  | cons c cs ih =>
    show (and c (all cs)).holds = _
    rw [holds_and, ih, List.all_cons]

end Truth

/-! ### Comparisons with nullable columns -/

section comparisons
variable {α : Type u} [DecidableEq α]

/-- `a = b`. -/
def eq (a b : Option α) : Truth := a.bind (fun x => b.map (fun y => decide (x = y)))

/-- `a = ANY(xs)`, for an array without nulls. -/
def eqAny (a : Option α) (xs : List α) : Truth :=
  if xs.isEmpty then some false else a.map (fun x => decide (x ∈ xs))

/-- `a IS NOT NULL`, never unknown. -/
def isNotNull (a : Option α) : Truth := some a.isSome

theorem holds_eq_some (a : Option α) (y : α) :
    (eq a (some y)).holds = decide (a = some y) := by
  cases a with
  | none => simp [eq]
  | some x => simp [eq]

theorem holds_eqAny (a : Option α) (xs : List α) :
    (eqAny a xs).holds = xs.any (fun x => decide (a = some x)) := by
  unfold eqAny
  cases xs with
  | nil => rfl
  | cons x xs =>
    cases a with
    | none => simp
    | some y =>
      simp only [List.isEmpty_cons, Bool.false_eq_true, if_false, Option.map_some,
        Truth.holds_some, Option.some.injEq]
      rw [Bool.eq_iff_iff, decide_eq_true_iff, List.any_eq_true]
      constructor
      · intro hy
        exact ⟨y, hy, decide_eq_true rfl⟩
      · rintro ⟨z, hz, hyz⟩
        rw [of_decide_eq_true hyz]
        exact hz

end comparisons

/-! ### Patterns -/

/-- `text LIKE pattern`: `%` is any text, `_` any character, a backslash takes the next
    character literally. -/
def like (pattern text : List Char) : Bool :=
  match pattern with
  | [] => text.isEmpty
  | x :: p =>
    if x = '%' then
      like p text || (match text with
        | [] => false
        | _ :: t => like (x :: p) t)
    else
      match text with
      | [] => false
      | c :: t =>
        if x = '_' then like p t
        else if x = '\\' then
          match p with
          | [] => false
          | y :: p' => y == c && like p' t
        else x == c && like p t
termination_by pattern.length + text.length

@[simp] theorem like_nil (text : List Char) : like [] text = text.isEmpty := by
  rw [like]

theorem like_percent_nil (p : List Char) : like ('%' :: p) [] = like p [] := by
  rw [like.eq_def]
  simp

theorem like_percent_cons (p : List Char) (c : Char) (text : List Char) :
    like ('%' :: p) (c :: text) = (like p (c :: text) || like ('%' :: p) text) := by
  rw [like.eq_def]
  simp

theorem like_underscore_cons (p : List Char) (c : Char) (text : List Char) :
    like ('_' :: p) (c :: text) = like p text := by
  rw [like.eq_def]
  simp

theorem like_escape_cons (y : Char) (p : List Char) (c : Char) (text : List Char) :
    like ('\\' :: y :: p) (c :: text) = (y == c && like p text) := by
  rw [like.eq_def]
  simp

section plain
variable {x : Char} (hpercent : x ≠ '%') (hunderscore : x ≠ '_') (hescape : x ≠ '\\')

include hpercent in
theorem like_cons_nil (p : List Char) : like (x :: p) [] = false := by
  rw [like.eq_def]
  simp [hpercent]

include hpercent hunderscore hescape in
theorem like_cons_cons (p : List Char) (c : Char) (text : List Char) :
    like (x :: p) (c :: text) = (x == c && like p text) := by
  rw [like.eq_def]
  simp [hpercent, hunderscore, hescape]

end plain

/-- Characters that stand for themselves. -/
def Plain (p : List Char) : Prop := ∀ c ∈ p, c ≠ '%' ∧ c ≠ '_' ∧ c ≠ '\\'

instance (p : List Char) : Decidable (Plain p) :=
  List.decidableBAll (fun c => c ≠ '%' ∧ c ≠ '_' ∧ c ≠ '\\') p

/-- `%` takes any text away from the front. -/
theorem like_percent {p text : List Char} :
    like ('%' :: p) text = true ↔ ∃ t, t <:+ text ∧ like p t = true := by
  induction text with
  | nil => simp [like_percent_nil]
  | cons c text ih =>
    rw [like_percent_cons, Bool.or_eq_true, ih]
    constructor
    · intro h
      rcases h with h | ⟨t, ht, h⟩
      · exact ⟨c :: text, List.suffix_refl _, h⟩
      · exact ⟨t, ht.trans (List.suffix_cons c text), h⟩
    · intro h
      obtain ⟨t, ht, h⟩ := h
      rcases List.suffix_cons_iff.mp ht with rfl | ht
      · exact .inl h
      · exact .inr ⟨t, ht, h⟩

/-- Plain characters are in the text as they are. -/
theorem like_plain_append {q : List Char} (hq : Plain q) {p text : List Char} :
    like (q ++ p) text = true ↔ ∃ t, text = q ++ t ∧ like p t = true := by
  induction q generalizing text with
  | nil => simp
  | cons x q ih =>
    obtain ⟨hpercent, hunderscore, hescape⟩ := hq x List.mem_cons_self
    have hrest : Plain q := fun c hc => hq c (List.mem_cons_of_mem x hc)
    rw [List.cons_append]
    cases text with
    | nil => simp [like_cons_nil hpercent]
    | cons c text =>
      rw [like_cons_cons hpercent hunderscore hescape]
      simp only [Bool.and_eq_true, beq_iff_eq, ih hrest, List.cons_append, List.cons.injEq]
      constructor
      · intro h
        obtain ⟨rfl, t, rfl, h⟩ := h
        exact ⟨t, ⟨rfl, rfl⟩, h⟩
      · intro h
        obtain ⟨t, ⟨rfl, rfl⟩, h⟩ := h
        exact ⟨rfl, t, rfl, h⟩

/-- **Containment**: between two wildcards, plain text is looked for as it is. -/
theorem like_contains_iff {q : List Char} (hq : Plain q) {text : List Char} :
    like ('%' :: q ++ ['%']) text = true ↔ q <:+: text := by
  rw [List.cons_append, like_percent]
  simp only [like_plain_append hq, like_percent]
  constructor
  · intro h
    obtain ⟨_, hsuffix, t, rfl, -⟩ := h
    exact (List.prefix_append q t).isInfix.trans hsuffix.isInfix
  · intro h
    obtain ⟨front, back, rfl⟩ := h
    rw [List.append_assoc]
    exact ⟨q ++ back, List.suffix_append front _, back, rfl, [], List.nil_suffix, like_nil []⟩

/-- A text that a pattern with `%` after it matches: a wildcard is an `a`, and what is escaped is
    itself. -/
def sample : List Char → List Char
  | [] => []
  | x :: p =>
    if x = '\\' then
      match p with
      -- the escape takes the `%`
      | [] => ['%']
      | y :: p => y :: sample p
    else (if x = '%' ∨ x = '_' then 'a' else x) :: sample p

theorem sample_cons {x : Char} (hescape : x ≠ '\\') (p : List Char) :
    sample (x :: p) = (if x = '%' ∨ x = '_' then 'a' else x) :: sample p := by
  rw [sample.eq_def]
  simp only [if_neg hescape]

theorem like_sample (q : List Char) : like (q ++ ['%']) (sample q) = true := by
  induction q using sample.induct with
  | case1 =>
    show like ('%' :: []) [] = true
    exact like_percent.mpr ⟨[], List.nil_suffix, like_nil []⟩
  | case2 =>
    show like ['\\', '%'] ['%'] = true
    rw [like_escape_cons, like_nil]
    rfl
  | case3 y p ih =>
    show like ('\\' :: y :: (p ++ ['%'])) (y :: sample p) = true
    rw [like_escape_cons, ih, beq_self_eq_true, Bool.true_and]
  | case4 x p hescape ih =>
    rw [sample_cons hescape, List.cons_append]
    by_cases hpercent : x = '%'
    · subst hpercent
      exact like_percent.mpr ⟨sample p, List.suffix_cons _ _, ih⟩
    · by_cases hunderscore : x = '_'
      · subst hunderscore
        rw [like_underscore_cons, ih]
      · rw [if_neg (by simp [hpercent, hunderscore]),
          like_cons_cons hpercent hunderscore hescape, ih, beq_self_eq_true, Bool.true_and]

/-- It is no longer than the pattern. -/
theorem length_sample_le (q : List Char) : (sample q).length ≤ q.length := by
  induction q using sample.induct with
  | case1 => exact Nat.le_refl 0
  | case2 => exact Nat.le_refl 1
  | case3 y p ih =>
    show (sample p).length + 1 ≤ p.length + 2
    omega
  | case4 x p hescape ih =>
    rw [sample_cons hescape, List.length_cons, List.length_cons]
    omega

theorem sample_ne_nil {q : List Char} (h : q ≠ []) : sample q ≠ [] := by
  fun_cases sample q with
  | case1 => exact absurd rfl h
  | case2 => exact List.cons_ne_nil _ _
  | case3 y p => exact List.cons_ne_nil _ _
  | case4 x p hescape => exact List.cons_ne_nil _ _

theorem mem_sample {q : List Char} {c : Char} (h : c ∈ sample q) : c ∈ q ∨ c = 'a' ∨ c = '%' := by
  induction q using sample.induct with
  | case1 => exact absurd h List.not_mem_nil
  | case2 => exact .inr (.inr (List.mem_singleton.mp h))
  | case3 y p ih =>
    rcases List.mem_cons.mp h with rfl | h
    · exact .inl (by simp)
    · exact (ih h).imp_left (fun hp => by simp [hp])
  | case4 x p hescape ih =>
    rw [sample_cons hescape] at h
    rcases List.mem_cons.mp h with rfl | h
    · by_cases hwild : x = '%' ∨ x = '_'
      · exact .inr (.inl (if_pos hwild))
      · exact .inl (by simp [hwild])
    · exact (ih h).imp_left (List.mem_cons_of_mem x)

theorem plain_of_sample_eq {q : List Char} (h : sample q = q) : Plain q := by
  induction q using sample.induct with
  | case1 => exact fun c hc => absurd hc List.not_mem_nil
  | case2 => exact absurd h (by decide)
  | case3 y p ih =>
    -- the text is shorter than the pattern
    have hlength : (sample p).length + 1 = p.length + 2 := congrArg List.length h
    have hle := length_sample_le p
    omega
  | case4 x p hescape ih =>
    rw [sample_cons hescape] at h
    obtain ⟨hhead, htail⟩ := List.cons.inj h
    by_cases hwild : x = '%' ∨ x = '_'
    · rw [if_pos hwild] at hhead
      subst hhead
      exact absurd hwild (by decide)
    · intro c hc
      rcases List.mem_cons.mp hc with rfl | hc
      · exact ⟨fun h => hwild (.inl h), fun h => hwild (.inr h), hescape⟩
      · exact ih htail c hc

/-- **Wildcards**: a pattern that is not plain matches a text that does not contain it. -/
theorem exists_like_not_infix {q : List Char} (hq : ¬ Plain q) :
    like ('%' :: q ++ ['%']) (sample q) = true ∧ ¬ q <:+: sample q := by
  constructor
  · exact like_percent.mpr ⟨sample q, List.suffix_refl _, like_sample q⟩
  · intro hinside
    have hle := length_sample_le q
    exact hq (plain_of_sample_eq (hinside.eq_of_length_le hle).symm)

/-! ### Joins -/

section joins
variable {α : Type u} {β : Type v}

/-- `left JOIN right ON cond`. -/
def joinOn (left : List α) (right : List β) (cond : α → β → Bool) : List (α × β) :=
  left.flatMap (fun a => (right.filter (cond a)).map (fun b => (a, b)))

variable {κ : Type w} [DecidableEq κ]

/-- The rows of a table whose primary key is `k`: one or none. -/
theorem scan_eq_toList (table : Dict κ β) (k : κ) :
    table.entries.filter (fun e => e.1 = k) = ((table.get? k).map (fun b => (k, b))).toList := by
  obtain ⟨es, hnd⟩ := table
  show es.filter (fun e => e.1 = k) = ((es.lookup k).map (fun b => (k, b))).toList
  induction es with
  | nil => rfl
  | cons e es ih =>
    obtain ⟨a, b⟩ := e
    simp only [List.map_cons, List.nodup_cons] at hnd
    rw [Dict.lookup_cons_ite]
    by_cases hk : k = a
    · subst hk
      -- the key does not come up again
      have hrest : es.filter (fun e => e.1 = k) = [] := by
        rw [List.filter_eq_nil_iff]
        intro e he hek
        have hmem : k ∈ es.map Prod.fst := by
          rw [← of_decide_eq_true hek]
          exact List.mem_map_of_mem he
        exact hnd.1 hmem
      simp [hrest]
    · have hak : a ≠ k := fun h => hk h.symm
      simp only [List.filter_cons, hak, decide_false, Bool.false_eq_true, if_false, if_neg hk]
      exact ih hnd.2

end joins

/-! ### Grouping -/

section grouping
variable {ρ : Type u} {κ : Type v} [DecidableEq κ]

/-- `GROUP BY key`. -/
def groupBy (key : ρ → κ) (rows : List ρ) : List (κ × List ρ) :=
  (rows.map key).dedup.map (fun k => (k, rows.filter (fun r => key r = k)))

theorem mem_groupBy {key : ρ → κ} {rows : List ρ} {k : κ} {group : List ρ} :
    (k, group) ∈ groupBy key rows ↔
      k ∈ rows.map key ∧ group = rows.filter (fun r => key r = k) := by
  unfold groupBy
  rw [List.mem_map]
  constructor
  · rintro ⟨k', hk', heq⟩
    cases heq
    exact ⟨List.mem_dedup.mp hk', rfl⟩
  · rintro ⟨hk, rfl⟩
    exact ⟨k, List.mem_dedup.mpr hk, rfl⟩

end grouping

/-! ### Aggregates -/

/-- `SUM` over a nullable column: nulls are ignored, and without a value the sum is null. -/
def sum (column : List (Option Nat)) : Option Nat :=
  if column.all Option.isNone then none else some (column.map (fun x => x.getD 0)).sum

/-- A sum is determined by when it is null and by the values that are not. -/
theorem sum_eq {column : List (Option Nat)} {value : Option Nat}
    (hnull : value = none ↔ ∀ x ∈ column, x = none)
    (hsum : value.getD 0 = (column.map (fun x => x.getD 0)).sum) : sum column = value := by
  unfold sum
  cases value with
  | none =>
    have hall := hnull.mp rfl
    rw [if_pos]
    rw [List.all_eq_true]
    intro x hx
    rw [hall x hx]
    rfl
  | some v =>
    rw [if_neg, ← hsum]
    · rfl
    · intro hall
      rw [List.all_eq_true] at hall
      have hnone : some v = none := hnull.mpr (fun x hx => Option.isNone_iff_eq_none.mp (hall x hx))
      cases hnone

/-- `MIN` over a column without nulls. -/
def least {α : Type u} [Min α] (column : List α) : Option α := column.min?

/-- `MAX` over a column without nulls. -/
def greatest {α : Type u} [Max α] (column : List α) : Option α := column.max?

/-! ### BIGINT -/

/-- Why a statement fails. -/
inductive Error where
  | numericValueOutOfRange
  | checkViolation
  | foreignKeyViolation
  deriving DecidableEq, Repr

/-- The largest BIGINT. -/
def bigintMax : Nat := 9223372036854775807

/-- A column value as it is stored in a BIGINT. -/
def FitsBigint (value : Option Nat) : Prop := value.getD 0 ≤ bigintMax

instance (value : Option Nat) : Decidable (FitsBigint value) :=
  inferInstanceAs (Decidable (_ ≤ _))

/-- `value::BIGINT`. -/
def toBigint (value : Option Nat) : Except Error (Option Nat) :=
  if FitsBigint value then .ok value else .error .numericValueOutOfRange

theorem toBigint_of_fits {value : Option Nat} (h : FitsBigint value) :
    toBigint value = .ok value := if_pos h

/-- Computing a column row by row: one row that fails fails the statement. -/
theorem mapM_ite {α : Type u} {β : Type v} {p : α → Prop} [DecidablePred p] {g : α → β}
    {f : α → Except Error β} {error : Error} {rows : List α}
    (h : ∀ a ∈ rows, f a = if p a then .ok (g a) else .error error) :
    rows.mapM f = if ∀ a ∈ rows, p a then .ok (rows.map g) else .error error := by
  induction rows with
  | nil => rfl
  | cons a rows ih =>
    have hrest := ih (fun b hb => h b (List.mem_cons_of_mem _ hb))
    rw [List.mapM_cons, h a List.mem_cons_self, hrest]
    by_cases ha : p a
    · by_cases hall : ∀ b ∈ rows, p b
      · have hboth : ∀ b ∈ a :: rows, p b := List.forall_mem_cons.mpr ⟨ha, hall⟩
        rw [if_pos ha, if_pos hall, if_pos hboth]
        rfl
      · have hnot : ¬ ∀ b ∈ a :: rows, p b := fun hb => hall (List.forall_mem_cons.mp hb).2
        rw [if_pos ha, if_neg hall, if_neg hnot]
        rfl
    · have hnot : ¬ ∀ b ∈ a :: rows, p b := fun hb => ha (hb a List.mem_cons_self)
      rw [if_neg ha, if_neg hnot]
      rfl

end Sql
