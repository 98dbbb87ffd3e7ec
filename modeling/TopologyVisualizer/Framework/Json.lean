import Mathlib.Data.List.Basic
import Mathlib.Order.Basic

/-! # JSON Documents and Readers

    A document is the tree a JSON text denotes, with one difference: the
    text of a timestamp is represented by the instant it denotes, in
    nanoseconds, so that nothing here is about calendars.

    A reader is a function to `Option`; an object is read field by field,
    and `object` refuses fields that are not declared.
-/

universe u

/-- A JSON document. -/
inductive Json where
  | null
  | int (n : Int)
  | str (s : String)
  | time (ns : Int)
  | arr (items : List Json)
  | obj (fields : List (String × Json))

namespace Json

variable {α : Type u}

/-- The fields of an object that has no others than `known`. -/
def object (known : List String) : Json → Option (List (String × Json))
  | .obj fields => if fields.all (fun f => f.1 ∈ known) then some fields else none
  | _ => none

/-- A field that has to be there. -/
def required (fields : List (String × Json)) (name : String) (read : Json → Option α) : Option α :=
  (fields.lookup name).bind read

/-- A field with a default. -/
def withDefault (fields : List (String × Json)) (name : String) (read : Json → Option α)
    (default : α) : Option α :=
  match fields.lookup name with
  | none => some default
  | some j => read j

/-- `null`, or a value. -/
def nullable (read : Json → Option α) : Json → Option (Option α)
  | .null => some none
  | j => (read j).map some

def readStr : Json → Option String
  | .str s => some s
  | _ => none

def readInt : Json → Option Int
  | .int n => some n
  | _ => none

/-- An integer that is not negative. -/
def readNat : Json → Option Nat
  | .int n => if 0 ≤ n then some n.toNat else none
  | _ => none

/-- An instant in `[low, high)`. -/
def readTime (low high : Int) : Json → Option Int
  | .time ns => if low ≤ ns ∧ ns < high then some ns else none
  | _ => none

/-- A list whose items can all be read. -/
def readList (read : Json → Option α) : Json → Option (List α)
  | .arr items => items.mapM read
  | _ => none

/-- A field that may be missing or null. -/
def optionalField (fields : List (String × Json)) (name : String) (read : Json → Option α)
    (default : α) : Option α :=
  withDefault fields name (fun j => (nullable read j).map (fun v => v.getD default)) default

/-- A way to write documents that can be read back. -/
structure Text (β : Type u) where
  print : Json → List β
  parse : List β → Option Json
  parse_print : ∀ j, parse (print j) = some j

theorem readNat_int {n : Int} (h : 0 ≤ n) : readNat (.int n) = some n.toNat := by
  simp [readNat, h]

theorem readTime_time {low high ns : Int} (h : low ≤ ns ∧ ns < high) :
    readTime low high (.time ns) = some ns := by
  simp [readTime, h]

/-- Reading succeeds on a list when it succeeds on each item, with results that correspond
    item by item. -/
theorem mapM_eq_some_of_forall {β : Type u} {γ : Type} {read : γ → Option β}
    {rel : γ → β → Prop} {items : List γ} (h : ∀ j ∈ items, ∃ b, read j = some b ∧ rel j b) :
    ∃ bs, items.mapM read = some bs ∧ List.Forall₂ rel items bs := by
  induction items with
  | nil => exact ⟨[], rfl, .nil⟩
  | cons j items ih =>
    obtain ⟨b, hb, hrel⟩ := h j List.mem_cons_self
    obtain ⟨bs, hbs, hall⟩ := ih (fun j' hj' => h j' (List.mem_cons_of_mem _ hj'))
    exact ⟨b :: bs, by simp [List.mapM_cons, hb, hbs], .cons hrel hall⟩

/-- A list that was written was written item by item. -/
theorem forall₂_of_mapM_ok {β : Type u} {γ : Type} {ε : Type} {write : γ → Except ε β}
    {items : List γ} {bs : List β} (h : items.mapM write = .ok bs) :
    List.Forall₂ (fun a b => write a = .ok b) items bs := by
  induction items generalizing bs with
  | nil =>
    cases h
    exact .nil
  | cons a items ih =>
    rw [List.mapM_cons] at h
    cases hhead : write a with
    | error m => rw [hhead] at h; cases h
    | ok b =>
      cases htail : items.mapM write with
      | error m => rw [hhead, htail] at h; cases h
      | ok rest =>
        rw [hhead, htail] at h
        cases h
        exact .cons hhead (ih htail)

/-- A list that was read was read item by item. -/
theorem forall₂_of_mapM {β : Type u} {γ : Type} {read : γ → Option β} {items : List γ}
    {bs : List β} (h : items.mapM read = some bs) :
    List.Forall₂ (fun j b => read j = some b) items bs := by
  induction items generalizing bs with
  | nil =>
    cases h
    exact .nil
  | cons j items ih =>
    simp only [List.mapM_cons, Option.bind_eq_bind, Option.bind_eq_some_iff] at h
    obtain ⟨b, hb, rest, hrest, heq⟩ := h
    cases heq
    exact .cons hb (ih hrest)

/-- What was written item by item and read item by item. -/
theorem forall₂_comp {β γ δ : Type*} {R : β → γ → Prop} {S : γ → δ → Prop} {as : List β}
    {js : List γ} {bs : List δ} (hR : List.Forall₂ R as js) (hS : List.Forall₂ S js bs) :
    List.Forall₂ (fun a b => ∃ j, R a j ∧ S j b) as bs := by
  induction hR generalizing bs with
  | nil =>
    cases hS
    exact .nil
  | cons ha _ ih =>
    cases hS with
    | cons hb hrest => exact .cons ⟨_, ha, hb⟩ (ih hrest)

end Json
