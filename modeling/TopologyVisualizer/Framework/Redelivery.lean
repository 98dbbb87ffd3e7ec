import TopologyVisualizer.Framework.LTS
import Mathlib.Data.List.Nodup
import Mathlib.Logic.Function.Basic

/-! # Redelivery to an Idempotent Receiver

    Any number of senders deliver items over a network that loses, delays
    and repeats requests and answers. A sender may send one item again and
    again; the receiver recognises an item by its id and takes it once.

    * **At most once**: no id is taken twice, whatever the network does.
    * **Counted means taken**: what a sender counted as delivered was taken,
      as long as different items have different ids.

    Senders are left open: `Moves` says what a sender may do by itself and
    `Concludes` what it may make of an answer.
-/

namespace Redelivery

open LTS

universe u v

variable {Node : Type u} {Item : Type v}

/-! ### Senders -/

/-- What the protocol sees of a sender. -/
structure Sender (Item : Type v) where
  /-- What it was asked to deliver. -/
  given : List Item := []
  /-- The item it is sending. -/
  inFlight : Option Item := none
  /-- The item it is about to count as delivered. -/
  credited : Option Item := none
  /-- What it counted as delivered. -/
  counted : List Item := []

/-- A move of the sender alone: it gives up no item in flight and counts only what it was
    credited with. -/
structure Sender.Moves (a b : Sender Item) : Prop where
  given : a.given <+: b.given
  inFlight : ∀ x, a.inFlight = some x → b.inFlight = some x
  credited : ∀ x, b.credited = some x → a.credited = some x
  counted : ∀ x ∈ b.counted, x ∈ a.counted ∨ a.credited = some x

/-- An answer reached the sender: a success credits the item in flight. -/
structure Sender.Concludes (a : Sender Item) (success : Bool) (b : Sender Item) : Prop where
  given : b.given = a.given
  credited : ∀ x, b.credited = some x → a.inFlight = some x ∧ success = true
  counted : b.counted = a.counted

/-! ### State and labels -/

structure State (Node : Type u) (Item : Type v) where
  senders : Node → Sender Item := fun _ => {}
  /-- Every request sent so far. -/
  requests : List (Node × Item) := []
  /-- The request whose answer a sender waits for. -/
  awaiting : Node → Option Nat := fun _ => none
  /-- Every answer given so far: the request and whether it says success. -/
  replies : List (Nat × Bool) := []
  /-- What the receiver took, in its order. -/
  taken : List (Node × Item) := []

inductive Label (Node : Type u) where
  | move (n : Node)
  | send (n : Node)
  /-- The receiver handles a request: whether it takes the item, and what it answers. -/
  | handle (request : Nat) (takes success : Bool)
  | conclude (n : Node) (request : Nat) (success : Bool)
  /-- The sender stops waiting without an answer. -/
  | giveUp (n : Node)

/-! ### Items and ids -/

variable {Id : Type v} {id : Item → Id} {s s' : State Node Item}

/-- Different items, and items of different senders, have different ids. -/
def State.Distinct (id : Item → Id) (s : State Node Item) : Prop :=
  ∀ n, ∀ x ∈ (s.senders n).given, ∀ m, ∀ y ∈ (s.senders m).given, id x = id y → (n, x) = (m, y)

/-- Requests and what was taken come from the senders, no id twice. -/
structure Traced (id : Item → Id) (s : State Node Item) : Prop where
  requests : ∀ r ∈ s.requests, r.2 ∈ (s.senders r.1).given
  taken : ∀ t ∈ s.taken, t.2 ∈ (s.senders t.1).given
  ids : (s.taken.map (fun t => id t.2)).Nodup

/-- A step that sends and takes nothing. -/
theorem Traced.of_same (h : Traced id s) (hrequests : s'.requests = s.requests)
    (htaken : s'.taken = s.taken)
    (hgiven : ∀ n, (s.senders n).given <+: (s'.senders n).given) : Traced id s' where
  requests := by
    rw [hrequests]
    exact fun r hr => (hgiven r.1).subset (h.requests r hr)
  taken := by
    rw [htaken]
    exact fun t ht => (hgiven t.1).subset (h.taken t ht)
  ids := by rw [htaken]; exact h.ids

/-- A known id is the id of this very request, as ids are distinct. -/
theorem Traced.taken_of_known (h : Traced id s) (hids : s.Distinct id) {req : Node × Item}
    (hreq : req ∈ s.requests) (hknown : id req.2 ∈ s.taken.map (fun t => id t.2)) :
    req ∈ s.taken := by
  obtain ⟨t, ht, heq⟩ := List.mem_map.mp hknown
  have hsame := hids t.1 t.2 (h.taken t ht) req.1 req.2 (h.requests req hreq) heq
  have : t = req := hsame
  exact this ▸ ht

/-! ### The system -/

variable [DecidableEq Node] {l : Label Node}

/-- The protocol, with items told apart by `id`. -/
def system (id : Item → Id) : System (State Node Item) (Label Node) where
  init := fun s => s = {}
  step := fun s lbl s' =>
    match lbl with
    | .move n =>
        ∃ b, (s.senders n).Moves b ∧ s' = { s with senders := Function.update s.senders n b }
    | .send n =>
        ∃ x, (s.senders n).inFlight = some x ∧ x ∈ (s.senders n).given ∧
          s' = { s with
            requests := s.requests ++ [(n, x)]
            awaiting := Function.update s.awaiting n (some s.requests.length) }
    | .handle i takes success =>
        ∃ req, s.requests[i]? = some req ∧
          (takes = true → id req.2 ∉ s.taken.map (fun t => id t.2)) ∧
          (success = true → takes = true ∨ id req.2 ∈ s.taken.map (fun t => id t.2)) ∧
          s' = { s with
            replies := s.replies ++ [(i, success)]
            taken := s.taken ++ if takes then [req] else [] }
    | .conclude n i success =>
        ∃ b, s.awaiting n = some i ∧ (i, success) ∈ s.replies ∧
          (s.senders n).Concludes success b ∧
          s' = { s with
            senders := Function.update s.senders n b
            awaiting := Function.update s.awaiting n none }
    | .giveUp n =>
        ∃ b, (s.senders n).Concludes false b ∧
          s' = { s with
            senders := Function.update s.senders n b
            awaiting := Function.update s.awaiting n none }

/-! ### What senders are given -/

/-- What holds of every sender holds after one of them changed, if it holds of the new one. -/
theorem update_senders {p : Node → Sender Item → Prop} {senders : Node → Sender Item} {m : Node}
    {b : Sender Item} (hb : p m b) (h : ∀ n, p n (senders n)) (n : Node) :
    p n (Function.update senders m b n) :=
  (Function.forall_update_iff senders p).mpr ⟨hb, fun n _ => h n⟩ n

/-- Nothing is taken back from what a sender was given. -/
theorem given_grows (hstep : (system id).step s l s') (n : Node) :
    (s.senders n).given <+: (s'.senders n).given := by
  have hupdate : ∀ {m : Node} {b : Sender Item}, (s.senders m).given <+: b.given →
      (s.senders n).given <+: (Function.update s.senders m b n).given := fun {m b} hb =>
    update_senders (p := fun n b => (s.senders n).given <+: b.given) hb
      (fun _ => List.prefix_rfl) n
  simp only [system] at hstep
  cases l with
  | move m => obtain ⟨b, hb, rfl⟩ := hstep; exact hupdate hb.given
  | send m => obtain ⟨x, -, -, rfl⟩ := hstep; exact List.prefix_rfl
  | handle i takes success => obtain ⟨req, -, -, -, rfl⟩ := hstep; exact List.prefix_rfl
  | conclude m i success =>
    obtain ⟨b, -, -, hb, rfl⟩ := hstep
    exact hupdate (hb.given ▸ List.prefix_rfl)
  | giveUp m => obtain ⟨b, hb, rfl⟩ := hstep; exact hupdate (hb.given ▸ List.prefix_rfl)

/-- So distinct ids were distinct before. -/
theorem distinct_before (hstep : (system id).step s l s') (h : s'.Distinct id) : s.Distinct id :=
  fun n x hx m y hy => h n x ((given_grows hstep n).subset hx) m y ((given_grows hstep m).subset hy)

/-! ### At most once -/

/-- **At most once**, in every run. -/
theorem traced_of_reachable (h : Reachable (system id) s) : Traced id s := by
  refine System.invariant (Traced id) ?_ ?_ s h
  · intro s hs
    rw [hs]
    exact ⟨by simp, by simp, List.nodup_nil⟩
  · intro s l s' hinv hstep
    have hgiven := given_grows hstep
    simp only [system] at hstep
    cases l with
    | send n =>
      obtain ⟨x, -, hx, rfl⟩ := hstep
      refine ⟨?_, hinv.taken, hinv.ids⟩
      intro r hr
      rcases List.mem_append.mp hr with hr | hr
      · exact hinv.requests r hr
      · rw [List.mem_singleton.mp hr]
        exact hx
    | handle i takes success =>
      obtain ⟨req, hreq, hfresh, -, rfl⟩ := hstep
      cases takes with
      | false =>
        exact hinv.of_same rfl (List.append_nil _) hgiven
      | true =>
        refine ⟨hinv.requests, ?_, ?_⟩
        · intro t ht
          rcases List.mem_append.mp ht with ht | ht
          · exact hinv.taken t ht
          · rw [List.mem_singleton.mp ht]
            exact hinv.requests req (List.mem_of_getElem? hreq)
        · show ((s.taken ++ [req]).map _).Nodup
          rw [List.map_append, List.map_singleton, List.nodup_append]
          refine ⟨hinv.ids, List.nodup_singleton _, ?_⟩
          intro a ha b hb hab
          rw [List.mem_singleton.mp hb] at hab
          exact hfresh rfl (hab ▸ ha)
    | _ => exact hinv.of_same (by grind) (by grind) hgiven

/-! ### Counted means taken -/

/-- A sender waits for the answer to a request with the item it has in flight. -/
def State.Awaits (s : State Node Item) : Prop :=
  ∀ n i, s.awaiting n = some i →
    ∃ x, s.requests[i]? = some (n, x) ∧ (s.senders n).inFlight = some x

/-- Whoever is told of a success, or counted one, can rely on the receiver. -/
structure Credit (s : State Node Item) : Prop where
  replies : ∀ i, (i, true) ∈ s.replies → ∃ req, s.requests[i]? = some req ∧ req ∈ s.taken
  credited : ∀ n x, (s.senders n).credited = some x → (n, x) ∈ s.taken
  counted : ∀ n, ∀ x ∈ (s.senders n).counted, (n, x) ∈ s.taken

/-- A sender that stopped waiting says nothing about the others. -/
theorem State.Awaits.stop (h : s.Awaits) (m : Node) (b : Sender Item) :
    State.Awaits { s with
      senders := Function.update s.senders m b
      awaiting := Function.update s.awaiting m none } := by
  intro n i hi
  change Function.update s.awaiting m none n = some i at hi
  by_cases hn : n = m
  · rw [hn, Function.update_self] at hi
    cases hi
  · rw [Function.update_of_ne hn] at hi
    obtain ⟨x, hreq, hx⟩ := h n i hi
    refine ⟨x, hreq, ?_⟩
    show (Function.update s.senders m b n).inFlight = some x
    rw [Function.update_of_ne hn]
    exact hx

theorem awaits_of_reachable (h : Reachable (system id) s) : s.Awaits := by
  refine System.invariant State.Awaits ?_ ?_ s h
  · intro s hs n i hi
    rw [hs] at hi
    cases hi
  · intro s l s' hinv hstep
    simp only [system] at hstep
    cases l with
    | move m =>
      obtain ⟨b, hb, rfl⟩ := hstep
      intro n i hi
      obtain ⟨x, hreq, hx⟩ := hinv n i hi
      refine ⟨x, hreq, ?_⟩
      exact update_senders (p := fun n b => ∀ x, (s.senders n).inFlight = some x →
        b.inFlight = some x) hb.inFlight (fun _ _ h => h) n x hx
    | send m =>
      obtain ⟨x, hx, -, rfl⟩ := hstep
      intro n i hi
      change Function.update s.awaiting m _ n = some i at hi
      by_cases hn : n = m
      · subst hn
        rw [Function.update_self] at hi
        refine ⟨x, ?_, hx⟩
        show (s.requests ++ [(n, x)])[i]? = _
        rw [← Option.some.inj hi]
        exact List.getElem?_concat_length
      · rw [Function.update_of_ne hn] at hi
        obtain ⟨y, hreq, hy⟩ := hinv n i hi
        exact ⟨y, List.getElem?_append_left (List.getElem?_eq_some_iff.mp hreq).1 ▸ hreq, hy⟩
    | handle j takes success => obtain ⟨req, -, -, -, rfl⟩ := hstep; exact hinv
    | conclude m j success => obtain ⟨b, -, -, -, rfl⟩ := hstep; exact hinv.stop m b
    | giveUp m => obtain ⟨b, -, rfl⟩ := hstep; exact hinv.stop m b

/-- A sender that changes keeps `Credit`, as long as nothing is credited without being taken. -/
theorem Credit.update (h : Credit s) {n : Node} {b : Sender Item} {awaiting : Node → Option Nat}
    (hcredited : ∀ x, b.credited = some x → (n, x) ∈ s.taken)
    (hcounted : ∀ x ∈ b.counted, (n, x) ∈ s.taken) :
    Credit { s with senders := Function.update s.senders n b, awaiting := awaiting } where
  replies := h.replies
  credited := update_senders (p := fun m b => ∀ x, b.credited = some x → (m, x) ∈ s.taken)
    hcredited h.credited
  counted := update_senders (p := fun m b => ∀ x ∈ b.counted, (m, x) ∈ s.taken)
    hcounted h.counted

/-- **Credit** of every run with distinct ids. -/
theorem credit_of_reachable (h : Reachable (system id) s) (hids : s.Distinct id) : Credit s := by
  refine System.invariant_of_reachable (fun s => s.Distinct id → Credit s) ?_ ?_ s h hids
  · intro s hs _
    rw [hs]
    exact ⟨by simp, by simp, by simp⟩
  · intro s l s' hreach hinv hstep hids'
    have hids := distinct_before hstep hids'
    have hcredit := hinv hids
    simp only [system] at hstep
    cases l with
    | move n =>
      obtain ⟨b, hb, rfl⟩ := hstep
      refine hcredit.update (fun x hx => hcredit.credited n x (hb.credited x hx)) ?_
      intro x hx
      rcases hb.counted x hx with hx | hx
      · exact hcredit.counted n x hx
      · exact hcredit.credited n x hx
    | send n =>
      obtain ⟨x, -, -, rfl⟩ := hstep
      refine ⟨?_, hcredit.credited, hcredit.counted⟩
      intro i hi
      obtain ⟨req, hreq, htaken⟩ := hcredit.replies i hi
      exact ⟨req, List.getElem?_append_left (List.getElem?_eq_some_iff.mp hreq).1 ▸ hreq, htaken⟩
    | handle i takes success =>
      obtain ⟨req, hreq, -, hsuccess, rfl⟩ := hstep
      refine ⟨?_, fun n x hx => List.mem_append_left _ (hcredit.credited n x hx),
        fun n x hx => List.mem_append_left _ (hcredit.counted n x hx)⟩
      intro j hj
      rcases List.mem_append.mp hj with hj | hj
      · obtain ⟨req', hreq', htaken⟩ := hcredit.replies j hj
        exact ⟨req', hreq', List.mem_append_left _ htaken⟩
      · obtain ⟨rfl, rfl⟩ := Prod.mk.inj (List.mem_singleton.mp hj)
        refine ⟨req, hreq, ?_⟩
        rcases hsuccess rfl with rfl | hknown
        · exact List.mem_append_right _ (List.mem_singleton_self req)
        · exact List.mem_append_left _ ((traced_of_reachable hreach).taken_of_known hids
            (List.mem_of_getElem? hreq) hknown)
    | conclude n i success =>
      obtain ⟨b, hi, hreply, hb, rfl⟩ := hstep
      refine hcredit.update ?_ (fun x hx => hcredit.counted n x (hb.counted ▸ hx))
      intro x hx
      obtain ⟨hflight, rfl⟩ := hb.credited x hx
      -- the answer is to a request with the item in flight
      obtain ⟨req, hreq, htaken⟩ := hcredit.replies i hreply
      obtain ⟨y, hreq', hy⟩ := awaits_of_reachable hreach n i hi
      have hsame : (n, y) = req := Option.some.inj (hreq'.symm.trans hreq)
      have hxy : x = y := Option.some.inj (hflight.symm.trans hy)
      rw [hxy, hsame]
      exact htaken
    | giveUp n =>
      obtain ⟨b, hb, rfl⟩ := hstep
      refine hcredit.update ?_ (fun x hx => hcredit.counted n x (hb.counted ▸ hx))
      intro x hx
      exact absurd (hb.credited x hx).2 Bool.false_ne_true

end Redelivery
