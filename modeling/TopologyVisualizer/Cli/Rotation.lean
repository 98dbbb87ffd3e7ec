import TopologyVisualizer.Cli.Source
import TopologyVisualizer.Cli.StoreHistory

/-! # Refresh-Token Rotation

    Any number of processes that call `Token`, `Refresh`, `SignIn` and
    `Logout` on one credentials directory, with a provider that issues a
    new refresh token for each one it redeems.

    The store is the atomic one that the store of `Store` refines: a load
    sees the file as it is at one point, a write replaces it at one point.
    What is read is any file with the entries that are stored; the order of
    a Go map is not known. Assumed of the environment: once the provider
    has been asked, its reply is received, and the file can be written.
    Before that a process may fail anywhere; and after a refusal it may fail
    to read the file again, and then leaves the refused token stored.
-/

open LTS

namespace TopologyVisualizer.Cli.Rotation

open Source Store

/-! ### The provider -/

structure Provider where
  /-- The refresh tokens in the order they were issued, each with the number of its sign-in. -/
  issued : List (Nat × String)
  /-- History: the refresh tokens that were presented. -/
  presented : List String
  /-- History: those that were refused. -/
  refused : List String
  /-- History: those of them that were left in the file, since it could not be read again. -/
  uncleared : List String

/-- The newest token of a sign-in. -/
def Provider.newest (v : Provider) (k : Nat) : Option String :=
  ((v.issued.filter (fun i => i.1 = k)).getLast?).map Prod.snd

/-- The token is the newest one of its sign-in. Only such a token can be redeemed. -/
def Provider.Newest (v : Provider) (r : String) : Prop := ∃ k, v.newest k = some r

/-- The newest token of the sign-in that `r` was issued for is `r'`. -/
def Provider.Rotated (v : Provider) (r r' : String) : Prop :=
  ∃ k, (k, r) ∈ v.issued ∧ v.newest k = some r'

/-- The token was never issued. -/
def Provider.Fresh (v : Provider) (r : String) : Prop := r ≠ "" ∧ ∀ i ∈ v.issued, i.2 ≠ r

def Provider.issue (v : Provider) (k : Nat) (r : String) : Provider :=
  { v with issued := v.issued ++ [(k, r)] }

/-! ### Processes -/

/-- What a process wants the lock for. -/
inductive Task where
  | get (g : Get)
  | signIn (server : String) (e : Entry)
  | logout (all : Bool) (norm : String)

/-- What a process is about to write. -/
inductive Change where
  | rotated (server : String) (e next : Entry)
  | cleared (server : String) (e : Entry)
  | signedIn (server : String) (e : Entry)
  | removed (all : Bool) (norm : String)

inductive Phase where
  | idle
  | waiting (task : Task)
  /-- The lock is taken, the file is not read. -/
  | locked (task : Task)
  | asking (g : Get) (f : File) (e : Entry)
  /-- The refresh token of the entry has been presented. -/
  | asked (g : Get) (f : File) (e : Entry)
  | refused (g : Get) (e : Entry) (reason : String)
  | writing (f : File) (change : Change) (answer : Option Answer)
  /-- The turn has ended, the lock is still held. -/
  | done (answer : Option Answer)

structure State where
  store : View
  provider : Provider
  procs : Nat → Phase
  /-- History: what the calls of `Token` and `Refresh` returned. -/
  answers : List (Nat × Answer)

def State.setPhase (s : State) (p : Nat) (ph : Phase) : State :=
  { s with procs := fun q => if q = p then ph else s.procs q }

/-- A call returns. -/
def State.return (s : State) (p : Nat) (answer : Option Answer) : State :=
  { s.setPhase p .idle with answers := s.answers ++ (answer.map (fun a => (p, a))).toList }

/-- What a process does after a decision on the file `f`. -/
def afterDecision (g : Get) (f : File) : Decision → Phase
  | .unchanged a => .done (some (g.call.answer a))
  | .clear e a =>
    .writing (f.set g.server e.clearTokens) (.cleared g.server e) (some (g.call.answer a))
  | .refresh e => .asking g f e

/-- What a process does with the file it read under the lock. -/
def afterRead (now : GoTime) (f : File) : Task → Phase
  | .get g => afterDecision g f (underLock now g f)
  | .signIn server e =>
    match Store.signIn server e f with
    | .ok f' => .writing f' (.signedIn server e) none
    | _ => .done none
  | .logout all norm =>
    match Store.logout all norm f with
    | .ok f' => .writing f' (.removed all norm) none
    | _ => .done none

/-- What a task that fails returns. -/
def Task.failed (message : String) : Task → Option Answer
  | .get _ => some (.failed message)
  | _ => none

/-! ### Labels -/

inductive Label where
  /-- `get` loads the file without the lock. -/
  | load (p : Nat) (g : Get) (now : GoTime) (f : File)
  /-- `SignIn` has redeemed its code: the provider issues the first token of sign-in `k`. -/
  | signIn (p : Nat) (k : Nat) (server : String) (e : Entry)
  | logout (p : Nat) (all : Bool) (norm : String)
  | acquire (p : Nat)
  | read (p : Nat) (now : GoTime) (f : File)
  /-- The lock is not taken, the file cannot be read, or the provider cannot be asked. -/
  | fail (p : Nat) (message : String)
  | present (p : Nat)
  | grant (p : Nat) (k : Nat) (idToken : String) (expiry : Int) (refreshToken : String)
  | refuse (p : Nat) (reason : String)
  /-- The file is read again after the refusal. -/
  | reread (p : Nat) (f : File)
  /-- It cannot be read again. -/
  | rereadFail (p : Nat) (message : String)
  | write (p : Nat)
  | release (p : Nat)

/-! ### The system -/

def system (checkSecretURL : String → Option String) : System State Label where
  init := fun s =>
    s.store = ⟨fun _ => none, none⟩ ∧ s.provider = ⟨[], [], [], []⟩ ∧ (∀ p, s.procs p = .idle) ∧
    s.answers = []
  step := fun s l s' =>
    match l with
    | .load p g now f =>
        -- the load is at one point; the lock may be held by anybody
        s.procs p = .idle ∧ f.entry = s.store.entries ∧
        s' = match fastPath checkSecretURL now g f with
          | some a => s.return p (some (g.call.answer a))
          | none => s.setPhase p (.waiting (.get g))
    | .signIn p k server e =>
        s.procs p = .idle ∧
        -- the ID token was checked; the refresh token is there, and new
        e.signedIn ∧ s.provider.Fresh e.refreshToken ∧ (∀ i ∈ s.provider.issued, i.1 ≠ k) ∧
        s' = { s.setPhase p (.waiting (.signIn server e)) with
          provider := s.provider.issue k e.refreshToken }
    | .logout p all norm =>
        s.procs p = .idle ∧ s' = s.setPhase p (.waiting (.logout all norm))
    | .acquire p =>
        ∃ task, s.procs p = .waiting task ∧ s.store.holder = none ∧
          s' = { s.setPhase p (.locked task) with store := { s.store with holder := some p } }
    | .read p now f =>
        ∃ task, s.procs p = .locked task ∧ f.entry = s.store.entries ∧
          s' = s.setPhase p (afterRead now f task)
    | .fail p message =>
        (∃ task, s.procs p = .waiting task ∧ s' = s.return p (task.failed message)) ∨
        (∃ task, s.procs p = .locked task ∧ s' = s.setPhase p (.done (task.failed message))) ∨
        (∃ g f e, s.procs p = .asking g f e ∧ s' = s.setPhase p (.done (some (.failed message))))
    | .present p =>
        -- the request is out, and the lock stays taken until the reply is dealt with
        ∃ g f e, s.procs p = .asking g f e ∧
          s' = { s.setPhase p (.asked g f e) with
            provider := { s.provider with
              presented := s.provider.presented ++ [e.refreshToken] } }
    | .grant p k idToken expiry refreshToken =>
        ∃ g f e, s.procs p = .asked g f e ∧
          -- a token that was redeemed is not the newest one any more
          s.provider.newest k = some e.refreshToken ∧
          idToken ≠ "" ∧ s.provider.Fresh refreshToken ∧
          s' = { s.setPhase p (.writing (f.set g.server (redeemed e idToken expiry refreshToken))
              (.rotated g.server e (redeemed e idToken expiry refreshToken))
              (some (g.call.answer (.token idToken)))) with
            provider := s.provider.issue k refreshToken }
    | .refuse p reason =>
        -- at the provider's will, and the only answer to a token it has redeemed
        ∃ g f e, s.procs p = .asked g f e ∧
          s' = { s.setPhase p (.refused g e reason) with
            provider := { s.provider with refused := s.provider.refused ++ [e.refreshToken] } }
    | .reread p f =>
        ∃ g e reason, s.procs p = .refused g e reason ∧ f.entry = s.store.entries ∧
          s' = s.setPhase p (afterDecision g f (afterRefusal g e.refreshToken reason f))
    | .rereadFail p message =>
        -- `return rerr`: nothing is written
        ∃ g e reason, s.procs p = .refused g e reason ∧
          s' = { s.setPhase p (.done (some (.failed message))) with
            provider := { s.provider with
              uncleared := s.provider.uncleared ++ [e.refreshToken] } }
    | .write p =>
        -- the rename
        ∃ f change answer, s.procs p = .writing f change answer ∧
          s' = { s.setPhase p (.done answer) with
            store := { s.store with entries := f.entry } }
    | .release p =>
        ∃ answer, s.procs p = .done answer ∧
          s' = { s.return p answer with store := { s.store with holder := none } }

/-! ### Where the tokens are -/

/-- A refresh token is stored for a server, or carried by a process that is going to store it. -/
inductive Place where
  | stored (server : String)
  | carried (p : Nat)
  deriving DecidableEq

def Task.carried : Task → Option String
  | .signIn _ e => some e.refreshToken
  | _ => none

def Change.carried : Change → Option String
  | .rotated _ _ next => some next.refreshToken
  | .signedIn _ e => some e.refreshToken
  | _ => none

def Phase.carried : Phase → Option String
  | .waiting task => task.carried
  | .locked task => task.carried
  | .writing _ change _ => change.carried
  | _ => none

def tokenOf (e : Option Entry) : Option String :=
  e.bind (fun e => if e.refreshToken = "" then none else some e.refreshToken)

def State.tokenAt (s : State) : Place → Option String
  | .stored server => tokenOf (s.store.entries server)
  | .carried p => (s.procs p).carried

/-- The server whose entry the change takes away, after its token was presented. -/
def Change.spent : Change → Option String
  | .rotated server _ _ => some server
  | .cleared server _ => some server
  | _ => none

/-- The server whose stored token has been presented by a process that has not written since. -/
def Phase.spent : Phase → Option String
  | .asked g _ _ => some g.server
  | .refused g _ _ => some g.server
  | .writing _ change _ => change.spent
  | _ => none

def State.spending (s : State) (a : Place) : Prop :=
  ∃ p server, (s.procs p).spent = some server ∧ a = .stored server

/-- No token is in two places, and one that is not being spent is the newest of its sign-in and
    was not presented, unless it was left in the file after a refusal. -/
structure Tokens (v : Provider) (held : Place → Option String) (spending : Place → Prop) :
    Prop where
  unique : ∀ a b r, held a = some r → held b = some r → a = b
  issued : ∀ a r, held a = some r → ∃ k, (k, r) ∈ v.issued
  usable : ∀ a r, held a = some r → ¬ spending a →
    v.Newest r ∧ (r ∈ v.presented → r ∈ v.uncleared)

/-! ### The invariant -/

def Phase.holds : Phase → Bool
  | .idle => false
  | .waiting _ => false
  | _ => true

def Task.Good : Task → Prop
  | .signIn _ e => e.signedIn ∧ e.refreshToken ≠ ""
  | _ => True

/-- What is about to be written. -/
def Change.Good (entries : String → Option Entry) (v : Provider) (f : File) : Change → Prop
  | .rotated server e next =>
      entries server = some e ∧ f.entry = Function.update entries server (some next) ∧
      next.signedIn ∧ next.refreshToken ≠ "" ∧ v.Rotated e.refreshToken next.refreshToken
  | .cleared server e =>
      entries server = some e ∧ f.entry = Function.update entries server (some e.clearTokens) ∧
      v.Newest e.refreshToken ∧ e.refreshToken ∈ v.refused
  | .signedIn server e =>
      f.entry = Function.update entries server (some e) ∧ e.signedIn ∧ e.refreshToken ≠ ""
  | .removed all norm =>
      f.entry = fun server => if all || server = norm then none else entries server

/-- What a process knows. -/
def Phase.Good (entries : String → Option Entry) (v : Provider) : Phase → Prop
  | .waiting task => task.Good
  | .locked task => task.Good
  | .asking g f e => f.entry = entries ∧ entries g.server = some e ∧ e.refreshToken ≠ ""
  | .asked g f e =>
      f.entry = entries ∧ entries g.server = some e ∧ e.refreshToken ≠ "" ∧ v.Newest e.refreshToken
  | .refused g e _ =>
      entries g.server = some e ∧ v.Newest e.refreshToken ∧ e.refreshToken ∈ v.refused
  | .writing f change _ => change.Good entries v f
  | _ => True

/-- An entry has both tokens or none. -/
def Paired (e : Entry) : Prop := e.signedIn = true ↔ e.refreshToken ≠ ""

structure Provider.WF (v : Provider) : Prop where
  distinct : (v.issued.map Prod.snd).Nodup
  known : ∀ r ∈ v.presented, ∃ k, (k, r) ∈ v.issued
  once : ∀ r, r ∉ v.uncleared → v.presented.count r ≤ 1

structure Inv (s : State) : Prop where
  mutex : ∀ p, (s.procs p).holds = true ↔ s.store.holder = some p
  good : ∀ p, (s.procs p).Good s.store.entries s.provider
  paired : ∀ server e, s.store.entries server = some e → Paired e
  tokens : Tokens s.provider s.tokenAt s.spending
  provider : s.provider.WF

/-! ### The provider's tokens -/

section provider
variable {v v' : Provider} {k : Nat} {r r' : String}

theorem mem_of_newest (h : v.newest k = some r) : (k, r) ∈ v.issued := by
  unfold Provider.newest at h
  obtain ⟨i, hi, rfl⟩ := Option.map_eq_some_iff.mp h
  have hmem := List.mem_of_getLast? hi
  rw [List.mem_filter, decide_eq_true_eq] at hmem
  obtain ⟨hmem, rfl⟩ := hmem
  exact hmem

@[simp] theorem newest_issue_self : (v.issue k r).newest k = some r := by
  simp [Provider.newest, Provider.issue]

theorem newest_issue_other {j : Nat} (h : j ≠ k) : (v.issue k r).newest j = v.newest j := by
  simp [Provider.newest, Provider.issue, h.symm]

theorem Provider.Fresh.not_presented (h : v.Fresh r) (hv : v.WF) : r ∉ v.presented := by
  intro hmem
  obtain ⟨k, hk⟩ := hv.known r hmem
  exact h.2 _ hk rfl

theorem Provider.WF.issue (hv : v.WF) (h : v.Fresh r) (k : Nat) : (v.issue k r).WF where
  distinct := by
    show ((v.issued ++ [(k, r)]).map Prod.snd).Nodup
    rw [List.map_append, List.nodup_append]
    refine ⟨hv.distinct, List.nodup_singleton _, ?_⟩
    intro x hx y hy heq
    obtain ⟨i, hi, rfl⟩ := List.mem_map.mp hx
    rw [List.mem_singleton.mp hy] at heq
    exact h.2 i hi heq
  known := by
    intro x hx
    obtain ⟨j, hj⟩ := hv.known x hx
    exact ⟨j, List.mem_append_left _ hj⟩
  once := hv.once

/-- A new sign-in leaves the others' tokens the newest. -/
theorem Provider.Newest.issue (h : v.Newest r) (hk : ∀ i ∈ v.issued, i.1 ≠ k) :
    (v.issue k r').Newest r := by
  obtain ⟨j, hj⟩ := h
  -- the new sign-in has a number of its own
  have hne : j ≠ k := hk _ (mem_of_newest hj)
  exact ⟨j, by rw [newest_issue_other hne]; exact hj⟩

theorem Provider.Rotated.issue {r₀ : String} (h : v.Rotated r r₀) (hk : ∀ i ∈ v.issued, i.1 ≠ k) :
    (v.issue k r').Rotated r r₀ := by
  obtain ⟨j, hmem, hj⟩ := h
  have hne : j ≠ k := hk _ hmem
  exact ⟨j, List.mem_append_left _ hmem, by rw [newest_issue_other hne]; exact hj⟩

/-- A rotation leaves every token but the redeemed one the newest. -/
theorem Provider.Newest.redeem {r₀ : String} (h : v.Newest r) (hk : v.newest k = some r₀)
    (hne : r ≠ r₀) : (v.issue k r').Newest r := by
  obtain ⟨j, hj⟩ := h
  -- the newest token of the sign-in that goes on was `r₀`
  have hother : j ≠ k := by
    rintro rfl
    rw [hk] at hj
    exact hne (Option.some.inj hj).symm
  exact ⟨j, by rw [newest_issue_other hother]; exact hj⟩

end provider

/-! ### Rules for tokens -/

section tokens
variable {v v' : Provider} {held held' : Place → Option String} {spending spending' : Place → Prop}

/-- Tokens may be dropped, and moved to other places. -/
theorem Tokens.relocate (h : Tokens v held spending) {π : Place → Place} (hπ : π.Injective)
    (hissued : v'.issued = v.issued) (hpresented : v'.presented = v.presented)
    (huncleared : v'.uncleared = v.uncleared)
    (hheld : ∀ a r, held' a = some r → held (π a) = some r)
    (hspending : ∀ a r, held' a = some r → spending (π a) → spending' a) :
    Tokens v' held' spending' where
  unique := by
    intro a b r ha hb
    exact hπ (h.unique _ _ r (hheld a r ha) (hheld b r hb))
  issued := by
    intro a r ha
    rw [hissued]
    exact h.issued _ r (hheld a r ha)
  usable := by
    intro a r ha hfree
    obtain ⟨⟨k, hk⟩, hunused⟩ := h.usable _ r (hheld a r ha) (fun hs => hfree (hspending a r ha hs))
    refine ⟨⟨k, ?_⟩, ?_⟩
    · unfold Provider.newest
      rw [hissued]
      exact hk
    · rw [hpresented, huncleared]
      exact hunused

/-- A new token appears in a place. -/
theorem Tokens.issue (h : Tokens v held spending) (a₀ : Place) {k : Nat} {r₀ : String}
    (hfresh : v.Fresh r₀) (hunused : r₀ ∉ v.presented)
    (hheld : ∀ a r, held' a = some r → held a = some r ∨ a = a₀ ∧ r = r₀)
    (hspending : ∀ a, spending a → spending' a)
    (hnewest : ∀ a r, held a = some r → ¬ spending a → v.Newest r → (v.issue k r₀).Newest r) :
    Tokens (v.issue k r₀) held' spending' where
  unique := by
    intro a b r ha hb
    -- a token that was there is not the new one
    have hold : ∀ a, held a = some r₀ → False := by
      intro a ha
      obtain ⟨j, hj⟩ := h.issued a r₀ ha
      exact hfresh.2 _ hj rfl
    rcases hheld a r ha with ha | ⟨rfl, rfl⟩
    · rcases hheld b r hb with hb | ⟨rfl, rfl⟩
      · exact h.unique a b r ha hb
      · exact (hold a ha).elim
    · rcases hheld b _ hb with hb | ⟨rfl, -⟩
      · exact (hold b hb).elim
      · rfl
  issued := by
    intro a r ha
    rcases hheld a r ha with ha | ⟨-, rfl⟩
    · obtain ⟨j, hj⟩ := h.issued a r ha
      exact ⟨j, List.mem_append_left _ hj⟩
    · exact ⟨k, List.mem_append_right _ List.mem_cons_self⟩
  usable := by
    intro a r ha hfree
    rcases hheld a r ha with ha | ⟨-, rfl⟩
    · have hfree : ¬ spending a := fun hs => hfree (hspending a hs)
      obtain ⟨hn, hu⟩ := h.usable a r ha hfree
      exact ⟨hnewest a r ha hfree hn, hu⟩
    · exact ⟨⟨k, newest_issue_self⟩, fun hmem => absurd hmem hunused⟩

/-- The token of a place is presented, and the place is being spent. -/
theorem Tokens.present (h : Tokens v held spending) {a₀ : Place} {r₀ : String}
    (ha₀ : held a₀ = some r₀) (hheld : ∀ a r, held' a = some r → held a = some r)
    (hspending : ∀ a, spending a ∨ a = a₀ → spending' a) :
    Tokens { v with presented := v.presented ++ [r₀] } held' spending' where
  unique := by
    intro a b r ha hb
    exact h.unique a b r (hheld a r ha) (hheld b r hb)
  issued := by
    intro a r ha
    exact h.issued a r (hheld a r ha)
  usable := by
    intro a r ha hfree
    have ha := hheld a r ha
    obtain ⟨hn, hu⟩ := h.usable a r ha (fun hs => hfree (hspending a (.inl hs)))
    refine ⟨hn, ?_⟩
    intro hmem
    rcases List.mem_append.mp hmem with hmem | hmem
    · exact hu hmem
    · -- the token just presented is in no other place
      rw [List.mem_singleton.mp hmem] at ha
      exact absurd (hspending a (.inr (h.unique a a₀ r₀ ha ha₀))) hfree

/-- The refused token of a place stays there. -/
theorem Tokens.leave (h : Tokens v held spending) {a₀ : Place} {r₀ : String}
    (ha₀ : ∀ r, held a₀ = some r → r = r₀) (hnewest : v.Newest r₀)
    (hheld : ∀ a r, held' a = some r → held a = some r)
    (hspending : ∀ a, spending a → a = a₀) :
    Tokens { v with uncleared := v.uncleared ++ [r₀] } held' spending' where
  unique := by
    intro a b r ha hb
    exact h.unique a b r (hheld a r ha) (hheld b r hb)
  issued := by
    intro a r ha
    exact h.issued a r (hheld a r ha)
  usable := by
    intro a r ha _
    have ha := hheld a r ha
    by_cases hplace : a = a₀
    · rw [hplace] at ha
      rw [ha₀ r ha]
      exact ⟨hnewest, fun _ => List.mem_append_right _ List.mem_cons_self⟩
    · obtain ⟨hn, hu⟩ := h.usable a r ha (fun hs => hplace (hspending a hs))
      exact ⟨hn, fun hmem => List.mem_append_left _ (hu hmem)⟩

end tokens

end TopologyVisualizer.Cli.Rotation
