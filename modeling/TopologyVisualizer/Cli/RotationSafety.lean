import Mathlib.Logic.Equiv.Basic
import TopologyVisualizer.Cli.Rotation

/-! # Rotation Is Safe

    One step after the other: where each step leaves the tokens, and what
    follows for every run. The lock carries the argument. The process that
    has it is the only one that presents a stored token, so nobody else
    can present it again before it is replaced or cleared.
-/

open LTS

namespace TopologyVisualizer.Cli.Rotation

open Source Store

/-! ### One step -/

section steps
variable {s : State} {p : Nat}

@[simp] theorem setPhase_same (ph : Phase) : (s.setPhase p ph).procs p = ph := by
  simp [State.setPhase]

@[simp] theorem setPhase_other {q : Nat} (h : q ≠ p) (ph : Phase) :
    (s.setPhase p ph).procs q = s.procs q := by
  simp [State.setPhase, h]

/-- A property of every process, when one of them has moved. -/
theorem forall_setPhase {P : Nat → Phase → Prop} {ph : Phase} (hp : P p ph)
    (hothers : ∀ q, q ≠ p → P q (s.procs q)) (q : Nat) : P q ((s.setPhase p ph).procs q) := by
  by_cases hq : q = p
  · rw [hq, setPhase_same]
    exact hp
  · rw [setPhase_other hq]
    exact hothers q hq

theorem holds_of_spent {ph : Phase} {server : String} (h : ph.spent = some server) :
    ph.holds = true := by
  cases ph with
  | idle => cases h
  | waiting task => cases h
  | locked task => rfl
  | asking g f e => rfl
  | asked g f e => rfl
  | refused g e reason => rfl
  | writing f change answer => rfl
  | done answer => rfl

theorem Inv.good_at (h : Inv s) {ph : Phase} (hp : s.procs p = ph) :
    ph.Good s.store.entries s.provider := by
  rw [← hp]
  exact h.good p

theorem Inv.others_free (h : Inv s) (hp : (s.procs p).holds = true) {q : Nat} (hq : q ≠ p) :
    ¬ (s.procs q).holds = true := by
  intro hholds
  have hholder := (h.mutex p).mp hp
  rw [(h.mutex q).mp hholds] at hholder
  exact hq (Option.some.inj hholder)

/-- While a process has the lock, only the token it has presented is being spent. -/
theorem Inv.spending_iff (h : Inv s) (hp : (s.procs p).holds = true) (a : Place) :
    s.spending a ↔ ∃ server, (s.procs p).spent = some server ∧ a = .stored server := by
  constructor
  · rintro ⟨q, server, hspent, rfl⟩
    by_cases hq : q = p
    · exact ⟨server, hq ▸ hspent, rfl⟩
    · exact absurd (holds_of_spent hspent) (h.others_free hp hq)
  · rintro ⟨server, hspent, rfl⟩
    exact ⟨p, server, hspent, rfl⟩

/-- A process without the lock knows nothing of the file or the provider. -/
theorem Phase.Good.of_free {entries entries' : String → Option Entry} {v v' : Provider} {ph : Phase}
    (h : ph.Good entries v) (hfree : ¬ ph.holds = true) : ph.Good entries' v' := by
  cases ph with
  | idle => trivial
  | waiting task => exact h
  | locked task => exact absurd rfl hfree
  | asking g f e => exact absurd rfl hfree
  | asked g f e => exact absurd rfl hfree
  | refused g e reason => exact absurd rfl hfree
  | writing f change answer => exact absurd rfl hfree
  | done answer => exact absurd rfl hfree

/-- What is presented at a place that holds a token. -/
theorem tokenAt_stored {server : String} {e : Entry} (h : s.store.entries server = some e)
    (hne : e.refreshToken ≠ "") : s.tokenAt (.stored server) = some e.refreshToken := by
  simp [State.tokenAt, tokenOf, h, hne]

/-- What is where, after a process has moved. -/
theorem tokenAt_setPhase {ph : Phase} {a : Place} {r : String} {t : State}
    (h : t.tokenAt a = some r) (hprocs : t.procs = (s.setPhase p ph).procs)
    (hentries : t.store.entries = s.store.entries) :
    s.tokenAt a = some r ∨ a = .carried p ∧ ph.carried = some r := by
  cases a with
  | stored server =>
    left
    simp only [State.tokenAt, hentries] at h
    exact h
  | carried q =>
    simp only [State.tokenAt, hprocs] at h
    by_cases hq : q = p
    · right
      rw [hq, setPhase_same] at h
      exact ⟨by rw [hq], h⟩
    · left
      rw [setPhase_other hq] at h
      exact h

theorem spending_setPhase {ph : Phase} {a : Place} {t : State}
    (hprocs : t.procs = (s.setPhase p ph).procs)
    (hspent : ∀ server, (s.procs p).spent = some server → ph.spent = some server)
    (h : s.spending a) : t.spending a := by
  obtain ⟨q, server, hq, ha⟩ := h
  refine ⟨q, server, ?_, ha⟩
  rw [hprocs]
  exact forall_setPhase (P := fun q ph => (s.procs q).spent = some server → ph.spent = some server)
    (hspent server) (fun q _ => id) q hq

/-- A process goes on and leaves the entries and the provider as they are. It may drop what it
    carries. -/
theorem Inv.move (h : Inv s) {ph : Phase} (holder : Option Nat) (answers : List (Nat × Answer))
    (hgood : ph.Good s.store.entries s.provider)
    (hmutex : ∀ q, ((s.setPhase p ph).procs q).holds = true ↔ holder = some q)
    (hcarried : ∀ r, ph.carried = some r → (s.procs p).carried = some r)
    (hspent : ∀ server, (s.procs p).spent = some server → ph.spent = some server) :
    Inv { s.setPhase p ph with
      store := { s.store with holder := holder }
      answers := answers } where
  mutex := hmutex
  good := forall_setPhase (P := fun _ ph => ph.Good s.store.entries s.provider) hgood
    (fun q _ => h.good q)
  paired := h.paired
  tokens := by
    refine h.tokens.relocate Function.injective_id rfl rfl rfl ?_ ?_
    · intro a r ha
      rcases tokenAt_setPhase ha rfl rfl with ha | ⟨rfl, hr⟩
      · exact ha
      · exact hcarried r hr
    · intro a r _ ha
      exact spending_setPhase rfl hspent ha
  provider := h.provider

theorem Inv.mutex_setPhase (h : Inv s) {ph : Phase} (hholds : ph.holds = (s.procs p).holds) (q : Nat) :
    ((s.setPhase p ph).procs q).holds = true ↔ s.store.holder = some q := by
  refine forall_setPhase (P := fun q ph => ph.holds = true ↔ s.store.holder = some q) ?_
    (fun q _ => h.mutex q) q
  rw [hholds]
  exact h.mutex p

theorem Change.Good.issue {entries : String → Option Entry} {v : Provider} {f : File}
    {change : Change} {k : Nat} (r : String) (h : change.Good entries v f)
    (hk : ∀ i ∈ v.issued, i.1 ≠ k) : change.Good entries (v.issue k r) f := by
  cases change with
  | rotated server e next =>
    obtain ⟨hentry, hf, hsigned, hne, hrotated⟩ := h
    exact ⟨hentry, hf, hsigned, hne, hrotated.issue hk⟩
  | cleared server e =>
    obtain ⟨hentry, hf, hnewest, hrefused⟩ := h
    exact ⟨hentry, hf, hnewest.issue hk, hrefused⟩
  | signedIn server e => exact h
  | removed all norm => exact h

/-- A new sign-in takes nothing from what the others know. -/
theorem Phase.Good.issue {entries : String → Option Entry} {v : Provider} {ph : Phase} {k : Nat}
    (r : String) (h : ph.Good entries v) (hk : ∀ i ∈ v.issued, i.1 ≠ k) :
    ph.Good entries (v.issue k r) := by
  cases ph with
  | idle => trivial
  | waiting task => exact h
  | locked task => exact h
  | asking g f e => exact h
  | asked g f e =>
    obtain ⟨hf, hentry, hne, hnewest⟩ := h
    exact ⟨hf, hentry, hne, hnewest.issue hk⟩
  | refused g e reason =>
    obtain ⟨hentry, hnewest, hrefused⟩ := h
    exact ⟨hentry, hnewest.issue hk, hrefused⟩
  | writing f change answer => exact Change.Good.issue r h hk
  | done answer => trivial

/-- A sign-in has its first tokens. -/
theorem Inv.signIn (h : Inv s) {k : Nat} {server : String} {e : Entry} (hp : s.procs p = .idle)
    (hsigned : e.signedIn) (hfresh : s.provider.Fresh e.refreshToken)
    (hk : ∀ i ∈ s.provider.issued, i.1 ≠ k) :
    Inv { s.setPhase p (.waiting (.signIn server e)) with
      provider := s.provider.issue k e.refreshToken } where
  mutex := h.mutex_setPhase (by rw [hp]; rfl)
  good := forall_setPhase
    (P := fun _ ph => ph.Good s.store.entries (s.provider.issue k e.refreshToken))
    ⟨hsigned, hfresh.1⟩ (fun q _ => (h.good q).issue _ hk)
  paired := h.paired
  tokens := by
    refine h.tokens.issue (.carried p) hfresh (hfresh.not_presented h.provider) ?_ ?_ ?_
    · intro a r ha
      rcases tokenAt_setPhase ha rfl rfl with ha | ⟨ha, hr⟩
      · exact .inl ha
      · exact .inr ⟨ha, (Option.some.inj hr).symm⟩
    · intro a ha
      refine spending_setPhase rfl ?_ ha
      rw [hp]
      nofun
    · intro a r _ _ hnewest
      exact hnewest.issue hk
  provider := h.provider.issue hfresh k

/-- The stored token of a process that has the lock and has not asked yet was not presented, unless
    it was left there after a refusal. -/
theorem Inv.usable_of_asking (h : Inv s) {g : Get} {f : File} {e : Entry}
    (hp : s.procs p = .asking g f e) :
    s.tokenAt (.stored g.server) = some e.refreshToken ∧ s.provider.Newest e.refreshToken ∧
      (e.refreshToken ∈ s.provider.presented → e.refreshToken ∈ s.provider.uncleared) := by
  have hgood := h.good_at hp
  obtain ⟨-, hentry, hne⟩ := hgood
  have htoken := tokenAt_stored hentry hne
  refine ⟨htoken, h.tokens.usable _ _ htoken ?_⟩
  rw [h.spending_iff (by rw [hp]; rfl), hp]
  rintro ⟨server, hspent, -⟩
  cases hspent

/-- **A token is presented**, for the first time unless it was left after a refusal. -/
theorem Inv.present (h : Inv s) {g : Get} {f : File} {e : Entry} (hp : s.procs p = .asking g f e) :
    Inv { s.setPhase p (.asked g f e) with
      provider := { s.provider with presented := s.provider.presented ++ [e.refreshToken] } } := by
  obtain ⟨htoken, hnewest, hunused⟩ := h.usable_of_asking hp
  have hgood := h.good_at hp
  obtain ⟨hf, hentry, hne⟩ := hgood
  have hholds : (s.procs p).holds = true := by
    rw [hp]
    rfl
  constructor
  · exact h.mutex_setPhase hholds.symm
  · exact forall_setPhase (P := fun _ ph => ph.Good s.store.entries
        { s.provider with presented := s.provider.presented ++ [e.refreshToken] })
      ⟨hf, hentry, hne, hnewest⟩ (fun q hq => (h.good q).of_free (h.others_free hholds hq))
  · exact h.paired
  · refine h.tokens.present htoken ?_ ?_
    · intro a r ha
      rcases tokenAt_setPhase ha rfl rfl with ha | ⟨-, hr⟩
      · exact ha
      · cases hr
    · rintro a (ha | rfl)
      · refine spending_setPhase rfl ?_ ha
        rw [hp]
        nofun
      · exact ⟨p, g.server, by simp [Phase.spent], rfl⟩
  · constructor
    · exact h.provider.distinct
    · intro r hr
      rcases List.mem_append.mp hr with hr | hr
      · exact h.provider.known r hr
      · rw [List.mem_singleton.mp hr]
        exact h.tokens.issued _ _ htoken
    · intro r hr
      rw [List.count_append]
      by_cases hsame : r = e.refreshToken
      · have hnot : r ∉ s.provider.presented := fun hmem => hr (hsame ▸ hunused (hsame ▸ hmem))
        rw [List.count_eq_zero.mpr hnot, hsame, List.count_singleton_self]
      · rw [List.count_singleton, if_neg (by simpa using Ne.symm hsame)]
        exact h.provider.once r hr

/-- **The provider grants**: the process carries the newest token of the sign-in. -/
theorem Inv.grant (h : Inv s) {g : Get} {f : File} {e : Entry} {k : Nat} {idToken : String}
    {refreshToken : String} (expiry : Int) (answer : Option Answer) (hp : s.procs p = .asked g f e)
    (hk : s.provider.newest k = some e.refreshToken) (hid : idToken ≠ "")
    (hfresh : s.provider.Fresh refreshToken) :
    Inv { s.setPhase p (.writing (f.set g.server (redeemed e idToken expiry refreshToken))
        (.rotated g.server e (redeemed e idToken expiry refreshToken)) answer) with
      provider := s.provider.issue k refreshToken } := by
  have hgood := h.good_at hp
  obtain ⟨hf, hentry, hne, -⟩ := hgood
  have hholds : (s.procs p).holds = true := by
    rw [hp]
    rfl
  have hnext : (redeemed e idToken expiry refreshToken).refreshToken = refreshToken :=
    if_pos hfresh.1
  have hspending : s.spending (.stored g.server) := ⟨p, g.server, by rw [hp]; rfl, rfl⟩
  constructor
  · exact h.mutex_setPhase hholds.symm
  · refine forall_setPhase (P := fun _ ph => ph.Good s.store.entries
      (s.provider.issue k refreshToken)) ?_
      (fun q hq => (h.good q).of_free (h.others_free hholds hq))
    refine ⟨hentry, ?_, ?_, ?_, k, ?_, ?_⟩
    · rw [File.entry_set, hf]
    · simpa [Entry.signedIn, redeemed] using hid
    · rw [hnext]
      exact hfresh.1
    · exact List.mem_append_left _ (mem_of_newest hk)
    · rw [hnext, newest_issue_self]
  · exact h.paired
  · refine h.tokens.issue (.carried p) hfresh (hfresh.not_presented h.provider) ?_ ?_ ?_
    · intro a r ha
      rcases tokenAt_setPhase ha rfl rfl with ha | ⟨ha, hr⟩
      · exact .inl ha
      · exact .inr ⟨ha, (Option.some.inj hr).symm.trans hnext⟩
    · intro a ha
      refine spending_setPhase rfl ?_ ha
      rw [hp]
      exact fun server => id
    · -- the redeemed token is only where it is being spent
      intro a r ha hfree hnewest
      refine hnewest.redeem hk ?_
      rintro rfl
      have hplace := h.tokens.unique a _ _ ha (tokenAt_stored hentry hne)
      exact hfree (hplace ▸ hspending)
  · exact h.provider.issue hfresh k

/-- **The provider refuses** the stored token. -/
theorem Inv.refuse (h : Inv s) {g : Get} {f : File} {e : Entry} (reason : String)
    (hp : s.procs p = .asked g f e) :
    Inv { s.setPhase p (.refused g e reason) with
      provider := { s.provider with refused := s.provider.refused ++ [e.refreshToken] } } := by
  have hgood := h.good_at hp
  obtain ⟨-, hentry, -, hnewest⟩ := hgood
  have hholds : (s.procs p).holds = true := by
    rw [hp]
    rfl
  constructor
  · exact h.mutex_setPhase hholds.symm
  · exact forall_setPhase (P := fun _ ph => ph.Good s.store.entries
        { s.provider with refused := s.provider.refused ++ [e.refreshToken] })
      ⟨hentry, hnewest, List.mem_append_right _ List.mem_cons_self⟩
      (fun q hq => (h.good q).of_free (h.others_free hholds hq))
  · exact h.paired
  · refine h.tokens.relocate Function.injective_id rfl rfl rfl ?_ ?_
    · intro a r ha
      rcases tokenAt_setPhase ha rfl rfl with ha | ⟨-, hr⟩
      · exact ha
      · cases hr
    · intro a r _ ha
      refine spending_setPhase rfl ?_ ha
      rw [hp]
      exact fun server => id
  · exact ⟨h.provider.distinct, h.provider.known, h.provider.once⟩

/-- A process goes on with the lock or without it, as before. -/
theorem Inv.go (h : Inv s) (ph : Phase) {old : Phase} (hp : s.procs p = old)
    (hgood : ph.Good s.store.entries s.provider) (hholds : ph.holds = old.holds)
    (hcarried : ∀ r, ph.carried = some r → old.carried = some r)
    (hspent : ∀ server, old.spent = some server → ph.spent = some server)
    (answers : List (Nat × Answer)) :
    Inv { s.setPhase p ph with answers := answers } := by
  subst hp
  exact h.move s.store.holder answers hgood (h.mutex_setPhase hholds) hcarried hspent

/-- The lock is taken, by nobody else. -/
theorem Inv.acquire (h : Inv s) {task : Task} (hp : s.procs p = .waiting task)
    (hfree : s.store.holder = none) :
    Inv { s.setPhase p (.locked task) with store := { s.store with holder := some p } } := by
  have hgood := h.good_at hp
  refine h.move (some p) s.answers hgood ?_ ?_ ?_
  · apply forall_setPhase (P := fun q ph => ph.holds = true ↔ some p = some q)
    · exact iff_of_true rfl rfl
    · intro q hq
      apply iff_of_false
      · intro hholds
        rw [(h.mutex q).mp hholds] at hfree
        cases hfree
      · exact fun heq => hq (Option.some.inj heq).symm
  · rw [hp]
    exact fun r => id
  · rw [hp]
    nofun

theorem Inv.release (h : Inv s) {answer : Option Answer} (hp : s.procs p = .done answer)
    (answers : List (Nat × Answer)) :
    Inv { s.setPhase p .idle with
      store := { s.store with holder := none }
      answers := answers } := by
  have hholds : (s.procs p).holds = true := by
    rw [hp]
    rfl
  refine h.move none answers trivial ?_ nofun ?_
  · apply forall_setPhase (P := fun q ph => ph.holds = true ↔ none = some q)
    · exact iff_of_false nofun nofun
    · intro q hq
      exact iff_of_false (h.others_free hholds hq) nofun
  · rw [hp]
    nofun

/-- The callback under the lock. An entry with an ID token has a refresh token, so nothing is
    cleared before the provider is asked. -/
theorem Inv.good_underLock (h : Inv s) (now : GoTime) (g : Get) {f : File}
    (hf : f.entry = s.store.entries) :
    (afterDecision g f (underLock now g f)).Good s.store.entries s.provider ∧
    (afterDecision g f (underLock now g f)).holds = true ∧
    (afterDecision g f (underLock now g f)).carried = none := by
  cases hdecision : underLock now g f with
  | unchanged a => exact ⟨trivial, rfl, rfl⟩
  | clear e a =>
    obtain ⟨hentry, hsigned, hempty⟩ := underLock_clear hdecision
    rw [hf] at hentry
    exact absurd hempty ((h.paired _ _ hentry).mp hsigned)
  | refresh e =>
    obtain ⟨hentry, -, hne⟩ := underLock_refresh hdecision
    rw [hf] at hentry
    exact ⟨⟨hf, hentry, hne⟩, rfl, rfl⟩

/-- The file is read under the lock. -/
theorem Inv.read (h : Inv s) {task : Task} {f : File} (now : GoTime) (hp : s.procs p = .locked task)
    (hf : f.entry = s.store.entries) : Inv (s.setPhase p (afterRead now f task)) := by
  have hgood := h.good_at hp
  cases task with
  | get g =>
    obtain ⟨hnew, hholds, hcarried⟩ := h.good_underLock now g hf
    refine h.go _ hp hnew hholds ?_ nofun s.answers
    intro r hr
    rw [hcarried] at hr
    cases hr
  | signIn server e =>
    refine h.go (.writing (f.set server e) (.signedIn server e) none) hp ?_ rfl (fun r => id) nofun
      s.answers
    refine ⟨?_, hgood⟩
    rw [File.entry_set, hf]
  | logout all norm =>
    unfold afterRead
    simp only
    cases houtcome : Store.logout all norm f with
    | ok f' =>
      refine h.go (.writing f' (.removed all norm) none) hp ?_ rfl nofun nofun s.answers
      show f'.entry = _
      rw [logout_entry houtcome, hf]
    | unchanged => exact h.go (.done none) hp trivial rfl nofun nofun s.answers
    | error m => exact h.go (.done none) hp trivial rfl nofun nofun s.answers

/-- The file is read again: it still has the refused token. -/
theorem Inv.reread (h : Inv s) {g : Get} {e : Entry} {reason : String} {f : File}
    (hp : s.procs p = .refused g e reason) (hf : f.entry = s.store.entries) :
    Inv (s.setPhase p (afterDecision g f (afterRefusal g e.refreshToken reason f))) := by
  have hgood := h.good_at hp
  obtain ⟨hentry, hnewest, hrefused⟩ := hgood
  -- under the lock the comparison before the clear always succeeds
  rw [afterRefusal_of_stored reason (hf ▸ hentry)]
  refine h.go (afterDecision g f (.clear e (.notSignedIn reason))) hp ?_ rfl nofun
    (fun server => id) s.answers
  refine ⟨hentry, ?_, hnewest, hrefused⟩
  rw [File.entry_set, hf]

/-- The file cannot be read again: the refused token stays stored. -/
theorem Inv.rereadFail (h : Inv s) {g : Get} {e : Entry} {reason : String}
    (answer : Option Answer) (hp : s.procs p = .refused g e reason) :
    Inv { s.setPhase p (.done answer) with
      provider := { s.provider with
        uncleared := s.provider.uncleared ++ [e.refreshToken] } } := by
  have hgood := h.good_at hp
  obtain ⟨hentry, hnewest, -⟩ := hgood
  have hholds : (s.procs p).holds = true := by
    rw [hp]
    rfl
  constructor
  · exact h.mutex_setPhase hholds.symm
  · exact forall_setPhase (P := fun _ ph => ph.Good s.store.entries
        { s.provider with uncleared := s.provider.uncleared ++ [e.refreshToken] })
      trivial (fun q hq => (h.good q).of_free (h.others_free hholds hq))
  · exact h.paired
  · have hstored : ∀ r, s.tokenAt (.stored g.server) = some r → r = e.refreshToken := by
      intro r hr
      simp only [State.tokenAt, hentry, tokenOf, Option.bind_some] at hr
      split at hr
      · cases hr
      · exact (Option.some.inj hr).symm
    refine h.tokens.leave hstored hnewest ?_ ?_
    · intro a r ha
      rcases tokenAt_setPhase ha rfl rfl with ha | ⟨-, hr⟩
      · exact ha
      · cases hr
    · intro a ha
      rw [h.spending_iff hholds, hp] at ha
      obtain ⟨server, hspent, hplace⟩ := ha
      cases hspent
      exact hplace
  · refine ⟨h.provider.distinct, h.provider.known, ?_⟩
    intro r hr
    exact h.provider.once r (fun hmem => hr (List.mem_append_left _ hmem))

/-- The file is replaced. Each token in it was in its place before, or was carried there. -/
theorem Inv.commit (h : Inv s) {f : File} {change : Change} {answer : Option Answer}
    (hp : s.procs p = .writing f change answer) {π : Place → Place} (hπ : π.Injective)
    (hpaired : ∀ server e, f.entry server = some e → Paired e)
    (hstored : ∀ server r, tokenOf (f.entry server) = some r →
      s.tokenAt (π (.stored server)) = some r ∧ ¬ s.spending (π (.stored server)))
    (hothers : ∀ q, q ≠ p → π (.carried q) = .carried q) :
    Inv { s.setPhase p (.done answer) with store := { s.store with entries := f.entry } } := by
  have hholds : (s.procs p).holds = true := by
    rw [hp]
    rfl
  have hheld : ∀ a r,
      ({ s.setPhase p (.done answer) with
        store := { s.store with entries := f.entry } } : State).tokenAt a = some r →
      s.tokenAt (π a) = some r ∧ ¬ s.spending (π a) := by
    intro a r ha
    cases a with
    | stored server => exact hstored server r ha
    | carried q =>
      by_cases hq : q = p
      · -- the process that wrote carries nothing any more
        rw [hq] at ha
        simp only [State.tokenAt, setPhase_same] at ha
        cases ha
      · simp only [State.tokenAt, setPhase_other hq] at ha
        rw [hothers q hq]
        refine ⟨ha, ?_⟩
        rintro ⟨q', server, -, hplace⟩
        cases hplace
  constructor
  · exact h.mutex_setPhase hholds.symm
  · exact forall_setPhase (P := fun _ ph => ph.Good f.entry s.provider) trivial
      (fun q hq => (h.good q).of_free (h.others_free hholds hq))
  · exact hpaired
  · refine h.tokens.relocate hπ rfl rfl rfl (fun a r ha => (hheld a r ha).1) ?_
    intro a r ha hspending
    exact absurd hspending (hheld a r ha).2
  · exact h.provider

theorem Inv.spending_writing (h : Inv s) {f : File} {change : Change} {answer : Option Answer}
    (hp : s.procs p = .writing f change answer) (server : String) :
    s.spending (.stored server) ↔ change.spent = some server := by
  rw [h.spending_iff (by rw [hp]; rfl), hp]
  constructor
  · rintro ⟨server', hspent, hplace⟩
    cases hplace
    exact hspent
  · intro hspent
    exact ⟨server, hspent, rfl⟩

/-- The token that the process carries is stored, in the place of the one that was presented, if
    one was. -/
theorem Inv.commit_carried (h : Inv s) {f : File} {change : Change} {answer : Option Answer}
    (hp : s.procs p = .writing f change answer) {server : String} {next : Entry}
    (hf : f.entry = Function.update s.store.entries server (some next))
    (hcarried : change.carried = some next.refreshToken)
    (hspent : ∀ server', change.spent = some server' → server' = server)
    (hsigned : next.signedIn) (hne : next.refreshToken ≠ "") :
    Inv { s.setPhase p (.done answer) with store := { s.store with entries := f.entry } } := by
  -- what was stored and what was carried change places, and what was stored is then dropped
  refine h.commit hp (Equiv.swap (Place.stored server) (.carried p)).injective ?_ ?_ ?_
  · intro server' e he
    rw [hf] at he
    by_cases hsame : server' = server
    · rw [hsame, Function.update_self] at he
      cases he
      exact iff_of_true hsigned hne
    · rw [Function.update_of_ne hsame] at he
      exact h.paired server' e he
  · intro server' r hr
    rw [hf] at hr
    by_cases hsame : server' = server
    · rw [hsame, Equiv.swap_apply_left]
      rw [hsame, Function.update_self] at hr
      constructor
      · have hr : next.refreshToken = r := by simpa [tokenOf, hne] using hr
        simp [State.tokenAt, hp, Phase.carried, hcarried, hr]
      · rintro ⟨q, server₀, -, hplace⟩
        cases hplace
    · have hplace : Place.stored server' ≠ .stored server := fun heq => hsame (Place.stored.inj heq)
      rw [Equiv.swap_apply_of_ne_of_ne hplace Place.noConfusion]
      rw [Function.update_of_ne hsame] at hr
      refine ⟨hr, ?_⟩
      rw [h.spending_writing hp]
      exact fun h' => hsame (hspent server' h')
  · intro q hq
    exact Equiv.swap_apply_of_ne_of_ne Place.noConfusion (fun heq => hq (Place.carried.inj heq))

/-- Tokens are dropped, among them the one that was presented, if one was. -/
theorem Inv.commit_dropped (h : Inv s) {f : File} {change : Change} {answer : Option Answer}
    (hp : s.procs p = .writing f change answer)
    (hf : ∀ server, f.entry server = s.store.entries server ∧ change.spent ≠ some server ∨
      f.entry server = none ∨ ∃ e : Entry, f.entry server = some e.clearTokens) :
    Inv { s.setPhase p (.done answer) with store := { s.store with entries := f.entry } } := by
  refine h.commit hp Function.injective_id ?_ ?_ (fun q _ => rfl)
  · intro server e he
    rcases hf server with ⟨hsame, -⟩ | hnone | ⟨e', hcleared⟩
    · rw [hsame] at he
      exact h.paired server e he
    · rw [hnone] at he
      cases he
    · rw [hcleared] at he
      cases he
      simp [Paired, Entry.clearTokens, Entry.signedIn]
  · intro server r hr
    rcases hf server with ⟨hsame, hspent⟩ | hnone | ⟨e', hcleared⟩
    · rw [hsame] at hr
      refine ⟨hr, ?_⟩
      show ¬ s.spending (.stored server)
      rw [h.spending_writing hp]
      exact hspent
    · rw [hnone] at hr
      cases hr
    · rw [hcleared] at hr
      simp [tokenOf, Entry.clearTokens] at hr

/-- **The write.** -/
theorem Inv.write (h : Inv s) {f : File} {change : Change} {answer : Option Answer}
    (hp : s.procs p = .writing f change answer) :
    Inv { s.setPhase p (.done answer) with store := { s.store with entries := f.entry } } := by
  have hgood := h.good_at hp
  cases change with
  | rotated server e next =>
    obtain ⟨-, hf, hsigned, hne, -⟩ := hgood
    refine h.commit_carried hp hf rfl ?_ hsigned hne
    intro server' hspent
    exact (Option.some.inj hspent).symm
  | signedIn server e =>
    obtain ⟨hf, hsigned, hne⟩ := hgood
    exact h.commit_carried hp hf rfl nofun hsigned hne
  | cleared server e =>
    obtain ⟨-, hf, -, -⟩ := hgood
    apply h.commit_dropped hp
    intro server'
    rw [hf]
    by_cases hsame : server' = server
    · right; right
      exact ⟨e, by rw [hsame, Function.update_self]⟩
    · left
      refine ⟨Function.update_of_ne hsame _ _, ?_⟩
      exact fun hspent => hsame (Option.some.inj hspent).symm
  | removed all norm =>
    have hf : f.entry = fun server => if all || server = norm then none else s.store.entries server :=
      hgood
    apply h.commit_dropped hp
    intro server
    rw [hf]
    by_cases hmatch : (all || server = norm) = true
    · right; left
      exact if_pos hmatch
    · left
      exact ⟨if_neg hmatch, nofun⟩

/-- **One step** keeps the invariant. -/
theorem Inv.step {checkSecretURL : String → Option String} (h : Inv s) {l : Label} {s' : State}
    (hstep : (system checkSecretURL).step s l s') : Inv s' := by
  cases l with
  | load p g now f =>
    obtain ⟨hp, -, rfl⟩ := hstep
    cases fastPath checkSecretURL now g f with
    | some a => exact h.go .idle hp trivial rfl nofun nofun _
    | none => exact h.go (.waiting (.get g)) hp trivial rfl nofun nofun s.answers
  | signIn p k server e =>
    obtain ⟨hp, hsigned, hfresh, hk, rfl⟩ := hstep
    exact h.signIn hp hsigned hfresh hk
  | logout p all norm =>
    obtain ⟨hp, rfl⟩ := hstep
    exact h.go (.waiting (.logout all norm)) hp trivial rfl nofun nofun s.answers
  | acquire p =>
    obtain ⟨task, hp, hfree, rfl⟩ := hstep
    exact h.acquire hp hfree
  | read p now f =>
    obtain ⟨task, hp, hf, rfl⟩ := hstep
    exact h.read now hp hf
  | fail p message =>
    obtain ⟨task, hp, rfl⟩ | ⟨task, hp, rfl⟩ | ⟨g, f, e, hp, rfl⟩ := hstep
    · exact h.go .idle hp trivial rfl nofun nofun _
    · exact h.go (.done _) hp trivial rfl nofun nofun s.answers
    · exact h.go (.done _) hp trivial rfl nofun nofun s.answers
  | present p =>
    obtain ⟨g, f, e, hp, rfl⟩ := hstep
    exact h.present hp
  | grant p k idToken expiry refreshToken =>
    obtain ⟨g, f, e, hp, hk, hid, hfresh, rfl⟩ := hstep
    exact h.grant expiry _ hp hk hid hfresh
  | refuse p reason =>
    obtain ⟨g, f, e, hp, rfl⟩ := hstep
    exact h.refuse reason hp
  | reread p f =>
    obtain ⟨g, e, reason, hp, hf, rfl⟩ := hstep
    exact h.reread hp hf
  | rereadFail p message =>
    obtain ⟨g, e, reason, hp, rfl⟩ := hstep
    exact h.rereadFail _ hp
  | write p =>
    obtain ⟨f, change, answer, hp, rfl⟩ := hstep
    exact h.write hp
  | release p =>
    obtain ⟨answer, hp, rfl⟩ := hstep
    exact h.release hp _

theorem inv_of_reachable {checkSecretURL : String → Option String}
    (h : Reachable (system checkSecretURL) s) : Inv s := by
  refine System.invariant Inv ?_ (fun s l s' h hstep => h.step hstep) s h
  rintro s ⟨hstore, hprovider, hprocs, -⟩
  have hnone : ∀ a, s.tokenAt a = none := by
    intro a
    cases a with
    | stored server => simp [State.tokenAt, tokenOf, hstore]
    | carried p => simp [State.tokenAt, hprocs p, Phase.carried]
  constructor
  · intro p
    rw [hprocs p, hstore]
    exact iff_of_false nofun nofun
  · intro p
    rw [hprocs p]
    trivial
  · rw [hstore]
    nofun
  · constructor
    · intro a b r ha
      rw [hnone a] at ha
      cases ha
    · intro a r ha
      rw [hnone a] at ha
      cases ha
    · intro a r ha
      rw [hnone a] at ha
      cases ha
  · rw [hprovider]
    exact ⟨List.nodup_nil, nofun, fun _ _ => Nat.zero_le 1⟩

end steps

/-! ### Safety -/

section safety
variable {checkSecretURL : String → Option String} {s s' : State}

/-- What a step does to the store. -/
theorem Inv.store_step (h : Inv s) {l : Label} (hstep : (system checkSecretURL).step s l s') :
    s'.store = s.store ∨
    (∃ p, s.store.holder = none ∧ s'.store = { s.store with holder := some p }) ∨
    (∃ p, s.store.holder = some p ∧ s'.store = { s.store with holder := none }) ∨
    ∃ p f change answer, s.store.holder = some p ∧ s.procs p = .writing f change answer ∧
      s'.store = { s.store with entries := f.entry } := by
  cases l with
  | load p g now f =>
    obtain ⟨-, -, rfl⟩ := hstep
    left
    cases fastPath checkSecretURL now g f with
    | some a => rfl
    | none => rfl
  | signIn p k server e =>
    obtain ⟨-, -, -, -, rfl⟩ := hstep
    exact .inl rfl
  | logout p all norm =>
    obtain ⟨-, rfl⟩ := hstep
    exact .inl rfl
  | acquire p =>
    obtain ⟨task, -, hfree, rfl⟩ := hstep
    exact .inr (.inl ⟨p, hfree, rfl⟩)
  | read p now f =>
    obtain ⟨task, -, -, rfl⟩ := hstep
    exact .inl rfl
  | fail p message =>
    obtain ⟨task, -, rfl⟩ | ⟨task, -, rfl⟩ | ⟨g, f, e, -, rfl⟩ := hstep
    · exact .inl rfl
    · exact .inl rfl
    · exact .inl rfl
  | present p =>
    obtain ⟨g, f, e, -, rfl⟩ := hstep
    exact .inl rfl
  | grant p k idToken expiry refreshToken =>
    obtain ⟨g, f, e, -, -, -, -, rfl⟩ := hstep
    exact .inl rfl
  | refuse p reason =>
    obtain ⟨g, f, e, -, rfl⟩ := hstep
    exact .inl rfl
  | reread p f =>
    obtain ⟨g, e, reason, -, -, rfl⟩ := hstep
    exact .inl rfl
  | rereadFail p message =>
    obtain ⟨g, e, reason, -, rfl⟩ := hstep
    exact .inl rfl
  | write p =>
    obtain ⟨f, change, answer, hp, rfl⟩ := hstep
    have hholder := (h.mutex p).mp (by rw [hp]; rfl)
    exact .inr (.inr (.inr ⟨p, f, change, answer, hholder, hp, rfl⟩))
  | release p =>
    obtain ⟨answer, hp, rfl⟩ := hstep
    have hholder := (h.mutex p).mp (by rw [hp]; rfl)
    exact .inr (.inr (.inl ⟨p, hholder, rfl⟩))

/-- Only a write changes the entries. -/
theorem Inv.entries_step (h : Inv s) {l : Label} (hstep : (system checkSecretURL).step s l s') :
    s'.store.entries = s.store.entries ∨
      ∃ p f change answer, s.procs p = .writing f change answer ∧ s'.store.entries = f.entry := by
  obtain hsame | ⟨p, -, hs'⟩ | ⟨p, -, hs'⟩ | ⟨p, f, change, answer, -, hp, hs'⟩ := h.store_step hstep
  · exact .inl (by rw [hsame])
  · exact .inl (by rw [hs'])
  · exact .inl (by rw [hs'])
  · exact .inr ⟨p, f, change, answer, hp, by rw [hs']⟩

/-- The store is used as the atomic one: only the holder of the lock writes. -/
theorem store_of_reachable (h : Reachable (system checkSecretURL) s) :
    Reachable Store.atomic s.store := by
  refine h.simulate State.store ?_ ?_
  · intro s hs
    exact hs.1
  · intro s l s' hs hstep
    obtain hsame | ⟨p, hfree, hs'⟩ | ⟨p, hholder, hs'⟩ | ⟨p, f, change, answer, hholder, -, hs'⟩ :=
      (inv_of_reachable hs).store_step hstep
    · exact .inr hsame
    · exact .inl ⟨.acquire p, hfree, hs'⟩
    · exact .inl ⟨.release p, hholder, hs'⟩
    · exact .inl ⟨.write p f.entry, hholder, hs'⟩

/-- A stored token is the newest one of its sign-in, or is about to be replaced by it. -/
theorem Inv.newest_of_stored (h : Inv s) {server : String} {e : Entry}
    (hentry : s.store.entries server = some e) (hne : e.refreshToken ≠ "") :
    s.provider.Newest e.refreshToken ∨
      ∃ p f next answer, s.store.holder = some p ∧
        s.procs p = .writing f (.rotated server e next) answer ∧ f.entry server = some next ∧
        s.provider.Rotated e.refreshToken next.refreshToken := by
  by_cases hspending : s.spending (.stored server)
  · -- by where the process that presented it is now
    obtain ⟨p, server', hspent, hplace⟩ := hspending
    cases hplace
    have hholder := (h.mutex p).mp (holds_of_spent hspent)
    have hgood := h.good p
    cases hp : s.procs p with
    | asked g f e' =>
      rw [hp] at hspent hgood
      cases hspent
      obtain ⟨-, hentry', -, hnewest⟩ := hgood
      rw [hentry] at hentry'
      cases hentry'
      exact .inl hnewest
    | refused g e' reason =>
      rw [hp] at hspent hgood
      cases hspent
      obtain ⟨hentry', hnewest, -⟩ := hgood
      rw [hentry] at hentry'
      cases hentry'
      exact .inl hnewest
    | writing f change answer =>
      rw [hp] at hspent hgood
      cases change with
      | rotated server' e' next =>
        cases hspent
        obtain ⟨hentry', hf, -, -, hrotated⟩ := hgood
        rw [hentry] at hentry'
        cases hentry'
        exact .inr ⟨p, f, next, answer, hholder, hp, by rw [hf, Function.update_self], hrotated⟩
      | cleared server' e' =>
        cases hspent
        obtain ⟨hentry', -, hnewest, -⟩ := hgood
        rw [hentry] at hentry'
        cases hentry'
        exact .inl hnewest
      | signedIn server' e' => cases hspent
      | removed all norm => cases hspent
    | idle => rw [hp] at hspent; cases hspent
    | waiting task => rw [hp] at hspent; cases hspent
    | locked task => rw [hp] at hspent; cases hspent
    | asking g f e' => rw [hp] at hspent; cases hspent
    | done answer => rw [hp] at hspent; cases hspent
  · exact .inl (h.tokens.usable _ _ (tokenAt_stored hentry hne) hspending).1

/-- The provider refuses the token that is stored, and no newer one was issued. -/
theorem Inv.refused_stored (h : Inv s) {p : Nat} {reason : String}
    (hstep : (system checkSecretURL).step s (.refuse p reason) s') :
    ∃ server e, s.store.entries server = some e ∧ s.provider.Newest e.refreshToken ∧
      s'.provider.refused = s.provider.refused ++ [e.refreshToken] := by
  obtain ⟨g, f, e, hp, rfl⟩ := hstep
  have hgood := h.good_at hp
  obtain ⟨-, hentry, -, hnewest⟩ := hgood
  exact ⟨g.server, e, hentry, hnewest, rfl⟩

/-- An entry loses its tokens only when the provider refused the one that is stored. -/
theorem Inv.cleared_refused (h : Inv s) {l : Label} {server : String} {e e' : Entry}
    (hstep : (system checkSecretURL).step s l s') (hentry : s.store.entries server = some e)
    (hsigned : e.signedIn) (hentry' : s'.store.entries server = some e') (hcleared : ¬ e'.signedIn) :
    e' = e.clearTokens ∧ e.refreshToken ∈ s.provider.refused ∧
      s.provider.Newest e.refreshToken := by
  -- an entry that stays as it is keeps its ID token
  have hchanged : s.store.entries server ≠ some e' := by
    intro hsame
    rw [hentry] at hsame
    cases hsame
    exact hcleared hsigned
  rcases h.entries_step hstep with hsame | ⟨p, f, change, answer, hp, hf'⟩
  · rw [hsame] at hentry'
    exact absurd hentry' hchanged
  · have hgood := h.good_at hp
    rw [hf'] at hentry'
    cases change with
    | rotated server₀ e₀ next =>
      obtain ⟨-, hf, hnext, -, -⟩ := hgood
      rw [hf] at hentry'
      by_cases hserver : server = server₀
      · rw [hserver, Function.update_self] at hentry'
        cases hentry'
        exact absurd hnext hcleared
      · rw [Function.update_of_ne hserver] at hentry'
        exact absurd hentry' hchanged
    | cleared server₀ e₀ =>
      obtain ⟨hentry₀, hf, hnewest, hrefused⟩ := hgood
      rw [hf] at hentry'
      by_cases hserver : server = server₀
      · -- the entry that is cleared is the stored one
        rw [hserver] at hentry hentry'
        rw [hentry] at hentry₀
        cases hentry₀
        rw [Function.update_self] at hentry'
        exact ⟨(Option.some.inj hentry').symm, hrefused, hnewest⟩
      · rw [Function.update_of_ne hserver] at hentry'
        exact absurd hentry' hchanged
    | signedIn server₀ e₀ =>
      obtain ⟨hf, hnew, -⟩ := hgood
      rw [hf] at hentry'
      by_cases hserver : server = server₀
      · rw [hserver, Function.update_self] at hentry'
        cases hentry'
        exact absurd hnew hcleared
      · rw [Function.update_of_ne hserver] at hentry'
        exact absurd hentry' hchanged
    | removed all norm =>
      have hf : f.entry = fun server =>
          if all || server = norm then none else s.store.entries server := hgood
      rw [hf] at hentry'
      simp only at hentry'
      split_ifs at hentry'
      exact absurd hentry' hchanged

end safety

/-- **Refresh-token rotation is safe across processes.** -/
theorem rotation_safe (checkSecretURL : String → Option String) (s : State)
    (h : Reachable (system checkSecretURL) s) :
    -- no refresh token was presented twice, when the file could be read again after every refusal;
    -- when it could not, no other than those that were left in it
    (s.provider.uncleared = [] → s.provider.presented.Nodup) ∧
    (∀ r, r ∉ s.provider.uncleared → s.provider.presented.count r ≤ 1) ∧
    -- a token was issued for one sign-in, and a stored one is the newest of its sign-in; or the
    -- process that has the lock has got the newest one for it and is about to write it
    (s.provider.issued.map Prod.snd).Nodup ∧
    (∀ server e, s.store.entries server = some e → e.refreshToken ≠ "" →
      s.provider.Newest e.refreshToken ∨
      ∃ p f next answer, s.store.holder = some p ∧
        s.procs p = .writing f (.rotated server e next) answer ∧ f.entry server = some next ∧
        s.provider.Rotated e.refreshToken next.refreshToken) ∧
    -- what the provider refuses is stored, and has not been redeemed by another process
    (∀ p reason s', (system checkSecretURL).step s (.refuse p reason) s' →
      ∃ server e, s.store.entries server = some e ∧ s.provider.Newest e.refreshToken ∧
        s'.provider.refused = s.provider.refused ++ [e.refreshToken]) ∧
    -- an entry loses its tokens only when the provider refused the one that is stored
    (∀ l s' server e e', (system checkSecretURL).step s l s' → s.store.entries server = some e →
      e.signedIn → s'.store.entries server = some e' → ¬ e'.signedIn →
      e' = e.clearTokens ∧ e.refreshToken ∈ s.provider.refused ∧
        s.provider.Newest e.refreshToken) := by
  have hinv := inv_of_reachable h
  refine ⟨?_, hinv.provider.once, hinv.provider.distinct, ?_, ?_, ?_⟩
  · intro hnone
    rw [List.nodup_iff_count_le_one]
    exact fun r => hinv.provider.once r (hnone ▸ List.not_mem_nil)
  · intro server e hentry hne
    exact hinv.newest_of_stored hentry hne
  · intro p reason s' hstep
    exact hinv.refused_stored hstep
  · intro l s' server e e' hstep hentry hsigned hentry' hcleared
    exact hinv.cleared_refused hstep hentry hsigned hentry' hcleared

/-- A process has signed in, and another one has had its token rejected and asks for a new one. -/
theorem exists_asked :
    ∃ s, Reachable (system (fun _ => none)) s ∧ s.store.holder = some 1 ∧
      s.store.entries = (File.empty.set "http://a" sampleEntry).entry ∧
      s.provider = ⟨[(0, "refresh")], ["refresh"], [], []⟩ ∧
      s.procs 1 = .asked ⟨"http://a", .refresh "id"⟩ (File.empty.set "http://a" sampleEntry)
        sampleEntry := by
  let g : Get := ⟨"http://a", .refresh "id"⟩
  let f : File := File.empty.set "http://a" sampleEntry
  have hinit : Reachable (system (fun _ => none))
      ⟨⟨fun _ => none, none⟩, ⟨[], [], [], []⟩, fun _ => .idle, []⟩ :=
    .init ⟨rfl, rfl, fun _ => rfl, rfl⟩
  have hsignIn := hinit.step (l := Label.signIn 0 0 "http://a" sampleEntry)
    ⟨rfl, by decide, ⟨by decide, nofun⟩, nofun, rfl⟩
  -- process 0 stores its sign-in
  have hstored := (((hsignIn.step (l := Label.acquire 0) ⟨_, rfl, rfl, rfl⟩).step
    (l := Label.read 0 ⟨0, none⟩ File.empty) ⟨_, rfl, rfl, rfl⟩).step
    (l := Label.write 0) ⟨_, _, _, rfl, rfl⟩).step (l := Label.release 0) ⟨_, rfl, rfl⟩
  -- the server has answered 401 to process 1
  have hasking := ((hstored.step (l := Label.load 1 g ⟨0, none⟩ f) ⟨rfl, rfl, rfl⟩).step
    (l := Label.acquire 1) ⟨_, rfl, rfl, rfl⟩).step (l := Label.read 1 ⟨0, none⟩ f) ⟨_, rfl, rfl, rfl⟩
  exact ⟨_, hasking.step (l := Label.present 1) ⟨_, _, _, rfl, rfl⟩, rfl, rfl, rfl, rfl⟩

/-- Its token is redeemed. -/
theorem exists_granted :
    ∃ s, Reachable (system (fun _ => none)) s ∧ s.store.holder = some 1 ∧
      s.store.entries "http://a" = some sampleEntry ∧
      s.provider = ⟨[(0, "refresh"), (0, "next")], ["refresh"], [], []⟩ ∧
      ∃ f answer, s.procs 1 = .writing f (.rotated "http://a" sampleEntry
          (redeemed sampleEntry "id2" 1800000000000000000 "next")) answer ∧
        f.entry "http://a" = some (redeemed sampleEntry "id2" 1800000000000000000 "next") := by
  obtain ⟨s, h, hholder, hentries, hprovider, hp⟩ := exists_asked
  have hnewest : s.provider.newest 0 = some sampleEntry.refreshToken := by
    rw [hprovider]
    rfl
  have hfresh : s.provider.Fresh "next" := by
    rw [hprovider]
    exact ⟨by decide, by decide⟩
  refine ⟨_, h.step (l := Label.grant 1 0 "id2" 1800000000000000000 "next")
    ⟨_, _, _, hp, hnewest, by decide, hfresh, rfl⟩, hholder, ?_, ?_, _, _,
    setPhase_same (s := s) (p := 1) _, rfl⟩
  · show s.store.entries "http://a" = _
    rw [hentries]
    rfl
  · show s.provider.issue 0 "next" = _
    rw [hprovider]
    rfl

/-- Between the answer of the provider and the write, the stored token is the old one; and when the
    file cannot be read again after a refusal, the refused token is presented a second time. -/
theorem stored_token_redeemed_or_repeated :
    (¬ ∀ s, Reachable (system (fun _ => none)) s → ∀ server e, s.store.entries server = some e →
      e.refreshToken ≠ "" → s.provider.Newest e.refreshToken) ∧
    ∃ s, Reachable (system (fun _ => none)) s ∧ s.provider.presented = ["refresh", "refresh"] := by
  constructor
  · intro hall
    obtain ⟨s, h, -, hentry, hprovider, -⟩ := exists_granted
    obtain ⟨k, hk⟩ := hall s h _ _ hentry (by decide)
    rw [hprovider] at hk
    by_cases hzero : 0 = k
    · simp [Provider.newest, hzero, sampleEntry] at hk
    · simp [Provider.newest, hzero] at hk
  · obtain ⟨s, h, -, hentries, hprovider, hp⟩ := exists_asked
    let g : Get := ⟨"http://a", .refresh "id"⟩
    let f : File := File.empty.set "http://a" sampleEntry
    have hleft := ((h.step (l := Label.refuse 1 "revoked") ⟨_, _, _, hp, rfl⟩).step
      (l := Label.rereadFail 1 "permission denied") ⟨_, _, _, rfl, rfl⟩).step
      (l := Label.release 1) ⟨_, rfl, rfl⟩
    -- the next call finds the refused token
    have hasking := ((hleft.step (l := Label.load 1 g ⟨0, none⟩ f) ⟨rfl, hentries.symm, rfl⟩).step
      (l := Label.acquire 1) ⟨_, rfl, rfl, rfl⟩).step
      (l := Label.read 1 ⟨0, none⟩ f) ⟨_, rfl, hentries.symm, rfl⟩
    refine ⟨_, hasking.step (l := Label.present 1) ⟨_, _, _, rfl, rfl⟩, ?_⟩
    show s.provider.presented ++ ["refresh"] = _
    rw [hprovider]
    rfl

/-- Once it has written and released the lock, the stored token is the newest one. -/
theorem rotation_safe_rejected_token :
    ∃ s, Reachable (system (fun _ => none)) s ∧ s.provider.presented = ["refresh"] ∧
      s.store.entries "http://a" =
        some (redeemed sampleEntry "id2" 1800000000000000000 "next") ∧
      s.provider.Newest "next" := by
  obtain ⟨s, h, -, -, hprovider, f, answer, hp, hf⟩ := exists_granted
  have hwritten := h.step (l := Label.write 1) ⟨f, _, answer, hp, rfl⟩
  have hreleased := hwritten.step (l := Label.release 1)
    ⟨answer, setPhase_same (s := s) (p := 1) (.done answer), rfl⟩
  have hpresented : s.provider.presented = ["refresh"] := by rw [hprovider]
  refine ⟨_, hreleased, hpresented, hf, ?_⟩
  obtain ⟨-, -, -, hnewest, -⟩ := rotation_safe _ _ hreleased
  rcases hnewest _ _ hf (by decide) with hn | ⟨p, f', next, answer', hholder, -⟩
  · exact hn
  · cases hholder

end TopologyVisualizer.Cli.Rotation
