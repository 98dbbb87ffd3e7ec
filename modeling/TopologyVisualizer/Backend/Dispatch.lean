import Mathlib.Data.List.Pairwise
import TopologyVisualizer.Framework.Cooldown
import TopologyVisualizer.Framework.LTS
import TopologyVisualizer.Framework.Text
import TopologyVisualizer.Backend.Alerts

/-! # The Alert Dispatcher

    `app/alerts/dispatch.py`, up to the delivery over the network, and
    `canary_contact` of `app/alerts/messages.py`. All of it runs on the event
    loop, so a call is one step.

    `notify_canary` stamps the cooldown table before it submits, and `submit`
    drops the message when the queue is full. So a dropped message cools its
    key down as one that was accepted does: the calls it silences are not
    covered by any alert (`canary_covered_iff`). The table is cleared of what
    has cooled down when it is at its limit, but is then stamped whatever is
    left (`canary_table_bounded_iff`).

    A reading of `time.monotonic()` is a value of any ordered type, and the
    subtraction is that of a `Cooldown.Clock`.
-/

namespace TopologyVisualizer.Backend.Dispatch

open Cooldown Anomalies LTS

/-! ### Messages -/

/-- `Message`. -/
structure Message where
  severity : AnomalySeverity
  title : String
  lines : List String
  footer : String
  link : String
  deriving DecidableEq

/-- The arguments of `notify_canary`. -/
structure Contact where
  source : String
  canary : String
  destinationPort : Nat
  attempts : Nat
  «at» : Datetime

/-- The key of the cooldown table. -/
abbrev Key := String × String × Nat

def Contact.key (c : Contact) : Key := (c.source, c.canary, c.destinationPort)

/-- `QUEUE_CAPACITY`. -/
def queueCapacity : Nat := 100

/-- `COOLDOWN_TABLE_LIMIT`. -/
def cooldownTableLimit : Nat := 1024

/-- How a dispatcher is set up. `strftime` writes an instant as in `_footer`. -/
structure Config (τ δ : Type) [LinearOrder τ] [LinearOrder δ] where
  channels : List String
  clusterId : String
  cooldown : δ
  link : String
  strftime : Datetime → String
  clock : Clock τ δ

section dispatcher
variable {τ δ : Type} [LinearOrder τ] [LinearOrder δ] (cfg : Config τ δ)

/-- `_footer`. -/
def footer (clusterId : String) («at» : Datetime) : String :=
  "Cluster " ++ clusterId ++ " · " ++ cfg.strftime «at» ++ " UTC"

/-- `canary_contact`. -/
def canaryContact (c : Contact) : Message where
  severity := .critical
  title := "Decoy touched: " ++ c.canary
  lines :=
    [c.source ++ " connected to it on TCP port " ++ toString c.destinationPort ++ " (" ++
      toString c.attempts ++ " " ++ (if c.attempts = 1 then "attempt" else "attempts") ++ ").",
    "Nothing legitimate calls this workload, so any connection to it is worth a look."]
  footer := footer cfg cfg.clusterId c.«at»
  link := cfg.link

/-! ### The dispatcher -/

/-- What becomes of a call of `notify_canary`. -/
inductive Outcome where
  /-- It returned without submitting. -/
  | suppressed
  /-- Its message is on the queue. -/
  | accepted
  /-- Its message was dropped, the queue being full. -/
  | dropped
  deriving DecidableEq

/-- A call of `notify_canary`, when it was made and what became of it. -/
structure Call (τ : Type) where
  key : Key
  now : τ
  outcome : Outcome
  deriving DecidableEq

/-- `Dispatcher`: the queue, the cooldown table and the metrics, with the history of the calls. -/
structure Dispatcher (τ : Type) where
  queue : List Message := []
  canarySent : Dict Key τ := .empty
  recorded : List (String × String) := []
  calls : List (Call τ) := []

/-- `submit`: whether the queue accepts, and the dispatcher afterwards. -/
def submit (d : Dispatcher τ) (message : Message) : Bool × Dispatcher τ :=
  if d.queue.length < queueCapacity then (true, { d with queue := d.queue ++ [message] })
  else (false, { d with
    recorded := d.recorded ++ cfg.channels.map (fun channel => (channel, "dropped")) })

/-- `notify_canary`. -/
def notifyCanary (d : Dispatcher τ) (c : Contact) (now : τ) : Dispatcher τ :=
  let last := d.canarySent.get? c.key
  if last.any (fun last => cfg.clock.elapsed now last < cfg.cooldown) then
    { d with calls := d.calls ++ [⟨c.key, now, .suppressed⟩] }
  else
    let sent := if d.canarySent.size ≥ cooldownTableLimit then
        d.canarySent.filter (fun _ t => cfg.clock.elapsed now t < cfg.cooldown)
      else d.canarySent
    let stamped := { d with canarySent := sent.set c.key now }
    let (accepted, d') := submit cfg stamped (canaryContact cfg c)
    { d' with calls := d.calls ++ [⟨c.key, now, if accepted then .accepted else .dropped⟩] }

/-- What happens to a dispatcher. -/
inductive Event (τ : Type) where
  /-- A call of `notify_canary`, with the reading of the clock. -/
  | notify (c : Contact) (now : τ)
  /-- Any other message is submitted. -/
  | submit (message : Message)
  /-- The task of `run` takes a message off the queue. -/
  | consume

def Event.now? : Event τ → Option τ
  | .notify _ now => some now
  | _ => none

/-- An event; on an empty queue the task waits. -/
def step (d : Dispatcher τ) : Event τ → Dispatcher τ
  | .notify c now => notifyCanary cfg d c now
  | .submit message => (submit cfg d message).2
  | .consume => { d with queue := d.queue.tail }

/-- A dispatcher after a sequence of events. -/
def run (events : List (Event τ)) : Dispatcher τ := events.foldl (step cfg) {}

/-! ### One step -/

/-- What was submitted of some calls, with the times. -/
def passed (calls : List (Call τ)) : List (Key × τ) :=
  (calls.filter (fun e => e.outcome ≠ .suppressed)).map (fun e => (e.key, e.now))

omit [LinearOrder τ] in
theorem mem_passed {calls : List (Call τ)} {key : Key} {t : τ} :
    (key, t) ∈ passed calls ↔ ∃ e ∈ calls, e.outcome ≠ .suppressed ∧ e.key = key ∧ e.now = t := by
  simp only [passed, List.mem_map, List.mem_filter, decide_eq_true_eq, Prod.mk.injEq, and_assoc]

omit [LinearOrder τ] in
theorem passed_append (calls calls' : List (Call τ)) :
    passed (calls ++ calls') = passed calls ++ passed calls' := by
  simp only [passed, List.filter_append, List.map_append]

/-- Submitting leaves the table and the history alone. -/
theorem submit_frame (d : Dispatcher τ) (message : Message) :
    (submit cfg d message).2.canarySent = d.canarySent ∧
      (submit cfg d message).2.calls = d.calls := by
  unfold submit
  split
  · exact ⟨rfl, rfl⟩
  · exact ⟨rfl, rfl⟩

/-- **`notify_canary`** is held back by the table, or stamps it and submits. -/
theorem notifyCanary_cases (d : Dispatcher τ) (c : Contact) (now : τ) :
    (grant cfg.clock cfg.cooldown cooldownTableLimit d.canarySent c.key now = none ∧
      notifyCanary cfg d c now = { d with calls := d.calls ++ [⟨c.key, now, .suppressed⟩] }) ∨
    ∃ table outcome,
      grant cfg.clock cfg.cooldown cooldownTableLimit d.canarySent c.key now = some table ∧
      outcome ≠ .suppressed ∧ (notifyCanary cfg d c now).canarySent = table ∧
      (notifyCanary cfg d c now).calls = d.calls ++ [⟨c.key, now, outcome⟩] := by
  unfold notifyCanary grant
  by_cases hlast : (d.canarySent.get? c.key).any
      (fun last => cfg.clock.elapsed now last < cfg.cooldown) = true
  · exact .inl ⟨if_pos hlast, if_pos hlast⟩
  · set table := stamp cfg.clock cfg.cooldown cooldownTableLimit d.canarySent c.key now
    set submitted := submit cfg { d with canarySent := table } (canaryContact cfg c)
    refine .inr ⟨table, if submitted.1 then .accepted else .dropped, if_neg hlast, ?_, ?_, ?_⟩
    · split
      · decide
      · decide
    · rw [if_neg hlast]
      exact (submit_frame cfg _ _).1
    · rw [if_neg hlast]
      rfl

/-! ### Runs -/

/-- A call is suppressed exactly when a message for its key was submitted less than a cooldown
    earlier. -/
def Decided (before : List (Call τ)) (call : Call τ) : Prop :=
  call.outcome = .suppressed ↔ ∃ e ∈ before, e.outcome ≠ .suppressed ∧ e.key = call.key ∧
    cfg.clock.elapsed call.now e.now < cfg.cooldown

/-- Fewer keys than the limit had a message submitted less than a cooldown before a call that
    submitted one. -/
def Sparse (before : List (Call τ)) (call : Call τ) : Prop :=
  call.outcome ≠ .suppressed →
    (freshKeys cfg.clock cfg.cooldown (passed before) call.now).card < cooldownTableLimit

/-- The invariant: the table tracks what was submitted, and decided every call by it. -/
structure Consistent (d : Dispatcher τ) : Prop where
  tracks : ∀ now, (∀ e ∈ d.calls, e.now ≤ now) →
    Tracks cfg.clock cfg.cooldown d.canarySent (passed d.calls) now
  decided : AtEach (Decided cfg) d.calls

theorem run_snoc (events : List (Event τ)) (event : Event τ) :
    run cfg (events ++ [event]) = step cfg (run cfg events) event := by
  rw [run, List.foldl_append]
  rfl

/-- The times of the calls are those of the events. -/
theorem calls_now (events : List (Event τ)) :
    (run cfg events).calls.map Call.now = events.filterMap Event.now? := by
  induction events using List.reverseRecOn with
  | nil => rfl
  | append_singleton events event ih =>
    rw [run_snoc, List.filterMap_append, ← ih]
    cases event with
    | notify c now =>
      rcases notifyCanary_cases cfg (run cfg events) c now with ⟨-, heq⟩ | ⟨_, _, -, -, -, hcalls⟩
      · rw [step, heq, List.map_append]
        rfl
      · rw [step, hcalls, List.map_append]
        rfl
    | submit message =>
      rw [step, (submit_frame cfg _ _).2]
      exact (List.append_nil _).symm
    | consume => exact (List.append_nil _).symm

variable {cfg}

theorem consistent_init : Consistent cfg ({} : Dispatcher τ) where
  tracks := fun now _ => Tracks.empty now
  decided := atEach_nil _

/-- Being held back is what `Decided` says. -/
theorem grant_eq_none_iff {d : Dispatcher τ} (h : Consistent cfg d) {key : Key} {now : τ}
    (hnow : ∀ e ∈ d.calls, e.now ≤ now) :
    grant cfg.clock cfg.cooldown cooldownTableLimit d.canarySent key now = none ↔
      ∃ e ∈ d.calls, e.outcome ≠ .suppressed ∧ e.key = key ∧
        cfg.clock.elapsed now e.now < cfg.cooldown := by
  rw [(h.tracks now hnow).grant_eq_none_iff]
  simp only [mem_passed, Cooldown.fresh, decide_eq_true_eq]
  constructor
  · intro hfresh
    obtain ⟨t, ⟨e, he, hsubmitted, hkey, rfl⟩, hlt⟩ := hfresh
    exact ⟨e, he, hsubmitted, hkey, hlt⟩
  · intro hfresh
    obtain ⟨e, he, hsubmitted, hkey, hlt⟩ := hfresh
    exact ⟨e.now, ⟨e, he, hsubmitted, hkey, rfl⟩, hlt⟩

theorem Consistent.notify {d : Dispatcher τ} (h : Consistent cfg d) (c : Contact) {now : τ}
    (hnow : ∀ e ∈ d.calls, e.now ≤ now) : Consistent cfg (notifyCanary cfg d c now) := by
  rcases notifyCanary_cases cfg d c now with ⟨hgrant, heq⟩ | ⟨table, outcome, hgrant, houtcome, htable,
    hcalls⟩
  · rw [heq]
    constructor
    · intro now' hnow'
      rw [passed_append]
      have hnone : passed [(⟨c.key, now, .suppressed⟩ : Call τ)] = [] := rfl
      rw [hnone, List.append_nil]
      exact h.tracks now' (fun e he => hnow' e (List.mem_append_left _ he))
    · refine atEach_snoc.mpr ⟨h.decided, ?_⟩
      exact iff_of_true rfl ((grant_eq_none_iff h hnow).mp hgrant)
  · have hnew : passed [(⟨c.key, now, outcome⟩ : Call τ)] = [(c.key, now)] := by
      simp [passed, houtcome]
    constructor
    · intro now' hnow'
      rw [hcalls] at hnow' ⊢
      rw [htable, passed_append, hnew]
      exact ((h.tracks now hnow).grant hgrant).advance
        (hnow' ⟨c.key, now, outcome⟩ (List.mem_append_right _ List.mem_cons_self))
    · rw [hcalls]
      refine atEach_snoc.mpr ⟨h.decided, ?_⟩
      refine iff_of_false houtcome ?_
      intro hfresh
      rw [(grant_eq_none_iff h hnow).mpr hfresh] at hgrant
      cases hgrant

/-- With a clock that does not go back, a call is made after all the others. -/
theorem now_of_snoc (cfg : Config τ δ) {events : List (Event τ)} {event : Event τ}
    (htimes : ((events ++ [event]).filterMap Event.now?).Pairwise (· ≤ ·)) :
    (events.filterMap Event.now?).Pairwise (· ≤ ·) ∧
      ∀ now, event.now? = some now → ∀ e ∈ (run cfg events).calls, e.now ≤ now := by
  rw [List.filterMap_append, List.pairwise_append] at htimes
  refine ⟨htimes.1, ?_⟩
  intro now hevent e he
  have hmem : e.now ∈ events.filterMap Event.now? := by
    rw [← calls_now cfg]
    exact List.mem_map_of_mem he
  exact htimes.2.2 e.now hmem now (by simp [hevent])

/-- **Runs**: with a clock that does not go back, the table and the calls are consistent. -/
theorem consistent_run (cfg : Config τ δ) {events : List (Event τ)}
    (htimes : (events.filterMap Event.now?).Pairwise (· ≤ ·)) : Consistent cfg (run cfg events) := by
  induction events using List.reverseRecOn with
  | nil => exact consistent_init
  | append_singleton events event ih =>
    obtain ⟨hbefore, hnow⟩ := now_of_snoc cfg htimes
    have hrun := ih hbefore
    rw [run_snoc]
    cases event with
    | notify c now => exact hrun.notify c (hnow now rfl)
    | submit message =>
      rw [step]
      have hframe := submit_frame cfg (run cfg events) message
      exact ⟨by rw [hframe.1, hframe.2]; exact hrun.tracks, by rw [hframe.2]; exact hrun.decided⟩
    | consume => exact ⟨hrun.tracks, hrun.decided⟩

/-! ### Alerts that cover what is suppressed -/

/-- A call that was suppressed has an alert for its key on the queue, or past it, that is less
    than a cooldown old. -/
def Covered (cfg : Config τ δ) (before : List (Call τ)) (call : Call τ) : Prop :=
  call.outcome = .suppressed → ∃ e ∈ before, e.key = call.key ∧ e.outcome = .accepted ∧
    cfg.clock.elapsed call.now e.now < cfg.cooldown

/-- Messages for one key are a cooldown apart. -/
theorem Consistent.spaced {d : Dispatcher τ} (h : Consistent cfg d) :
    d.calls.Pairwise (fun e e' => e.outcome ≠ .suppressed → e'.outcome ≠ .suppressed →
      e.key = e'.key → cfg.cooldown ≤ cfg.clock.elapsed e'.now e.now) := by
  refine atEach_iff_pairwise.mp (h.decided.imp ?_)
  intro before e' after _ hdecided e he hsubmitted hsubmitted' hkey
  by_contra hlt
  exact hsubmitted' (hdecided.mpr ⟨e, he, hsubmitted, hkey, not_le.mp hlt⟩)

/-- Of two messages for one key, at most one is less than a cooldown old. -/
def OneFresh (cfg : Config τ δ) (now : τ) (e e' : Call τ) : Prop :=
  e.outcome ≠ .suppressed → e'.outcome ≠ .suppressed → e.key = e'.key →
    e.now ≤ now → e'.now ≤ now →
    cfg.cooldown ≤ cfg.clock.elapsed now e.now ∨ cfg.cooldown ≤ cfg.clock.elapsed now e'.now

instance (cfg : Config τ δ) (now : τ) : Std.Symm (OneFresh cfg now) where
  symm := fun _ _ h hb ha hkey hnowb hnowa => (h ha hb hkey.symm hnowa hnowb).symm

theorem Consistent.oneFresh {d : Dispatcher τ} (h : Consistent cfg d) (now : τ) :
    d.calls.Pairwise (OneFresh cfg now) := by
  refine h.spaced.imp ?_
  intro e e' hapart hsubmitted hsubmitted' hkey _ hnow'
  exact .inl (le_trans (hapart hsubmitted hsubmitted' hkey) (cfg.clock.mono e.now hnow'))

/-- **Coverage**: for every sequence of calls, other messages and deliveries, messages for one key
    are at least the cooldown apart; and every call that was suppressed is covered by an accepted
    message exactly when no key is notified again less than a cooldown after its message was
    dropped. -/
theorem canary_covered_iff (cfg : Config τ δ) (events : List (Event τ))
    (htimes : (events.filterMap Event.now?).Pairwise (· ≤ ·)) :
    (run cfg events).calls.Pairwise (fun e e' => e.outcome ≠ .suppressed →
      e'.outcome ≠ .suppressed → e.key = e'.key →
      cfg.cooldown ≤ cfg.clock.elapsed e'.now e.now) ∧
    (AtEach (Covered cfg) (run cfg events).calls ↔
      (run cfg events).calls.Pairwise (fun e e' => e.outcome = .dropped → e.key = e'.key →
        cfg.cooldown ≤ cfg.clock.elapsed e'.now e.now)) := by
  have hrun := consistent_run cfg htimes
  refine ⟨hrun.spaced, ?_⟩
  have hsorted : (run cfg events).calls.Pairwise (fun e e' => e.now ≤ e'.now) := by
    rw [← calls_now cfg, List.pairwise_map] at htimes
    exact htimes
  rw [← atEach_iff_pairwise] at hsorted ⊢
  constructor
  · intro hcovered
    refine hcovered.imp ?_
    intro before call after heq hcover e he hdropped hkey
    by_contra hlt
    rw [not_le] at hlt
    have hsubmitted : e.outcome ≠ .suppressed := by
      rw [hdropped]
      decide
    -- the dropped message silences the call, so another one covers it
    have hsuppressed := (hrun.decided before call after heq).mpr ⟨e, he, hsubmitted, hkey, hlt⟩
    obtain ⟨a, ha, hkeya, haccepted, hlta⟩ := hcover hsuppressed
    have hmem : ∀ x ∈ before, x ∈ (run cfg events).calls := by
      intro x hx
      rw [heq]
      exact List.mem_append_left _ hx
    have hne : e ≠ a := by
      rintro rfl
      rw [hdropped] at haccepted
      cases haccepted
    have hone := (hrun.oneFresh call.now).forall (hmem e he) (hmem a ha) hne hsubmitted
      (by rw [haccepted]; decide) (hkey.trans hkeya.symm) (hsorted before call after heq e he)
      (hsorted before call after heq a ha)
    rcases hone with hold | hold
    · exact absurd hlt (not_lt.mpr hold)
    · exact absurd hlta (not_lt.mpr hold)
  · intro hheeded
    refine hrun.decided.imp ?_
    intro before call after heq hdecided hsuppressed
    obtain ⟨e, he, hsubmitted, hkey, hlt⟩ := hdecided.mp hsuppressed
    refine ⟨e, he, hkey, ?_, hlt⟩
    cases houtcome : e.outcome with
    | suppressed => exact absurd houtcome hsubmitted
    | accepted => rfl
    | dropped => exact absurd hlt (not_lt.mpr (hheeded before call after heq e he houtcome hkey))

end dispatcher

/-- The default cooldown, with exact seconds. -/
def inSeconds : Config Int Int where
  channels := ["slack"]
  clusterId := "c"
  cooldown := 300
  link := ""
  strftime := fun _ => ""
  clock := .exact Int

def intruder : Contact := ⟨"demo/intruder (Job)", "demo/vault (Deployment)", 8200, 1, 0⟩

/-- A second contact is suppressed and covered, one after the cooldown is submitted. -/
theorem canary_covered_delivered :
    let calls := (run inSeconds [.notify intruder 0, .consume, .notify intruder 299,
      .notify intruder 300]).calls
    calls.map Call.outcome = [.accepted, .suppressed, .accepted] ∧
      AtEach (Covered inSeconds) calls := by
  intro calls
  refine ⟨by decide, (canary_covered_iff inSeconds _ (by decide)).2.mpr (by decide)⟩

def busy : Message := ⟨.warning, "New connection", [], "", ""⟩

/-- The queue is full: the alert is dropped, and the next contact is suppressed without one. -/
theorem canary_suppressed_uncovered :
    let events : List (Event Int) := List.replicate 100 (.submit busy) ++
      [.notify intruder 0, .consume, .notify intruder 10]
    (events.filterMap Event.now?).Pairwise (· ≤ ·) ∧
      (run inSeconds events).calls.map Call.outcome = [.dropped, .suppressed] ∧
      ¬ AtEach (Covered inSeconds) (run inSeconds events).calls := by
  intro events
  have hcalls : (run inSeconds events).calls =
      [⟨intruder.key, 0, .dropped⟩, ⟨intruder.key, 10, .suppressed⟩] := by decide +kernel
  refine ⟨by decide, by rw [hcalls]; rfl, ?_⟩
  intro hcovered
  rw [hcalls] at hcovered
  obtain ⟨e, he, -, haccepted, -⟩ := hcovered [_] _ [] rfl rfl
  rw [List.mem_singleton.mp he] at haccepted
  cases haccepted

/-! ### The size of the table -/

section table
variable {τ δ : Type} [LinearOrder τ] [LinearOrder δ] {cfg : Config τ δ}

/-- The events only add to the history. -/
theorem calls_step (cfg : Config τ δ) (d : Dispatcher τ) (event : Event τ) :
    d.calls <+: (step cfg d event).calls := by
  cases event with
  | notify c now =>
    rcases notifyCanary_cases cfg d c now with ⟨-, heq⟩ | ⟨_, _, -, -, -, hcalls⟩
    · rw [step, heq]
      exact List.prefix_append _ _
    · rw [step, hcalls]
      exact List.prefix_append _ _
  | submit message =>
    rw [step, (submit_frame cfg d message).2]
  | consume => exact List.prefix_refl _

/-- One event, from a table within its limit. -/
theorem Consistent.size_step {d : Dispatcher τ} (h : Consistent cfg d)
    (hsize : d.canarySent.size ≤ cooldownTableLimit) {event : Event τ}
    (hnow : ∀ now, event.now? = some now → ∀ e ∈ d.calls, e.now ≤ now) :
    AtEach (Sparse cfg) (step cfg d event).calls ↔
      AtEach (Sparse cfg) d.calls ∧
        (step cfg d event).canarySent.size ≤ cooldownTableLimit := by
  cases event with
  | notify c now =>
    have htracks := h.tracks now (hnow now rfl)
    rcases notifyCanary_cases cfg d c now with ⟨-, heq⟩ | ⟨table, outcome, hgrant, houtcome, htable,
      hcalls⟩
    · rw [step, heq, atEach_snoc]
      exact and_congr_right' (iff_of_true (fun hsubmitted => absurd rfl hsubmitted) hsize)
    · rw [step, hcalls, htable, atEach_snoc, htracks.size_le_iff hgrant]
      exact and_congr_right' ⟨fun hsparse => hsparse houtcome, fun hlt _ => hlt⟩
  | submit message =>
    rw [step, (submit_frame cfg d message).1, (submit_frame cfg d message).2]
    exact (and_iff_left hsize).symm
  | consume => exact (and_iff_left hsize).symm

/-- **The table**: after every sequence of calls, other messages and deliveries it is within its
    limit, and was at any point before, exactly when no message was submitted while the limit was
    reached by the keys with one less than a cooldown old. -/
theorem canary_table_bounded_iff (cfg : Config τ δ) (events : List (Event τ))
    (htimes : (events.filterMap Event.now?).Pairwise (· ≤ ·)) :
    (∀ earlier, earlier <+: events →
      (run cfg earlier).canarySent.size ≤ cooldownTableLimit) ↔
      AtEach (Sparse cfg) (run cfg events).calls := by
  induction events using List.reverseRecOn with
  | nil =>
    refine iff_of_true ?_ (atEach_nil _)
    intro earlier hearlier
    rw [List.prefix_nil.mp hearlier]
    exact Nat.zero_le _
  | append_singleton events event ih =>
    obtain ⟨htimes', hnow⟩ := now_of_snoc cfg htimes
    have hrun := consistent_run cfg htimes'
    rw [run_snoc]
    constructor
    · intro h
      have hbefore : ∀ earlier, earlier <+: events →
          (run cfg earlier).canarySent.size ≤ cooldownTableLimit :=
        fun earlier hearlier => h earlier (hearlier.trans (List.prefix_append _ _))
      refine (hrun.size_step (hbefore events (List.prefix_refl _)) hnow).mpr
        ⟨(ih htimes').mp hbefore, ?_⟩
      rw [← run_snoc]
      exact h _ (List.prefix_refl _)
    · intro h
      have hbefore := (ih htimes').mpr (h.of_prefix (calls_step cfg _ event))
      have hsize := ((hrun.size_step (hbefore events (List.prefix_refl _)) hnow).mp h).2
      intro earlier hearlier
      rcases List.prefix_concat_iff.mp hearlier with rfl | hearlier
      · rw [run_snoc]
        exact hsize
      · exact hbefore earlier hearlier

end table

/-- The `i`-th decoy that a scanner touches. -/
def scanned (i : Nat) : Contact :=
  ⟨"demo/scanner (Job)", "demo/vault-" ++ toString i ++ " (Deployment)", 8200, 1, 0⟩

theorem scanned_key_injective : Function.Injective (fun i => (scanned i).key) := by
  intro i j h
  have hcanary : "demo/vault-" ++ toString i ++ " (Deployment)" =
      "demo/vault-" ++ toString j ++ " (Deployment)" := (Prod.mk.inj (Prod.mk.inj h).2).1
  rw [String.append_left_inj, String.append_right_inj] at hcanary
  exact Text.toString_nat_inj hcanary

/-- A scan that touches `n` decoys at one time. -/
def scan (n : Nat) : List (Event Int) := (List.range n).map (fun i => .notify (scanned i) 0)

/-- A key without an entry gets one. -/
theorem canarySent_notify {d : Dispatcher Int} {c : Contact} {now : Int}
    (hnew : c.key ∉ d.canarySent.keys) :
    (step inSeconds d (.notify c now)).canarySent =
      stamp (.exact Int) 300 cooldownTableLimit d.canarySent c.key now := by
  have hgrant : Cooldown.grant (.exact Int) 300 cooldownTableLimit d.canarySent c.key now =
      some (stamp (.exact Int) 300 cooldownTableLimit d.canarySent c.key now) := by
    rw [Cooldown.grant, Dict.get?_eq_none_iff.mpr hnew]
    rfl
  rcases notifyCanary_cases inSeconds d c now with ⟨hnone, -⟩ | ⟨table, outcome, hsome, -, htable, -⟩
  · exact absurd (hgrant.symm.trans hnone) (by simp)
  · rw [step, htable]
    exact Option.some.inj (hsome.symm.trans hgrant)

/-- Every decoy gets an entry, whatever the size of the table. -/
theorem canarySent_scan (n : Nat) :
    (run inSeconds (scan n)).canarySent.keys = (List.range n).map (fun i => (scanned i).key) ∧
      ∀ key t, (run inSeconds (scan n)).canarySent.get? key = some t → t = 0 := by
  induction n with
  | zero => exact ⟨rfl, fun _ _ h => by cases h⟩
  | succ n ih =>
    obtain ⟨hkeys, hzero⟩ := ih
    have hsnoc : scan (n + 1) = scan n ++ [.notify (scanned n) 0] := by
      rw [scan, List.range_succ, List.map_append]
      rfl
    rw [hsnoc, run_snoc]
    set d := run inSeconds (scan n) with hd
    have hnew : (scanned n).key ∉ d.canarySent.keys := by
      rw [hkeys]
      intro hmem
      obtain ⟨i, hi, heq⟩ := List.mem_map.mp hmem
      rw [scanned_key_injective heq] at hi
      exact absurd (List.mem_range.mp hi) (lt_irrefl n)
    -- no stamp has cooled down, so nothing is cleared
    have hclear : d.canarySent.filter (fun _ t => Cooldown.fresh (.exact Int) 300 0 t) =
        d.canarySent := by
      rw [Dict.filter_congr (q := fun _ _ => true), Dict.filter_true]
      intro key t ht
      rw [hzero key t ht]
      decide
    have hstamp : stamp (.exact Int) 300 cooldownTableLimit d.canarySent (scanned n).key 0 =
        d.canarySent.set (scanned n).key 0 := by
      rw [stamp, hclear, ite_self]
    rw [canarySent_notify hnew, hstamp]
    constructor
    · rw [Dict.keys_set, if_neg hnew, hkeys, List.range_succ, List.map_append]
      rfl
    · exact Dict.forall_set hzero rfl

theorem size_scan (n : Nat) : (run inSeconds (scan n)).canarySent.size = n := by
  have hlength := congrArg List.length (canarySent_scan n).1
  rw [Dict.keys, List.length_map, List.length_map, List.length_range] at hlength
  exact hlength

theorem now_scan {n : Nat} {t : Int} (ht : t ∈ (scan n).filterMap Event.now?) : t = 0 := by
  obtain ⟨event, hevent, hnow⟩ := List.mem_filterMap.mp ht
  obtain ⟨i, -, rfl⟩ := List.mem_map.mp hevent
  exact (Option.some.inj hnow).symm

theorem scan_sorted (n : Nat) : ((scan n).filterMap Event.now?).Pairwise (· ≤ ·) := by
  refine List.Pairwise.imp_of_mem ?_ (List.pairwise_of_forall (R := fun _ _ => True) (fun _ _ => trivial))
  intro t t' ht ht' _
  rw [now_scan ht, now_scan ht']

theorem exists_scan_of_isPrefix {n : Nat} {earlier : List (Event Int)} (h : earlier <+: scan n) :
    ∃ m ≤ n, earlier = scan m := by
  refine ⟨min earlier.length n, Nat.min_le_right _ _, ?_⟩
  calc earlier = (scan n).take earlier.length := List.prefix_iff_eq_take.mp h
    _ = scan (min earlier.length n) := by
      rw [scan, ← List.map_take, List.take_range, scan]

/-- A contact when the stamps of a scan have cooled down. -/
def afterScan (n : Nat) : List (Event Int) := scan n ++ [.notify intruder 300]

theorem afterScan_sorted (n : Nat) : ((afterScan n).filterMap Event.now?).Pairwise (· ≤ ·) := by
  rw [afterScan, List.filterMap_append, List.pairwise_append]
  refine ⟨scan_sorted n, List.pairwise_singleton _ _, ?_⟩
  intro t ht t' ht'
  rw [now_scan ht, List.mem_singleton.mp ht']
  decide

/-- When the scan filled the table, its entries are dropped for the contact's. -/
theorem canarySent_afterScan {n : Nat} (hn : cooldownTableLimit ≤ n) :
    (run inSeconds (afterScan n)).canarySent.keys = [intruder.key] := by
  obtain ⟨hkeys, hzero⟩ := canarySent_scan n
  have hsize := size_scan n
  rw [afterScan, run_snoc]
  set d := run inSeconds (scan n) with hd
  have hnew : intruder.key ∉ d.canarySent.keys := by
    rw [hkeys]
    intro hmem
    obtain ⟨i, -, heq⟩ := List.mem_map.mp hmem
    have hsource : (scanned i).source = intruder.source := (Prod.mk.inj heq).1
    exact absurd hsource (by simp [scanned, intruder])
  have hclear : d.canarySent.filter (fun _ t => Cooldown.fresh (.exact Int) 300 300 t) =
      .empty := by
    rw [Dict.filter_congr (q := fun _ _ => false)]
    · simp [Dict.filter, Dict.empty]
    · intro key t ht
      rw [hzero key t ht]
      decide
  rw [canarySent_notify hnew, stamp, if_pos (hsize.symm ▸ hn), hclear]
  rfl

theorem size_afterScan {n : Nat} (hn : cooldownTableLimit ≤ n) :
    (run inSeconds (afterScan n)).canarySent.size = 1 := by
  rw [Dict.size_eq_card, canarySent_afterScan hn]
  rfl

theorem size_le_of_isPrefix_afterScan {n : Nat} (hn : cooldownTableLimit ≤ n)
    {earlier : List (Event Int)} (h : earlier <+: afterScan n) :
    (run inSeconds earlier).canarySent.size ≤ n := by
  rcases List.prefix_concat_iff.mp h with heq | hscan
  · rw [heq, ← afterScan, size_afterScan hn]
    exact le_trans (by decide) hn
  · obtain ⟨m, hm, rfl⟩ := exists_scan_of_isPrefix hscan
    rw [size_scan]
    exact hm

/-- The scan fills the table to its limit, and the contact clears it. -/
theorem canary_table_bounded_cleared :
    (run inSeconds (scan 1024)).canarySent.size = cooldownTableLimit ∧
    (run inSeconds (afterScan 1024)).canarySent.size = 1 ∧
    AtEach (Sparse inSeconds) (run inSeconds (afterScan 1024)).calls :=
  ⟨size_scan 1024, size_afterScan (le_refl 1024),
    (canary_table_bounded_iff inSeconds (afterScan 1024) (afterScan_sorted 1024)).mp
      (fun _ h => size_le_of_isPrefix_afterScan (le_refl 1024) h)⟩

/-- A scan of one decoy more than the limit, at one time. -/
theorem canary_table_exceeded :
    ((scan 1025).filterMap Event.now?).Pairwise (· ≤ ·) ∧
      ¬ (run inSeconds (scan 1025)).canarySent.size ≤ cooldownTableLimit := by
  refine ⟨scan_sorted 1025, ?_⟩
  rw [size_scan]
  decide

end TopologyVisualizer.Backend.Dispatch
