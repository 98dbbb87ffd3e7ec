import TopologyVisualizer.Backend.Serve

/-! # What Backend Processes Guarantee

    `Sound` says of one process how far its listeners, its startup and its
    shutdown can be apart. Every step keeps it (`sound_of_reachable`), so in
    every run of any number of processes:

    * a batch that was accepted is in the database, until retention deletes
      it, and came in over the listener and with the certificate that are
      meant for it (`accepted_is_durable`);
    * the database is closed after the last request and the last background
      task (`closed_after_last_request`);
    * migrations are applied once each and in order
      (`migrations_in_order`).
-/

namespace TopologyVisualizer.Backend.Serve

open LTS

universe u

variable {Proc : Type u} [DecidableEq Proc]

/-! ### Listeners -/

/-- The two ways to listen. -/
theorem listeners_spec {cfg : Settings} {first : Listener} {rest : List Listener}
    (h : listeners cfg = .ok (first, rest)) :
    (first = .all ∧ rest = [] ∧ cfg.tlsEnabled = .ok false) ∨
    (first = .ops ∧ rest = [.ingest, .api] ∧ cfg.tlsEnabled = .ok true) := by
  unfold listeners at h
  cases htls : cfg.tlsEnabled with
  | error m => rw [htls] at h; cases h
  | ok enabled =>
    rw [htls] at h
    cases enabled with
    | false => cases h; exact .inl ⟨rfl, rfl, rfl⟩
    | true => cases h; exact .inr ⟨rfl, rfl, rfl⟩

theorem first_not_mem_rest {cfg : Settings} {first : Listener} {rest : List Listener}
    (h : listeners cfg = .ok (first, rest)) : first ∉ rest := by
  rcases listeners_spec h with ⟨rfl, rfl, -⟩ | ⟨rfl, rfl, -⟩
  · exact List.not_mem_nil
  · decide

/-- The listener for ingestion. -/
theorem listener_of_ingest {cfg : Settings} {first : Listener} {rest : List Listener}
    (h : listeners cfg = .ok (first, rest)) {l : Listener} (hl : l ∈ first :: rest)
    {r : Request} (hingest : r.isIngest = true) (hallows : l.allows r.method r.path = true) :
    (l = .all ∧ cfg.tlsEnabled = .ok false) ∨ (l = .ingest ∧ cfg.tlsEnabled = .ok true) := by
  have hpost : r.method = "POST" := by
    simp only [Request.isIngest, Bool.and_eq_true, decide_eq_true_eq] at hingest
    exact hingest.1
  rw [hpost] at hallows
  rcases listeners_spec h with ⟨rfl, rfl, htls⟩ | ⟨rfl, rfl, htls⟩
  · exact .inl ⟨List.mem_singleton.mp hl, htls⟩
  · right
    refine ⟨?_, htls⟩
    -- the other two only serve GET and HEAD
    cases l with
    | ingest => rfl
    | ops => simp [Listener.allows] at hallows
    | api => simp [Listener.allows] at hallows
    | all => simp at hl

/-! ### One process -/

/-- What holds of a process at every point of its life. -/
structure Sound (cfg : Settings) (q : Process) : Prop where
  launched : q.phase ≠ .absent → listeners cfg = .ok (q.first, q.rest)
  absent : q.phase = .absent → q = {}
  /-- Nothing but the first server runs until `serve` has seen it started. -/
  launching : q.phase = .launching → q.firstExit = false ∧
    (∀ l ∈ q.rest, q.server l = .unborn) ∧ q.pool ≠ .closing ∧
    (q.started = true → q.pool ≠ .closed)
  /-- The other servers are created after the first one started. -/
  born : ∀ l, q.server l ≠ .unborn → l = q.first ∨ (l ∈ q.rest ∧ q.started = true)
  starting : q.server q.first = .starting → q.started = false
  opened : q.server q.first = .open ∨ q.server q.first = .closing ∨
    q.server q.first = .ended true → q.started = true
  /-- The first server starts after the startup. -/
  started : q.started = true → q.startup = .finished
  database : q.startup = .connected ∨ (∃ todo, q.startup = .migrating todo) →
    cfg.databaseUrl ≠ ""
  ready : q.startup = .finished → cfg.databaseUrl ≠ "" → q.repository = .postgres
  /-- A server ends after its requests, unless it crashed. -/
  inflight : ∀ x ∈ q.inflight, q.server x.1 = .open ∨ q.server x.1 = .closing ∨
    q.server x.1 = .ended true
  admitted : ∀ x ∈ q.inflight, x.1.allows x.2.method x.2.path = true ∧
    (clientCa cfg x.1 = none ∨ x.2.peer = clientCa cfg x.1)
  /-- The first server is told to exit after the others ended. -/
  exits : q.firstExit = true → ∀ l ∈ q.rest, (q.server l).isEnded = true
  closing : q.server q.first = .closing → q.firstExit = true
  /-- The pool is closed when the first server has nothing more to do. -/
  drained : q.pool = .closing → q.tasks = false ∧
    (q.server q.first = .closing ∨ (q.server q.first).isEnded = true) ∧
    (∀ l ∈ q.rest, (q.server l).isEnded = true) ∧
    ∀ x ∈ q.inflight, q.server x.1 = .ended true
  closed : q.pool = .closed → q.tasks = false ∧ (q.server q.first).isEnded = true ∧
    ∀ l ∈ q.rest, q.server l = .unborn ∨ (q.server l).isEnded = true
  settled : q.server q.first = .ended false → q.started = true → q.repository = .postgres →
    q.pool = .closed
  /-- Code 0 stands for a signal. -/
  stopped : q.phase = .stoppingRest false ∨ q.phase = .stoppingFirst false ∨ q.phase = .exited 0 →
    q.stop = true
  running : q.phase = .waiting ∨ (∃ failed, q.phase = .stoppingRest failed) ∨
    (∃ failed, q.phase = .stoppingFirst failed) ∨ q.phase = .exited 0 → q.started = true
  joined : (∃ failed, q.phase = .stoppingFirst failed) ∨ q.phase = .exited 0 → q.firstExit = true
  exited : q.phase = .exited 0 → (q.server q.first).isEnded = true

variable {cfg : Settings} {q : Process}

theorem sound_init (cfg : Settings) : Sound cfg {} := by
  constructor <;> simp

theorem not_absent (hlive : q.phase.live = true) : q.phase ≠ .absent := by
  intro habsent
  rw [habsent] at hlive
  cases hlive

theorem Sound.listeners (h : Sound cfg q) (hlive : q.phase.live = true) :
    listeners cfg = .ok (q.first, q.rest) ∧ q.first ∉ q.rest := by
  have hlaunched := h.launched (not_absent hlive)
  exact ⟨hlaunched, first_not_mem_rest hlaunched⟩

/-! ### Startup -/

/-- Until the first server opened, the startup of the application may do as it likes, as long
    as it installs the database when it is to. -/
theorem Sound.startup (h : Sound cfg q) {at₀ : Startup} (hat : q.atStartup at₀) {x : Startup}
    {repository : Repository} {pool : Pool} {tasks : Bool} {memory : List String}
    (hdatabase : x = .connected ∨ (∃ todo, x = .migrating todo) → cfg.databaseUrl ≠ "")
    (hready : x = .finished → cfg.databaseUrl ≠ "" → repository = .postgres)
    (hpool : pool ≠ .closing ∧ pool ≠ .closed) :
    Sound cfg { q with
      startup := x, repository := repository, pool := pool, tasks := tasks, memory := memory } := by
  obtain ⟨hlive, hstarting, -⟩ := hat
  have hnot := h.starting hstarting
  exact { h with
    absent := fun habsent => absurd habsent (not_absent hlive)
    launching := fun hlaunching =>
      ⟨(h.launching hlaunching).1, (h.launching hlaunching).2.1, hpool.1, fun _ => hpool.2⟩
    started := fun hstarted => absurd (hnot.symm.trans hstarted) Bool.false_ne_true
    database := hdatabase
    ready := hready
    drained := fun hclosing => absurd hclosing hpool.1
    closed := fun hclosed => absurd hclosed hpool.2
    settled := fun hended => by rw [hstarting] at hended; cases hended }

/-- While the startup runs, nobody closes the pool. -/
theorem Sound.pool_of_startup (h : Sound cfg q) {x : Startup} (hat : q.atStartup x) :
    q.pool ≠ .closing ∧ q.pool ≠ .closed := by
  constructor
  · intro hclosing
    have hserver := (h.drained hclosing).2.1
    rw [hat.2.1] at hserver
    simp [Server.isEnded] at hserver
  · intro hclosed
    have hended := (h.closed hclosed).2.1
    rw [hat.2.1] at hended
    cases hended

/-! ### Servers -/

/-- A server opens; the first one says so in `started`. -/
theorem Sound.opens (h : Sound cfg q) {l : Listener} (hlive : q.phase.live = true)
    (hl : q.server l = .starting) (hready : l = q.first → q.startup = .finished) :
    Sound cfg (Process.setServer { q with started := q.started || decide (l = q.first) } l .open) := by
  obtain ⟨-, hfirst⟩ := h.listeners hlive
  cases h
  constructor <;> simp only [Process.setServer, Function.update_apply]
  all_goals grind [Server.isEnded, Phase.live]

/-- A server starts to close when it is told to. -/
theorem Sound.closes (h : Sound cfg q) {l : Listener} (hlive : q.phase.live = true)
    (hl : q.server l = .open)
    (hexit : (l ∈ q.rest ∧ q.restExit = true) ∨ (l = q.first ∧ q.firstExit = true)) :
    Sound cfg (q.setServer l .closing) := by
  obtain ⟨-, hfirst⟩ := h.listeners hlive
  cases h
  constructor <;> simp only [Process.setServer, Function.update_apply]
  all_goals grind [Server.isEnded, Phase.live]

/-- A server ends without the shutdown of the lifespan. -/
theorem Sound.crashes (h : Sound cfg q) {l : Listener} (hlive : q.phase.live = true)
    (hl : q.server l = .open ∨ q.server l = .closing) :
    Sound cfg (q.setServer l (.ended true)) := by
  obtain ⟨-, hfirst⟩ := h.listeners hlive
  cases h
  constructor <;> simp only [Process.setServer, Function.update_apply]
  all_goals grind [Server.isEnded, Phase.live]

/-- A server without requests ends; with the first one the lifespan does. When the first one
    never opened, nor did the others, and otherwise they ended before. -/
theorem Sound.ends (h : Sound cfg q) {l : Listener} (hlive : q.phase.live = true)
    (hl : q.server l = .starting ∨ q.server l = .closing) (hdone : ∀ x ∈ q.inflight, x.1 ≠ l) :
    Sound cfg (Process.setServer (if l = q.first then q.shutdown else q) l (.ended false)) := by
  obtain ⟨-, hfirst⟩ := h.listeners hlive
  cases h
  by_cases hlf : l = q.first
  · rw [if_pos hlf]
    constructor <;> simp only [Process.setServer, Process.shutdown, Function.update_apply]
    all_goals grind [Server.isEnded, Phase.live]
  · rw [if_neg hlf]
    constructor <;> simp only [Process.setServer, Function.update_apply]
    all_goals grind [Server.isEnded, Phase.live]

/-- The pool is closed after the last request. -/
theorem Sound.closePool (h : Sound cfg q) (hlive : q.phase.live = true)
    (hclosing : q.server q.first = .closing) (hdone : ∀ x ∈ q.inflight, x.1 ≠ q.first)
    (htasks : q.tasks = false) : Sound cfg { q with pool := .closing } := by
  obtain ⟨-, hfirst⟩ := h.listeners hlive
  -- the first server was told to exit, so the others ended
  have hexit := h.closing hclosing
  cases h
  constructor <;> simp only
  all_goals grind [Server.isEnded, Phase.live]

/-- The first server returns when the startup failed. -/
theorem Sound.startupFailed (h : Sound cfg q) (hat : q.atStartup .failed) :
    Sound cfg (q.setServer q.first (.ended false)) := by
  obtain ⟨hlive, hstarting, -⟩ := hat
  obtain ⟨-, hfirst⟩ := h.listeners hlive
  cases h
  constructor <;> simp only [Process.setServer, Function.update_apply]
  all_goals grind [Server.isEnded, Phase.live]

/-- No request is under way on a server that has not opened. -/
theorem Sound.idle_of_starting (h : Sound cfg q) {l : Listener} (hl : q.server l = .starting) :
    ∀ x ∈ q.inflight, x.1 ≠ l := by
  intro x hx hxl
  rcases h.inflight x hx with hopen | hclosing | hended
  · rw [hxl, hl] at hopen; cases hopen
  · rw [hxl, hl] at hclosing; cases hclosing
  · rw [hxl, hl] at hended; cases hended

/-! ### `serve` -/

theorem Sound.launch (h : Sound cfg q) (habsent : q.phase = .absent) {first : Listener}
    {rest : List Listener} (hlisteners : Serve.listeners cfg = .ok (first, rest)) :
    Sound cfg (Process.setServer { q with phase := .launching, first := first, rest := rest }
      first .starting) := by
  have hfirst := first_not_mem_rest hlisteners
  rw [h.absent habsent]
  constructor <;> simp only [Process.setServer, Function.update_apply]
  all_goals grind [Server.isEnded]

/-- The other servers are created. -/
theorem Sound.seesStarted (h : Sound cfg q) (hphase : q.phase = .launching)
    (hstarted : q.started = true) :
    Sound cfg { q with
      phase := .waiting
      server := fun l => if l ∈ q.rest then .starting else q.server l } := by
  obtain ⟨-, hfirst⟩ := h.listeners (by rw [hphase]; rfl)
  -- until now they were not there, so no request is on one of them
  obtain ⟨hnoExit, hunborn, hnotClosing, hpool⟩ := h.launching hphase
  cases h
  constructor <;> simp only
  all_goals grind [Server.isEnded]

/-- `serve` goes on, or the process ends. -/
theorem Sound.phase (h : Sound cfg q) (hlive : q.phase.live = true) {x : Phase} {restExit : Bool}
    (hx : x ≠ .absent ∧ x ≠ .launching)
    (hrunning : x = .waiting ∨ (∃ failed, x = .stoppingRest failed) ∨
      (∃ failed, x = .stoppingFirst failed) ∨ x = .exited 0 → q.started = true)
    (hstopped : x = .stoppingRest false ∨ x = .stoppingFirst false ∨ x = .exited 0 →
      q.stop = true)
    (hjoined : (∃ failed, x = .stoppingFirst failed) ∨ x = .exited 0 → q.firstExit = true)
    (hexited : x = .exited 0 → (q.server q.first).isEnded = true) :
    Sound cfg { q with phase := x, restExit := restExit } :=
  { h with
    launched := fun _ => h.launched (not_absent hlive)
    absent := fun habsent => absurd habsent hx.1
    launching := fun hlaunching => absurd hlaunching hx.2
    running := hrunning
    stopped := hstopped
    joined := hjoined
    exited := hexited }

/-- The others ended, so the first may. -/
theorem Sound.restJoined (h : Sound cfg q) {failed : Bool} (hphase : q.phase = .stoppingRest failed)
    (hended : ∀ l ∈ q.rest, (q.server l).isEnded = true) :
    Sound cfg { q with phase := .stoppingFirst failed, firstExit := true } :=
  { h with
    launched := fun _ => h.launched (by rw [hphase]; simp)
    absent := nofun
    launching := nofun
    exits := fun _ => hended
    closing := fun _ => rfl
    running := fun _ => h.running (.inr (.inl ⟨failed, hphase⟩))
    stopped := fun hstopped => h.stopped (by rw [hphase]; simpa using hstopped)
    joined := fun _ => rfl
    exited := nofun }

/-! ### Requests -/

theorem Sound.receive (h : Sound cfg q) (hlive : q.phase.live = true) {l : Listener} {r : Request}
    (hopen : q.server l = .open) (hpeer : clientCa cfg l = none ∨ r.peer = clientCa cfg l)
    (hallows : l.allows r.method r.path = true) :
    Sound cfg { q with inflight := q.inflight ++ [(l, r)] } :=
  { h with
    absent := fun habsent => absurd habsent (not_absent hlive)
    inflight := by
      intro x hx
      rcases List.mem_append.mp hx with hx | hx
      · exact h.inflight x hx
      · rw [List.mem_singleton.mp hx]
        exact .inl hopen
    admitted := by
      intro x hx
      rcases List.mem_append.mp hx with hx | hx
      · exact h.admitted x hx
      · rw [List.mem_singleton.mp hx]
        exact ⟨hallows, hpeer⟩
    drained := by
      -- no server is open then
      intro hpool
      obtain ⟨-, hserver, hrest, -⟩ := h.drained hpool
      rcases h.born l (by rw [hopen]; simp) with rfl | ⟨hl, -⟩
      · rw [hopen] at hserver
        simp [Server.isEnded] at hserver
      · have hended := hrest l hl
        rw [hopen] at hended
        cases hended }

/-- A request leaves, and nothing else changes but what is in memory. -/
theorem Sound.leave (h : Sound cfg q) (hlive : q.phase.live = true) (x : Listener × Request)
    (memory : List String) :
    Sound cfg { q with memory := memory, inflight := q.inflight.erase x } :=
  { h with
    absent := fun habsent => absurd habsent (not_absent hlive)
    inflight := fun y hy => h.inflight y (List.mem_of_mem_erase hy)
    admitted := fun y hy => h.admitted y (List.mem_of_mem_erase hy)
    drained := by
      intro hpool
      obtain ⟨htasks, hserver, hrest, hcrashed⟩ := h.drained hpool
      exact ⟨htasks, hserver, hrest, fun y hy => hcrashed y (List.mem_of_mem_erase hy)⟩ }

/-- Handling a request changes nothing else of the process. -/
theorem respond_process (q : Process) (db : Database) (r : Request) :
    ∃ memory, (respond q db r).1 = { q with memory := memory } := by
  unfold respond ingest
  repeat' split
  all_goals exact ⟨_, rfl⟩

/-! ### Every process, in every run -/

variable {vs : Except String (List String)} {applied : List String} {q' : Process}

theorem Sound.move (h : Sound cfg q) (hmove : Move cfg vs applied q q') : Sound cfg q' := by
  cases hmove with
  | launch habsent hlisteners => exact h.launch habsent hlisteners
  | connect hat hurl => exact h.startup hat (fun _ => hurl) (by simp) (by simp)
  | connectFails hat hurl => exact h.startup hat (by simp) (by simp) (h.pool_of_startup hat)
  | useMemory hat hurl =>
    exact h.startup hat (by simp) (fun _ hne => absurd hurl hne) (h.pool_of_startup hat)
  | readVersions hat hplan =>
    exact h.startup hat (fun _ => h.database (.inl hat.2.2)) (by simp) (h.pool_of_startup hat)
  | migrateFails hat =>
    rcases hat with hat | ⟨todo, hat⟩
    · exact h.startup hat (by simp) (by simp) (h.pool_of_startup hat)
    · exact h.startup hat (by simp) (by simp) (h.pool_of_startup hat)
  | storageReady hat => exact h.startup hat (by simp) (fun _ _ => rfl) (h.pool_of_startup hat)
  | opens hlive hl hready => exact h.opens hlive hl hready
  | bindFails hlive hl hready => exact h.ends hlive (.inl hl) (h.idle_of_starting hl)
  | startupFailed hat => exact h.startupFailed hat
  | seesStarted hphase hstarted => exact h.seesStarted hphase hstarted
  | seesFailed hphase hstarted hended =>
    exact h.phase (by rw [hphase]; rfl) (by simp) (by simp) (by simp) (by simp) (by simp)
  | signal hlive =>
    exact { h with
      absent := fun habsent => absurd habsent (not_absent hlive)
      stopped := fun _ => rfl }
  | wake hphase hstop hfailed =>
    exact h.phase (by rw [hphase]; rfl) (by simp) (fun _ => h.running (.inl hphase))
      (fun hx => hstop (by simpa using hx)) (by simp) (by simp)
  | closes hlive hl hexit => exact h.closes hlive hl hexit
  | endTasks hlive hclosing hdone =>
    exact { h with
      absent := fun habsent => absurd habsent (not_absent hlive)
      drained := fun hpool => ⟨rfl, (h.drained hpool).2⟩
      closed := fun hclosed => ⟨rfl, (h.closed hclosed).2⟩ }
  | closePool hlive hclosing hdone htasks howned => exact h.closePool hlive hclosing hdone htasks
  | ends hlive hl hdone htasks hpool => exact h.ends hlive (.inr hl) hdone
  | crashes hlive hl => exact h.crashes hlive hl
  | restJoined hphase hended => exact h.restJoined hphase hended
  | @firstJoined failed hphase hended =>
    refine h.phase (by rw [hphase]; rfl) (by simp)
      (fun _ => h.running (.inr (.inr (.inl ⟨failed, hphase⟩)))) ?_
      (fun _ => h.joined (.inl ⟨failed, hphase⟩)) (fun _ => hended)
    intro hzero
    have hfailed : failed = false := by
      cases failed
      · rfl
      · simp at hzero
    exact h.stopped (.inr (.inl (by rw [hphase, hfailed])))
  | kill hlive => exact h.phase hlive (by simp) (by simp) (by simp) (by simp) (by simp)

variable {setup : Setup Proc} {s s' : State Proc} {l : Label Proc}

theorem sound_set (h : ∀ p, Sound (setup.settings p) (s.procs p)) {p : Proc}
    (hq : Sound (setup.settings p) q) (p' : Proc) :
    Sound (setup.settings p') ((s.set p q).procs p') :=
  (Function.forall_update_iff s.procs (fun p q => Sound (setup.settings p) q)).mpr
    ⟨hq, fun p _ => h p⟩ p'

theorem sound_of_reachable (h : Reachable (system setup) s) (p : Proc) :
    Sound (setup.settings p) (s.procs p) := by
  refine System.invariant (fun s => ∀ p, Sound (setup.settings p) (s.procs p)) ?_ ?_ s h p
  · intro s hs p
    rw [hs]
    exact sound_init _
  · intro s l s' hinv hstep
    simp only [system] at hstep
    cases l with
    | move p =>
      obtain ⟨q, hmove, rfl⟩ := hstep
      exact sound_set hinv ((hinv p).move hmove)
    | applyVersion p =>
      obtain ⟨v, todo, hat, -, rfl⟩ := hstep
      exact sound_set hinv ((hinv p).startup hat
        (fun _ => (hinv p).database (.inr ⟨_, hat.2.2⟩)) (by simp) ((hinv p).pool_of_startup hat))
    | receive p l r =>
      obtain ⟨hlive, hopen, hpeer, rfl⟩ := hstep
      split
      · next hallows => exact sound_set hinv ((hinv p).receive hlive hopen hpeer hallows)
      · exact hinv
    | handle p l r =>
      obtain ⟨hlive, -, rfl⟩ := hstep
      obtain ⟨memory, hmemory⟩ := respond_process (s.procs p) s.db r
      rw [hmemory]
      exact sound_set hinv ((hinv p).leave hlive (l, r) memory)
    | refuse p l r status =>
      obtain ⟨hlive, -, -, -, rfl⟩ := hstep
      exact sound_set hinv ((hinv p).leave hlive (l, r) _)
    | purge p expired =>
      obtain ⟨-, -, -, -, rfl⟩ := hstep
      exact hinv

/-! ### Migrations -/

/-- A process as a worker that migrates. -/
def progress (cfg : Settings) (q : Process) : OrderedSteps.Progress String :=
  if cfg.databaseUrl = "" then .idle
  else
    match q.startup with
    | .pending => .idle
    | .connected => .idle
    | .migrating todo => .working todo
    | .finished => .finished
    | .failed => .failed

/-- The migrations a process is to apply. -/
def plan (setup : Setup Proc) (p : Proc) : List String :=
  match setup.migrations p with
  | .ok vs => vs
  | .error _ => []

/-- The processes as workers that share `schema_migrations`. -/
def migrations (setup : Setup Proc) (s : State Proc) : OrderedSteps.State Proc String where
  record := s.db.applied
  progress := fun p => progress (setup.settings p) (s.procs p)

theorem progress_set (p : Proc) (q : Process) :
    (fun p' => progress (setup.settings p') (Function.update s.procs p q p')) =
      Function.update (migrations setup s).progress p (progress (setup.settings p) q) := by
  funext p'
  by_cases hp : p' = p
  · subst hp
    simp
  · simp [Function.update_of_ne hp, migrations]

/-- What one process does to its startup, on the way of the migrations. -/
theorem migrations_set (p : Proc) (q : Process) :
    migrations setup (s.set p q) =
      { migrations setup s with
        progress := Function.update (migrations setup s).progress p
          (progress (setup.settings p) q) } := by
  unfold migrations State.set
  rw [progress_set]
  rfl

/-- A step that leaves the startup where it is, is none of the migrations. -/
theorem migrations_same {p : Proc} {q : Process}
    (h : progress (setup.settings p) q = progress (setup.settings p) (s.procs p)) :
    migrations setup (s.set p q) = migrations setup s := by
  have hsame : progress (setup.settings p) q = (migrations setup s).progress p := h
  rw [migrations_set, hsame, Function.update_eq_self]

theorem progress_congr {cfg : Settings} {q q' : Process} (h : q'.startup = q.startup) :
    progress cfg q' = progress cfg q := by
  unfold progress
  rw [h]

theorem progress_of_url {cfg : Settings} (hurl : cfg.databaseUrl ≠ "") (q : Process) :
    progress cfg q = match q.startup with
      | .pending => .idle
      | .connected => .idle
      | .migrating todo => .working todo
      | .finished => .finished
      | .failed => .failed :=
  if_neg hurl

/-- Requests do not touch `schema_migrations`. -/
theorem respond_applied (q : Process) (db : Database) (r : Request) :
    (respond q db r).2.1.applied = db.applied := by
  unfold respond ingest
  repeat' split
  all_goals rfl

/-- What a move is for the migrations: nothing, or a step of the worker. -/
theorem Move.progress (hmove : Move cfg vs applied q q') (h : Sound cfg q) :
    progress cfg q' = progress cfg q ∨ progress cfg q' = .failed ∨
      (progress cfg q = .working [] ∧ progress cfg q' = .finished) ∨
      ∃ plan, vs = .ok plan ∧ progress cfg q = .idle ∧
        progress cfg q' = .working (plan.filter (fun v => v ∉ applied)) := by
  cases hmove with
  | connect hat hurl =>
    left
    rw [progress_of_url hurl, progress_of_url hurl, hat.2.2]
  | connectFails hat hurl =>
    rw [progress_of_url hurl]
    exact .inr (.inl rfl)
  | useMemory hat hurl =>
    left
    unfold Serve.progress
    rw [if_pos hurl, if_pos hurl]
  | @readVersions plan hat hplan =>
    have hurl := h.database (.inl hat.2.2)
    rw [progress_of_url hurl, progress_of_url hurl, hat.2.2]
    exact .inr (.inr (.inr ⟨plan, hplan, rfl, rfl⟩))
  | migrateFails hat =>
    have hurl := h.database (hat.imp (fun hat => hat.2.2) (fun ⟨todo, hat⟩ => ⟨todo, hat.2.2⟩))
    rw [progress_of_url hurl]
    exact .inr (.inl rfl)
  | storageReady hat =>
    have hurl := h.database (.inr ⟨_, hat.2.2⟩)
    rw [progress_of_url hurl, progress_of_url hurl, hat.2.2]
    exact .inr (.inr (.inl ⟨rfl, rfl⟩))
  | bindFails | ends =>
    refine .inl (progress_congr ?_)
    show (if _ then q.shutdown else q).startup = q.startup
    split <;> rfl
  | _ => exact .inl (progress_congr rfl)

/-- **Simulation**: the processes migrate as workers that share a record do. -/
theorem migrations_step (hreach : Reachable (system setup) s) (hstep : (system setup).step s l s') :
    (∃ k, (OrderedSteps.system (plan setup)).step (migrations setup s) k (migrations setup s')) ∨
      migrations setup s' = migrations setup s := by
  simp only [system] at hstep
  cases l with
  | move p =>
    obtain ⟨q, hmove, rfl⟩ := hstep
    rcases hmove.progress (sound_of_reachable hreach p) with
      hsame | hfailed | ⟨hlast, hfinished⟩ | ⟨vs, hvs, hidle, hread⟩
    · exact .inr (migrations_same hsame)
    · refine .inl ⟨.fail p, ?_⟩
      show _ = _
      rw [migrations_set, hfailed]
    · refine .inl ⟨.finish p, hlast, ?_⟩
      rw [migrations_set, hfinished]
    · refine .inl ⟨.read p, hidle, ?_⟩
      rw [migrations_set, hread, plan, hvs]
      rfl
  | applyVersion p =>
    obtain ⟨v, todo, hat, hfresh, rfl⟩ := hstep
    have hurl := (sound_of_reachable hreach p).database (.inr ⟨_, hat.2.2⟩)
    left
    refine ⟨.commit p, v, todo, ?_, hfresh, ?_⟩
    · show progress (setup.settings p) (s.procs p) = .working (v :: todo)
      rw [progress_of_url hurl, hat.2.2]
    · have hset : migrations setup (s.set p { s.procs p with startup := .migrating todo }) = _ :=
        migrations_set p _
      rw [progress_of_url hurl] at hset
      have hprogress := congrArg OrderedSteps.State.progress hset
      unfold migrations at hprogress ⊢
      simp only at hprogress ⊢
      rw [hprogress]
  | receive p l r =>
    obtain ⟨-, -, -, rfl⟩ := hstep
    split
    · exact .inr (migrations_same (progress_congr rfl))
    · exact .inr rfl
  | handle p l r =>
    obtain ⟨-, -, rfl⟩ := hstep
    obtain ⟨memory, hmemory⟩ := respond_process (s.procs p) s.db r
    right
    refine Eq.trans ?_ (migrations_same (s := s) (p := p)
      (q := { (respond (s.procs p) s.db r).1 with
        inflight := (s.procs p).inflight.erase (l, r) }) (progress_congr ?_))
    · unfold migrations
      simp only [respond_applied]
      rfl
    · rw [hmemory]
  | refuse p l r status =>
    obtain ⟨-, -, -, -, rfl⟩ := hstep
    exact .inr (migrations_same (s := s) (progress_congr rfl))
  | purge p expired =>
    obtain ⟨-, -, -, -, rfl⟩ := hstep
    exact .inr rfl

theorem reachable_migrations (h : Reachable (system setup) s) :
    Reachable (OrderedSteps.system (plan setup)) (migrations setup s) := by
  refine Reachable.simulate (migrations setup) ?_ (fun s l s' hreach hstep =>
    migrations_step hreach hstep) h
  intro s hs
  rw [hs]
  show migrations setup {} = {}
  unfold migrations
  congr
  funext p
  unfold progress
  split <;> rfl

/-- What a process applied before its startup finished. -/
theorem applied_of_finished (h : Reachable (system setup) s) {p : Proc}
    (hurl : (setup.settings p).databaseUrl ≠ "") (hfinished : (s.procs p).startup = .finished)
    {vs : List String} (havailable : setup.migrations p = .ok vs) :
    ∀ v ∈ vs, v ∈ s.db.applied := by
  have hplan : plan setup p = vs := by
    unfold plan
    rw [havailable]
  rw [← hplan]
  refine (OrderedSteps.kept_of_reachable (reachable_migrations h)).finished ?_
  show progress (setup.settings p) (s.procs p) = .finished
  rw [progress_of_url hurl, hfinished]

/-- **Migrations in order**: whatever processes start, crash and restart at whatever time, no
    migration is applied twice, and a process whose startup finished has all of its own applied;
    and if newer images only add migrations at the end, `schema_migrations` is at all times an
    initial part of the full sequence. -/
theorem migrations_in_order (setup : Setup Proc) (s : State Proc)
    (hreach : Reachable (system setup) s) :
    s.db.applied.Nodup ∧
    (∀ p, (setup.settings p).databaseUrl ≠ "" → (s.procs p).startup = .finished →
      ∀ vs, setup.migrations p = .ok vs → ∀ v ∈ vs, v ∈ s.db.applied) ∧
    ∀ common : List String, common.Nodup →
      (∀ p vs, setup.migrations p = .ok vs → vs <+: common) → s.db.applied <+: common := by
  have hmigrations := reachable_migrations hreach
  refine ⟨(OrderedSteps.kept_of_reachable hmigrations).nodup, ?_, ?_⟩
  · intro p hurl hfinished vs havailable
    exact applied_of_finished hreach hurl hfinished havailable
  · intro common hnodup hplans
    refine OrderedSteps.record_initial hnodup ?_ hmigrations
    intro p
    unfold plan
    split
    · next vs havailable => exact hplans p vs havailable
    · exact List.nil_prefix

/-! ### Accepted means durable -/

/-- A request under way is on a listener of the process, and the first one has started. -/
theorem Sound.serving (h : Sound cfg q) {x : Listener × Request} (hx : x ∈ q.inflight) :
    x.1 ∈ q.first :: q.rest ∧ q.started = true := by
  have hserver := h.inflight x hx
  have hborn : q.server x.1 ≠ .unborn := by
    intro hunborn
    rw [hunborn] at hserver
    simp at hserver
  rcases h.born x.1 hborn with hfirst | ⟨hrest, hstarted⟩
  · exact ⟨List.mem_cons.mpr (.inl hfirst), h.opened (hfirst ▸ hserver)⟩
  · exact ⟨List.mem_cons_of_mem _ hrest, hstarted⟩

/-- On the database, a success stands for a committed batch. -/
theorem ingest_durable {db : Database} {batchId : String} (hrepository : q.repository = .postgres)
    (hstatus : (ingest q db batchId).2.2 = 200 ∨ (ingest q db batchId).2.2 = 202) :
    batchId ∈ (ingest q db batchId).2.1.batches := by
  unfold ingest at hstatus ⊢
  rw [hrepository] at hstatus ⊢
  cases hpool : q.pool with
  | none => rw [hpool] at hstatus; simp at hstatus
  | closing => rw [hpool] at hstatus; simp at hstatus
  | closed => rw [hpool] at hstatus; simp at hstatus
  | «open» =>
    by_cases hknown : batchId ∈ db.batches
    · simp [hknown]
    · simp [hknown]

/-- Committed, and deleted by retention since or not. -/
def Database.committed (db : Database) (id : String) : Prop := id ∈ db.batches ∨ id ∈ db.purged

theorem respond_committed (q : Process) (db : Database) (r : Request) :
    ∀ id, db.committed id → (respond q db r).2.1.committed id := by
  intro id hid
  unfold respond ingest
  repeat' split
  all_goals first | exact hid | exact hid.imp_left (List.mem_cons_of_mem _)

/-- What retention deletes was committed. -/
theorem purge_committed {db : Database} {id : String} (expired : String → Bool)
    (h : db.committed id) :
    Database.committed { db with
      batches := db.batches.filter (fun id => !expired id)
      purged := db.purged ++ db.batches.filter expired } id := by
  rcases h with h | h
  · by_cases hexpired : expired id = true
    · exact .inr (List.mem_append_right _ (List.mem_filter.mpr ⟨h, hexpired⟩))
    · exact .inl (List.mem_filter.mpr ⟨h, by simpa using hexpired⟩)
  · exact .inr (List.mem_append_left _ h)

/-- What a success of the ingest route stands for, when a database is configured. -/
def Durable (setup : Setup Proc) (s : State Proc) (e : Served Proc) : Prop :=
  e.request.isIngest = true → e.status = 200 ∨ e.status = 202 →
  (setup.settings e.process).databaseUrl ≠ "" →
  s.db.committed e.request.batchId ∧ (s.procs e.process).started = true ∧
  ((e.listener = .all ∧ (setup.settings e.process).tlsEnabled = .ok false) ∨
    (e.listener = .ingest ∧ (setup.settings e.process).tlsEnabled = .ok true ∧
      e.request.peer = some (setup.settings e.process).tlsIngestClientCaFile))

omit [DecidableEq Proc] in
/-- What was promised is kept by steps that take nothing back. -/
theorem Durable.mono {e : Served Proc} (h : Durable setup s e)
    (hbatches : ∀ id, s.db.committed id → s'.db.committed id)
    (hstarted : ∀ p, (s.procs p).started = true → (s'.procs p).started = true) :
    Durable setup s' e := by
  intro hingest hstatus hurl
  obtain ⟨hbatch, hprocess, hlistener⟩ := h hingest hstatus hurl
  exact ⟨hbatches _ hbatch, hstarted _ hprocess, hlistener⟩

theorem started_set {p : Proc} {q : Process} (h : (s.procs p).started = true → q.started = true)
    (p' : Proc) : (s.procs p').started = true → (Function.update s.procs p q p').started = true :=
  (Function.forall_update_iff s.procs (fun p q => (s.procs p).started = true → q.started = true)).mpr
    ⟨h, fun _ _ h => h⟩ p'

theorem Move.started (hmove : Move cfg vs applied q q') (h : q.started = true) :
    q'.started = true := by
  cases hmove with
  | opens => exact (Bool.or_eq_true _ _).mpr (.inl h)
  | bindFails | ends =>
    show (if _ then q.shutdown else q).started = true
    split <;> exact h
  | _ => exact h

omit [DecidableEq Proc] in
/-- The response of the application to an ingest request is durable when it says success. -/
theorem durable_of_response (hsound : ∀ p, Sound (setup.settings p) (s.procs p)) {p : Proc}
    {l : Listener} {r : Request} (hin : (l, r) ∈ (s.procs p).inflight)
    (hlive : (s.procs p).phase.live = true) (hdb : s'.db = (respond (s.procs p) s.db r).2.1)
    (hkept : (s.procs p).started = true → (s'.procs p).started = true) :
    Durable setup s' ⟨p, l, r, (respond (s.procs p) s.db r).2.2⟩ := by
  intro hingest hstatus hurl
  change r.isIngest = true at hingest
  obtain ⟨hlistener, hstarted⟩ := (hsound p).serving hin
  obtain ⟨hallows, hpeer⟩ := (hsound p).admitted _ hin
  -- the startup has finished, so the adapter is the database
  have hrepository := (hsound p).ready ((hsound p).started hstarted) hurl
  have hrespond : respond (s.procs p) s.db r = ingest (s.procs p) s.db r.batchId := if_pos hingest
  refine ⟨?_, hkept hstarted, ?_⟩
  · show s'.db.committed r.batchId
    rw [hdb, hrespond]
    rw [hrespond] at hstatus
    exact .inl (ingest_durable hrepository hstatus)
  · rcases listener_of_ingest ((hsound p).listeners hlive).1 hlistener hingest hallows with
      ⟨hall, htls⟩ | ⟨hl, htls⟩
    · exact .inl ⟨hall, htls⟩
    · change l = .ingest at hl
      subst hl
      exact .inr ⟨rfl, htls, hpeer.resolve_left (by simp [clientCa])⟩

theorem durable_of_reachable (h : Reachable (system setup) s) :
    ∀ e ∈ s.served, Durable setup s e := by
  refine System.invariant_of_reachable (fun s => ∀ e ∈ s.served, Durable setup s e) ?_ ?_ s h
  · intro s hs e he
    rw [hs] at he
    cases he
  · intro s l s' hreach hinv hstep e he
    simp only [system] at hstep
    cases l with
    | move p =>
      obtain ⟨q, hmove, rfl⟩ := hstep
      exact (hinv e he).mono (fun _ h => h) (started_set hmove.started)
    | applyVersion p =>
      obtain ⟨v, todo, -, -, rfl⟩ := hstep
      exact (hinv e he).mono (fun _ h => h) (started_set (fun h => h))
    | receive p l r =>
      obtain ⟨-, -, -, rfl⟩ := hstep
      split at he
      · rw [if_pos ‹_›]
        exact (hinv e he).mono (fun _ h => h) (started_set (fun h => h))
      · rw [if_neg ‹_›]
        rcases List.mem_append.mp he with he | he
        · exact hinv e he
        · rw [List.mem_singleton.mp he]
          exact fun _ hstatus => absurd hstatus (by simp)
    | handle p l r =>
      obtain ⟨hlive, hin, rfl⟩ := hstep
      obtain ⟨memory, hmemory⟩ := respond_process (s.procs p) s.db r
      have hkept : ∀ p', (s.procs p').started = true → (Function.update s.procs p
          { (respond (s.procs p) s.db r).1 with
            inflight := (s.procs p).inflight.erase (l, r) } p').started = true :=
        started_set (fun h => by rw [hmemory]; exact h)
      rcases List.mem_append.mp he with he | he
      · exact (hinv e he).mono (respond_committed _ _ _) hkept
      · rw [List.mem_singleton.mp he]
        exact durable_of_response (sound_of_reachable hreach) hin hlive rfl (hkept p)
    | refuse p l r status =>
      obtain ⟨-, -, h200, h202, rfl⟩ := hstep
      rcases List.mem_append.mp he with he | he
      · exact (hinv e he).mono (fun _ h => h) (started_set (fun h => h))
      · rw [List.mem_singleton.mp he]
        exact fun _ hstatus => absurd hstatus (not_or.mpr ⟨h200, h202⟩)
    | purge p expired =>
      obtain ⟨-, -, -, -, rfl⟩ := hstep
      exact (hinv e he).mono (fun _ h => purge_committed expired h) (fun _ h => h)

/-- The step that gives the answer is the one that commits, or finds the batch there. -/
theorem answered_in_database (hreach : Reachable (system setup) s)
    (hstep : (system setup).step s l s') {e : Served Proc} (he : s'.served = s.served ++ [e])
    (hingest : e.request.isIngest = true) (hstatus : e.status = 200 ∨ e.status = 202)
    (hurl : (setup.settings e.process).databaseUrl ≠ "") :
    e.request.batchId ∈ s'.db.batches := by
  simp only [system] at hstep
  -- the other steps answer nothing, or not with success
  cases l with
  | move p =>
    obtain ⟨q, -, rfl⟩ := hstep
    exact absurd he (by simp [State.set])
  | applyVersion p =>
    obtain ⟨v, todo, -, -, rfl⟩ := hstep
    exact absurd he (by simp [State.set])
  | receive p l r =>
    obtain ⟨-, -, -, rfl⟩ := hstep
    split at he
    · exact absurd he (by simp [State.set])
    · obtain rfl : (⟨p, l, r, 404⟩ : Served Proc) = e := by simpa using he
      exact absurd hstatus (by simp)
  | handle p l r =>
    obtain ⟨hlive, hin, rfl⟩ := hstep
    obtain rfl : (⟨p, l, r, (respond (s.procs p) s.db r).2.2⟩ : Served Proc) = e := by
      simpa using he
    have hsound := sound_of_reachable hreach p
    have hrepository := hsound.ready (hsound.started (hsound.serving hin).2) hurl
    have hrespond : respond (s.procs p) s.db r = ingest (s.procs p) s.db r.batchId := if_pos hingest
    show r.batchId ∈ (respond (s.procs p) s.db r).2.1.batches
    simp only [hrespond] at hstatus ⊢
    exact ingest_durable hrepository hstatus
  | refuse p l r status =>
    obtain ⟨-, -, h200, h202, rfl⟩ := hstep
    obtain rfl : (⟨p, l, r, status⟩ : Served Proc) = e := by simpa using he
    exact absurd hstatus (not_or.mpr ⟨h200, h202⟩)
  | purge p expired =>
    obtain ⟨-, -, -, -, rfl⟩ := hstep
    exact absurd he (by simp)

/-- **Accepted means durable**: in every run of any number of processes, a batch that a process
    with a database answers with 200 or 202 is committed there when it answers; and of every such
    answer that was given, the batch is still there unless retention deleted it since, all
    migrations of the process are applied, and it came in over the one listener for ingestion:
    with TLS, from a client with a certificate of the ingest CA. -/
theorem accepted_is_durable (setup : Setup Proc) (s : State Proc)
    (hreach : Reachable (system setup) s) :
    (∀ (l : Label Proc) (s' : State Proc) (e : Served Proc), (system setup).step s l s' →
      s'.served = s.served ++ [e] → e.request.isIngest = true →
      e.status = 200 ∨ e.status = 202 → (setup.settings e.process).databaseUrl ≠ "" →
      e.request.batchId ∈ s'.db.batches) ∧
    ∀ e ∈ s.served, e.request.isIngest = true → e.status = 200 ∨ e.status = 202 →
      (setup.settings e.process).databaseUrl ≠ "" →
      (e.request.batchId ∈ s.db.batches ∨ e.request.batchId ∈ s.db.purged) ∧
      (∀ vs, setup.migrations e.process = .ok vs → ∀ v ∈ vs, v ∈ s.db.applied) ∧
      ((e.listener = .all ∧ (setup.settings e.process).tlsEnabled = .ok false) ∨
        (e.listener = .ingest ∧ (setup.settings e.process).tlsEnabled = .ok true ∧
          e.request.peer = some (setup.settings e.process).tlsIngestClientCaFile)) := by
  constructor
  · intro l s' e hstep he hingest hstatus hurl
    exact answered_in_database hreach hstep he hingest hstatus hurl
  · intro e he hingest hstatus hurl
    obtain ⟨hbatch, hstarted, hlistener⟩ := durable_of_reachable hreach e he hingest hstatus hurl
    refine ⟨hbatch, ?_, hlistener⟩
    intro vs havailable
    exact applied_of_finished hreach hurl ((sound_of_reachable hreach e.process).started hstarted)
      havailable

/-! ### Closing in order -/

/-- **Shutdown in order**: in every run a process begins to close its pool only after its
    background tasks and all listeners but the first ended, while the first one closes, and the
    pool is closed only when that one ended too, so that the only requests still under way are
    those of a listener that crashed; and it exits with code 0 only after a signal and when all
    of its listeners ended, with the pool closed unless the first one crashed. -/
theorem closed_after_last_request (setup : Setup Proc) (s : State Proc)
    (hreach : Reachable (system setup) s) (p : Proc) :
    ((s.procs p).pool = .closing → (s.procs p).tasks = false ∧
      ((s.procs p).server (s.procs p).first = .closing ∨
        ((s.procs p).server (s.procs p).first).isEnded = true) ∧
      (∀ l ∈ (s.procs p).rest, ((s.procs p).server l).isEnded = true) ∧
      ∀ x ∈ (s.procs p).inflight, (s.procs p).server x.1 = .ended true) ∧
    ((s.procs p).pool = .closed → (s.procs p).tasks = false ∧
      (∀ l ∈ (s.procs p).first :: (s.procs p).rest,
        (s.procs p).server l = .unborn ∨ ((s.procs p).server l).isEnded = true) ∧
      ∀ x ∈ (s.procs p).inflight, (s.procs p).server x.1 = .ended true) ∧
    ((s.procs p).phase = .exited 0 → (s.procs p).stop = true ∧
      (∀ l ∈ (s.procs p).first :: (s.procs p).rest, ((s.procs p).server l).isEnded = true) ∧
      ((setup.settings p).databaseUrl ≠ "" →
        (s.procs p).server (s.procs p).first = .ended false → (s.procs p).pool = .closed)) := by
  have hsound := sound_of_reachable hreach p
  refine ⟨hsound.drained, ?_, ?_⟩
  · intro hclosed
    obtain ⟨htasks, hfirst, hrest⟩ := hsound.closed hclosed
    have hservers : ∀ l ∈ (s.procs p).first :: (s.procs p).rest,
        (s.procs p).server l = .unborn ∨ ((s.procs p).server l).isEnded = true := by
      intro l hl
      rcases List.mem_cons.mp hl with rfl | hl
      · exact .inr hfirst
      · exact hrest l hl
    refine ⟨htasks, hservers, ?_⟩
    intro x hx
    have hx' := hservers x.1 (hsound.serving hx).1
    rcases hsound.inflight x hx with hopen | hclosing | hended
    · rw [hopen] at hx'
      simp [Server.isEnded] at hx'
    · rw [hclosing] at hx'
      simp [Server.isEnded] at hx'
    · exact hended
  · intro hexited
    have hjoined := hsound.exits (hsound.joined (.inr hexited))
    have hstarted := hsound.running (.inr (.inr (.inr hexited)))
    refine ⟨hsound.stopped (.inr (.inr hexited)), ?_, ?_⟩
    · intro l hl
      rcases List.mem_cons.mp hl with rfl | hl
      · exact hsound.exited hexited
      · exact hjoined l hl
    · intro hurl hended
      exact hsound.settled hended hstarted (hsound.ready (hsound.started hstarted) hurl)

/-! ### A crash, a restart and an update -/

/-- Moves of one process, one after the other. -/
theorem reachable_run {p : Proc} (hreach : Reachable (system setup) s)
    (hrun : Relation.ReflTransGen
      (Move (setup.settings p) (setup.migrations p) s.db.applied) (s.procs p) q) :
    Reachable (system setup) (s.set p q) := by
  induction hrun with
  | refl =>
    rw [State.set, Function.update_eq_self]
    exact hreach
  | @tail q₁ q₂ _ hmove ih =>
    have hset : (s.set p q₁).procs p = q₁ := Function.update_self ..
    have hstep : Reachable (system setup) ((s.set p q₁).set p q₂) :=
      ih.step (l := Label.move p) ⟨q₂, by rw [hset]; exact hmove, rfl⟩
    rwa [State.set, State.set, Function.update_idem] at hstep

def sampleSettings : Settings where
  tlsCertFile := "tls.crt"
  tlsKeyFile := "tls.key"
  tlsIngestClientCaFile := "ingest-ca.crt"
  tlsApiClientCaFile := "api-ca.crt"
  databaseUrl := "postgresql://topology@db/topology"

/-- Two processes with one migration in their image, and one of the next release. -/
def sampleSetup : Setup (Fin 3) where
  settings := fun _ => sampleSettings
  migrationsDir := "/app/migrations"
  files := fun p => if p = 2 then some ["002_connection_outcomes.sql", "001_initial.sql"]
    else some ["001_initial.sql"]

def sampleVersions : List String := ["001_initial.sql", "002_connection_outcomes.sql"]

theorem migrations_sample : ∀ p, sampleSetup.migrations p =
    .ok (if p = 2 then sampleVersions else ["001_initial.sql"]) := by
  decide +kernel

/-- The startup, until the versions are read. -/
def migratingProcess (todo : List String) : Process where
  phase := .launching
  first := .ops
  rest := [.ingest, .api]
  server := Function.update (fun _ => .unborn) .ops .starting
  startup := .migrating todo
  pool := .open

/-- A process that serves. -/
def servingProcess (inflight : List (Listener × Request)) : Process where
  phase := .waiting
  first := .ops
  rest := [.ingest, .api]
  server := fun l => if l = .all then .unborn else .open
  started := true
  startup := .finished
  repository := .postgres
  pool := .open
  tasks := true
  inflight := inflight

theorem run_migrating (plan applied : List String) :
    Relation.ReflTransGen (Move sampleSettings (.ok plan) applied) {}
      (migratingProcess (plan.filter (fun v => v ∉ applied))) := by
  have hlisteners : listeners sampleSettings = .ok (.ops, [.ingest, .api]) := rfl
  exact ((Relation.ReflTransGen.single (.launch rfl hlisteners)).tail
    (.connect ⟨rfl, rfl, rfl⟩ (by decide))).tail (.readVersions ⟨rfl, rfl, rfl⟩ rfl)

theorem run_serving (vs : Except String (List String)) (applied : List String) :
    Relation.ReflTransGen (Move sampleSettings vs applied) (migratingProcess [])
      (servingProcess []) := by
  have hrun := ((((Relation.ReflTransGen.single
    (@Move.storageReady sampleSettings vs applied (migratingProcess []) ⟨rfl, rfl, rfl⟩)).tail
    (.opens (l := .ops) rfl rfl (fun _ => rfl))).tail (.seesStarted rfl rfl)).tail
    (.opens (l := .ingest) rfl rfl nofun)).tail (.opens (l := .api) rfl rfl nofun)
  convert hrun using 1
  unfold servingProcess Process.setServer
  congr 1
  funext l
  cases l <;> rfl

/-- It stops on a signal. -/
theorem run_stopped (vs : Except String (List String)) (applied : List String) :
    ∃ q, Relation.ReflTransGen (Move sampleSettings vs applied) (servingProcess []) q ∧
      q.phase = .exited 0 ∧ q.pool = .closed ∧ q.startup = .finished := by
  have hrun := (((((((((((Relation.ReflTransGen.single
    (@Move.signal sampleSettings vs applied (servingProcess []) rfl)).tail
    (@Move.wake _ _ _ _ false rfl (fun _ => rfl) nofun)).tail
    (.closes (l := .ingest) rfl rfl (.inl ⟨by decide, rfl⟩))).tail
    (.ends (l := .ingest) rfl rfl nofun nofun nofun)).tail
    (.closes (l := .api) rfl rfl (.inl ⟨by decide, rfl⟩))).tail
    (.ends (l := .api) rfl rfl nofun nofun nofun)).tail
    (.restJoined rfl (by decide))).tail
    (.closes (l := .ops) rfl rfl (.inr ⟨rfl, rfl⟩))).tail
    (.endTasks rfl rfl nofun)).tail
    (.closePool rfl rfl nofun rfl rfl)).tail
    (.ends (l := .ops) rfl rfl nofun (fun _ => rfl) (fun _ _ => rfl))).tail
    (.firstJoined rfl rfl)
  exact ⟨_, hrun, rfl, rfl, rfl⟩

def sampleRequest : Request :=
  ⟨"POST", ingestPath, "01HZX3V9K7QWERTY0123456789", some "ingest-ca.crt"⟩

/-- Process 0 applies the first migration and is killed. Process 1 finds it applied, and takes a
    batch. Process 2 applies the second one, and gets the batch again; then process 1 stops. -/
theorem reachable_sample : ∃ s, Reachable (system sampleSetup) s ∧
    s.served = [⟨1, .ingest, sampleRequest, 202⟩, ⟨2, .ingest, sampleRequest, 200⟩] ∧
    s.db.applied = sampleVersions ∧ s.db.purged = [] ∧ (s.procs 0).phase = .killed ∧
    (s.procs 1).phase = .exited 0 ∧ (s.procs 1).pool = .closed ∧
    (s.procs 1).startup = .finished ∧ (s.procs 2).startup = .finished := by
  have hmigrating : ∀ {s : State (Fin 3)} {p : Fin 3}, Reachable (system sampleSetup) s →
      s.procs p = {} → Reachable (system sampleSetup) (s.set p (migratingProcess
        ((if p = 2 then sampleVersions else ["001_initial.sql"]).filter
          (fun v => v ∉ s.db.applied)))) := by
    intro s p hs hp
    refine reachable_run hs ?_
    rw [hp, migrations_sample]
    exact run_migrating _ _
  have hserving : ∀ {s : State (Fin 3)} {p : Fin 3}, Reachable (system sampleSetup) s →
      s.procs p = migratingProcess [] →
      Reachable (system sampleSetup) (s.set p (servingProcess [])) := by
    intro s p hs hp
    refine reachable_run hs ?_
    rw [hp]
    exact run_serving _ _
  have h₀ : Reachable (system sampleSetup) {} := .init rfl
  have h₁ := (hmigrating (p := 0) h₀ rfl).step (l := Label.applyVersion 0)
    ⟨"001_initial.sql", [], ⟨rfl, rfl, rfl⟩, List.not_mem_nil, rfl⟩
  have h₂ := h₁.step (l := Label.move 0) ⟨_, .kill rfl, rfl⟩
  have h₃ := hserving (p := 1) (hmigrating (p := 1) h₂ rfl) rfl
  have h₄ := (h₃.step (l := Label.receive 1 .ingest sampleRequest) ⟨rfl, rfl, .inr rfl, rfl⟩).step
    (l := Label.handle 1 .ingest sampleRequest) ⟨rfl, List.mem_singleton_self _, rfl⟩
  have h₅ := (hmigrating (p := 2) h₄ rfl).step (l := Label.applyVersion 2)
    ⟨"002_connection_outcomes.sql", [], ⟨rfl, rfl, rfl⟩, by decide, rfl⟩
  have h₆ := hserving (p := 2) h₅ rfl
  have h₇ := (h₆.step (l := Label.receive 2 .ingest sampleRequest) ⟨rfl, rfl, .inr rfl, rfl⟩).step
    (l := Label.handle 2 .ingest sampleRequest) ⟨rfl, List.mem_singleton_self _, rfl⟩
  obtain ⟨q, hrun, hphase, hpool, hfinished⟩ := run_stopped
    (sampleSetup.migrations 1) sampleVersions
  exact ⟨_, reachable_run (p := 1) h₇ hrun, rfl, rfl, rfl, rfl, hphase, hpool, hfinished, rfl⟩

theorem migrations_in_order_sample : ∃ s, Reachable (system sampleSetup) s ∧
    (s.procs 0).phase = .killed ∧ s.db.applied.Nodup ∧ s.db.applied <+: sampleVersions ∧
    ∀ v ∈ sampleVersions, v ∈ s.db.applied := by
  obtain ⟨s, hreach, -, -, -, hkilled, -, -, -, hfinished⟩ := reachable_sample
  obtain ⟨hnodup, hall, hinitial⟩ := migrations_in_order sampleSetup s hreach
  refine ⟨s, hreach, hkilled, hnodup, hinitial sampleVersions (by decide) ?_,
    hall 2 (by decide) hfinished _ (migrations_sample 2)⟩
  intro p vs hvs
  rw [migrations_sample] at hvs
  cases hvs
  split
  · exact List.prefix_rfl
  · exact ⟨["002_connection_outcomes.sql"], rfl⟩

/-- The answers of both processes stand for the one batch. -/
theorem accepted_is_durable_sample : ∃ s, Reachable (system sampleSetup) s ∧
    (s.served.map Served.status) = [202, 200] ∧ sampleRequest.batchId ∈ s.db.batches := by
  obtain ⟨s, hreach, hserved, -, hpurged, -⟩ := reachable_sample
  have hdurable := (accepted_is_durable sampleSetup s hreach).2 ⟨1, .ingest, sampleRequest, 202⟩
    (by rw [hserved]; exact List.mem_cons_self) rfl (.inr rfl) (by decide)
  refine ⟨s, hreach, by rw [hserved]; rfl, hdurable.1.resolve_right ?_⟩
  rw [hpurged]
  exact List.not_mem_nil

theorem closed_after_last_request_sample : ∃ s, Reachable (system sampleSetup) s ∧
    (s.procs 1).pool = .closed ∧ (s.procs 1).tasks = false ∧ (s.procs 1).stop = true := by
  obtain ⟨s, hreach, -, -, -, -, hexited, hclosed, -⟩ := reachable_sample
  have horder := closed_after_last_request sampleSetup s hreach 1
  exact ⟨s, hreach, hclosed, (horder.2.1 hclosed).1, (horder.2.2 hexited).1⟩

end TopologyVisualizer.Backend.Serve
