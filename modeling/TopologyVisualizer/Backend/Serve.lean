import TopologyVisualizer.Framework.OrderedSteps
import TopologyVisualizer.Framework.KeyedSum
import Mathlib.Data.String.Basic

/-! # Backend Processes from Start to Exit

    `serve.py`, the lifespan of `main.py`, `listeners.py` and `migrate` of
    `postgres.py`, for any number of processes that share one database: the
    replicas of a deployment, a rolling update, restarts after a crash. A
    process that was restarted is another element of `Proc`.

    Of uvicorn the model has what `serve` relies on: a server with
    `lifespan="on"` runs the startup of the application before it binds and
    its shutdown after the last request, a server told to exit closes its
    sockets and waits for the requests under way, and any server may end by
    itself. The process may be killed at any point.

    Of what is stored there are the migrations and the ids of the batches.
    The retention task of a process with a database may delete any of these
    ids at any time; what else it deletes is in `Backend/Retention.lean`. The
    adapter in memory forgets no id.

    The results are in `Backend/ServeSafety.lean`.
-/

namespace TopologyVisualizer.Backend.Serve

open LTS

universe u

/-! ### Listeners -/

/-- The listeners of `listeners.py`. -/
inductive Listener where
  | ops
  | ingest
  | api
  | all
  deriving DecidableEq, Repr

def ingestPath : String := "/api/v1/ingest/batches"

/-- `str.startswith`. -/
def startsWith (path start : String) : Bool := decide (start.toList <+: path.toList)

/-- May this listener serve it? -/
def Listener.allows (l : Listener) (method path : String) : Bool :=
  match l with
  | .ingest => method = "POST" && path = ingestPath
  | .api => (method = "GET" || method = "HEAD") && startsWith path "/api/v1/" &&
      !startsWith path "/api/v1/ingest/"
  | .ops => (method = "GET" || method = "HEAD") &&
      (path = "/health/live" || path = "/health/ready" || path = "/metrics")
  | .all => true

/-- What a process reads of its environment. -/
structure Settings where
  tlsCertFile : String := ""
  tlsKeyFile : String := ""
  tlsIngestClientCaFile : String := ""
  tlsApiClientCaFile : String := ""
  databaseUrl : String := ""

def Settings.tlsFiles (s : Settings) : List String :=
  [s.tlsCertFile, s.tlsKeyFile, s.tlsIngestClientCaFile, s.tlsApiClientCaFile]

/-- All four TLS files, or none. -/
def Settings.tlsEnabled (s : Settings) : Except String Bool :=
  let present := s.tlsFiles.map (fun f => decide (f ≠ ""))
  if present.any id && !present.all id then
    .error ("TLS_CERT_FILE, TLS_KEY_FILE, TLS_INGEST_CLIENT_CA_FILE and TLS_API_CLIENT_CA_FILE " ++
      "must be set together")
  else .ok (present.all id)

/-- The listener that runs startup, and the listeners that open after it. -/
def listeners (s : Settings) : Except String (Listener × List Listener) := do
  if !(← s.tlsEnabled) then return (.all, [])
  else return (.ops, [.ingest, .api])

/-- The CA a client of this listener needs a certificate of. -/
def clientCa (s : Settings) : Listener → Option String
  | .ingest => some s.tlsIngestClientCaFile
  | .api => some s.tlsApiClientCaFile
  | .ops => none
  | .all => none

/-! ### Migrations -/

/-- The migrations of an image, in filename order. -/
def available (dir : String) (files : Option (List String)) : Except String (List String) :=
  match files with
  | none =>
    .error ("migrations directory not found at " ++ dir ++ "; the image is missing its schema")
  | some files =>
    if files = [] then .error ("no .sql migrations found in " ++ dir) else .ok (sortOn id files)

/-! ### State -/

structure Request where
  method : String
  path : String
  batchId : String
  /-- The CA of the client's certificate, if it has one. -/
  peer : Option String
  deriving DecidableEq

/-- Is it for the ingest route? -/
def Request.isIngest (r : Request) : Bool := r.method = "POST" && r.path = ingestPath

/-- A uvicorn server. -/
inductive Server where
  | unborn
  | starting
  /-- Bound: `started` is set. -/
  | open
  /-- It saw `should_exit`: the sockets are closed, requests under way go on. -/
  | closing
  /-- `serve` returned or raised. -/
  | ended (crashed : Bool)
  deriving DecidableEq

def Server.isEnded : Server → Bool
  | .ended _ => true
  | _ => false

/-- The startup half of the lifespan. -/
inductive Startup where
  | pending
  /-- The pool is open. -/
  | connected
  /-- `migrate` read `schema_migrations`. -/
  | migrating (todo : List String)
  | finished
  | failed
  deriving DecidableEq

inductive Pool where
  | none
  | open
  /-- `close` was called: there are no connections any more. -/
  | closing
  /-- `close` returned, and with it the lifespan. -/
  | closed
  deriving DecidableEq

/-- `app.state.repository`. -/
inductive Repository where
  | memory
  | postgres
  deriving DecidableEq

/-- Where `serve` is. `failed` is its local of that name. -/
inductive Phase where
  | absent
  /-- In the loop on `first.started`. -/
  | launching
  /-- In `asyncio.wait`. -/
  | waiting
  /-- Waiting for the other listeners. -/
  | stoppingRest (failed : Bool)
  /-- Waiting for the first listener. -/
  | stoppingFirst (failed : Bool)
  | exited (code : Nat)
  | killed
  deriving DecidableEq

def Phase.live : Phase → Bool
  | .launching => true
  | .waiting => true
  | .stoppingRest _ => true
  | .stoppingFirst _ => true
  | _ => false

/-- A backend process. -/
structure Process where
  phase : Phase := .absent
  first : Listener := .all
  rest : List Listener := []
  server : Listener → Server := fun _ => .unborn
  /-- `first.started`. -/
  started : Bool := false
  /-- The event the signal handlers set. -/
  stop : Bool := false
  /-- `should_exit` of the other listeners, and of the first. -/
  restExit : Bool := false
  firstExit : Bool := false
  startup : Startup := .pending
  repository : Repository := .memory
  pool : Pool := .none
  /-- The retention, anomaly and alert tasks run. -/
  tasks : Bool := false
  inflight : List (Listener × Request) := []
  /-- The batches in the in-memory adapter. -/
  memory : List String := []

structure Database where
  /-- `schema_migrations`, in the order of the commits. -/
  applied : List String := []
  /-- The ids in `ingest_batches`. -/
  batches : List String := []
  /-- History: the ids that retention deleted from it. -/
  purged : List String := []

/-- A request that was answered. -/
structure Served (Proc : Type u) where
  process : Proc
  listener : Listener
  request : Request
  status : Nat

structure State (Proc : Type u) where
  procs : Proc → Process := fun _ => {}
  db : Database := {}
  served : List (Served Proc) := []

/-- What differs from process to process. -/
structure Setup (Proc : Type u) where
  settings : Proc → Settings
  migrationsDir : String
  /-- The `.sql` files of the image, if it has the directory. -/
  files : Proc → Option (List String)

/-! ### Handling a request -/

/-- The ingest route on the adapter the process has: the new process, database and status. -/
def ingest (q : Process) (db : Database) (batchId : String) : Process × Database × Nat :=
  match q.repository, q.pool with
  | .memory, _ =>
    if batchId ∈ q.memory then (q, db, 200)
    else ({ q with memory := batchId :: q.memory }, db, 202)
  | .postgres, .open =>
    if batchId ∈ db.batches then (q, db, 200)
    else (q, { db with batches := batchId :: db.batches }, 202)
  | .postgres, _ => (q, db, 500)

/-- A request that reached the application. The other routes store nothing. -/
def respond (q : Process) (db : Database) (r : Request) : Process × Database × Nat :=
  if r.isIngest then ingest q db r.batchId else (q, db, 200)

/-! ### What a process does by itself -/

/-- The server of `l` is now `x`. -/
def Process.setServer (q : Process) (l : Listener) (x : Server) : Process :=
  { q with server := Function.update q.server l x }

/-- The end of the shutdown half of the lifespan. -/
def Process.shutdown (q : Process) : Process :=
  { q with
    tasks := false
    pool := if q.repository = .postgres then .closed else q.pool }

/-- Is the startup of the application running, in this point of it? -/
def Process.atStartup (q : Process) (x : Startup) : Prop :=
  q.phase.live = true ∧ q.server q.first = .starting ∧ q.startup = x

/-- The moves of a process with these settings and migrations, while the database has `applied`. -/
inductive Move (cfg : Settings) (vs : Except String (List String)) (applied : List String)
    (q : Process) : Process → Prop where
  | launch {first : Listener} {rest : List Listener} (habsent : q.phase = .absent)
      (hlisteners : listeners cfg = .ok (first, rest)) :
      Move cfg vs applied q (Process.setServer
        { q with phase := .launching, first := first, rest := rest } first .starting)
  /-- `PostgresRepository.connect`. -/
  | connect (hat : q.atStartup .pending) (hurl : cfg.databaseUrl ≠ "") :
      Move cfg vs applied q { q with startup := .connected, pool := .open }
  | connectFails (hat : q.atStartup .pending) (hurl : cfg.databaseUrl ≠ "") :
      Move cfg vs applied q { q with startup := .failed }
  /-- `DATABASE_URL` is unset. -/
  | useMemory (hat : q.atStartup .pending) (hurl : cfg.databaseUrl = "") :
      Move cfg vs applied q
        { q with startup := .finished, repository := .memory, memory := [], tasks := true }
  | readVersions {plan : List String} (hat : q.atStartup .connected) (hplan : vs = .ok plan) :
      Move cfg vs applied q
        { q with startup := .migrating (plan.filter (fun v => v ∉ applied)) }
  | migrateFails (hat : q.atStartup .connected ∨ ∃ todo, q.atStartup (.migrating todo)) :
      Move cfg vs applied q { q with startup := .failed }
  /-- `app.state.repository = postgres`, and the tasks are created. -/
  | storageReady (hat : q.atStartup (.migrating [])) :
      Move cfg vs applied q
        { q with startup := .finished, repository := .postgres, tasks := true }
  /-- A server binds its port. -/
  | opens {l : Listener} (hlive : q.phase.live = true) (hl : q.server l = .starting)
      (hready : l = q.first → q.startup = .finished) :
      Move cfg vs applied q
        (Process.setServer { q with started := q.started || decide (l = q.first) } l .open)
  /-- The port is taken. When it is that of the first server, nothing else of the process runs
      while the lifespan is shut down, so that is one move. -/
  | bindFails {l : Listener} (hlive : q.phase.live = true) (hl : q.server l = .starting)
      (hready : l = q.first → q.startup = .finished) :
      Move cfg vs applied q
        (Process.setServer (if l = q.first then q.shutdown else q) l (.ended false))
  /-- The first server returns because the startup failed. -/
  | startupFailed (hat : q.atStartup .failed) :
      Move cfg vs applied q (q.setServer q.first (.ended false))
  | seesStarted (hphase : q.phase = .launching) (hstarted : q.started = true) :
      Move cfg vs applied q { q with
        phase := .waiting
        server := fun l => if l ∈ q.rest then .starting else q.server l }
  | seesFailed (hphase : q.phase = .launching) (hstarted : q.started = false)
      (hended : (q.server q.first).isEnded = true) :
      Move cfg vs applied q { q with phase := .exited 1 }
  | signal (hlive : q.phase.live = true) : Move cfg vs applied q { q with stop := true }
  /-- `asyncio.wait` returns. -/
  | wake {failed : Bool} (hphase : q.phase = .waiting) (hstop : failed = false → q.stop = true)
      (hfailed : failed = true → ∃ l ∈ q.first :: q.rest, (q.server l).isEnded = true) :
      Move cfg vs applied q { q with phase := .stoppingRest failed, restExit := true }
  /-- A server sees `should_exit`. -/
  | closes {l : Listener} (hlive : q.phase.live = true) (hl : q.server l = .open)
      (hexit : (l ∈ q.rest ∧ q.restExit = true) ∨ (l = q.first ∧ q.firstExit = true)) :
      Move cfg vs applied q (q.setServer l .closing)
  /-- The tasks of the lifespan are cancelled and awaited. -/
  | endTasks (hlive : q.phase.live = true) (hclosing : q.server q.first = .closing)
      (hdone : ∀ x ∈ q.inflight, x.1 ≠ q.first) :
      Move cfg vs applied q { q with tasks := false }
  /-- Then `owned.close` is called. -/
  | closePool (hlive : q.phase.live = true) (hclosing : q.server q.first = .closing)
      (hdone : ∀ x ∈ q.inflight, x.1 ≠ q.first) (htasks : q.tasks = false)
      (howned : q.repository = .postgres) :
      Move cfg vs applied q { q with pool := .closing }
  /-- A server ends after its last request; the first one after the shutdown of the lifespan. -/
  | ends {l : Listener} (hlive : q.phase.live = true) (hl : q.server l = .closing)
      (hdone : ∀ x ∈ q.inflight, x.1 ≠ l) (htasks : l = q.first → q.tasks = false)
      (hpool : l = q.first → q.repository = .postgres → q.pool = .closing) :
      Move cfg vs applied q
        (Process.setServer (if l = q.first then q.shutdown else q) l (.ended false))
  | crashes {l : Listener} (hlive : q.phase.live = true)
      (hl : q.server l = .open ∨ q.server l = .closing) :
      Move cfg vs applied q (q.setServer l (.ended true))
  | restJoined {failed : Bool} (hphase : q.phase = .stoppingRest failed)
      (hended : ∀ l ∈ q.rest, (q.server l).isEnded = true) :
      Move cfg vs applied q { q with phase := .stoppingFirst failed, firstExit := true }
  | firstJoined {failed : Bool} (hphase : q.phase = .stoppingFirst failed)
      (hended : (q.server q.first).isEnded = true) :
      Move cfg vs applied q { q with phase := .exited (if failed then 1 else 0) }
  | kill (hlive : q.phase.live = true) : Move cfg vs applied q { q with phase := .killed }

/-! ### The system -/

inductive Label (Proc : Type u) where
  /-- A process does something by itself. -/
  | move (p : Proc)
  | applyVersion (p : Proc)
  | receive (p : Proc) (l : Listener) (r : Request)
  | handle (p : Proc) (l : Listener) (r : Request)
  /-- The request is refused or fails. -/
  | refuse (p : Proc) (l : Listener) (r : Request) (status : Nat)
  /-- `_retention_loop` deletes the ids of batches that it finds expired. -/
  | purge (p : Proc) (expired : String → Bool)

variable {Proc : Type u} [DecidableEq Proc]

/-- Process `p` goes on as `q`. -/
def State.set (s : State Proc) (p : Proc) (q : Process) : State Proc :=
  { s with procs := Function.update s.procs p q }

/-- The migrations of the image of `p`. -/
def Setup.migrations (setup : Setup Proc) (p : Proc) : Except String (List String) :=
  available setup.migrationsDir (setup.files p)

/-- The processes and their database. -/
def system (setup : Setup Proc) : System (State Proc) (Label Proc) where
  init := fun s => s = {}
  step := fun s lbl s' =>
    match lbl with
    | .move p =>
        ∃ q, Move (setup.settings p) (setup.migrations p) s.db.applied (s.procs p) q ∧
          s' = s.set p q
    | .applyVersion p =>
        ∃ v todo, (s.procs p).atStartup (.migrating (v :: todo)) ∧ v ∉ s.db.applied ∧
          s' = { s.set p { s.procs p with startup := .migrating todo } with
            db := { s.db with applied := s.db.applied ++ [v] } }
    | .receive p l r =>
        (s.procs p).phase.live = true ∧ (s.procs p).server l = .open ∧
        (clientCa (setup.settings p) l = none ∨ r.peer = clientCa (setup.settings p) l) ∧
        s' = if l.allows r.method r.path = true then
            s.set p { s.procs p with inflight := (s.procs p).inflight ++ [(l, r)] }
          else { s with served := s.served ++ [⟨p, l, r, 404⟩] }
    | .handle p l r =>
        (s.procs p).phase.live = true ∧ (l, r) ∈ (s.procs p).inflight ∧
        s' = { s.set p { (respond (s.procs p) s.db r).1 with
                inflight := (s.procs p).inflight.erase (l, r) } with
          db := (respond (s.procs p) s.db r).2.1
          served := s.served ++ [⟨p, l, r, (respond (s.procs p) s.db r).2.2⟩] }
    | .refuse p l r status =>
        (s.procs p).phase.live = true ∧ (l, r) ∈ (s.procs p).inflight ∧
        status ≠ 200 ∧ status ≠ 202 ∧
        s' = { s.set p { s.procs p with inflight := (s.procs p).inflight.erase (l, r) } with
          served := s.served ++ [⟨p, l, r, status⟩] }
    | .purge p expired =>
        (s.procs p).phase.live = true ∧ (s.procs p).tasks = true ∧
        (s.procs p).repository = .postgres ∧ (s.procs p).pool = .open ∧
        s' = { s with db := { s.db with
          batches := s.db.batches.filter (fun id => !expired id)
          purged := s.db.purged ++ s.db.batches.filter expired } }

end TopologyVisualizer.Backend.Serve
