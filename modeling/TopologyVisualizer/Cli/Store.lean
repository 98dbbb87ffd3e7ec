import TopologyVisualizer.Framework.LTS
import TopologyVisualizer.Cli.Credentials

/-! # The Credentials Store

    `Store.Load` and `Store.Update` of `cli/internal/auth/store.go`, run by
    any number of processes on one directory, with the lock of
    `lock_unix.go`.

    An inode is a file's content apart from its name: a reader that has
    opened the credentials file keeps reading the inode it opened, whatever
    is renamed over the name meanwhile. Reads and writes move some bytes at
    a time. A process may fail at any system call and die between any two
    steps; the kernel then releases its lock.

    A call of `Update` that got the lock is a turn; how it ended is its
    fate. The theorems about whole runs speak of three histories: the turns
    in the order of the lock, the files renamed into place, and the reads
    that were completed.
-/

open LTS

namespace TopologyVisualizer.Cli.Store

/-! ### One call by itself -/

/-- What an `Update` callback returns: the file it made of the one it got, `errUnchanged`, or
    another error. -/
inductive Outcome where
  | ok (f : File)
  | unchanged
  | error (message : String)

abbrev Callback := File → Outcome

section contents
variable {β : Type} (text : Json.Text β) (path : String)

/-- `read`, by what is at the path. -/
def read (contents : Option (List β)) : Except String File :=
  match contents with
  -- a missing file is an empty one
  | none => .ok .empty
  | some data =>
    match (text.parse data).bind decodeFile with
    -- without the decoder's message, which can quote the file
    | none => .error (path ++ " is not a valid credentials file; delete it and sign in again")
    | some f =>
      if f.version ≠ fileVersion then
        .error (path ++ " has version " ++ toString f.version ++ ", this binary reads " ++
          toString fileVersion)
      else .ok f

/-- The bytes that `write` writes. -/
def marshal (f : File) : Except String (List β) :=
  match encodeFile { f with version := fileVersion } with
  | .error e => .error ("encoding credentials: " ++ e)
  | .ok j => .ok (text.print j)

/-- What `Update` puts in the place of these contents when nothing disturbs it, if anything. -/
def update (fn : Callback) (contents : Option (List β)) : Option (List β) :=
  match read text path contents with
  | .error _ => none
  | .ok f =>
    match fn f with
    | .ok f' => (marshal text f').toOption
    | _ => none

end contents

/-! ### State -/

/-- How far `read` has come. -/
inductive Reading (β : Type) where
  | stat
  | opening
  /-- The inode that was opened, and the bytes read of it. -/
  | reading (inode : Nat) (got : List β)

/-- Where a process is. A `Reading` is the one of `Load` or of an `Update` with this callback;
    it knows how many files had been renamed into place when it started. -/
inductive Phase (β : Type) where
  | idle
  | dead
  | waiting (fn : Callback)
  | reading (caller : Option Callback) (since : Nat) (r : Reading β)
  | deciding (fn : Callback) (f : File)
  | creating (fn : Callback) (data : List β)
  | writing (fn : Callback) (temp : Nat) (data : List β)
  | written (fn : Callback) (temp : Nat) (data : List β)
  /-- The turn has ended, the lock is still held. -/
  | releasing

/-- The callback of a turn that has not ended. -/
def Phase.pending {β : Type} : Phase β → Option Callback
  | .reading caller _ _ => caller
  | .deciding fn _ => some fn
  | .creating fn _ => some fn
  | .writing fn _ _ => some fn
  | .written fn _ _ => some fn
  | _ => none

/-- The process has the lock. -/
def Phase.locked {β : Type} (ph : Phase β) : Prop := ph.pending.isSome ∨ ph = .releasing

structure Disk (β : Type) where
  /-- The inode of the credentials file. -/
  credentials : Option Nat
  inodes : Nat → List β
  /-- The next inode that will be made. -/
  fresh : Nat
  /-- History: the inodes renamed into place. -/
  published : List Nat

/-- What is at the path. -/
def Disk.contents {β : Type} (d : Disk β) : Option (List β) := d.credentials.map d.inodes

/-- The files renamed into place, in order. -/
def Disk.files {β : Type} (d : Disk β) : List (List β) := d.published.map d.inodes

/-- How a turn ended. -/
inductive Fate (β : Type) where
  /-- The callback or a system call returned an error. -/
  | failed
  | unchanged
  /-- The process died before the rename. -/
  | crashed
  | renamed (data : List β)

structure Turn (β : Type) where
  proc : Nat
  fn : Callback
  fate : Fate β

def Turn.call {β : Type} (t : Turn β) : Nat × Callback := (t.proc, t.fn)

/-- What the turn renamed into place. -/
def Turn.data {β : Type} (t : Turn β) : Option (List β) :=
  match t.fate with
  | .renamed data => some data
  | _ => none

/-- A completed read: what it saw, and how many files had been renamed into place when it
    started and when it ended. -/
structure Seen (β : Type) where
  since : Nat
  got : Option (List β)
  till : Nat

structure State (β : Type) where
  disk : Disk β
  /-- The process that has the lock. -/
  holder : Option Nat
  procs : Nat → Phase β
  /-- History: the calls that got the lock, in order. -/
  calls : List (Nat × Callback)
  /-- History: those whose turn has ended. -/
  turns : List (Turn β)
  reads : List (Seen β)

/-! ### Labels -/

inductive Label where
  | load (p : Nat)
  | update (p : Nat) (fn : Callback)
  /-- `lockExclusive` gives up: too long, cancelled, or an error. -/
  | giveUp (p : Nat)
  | acquire (p : Nat)
  | stat (p : Nat)
  | openFile (p : Nat)
  | readSome (p : Nat) (n : Nat)
  | endOfFile (p : Nat)
  /-- A system call fails. -/
  | fail (p : Nat)
  /-- The callback runs, and its file is marshalled. -/
  | callback (p : Nat)
  | createTemp (p : Nat)
  | writeSome (p : Nat) (n : Nat)
  /-- The temporary file is synced and closed. -/
  | close (p : Nat)
  | rename (p : Nat)
  | release (p : Nat)
  | crash (p : Nat)

/-! ### The system -/

section system
variable {β : Type} (text : Json.Text β) (path : String)

def State.setPhase (s : State β) (p : Nat) (ph : Phase β) : State β :=
  { s with procs := fun q => if q = p then ph else s.procs q }

/-- The turn ends, and the deferred unlock is next. -/
def State.endTurn (s : State β) (p : Nat) (fn : Callback) (fate : Fate β) : State β :=
  { s.setPhase p .releasing with turns := s.turns ++ [⟨p, fn, fate⟩] }

/-- `read` has the bytes: `Load` returns, `Update` goes on to its callback. -/
def State.endRead (s : State β) (p : Nat) (caller : Option Callback) (since : Nat)
    (got : Option (List β)) : State β :=
  let s : State β := { s with reads := s.reads ++ [⟨since, got, s.disk.published.length⟩] }
  match caller with
  | none => s.setPhase p .idle
  | some fn =>
    match read text path got with
    | .error _ => s.endTurn p fn .failed
    | .ok f => s.setPhase p (.deciding fn f)

/-- What follows from the callback's outcome. -/
def State.decide (s : State β) (p : Nat) (fn : Callback) (f : File) : State β :=
  match fn f with
  | .unchanged => s.endTurn p fn .unchanged
  | .error _ => s.endTurn p fn .failed
  | .ok f' =>
    match marshal text f' with
    | .error _ => s.endTurn p fn .failed
    | .ok data => s.setPhase p (.creating fn data)

def Disk.setInode (d : Disk β) (i : Nat) (data : List β) : Disk β :=
  { d with inodes := fun j => if j = i then data else d.inodes j }

/-- Up to `n` more bytes of `data` after those of `done`. -/
def more (done data : List β) (n : Nat) : List β := done ++ (data.drop done.length).take n

/-- Any number of processes on a directory without a credentials file. -/
def system : System (State β) Label where
  init := fun s =>
    s.disk.credentials = none ∧ s.disk.published = [] ∧ s.holder = none ∧
    (∀ p, s.procs p = .idle) ∧ s.calls = [] ∧ s.turns = [] ∧ s.reads = []
  step := fun s l s' =>
    match l with
    | .load p =>
        s.procs p = .idle ∧
        s' = s.setPhase p (.reading none s.disk.published.length .stat)
    | .update p fn =>
        s.procs p = .idle ∧ s' = s.setPhase p (.waiting fn)
    | .giveUp p =>
        ∃ fn, s.procs p = .waiting fn ∧ s' = s.setPhase p .idle
    | .acquire p =>
        ∃ fn, s.procs p = .waiting fn ∧ s.holder = none ∧
          s' = { s.setPhase p (.reading (some fn) s.disk.published.length .stat) with
            holder := some p
            calls := s.calls ++ [(p, fn)] }
    | .stat p =>
        ∃ caller since, s.procs p = .reading caller since .stat ∧
          -- a missing file is an empty one
          s' = if s.disk.credentials = none then s.endRead text path p caller since none
            else s.setPhase p (.reading caller since .opening)
    | .openFile p =>
        ∃ caller since i, s.procs p = .reading caller since .opening ∧
          s.disk.credentials = some i ∧
          s' = s.setPhase p (.reading caller since (.reading i []))
    | .readSome p n =>
        -- from the inode that was opened, whatever has its name now
        ∃ caller since i got, s.procs p = .reading caller since (.reading i got) ∧
          s' = s.setPhase p (.reading caller since (.reading i (more got (s.disk.inodes i) n)))
    | .endOfFile p =>
        ∃ caller since i got, s.procs p = .reading caller since (.reading i got) ∧
          (s.disk.inodes i).length ≤ got.length ∧
          s' = s.endRead text path p caller since (some got)
    | .fail p =>
        -- a failed load returns, a failed turn ends; the temporary file is left to itself
        (∃ since r, s.procs p = .reading none since r ∧ s' = s.setPhase p .idle) ∨
        ∃ fn, (s.procs p).pending = some fn ∧ s' = s.endTurn p fn .failed
    | .callback p =>
        ∃ fn f, s.procs p = .deciding fn f ∧ s' = s.decide text p fn f
    | .createTemp p =>
        ∃ fn data, s.procs p = .creating fn data ∧
          s' = { s.setPhase p (.writing fn s.disk.fresh data) with
            disk := { s.disk.setInode s.disk.fresh [] with fresh := s.disk.fresh + 1 } }
    | .writeSome p n =>
        ∃ fn i data, s.procs p = .writing fn i data ∧
          s' = { s with disk := s.disk.setInode i (more (s.disk.inodes i) data n) }
    | .close p =>
        ∃ fn i data, s.procs p = .writing fn i data ∧ s.disk.inodes i = data ∧
          s' = s.setPhase p (.written fn i data)
    | .rename p =>
        -- the only step that shows at the path
        ∃ fn i data, s.procs p = .written fn i data ∧
          s' = { s.endTurn p fn (.renamed data) with
            disk := { s.disk with
              credentials := some i
              published := s.disk.published ++ [i] } }
    | .release p =>
        s.procs p = .releasing ∧ s' = { s.setPhase p .idle with holder := none }
    | .crash p =>
        -- the kernel closes the lock file, and with it goes the lock
        s.procs p ≠ .dead ∧
        s' = { s.setPhase p .dead with
          holder := if s.holder = some p then none else s.holder
          turns := s.turns ++ ((s.procs p).pending.map (fun fn => ⟨p, fn, .crashed⟩)).toList }

end system

/-! ### The sequential order -/

section sequential
variable {β : Type} (text : Json.Text β) (path : String)

/-- `Composes ts c`: the turns `ts`, run one after the other on a directory without the file,
    end with the contents `c`. Only a turn that renamed changes anything, and it changes what
    it found as `Update` by itself does. -/
inductive Composes : List (Turn β) → Option (List β) → Prop where
  | nil : Composes [] none
  | skip {ts : List (Turn β)} {c : Option (List β)} {t : Turn β} :
      Composes ts c → t.data = none → Composes (ts ++ [t]) c
  | commit {ts : List (Turn β)} {c : Option (List β)} {t : Turn β} {data : List β} :
      Composes ts c → t.data = some data → update text path t.fn c = some data →
      Composes (ts ++ [t]) (some data)

/-- A read saw the file as it was at some point between its start and its end. -/
def Seen.Linear (r : Seen β) (files : List (List β)) : Prop :=
  ∃ k, r.since ≤ k ∧ k ≤ r.till ∧ r.till ≤ files.length ∧ r.got = (files.take k).getLast?

end sequential

/-! ### The invariant -/

section invariant
variable {β : Type} (text : Json.Text β) (path : String)

/-- The name points to the last inode renamed into place. -/
structure Disk.WF (d : Disk β) : Prop where
  last : d.credentials = d.published.getLast?
  used : ∀ i ∈ d.published, i < d.fresh

/-- What an open file has to do with the inodes renamed into place. -/
def Reading.Good (d : Disk β) (since : Nat) : Reading β → Prop
  | .reading i got => ∃ k < d.published.length, since ≤ k + 1 ∧ d.published[k]? = some i ∧
      got <+: d.inodes i
  | _ => True

/-- What a process knows of the disk. -/
def Phase.Good (d : Disk β) : Phase β → Prop
  | .reading caller since r => since ≤ d.published.length ∧
      (caller.isSome → since = d.published.length) ∧ r.Good d since
  | .deciding _ f => read text path d.contents = .ok f
  | .creating fn data => update text path fn d.contents = some data
  | .writing fn i data => update text path fn d.contents = some data ∧ i < d.fresh ∧
      i ∉ d.published ∧ d.inodes i <+: data
  | .written fn i data => update text path fn d.contents = some data ∧ i < d.fresh ∧
      i ∉ d.published ∧ d.inodes i = data
  | _ => True

/-- The call that is in its turn. -/
def State.current (s : State β) : List (Nat × Callback) :=
  (s.holder.bind (fun p => (s.procs p).pending.map (fun fn => (p, fn)))).toList

structure Inv (s : State β) : Prop where
  disk : s.disk.WF
  good : ∀ p, (s.procs p).Good text path s.disk
  mutex : ∀ p, (s.procs p).locked ↔ s.holder = some p
  order : s.calls = s.turns.map Turn.call ++ s.current
  files : s.disk.files = s.turns.filterMap Turn.data
  composed : Composes text path s.turns s.disk.contents
  reads : ∀ r ∈ s.reads, r.Linear s.disk.files

end invariant

/-! ### The disk -/

section disk
variable {β : Type} {text : Json.Text β} {path : String} {d d' : Disk β}

theorem Disk.WF.contents_eq (h : d.WF) : d.contents = d.files.getLast? := by
  unfold contents files
  rw [h.last, List.getLast?_map]

theorem Disk.files_append (d : Disk β) (i : Nat) :
    ({ d with credentials := some i, published := d.published ++ [i] } : Disk β).files =
      d.files ++ [d.inodes i] := by
  simp [files]

/-- Nothing that was renamed into place is touched. -/
structure Disk.Extends (d d' : Disk β) : Prop where
  published : ∃ more, d'.published = d.published ++ more
  inodes : ∀ i ∈ d.published, d'.inodes i = d.inodes i

/-- A reader keeps reading what it opened. -/
theorem Reading.Good.mono {since : Nat} {r : Reading β} (h : r.Good d since) (hext : d.Extends d') :
    r.Good d' since := by
  cases r with
  | stat => trivial
  | opening => trivial
  | reading i got =>
    -- the place of its inode among the published ones stays the same
    obtain ⟨k, hk, hsince, hi, hgot⟩ := h
    obtain ⟨more, hmore⟩ := hext.published
    refine ⟨k, ?_, hsince, ?_, ?_⟩
    · rw [hmore, List.length_append]
      omega
    · rw [hmore, List.getElem?_append_left hk]
      exact hi
    · rw [hext.inodes i (List.mem_of_getElem? hi)]
      exact hgot

/-- A process without the lock keeps what it knows. -/
theorem Phase.Good.mono {ph : Phase β} (h : ph.Good text path d) (hfree : ¬ ph.locked)
    (hext : d.Extends d') : ph.Good text path d' := by
  have hpending : ∀ fn, ph.pending ≠ some fn := by
    intro fn hfn
    exact hfree (.inl (by rw [hfn]; rfl))
  cases ph with
  | reading caller since r =>
    obtain ⟨hlen, -, hr⟩ := h
    obtain ⟨more, hmore⟩ := hext.published
    refine ⟨?_, ?_, hr.mono hext⟩
    · rw [hmore, List.length_append]
      omega
    · -- this read is not under the lock
      intro hsome
      obtain ⟨fn, hfn⟩ := Option.isSome_iff_exists.mp hsome
      exact absurd hfn (hpending fn)
  | deciding fn f => exact absurd rfl (hpending fn)
  | creating fn data => exact absurd rfl (hpending fn)
  | writing fn i data => exact absurd rfl (hpending fn)
  | written fn i data => exact absurd rfl (hpending fn)
  | idle => trivial
  | dead => trivial
  | waiting fn => trivial
  | releasing => trivial

/-- Writing to an inode that has not been renamed into place. -/
theorem Disk.setInode_extends {i : Nat} (hi : i ∉ d.published) (data : List β) :
    d.Extends (d.setInode i data) where
  published := ⟨[], (List.append_nil _).symm⟩
  inodes := by
    intro j hj
    have hne : j ≠ i := fun h => hi (h ▸ hj)
    simp [setInode, hne]

theorem Disk.Extends.files_eq (hext : d.Extends d') (hsame : d'.published = d.published) :
    d'.files = d.files := by
  unfold files
  rw [hsame]
  exact List.map_congr_left hext.inodes

end disk

/-! ### One step -/

section steps
variable {β : Type} {text : Json.Text β} {path : String} {s : State β} {p : Nat}

@[simp] theorem setPhase_same (ph : Phase β) : (s.setPhase p ph).procs p = ph := by
  simp [State.setPhase]

@[simp] theorem setPhase_other {q : Nat} (h : q ≠ p) (ph : Phase β) :
    (s.setPhase p ph).procs q = s.procs q := by
  simp [State.setPhase, h]

theorem setPhase_self {ph : Phase β} (h : s.procs p = ph) : s.setPhase p ph = s := by
  unfold State.setPhase
  have hprocs : (fun q => if q = p then ph else s.procs q) = s.procs := by
    funext q
    by_cases hq : q = p
    · rw [if_pos hq, hq, h]
    · rw [if_neg hq]
  rw [hprocs]

/-- A property of every process, when one of them has moved. -/
theorem forall_setPhase {P : Nat → Phase β → Prop} {ph : Phase β} (hp : P p ph)
    (hothers : ∀ q, q ≠ p → P q (s.procs q)) (q : Nat) : P q ((s.setPhase p ph).procs q) := by
  by_cases hq : q = p
  · rw [hq, setPhase_same]
    exact hp
  · rw [setPhase_other hq]
    exact hothers q hq

theorem locked_of_pending {ph : Phase β} {fn : Callback} (h : ph.pending = some fn) : ph.locked :=
  .inl (by rw [h]; rfl)

theorem Inv.good_at (h : Inv text path s) {ph : Phase β} (hp : s.procs p = ph) :
    ph.Good text path s.disk := by
  rw [← hp]
  exact h.good p

theorem Inv.holds (h : Inv text path s) {fn : Callback} (hp : (s.procs p).pending = some fn) :
    s.holder = some p :=
  (h.mutex p).mp (locked_of_pending hp)

theorem Inv.others_free (h : Inv text path s) (hp : s.holder = some p) {q : Nat} (hq : q ≠ p) :
    ¬ (s.procs q).locked := by
  intro hlocked
  rw [(h.mutex q).mp hlocked] at hp
  exact hq (Option.some.inj hp)

theorem current_of_pending (hholder : s.holder = some p) {fn : Callback}
    (hp : (s.procs p).pending = some fn) : s.current = [(p, fn)] := by
  simp [State.current, hholder, hp]

theorem current_of_none (h : ∀ q, s.holder = some q → (s.procs q).pending = none) :
    s.current = [] := by
  unfold State.current
  cases hq : s.holder with
  | none => rfl
  | some q => simp [h q hq]

theorem current_setPhase {ph : Phase β} (h : ph.pending = (s.procs p).pending) :
    (s.setPhase p ph).current = s.current := by
  show (s.holder.bind _).toList = (s.holder.bind _).toList
  cases s.holder with
  | none => rfl
  | some q =>
    simp only [Option.bind_some]
    by_cases hq : q = p
    · rw [hq, setPhase_same, h]
    · rw [setPhase_other hq]

theorem locked_congr {ph ph' : Phase β} (hpending : ph.pending = ph'.pending)
    (hne : ph ≠ .releasing) (hne' : ph' ≠ .releasing) : ph.locked ↔ ph'.locked := by
  unfold Phase.locked
  rw [hpending]
  simp [hne, hne']

/-- A process goes on, with the lock or without it, and nothing else changes. -/
theorem Inv.move (h : Inv text path s) {old ph : Phase β} (hp : s.procs p = old)
    (hgood : ph.Good text path s.disk) (hpending : ph.pending = old.pending)
    (hold : old ≠ .releasing) (hnew : ph ≠ .releasing) : Inv text path (s.setPhase p ph) where
  disk := h.disk
  good := forall_setPhase hgood (fun q _ => h.good q)
  mutex := by
    apply forall_setPhase (P := fun q ph => ph.locked ↔ s.holder = some q)
    · rw [locked_congr hpending hnew hold, ← hp]
      exact h.mutex p
    · exact fun q _ => h.mutex q
  order := by
    rw [current_setPhase (hpending.trans (congrArg Phase.pending hp.symm))]
    exact h.order
  files := h.files
  composed := h.composed
  reads := h.reads

theorem Inv.endTurn_order (h : Inv text path s) {fn : Callback}
    (hp : (s.procs p).pending = some fn) (fate : Fate β) :
    s.calls = (s.endTurn p fn fate).turns.map Turn.call ++ (s.endTurn p fn fate).current := by
  have hcurrent : (s.endTurn p fn fate).current = [] := by
    apply current_of_none
    intro q hq
    rw [show (s.endTurn p fn fate).holder = s.holder from rfl, h.holds hp] at hq
    cases hq
    show ((s.setPhase p .releasing).procs p).pending = none
    rw [setPhase_same]
    rfl
  -- the call that was current is the last of the turns now
  rw [hcurrent, List.append_nil]
  show s.calls = (s.turns ++ [(⟨p, fn, fate⟩ : Turn β)]).map Turn.call
  rw [h.order, current_of_pending (h.holds hp) hp, List.map_append]
  rfl

/-- A turn ends without a rename. -/
theorem Inv.endTurn (h : Inv text path s) {fn : Callback} (fate : Fate β)
    (hp : (s.procs p).pending = some fn) (hfate : (⟨p, fn, fate⟩ : Turn β).data = none) :
    Inv text path (s.endTurn p fn fate) where
  disk := h.disk
  good := forall_setPhase trivial (fun q _ => h.good q)
  mutex := forall_setPhase (P := fun q ph => ph.locked ↔ s.holder = some q)
    (iff_of_true (.inr rfl) (h.holds hp)) (fun q _ => h.mutex q)
  order := h.endTurn_order hp fate
  files := by
    show s.disk.files = (s.turns ++ [(⟨p, fn, fate⟩ : Turn β)]).filterMap Turn.data
    rw [List.filterMap_append, List.filterMap_cons_none hfate, List.filterMap_nil, List.append_nil]
    exact h.files
  composed := h.composed.skip hfate
  reads := h.reads

theorem Inv.seen (h : Inv text path s) {r : Seen β} (hr : r.Linear s.disk.files) :
    Inv text path { s with reads := s.reads ++ [r] } where
  disk := h.disk
  good := h.good
  mutex := h.mutex
  order := h.order
  files := h.files
  composed := h.composed
  reads := by
    intro r' hr'
    rcases List.mem_append.mp hr' with hold | hnew
    · exact h.reads r' hold
    · rw [List.mem_singleton.mp hnew]
      exact hr

/-- A read is complete. Under the lock it saw the current contents. -/
theorem Inv.endRead (h : Inv text path s) {caller : Option Callback} {since : Nat} {r : Reading β}
    {got : Option (List β)} (hp : s.procs p = .reading caller since r)
    (hlinear : Seen.Linear ⟨since, got, s.disk.published.length⟩ s.disk.files)
    (hcurrent : caller.isSome → got = s.disk.contents) :
    Inv text path (s.endRead text path p caller since got) := by
  have hseen := h.seen hlinear
  unfold State.endRead
  simp only
  cases caller with
  | none =>
    exact hseen.move hp trivial rfl nofun nofun
  | some fn =>
    have hpending : (s.procs p).pending = some fn := by
      rw [hp]
      rfl
    cases hread : read text path got with
    | error m => exact hseen.endTurn .failed hpending rfl
    | ok f =>
      -- nobody else can replace the file before the turn ends
      rw [hcurrent rfl] at hread
      exact hseen.move hp hread rfl nofun nofun

/-- The callback has returned. -/
theorem Inv.decide (h : Inv text path s) {fn : Callback} {f : File}
    (hp : s.procs p = .deciding fn f) : Inv text path (s.decide text p fn f) := by
  have hpending : (s.procs p).pending = some fn := by
    rw [hp]
    rfl
  have hread : read text path s.disk.contents = .ok f := by
    have hgood := h.good_at hp
    exact hgood
  unfold State.decide
  cases hfn : fn f with
  | unchanged => exact h.endTurn .unchanged hpending rfl
  | error m => exact h.endTurn .failed hpending rfl
  | ok f' =>
    simp only
    cases hdata : marshal text f' with
    | error m => exact h.endTurn .failed hpending rfl
    | ok data =>
      have hupdate : update text path fn s.disk.contents = some data := by
        simp [update, hread, hfn, hdata, Except.toOption]
      exact h.move hp hupdate rfl nofun nofun

/-- The process that has the lock writes to an inode nobody else knows. -/
theorem Inv.write (h : Inv text path s) {fn : Callback} {d : Disk β} (ph : Phase β)
    (hp : (s.procs p).pending = some fn) (hext : s.disk.Extends d)
    (hpublished : d.published = s.disk.published) (hcredentials : d.credentials = s.disk.credentials)
    (hfresh : s.disk.fresh ≤ d.fresh)
    (hgood : d.contents = s.disk.contents → ph.Good text path d)
    (hpending : ph.pending = some fn) : Inv text path { s.setPhase p ph with disk := d } := by
  have hfiles : d.files = s.disk.files := hext.files_eq hpublished
  have hdisk : d.WF := by
    constructor
    · rw [hpublished, hcredentials]
      exact h.disk.last
    · intro i hi
      rw [hpublished] at hi
      exact (h.disk.used i hi).trans_le hfresh
  have hcontents : d.contents = s.disk.contents := by
    rw [hdisk.contents_eq, h.disk.contents_eq, hfiles]
  constructor
  · exact hdisk
  · -- the others have no lock, and what was renamed into place is untouched
    apply forall_setPhase (P := fun _ ph => ph.Good text path d) (hgood hcontents)
    intro q hq
    exact (h.good q).mono (h.others_free (h.holds hp) hq) hext
  · apply forall_setPhase (P := fun q ph => ph.locked ↔ s.holder = some q)
    · exact iff_of_true (locked_of_pending hpending) (h.holds hp)
    · exact fun q _ => h.mutex q
  · show s.calls = s.turns.map Turn.call ++ (s.setPhase p ph).current
    rw [current_setPhase (hpending.trans hp.symm)]
    exact h.order
  · exact hfiles.trans h.files
  · show Composes text path s.turns d.contents
    rw [hcontents]
    exact h.composed
  · intro r hr
    show r.Linear d.files
    rw [hfiles]
    exact h.reads r hr

theorem more_within {done data : List β} (h : done <+: data) (n : Nat) :
    more done data n <+: data := by
  obtain ⟨rest, rfl⟩ := h
  unfold more
  rw [List.drop_left, List.prefix_append_right_inj]
  exact ⟨rest.drop n, List.take_append_drop n rest⟩

/-- Reads stay in their place in the order when a file is added. -/
theorem Seen.Linear.append {r : Seen β} {files : List (List β)} (h : r.Linear files)
    (data : List β) : r.Linear (files ++ [data]) := by
  obtain ⟨k, hsince, htill, hlen, hgot⟩ := h
  refine ⟨k, hsince, htill, ?_, ?_⟩
  · rw [List.length_append]
    omega
  · rw [List.take_append_of_le_length (htill.trans hlen)]
    exact hgot

/-- **The rename**: the file becomes what the callback made of the file as it is now. -/
theorem Inv.rename (h : Inv text path s) {fn : Callback} {i : Nat} {data : List β}
    (hp : s.procs p = .written fn i data) :
    Inv text path { s.endTurn p fn (.renamed data) with
      disk := { s.disk with credentials := some i, published := s.disk.published ++ [i] } } := by
  have hpending : (s.procs p).pending = some fn := by
    rw [hp]
    rfl
  have hgood := h.good_at hp
  obtain ⟨hupdate, hused, -, hdata⟩ := hgood
  have hext : s.disk.Extends
      { s.disk with credentials := some i, published := s.disk.published ++ [i] } :=
    ⟨⟨[i], rfl⟩, fun _ _ => rfl⟩
  constructor
  · constructor
    · exact List.getLast?_concat.symm
    · intro j hj
      rcases List.mem_append.mp hj with hj | hj
      · exact h.disk.used j hj
      · rw [List.mem_singleton.mp hj]
        exact hused
  · have hreleasing : (Phase.releasing : Phase β).Good text path
        { s.disk with credentials := some i, published := s.disk.published ++ [i] } := trivial
    refine forall_setPhase (P := fun _ ph => ph.Good text path
      { s.disk with credentials := some i, published := s.disk.published ++ [i] }) hreleasing ?_
    intro q hq
    exact (h.good q).mono (h.others_free (h.holds hpending) hq) hext
  · apply forall_setPhase (P := fun q ph => ph.locked ↔ s.holder = some q)
    · exact iff_of_true (.inr rfl) (h.holds hpending)
    · exact fun q _ => h.mutex q
  · exact h.endTurn_order hpending _
  · show Disk.files _ = (s.turns ++ [(⟨p, fn, .renamed data⟩ : Turn β)]).filterMap Turn.data
    rw [Disk.files_append, List.filterMap_append, h.files, hdata]
    rfl
  · show Composes text path (s.turns ++ [(⟨p, fn, .renamed data⟩ : Turn β)])
      (some (s.disk.inodes i))
    rw [hdata]
    exact h.composed.commit rfl hupdate
  · intro r hr
    show r.Linear (Disk.files _)
    rw [Disk.files_append]
    exact (h.reads r hr).append _

/-- The lock is released, by the unlock or by the end of the process. -/
theorem Inv.release (h : Inv text path s) (hp : s.procs p = .releasing) (ph : Phase β)
    (hgood : ph.Good text path s.disk) (hfree : ¬ ph.locked) :
    Inv text path { s.setPhase p ph with holder := none } := by
  have hholder : s.holder = some p := (h.mutex p).mp (.inr hp)
  constructor
  · exact h.disk
  · exact forall_setPhase (P := fun _ ph => ph.Good text path s.disk) hgood (fun q _ => h.good q)
  · apply forall_setPhase (P := fun q ph => ph.locked ↔ (none : Option Nat) = some q)
    · exact iff_of_false hfree nofun
    · intro q hq
      exact iff_of_false (h.others_free hholder hq) nofun
  · -- the turn had ended before
    have hcurrent : s.current = [] := by
      apply current_of_none
      intro q hq
      rw [hholder] at hq
      cases hq
      rw [hp]
      rfl
    have horder := h.order
    rw [hcurrent] at horder
    exact horder
  · exact h.files
  · exact h.composed
  · exact h.reads

/-- The lock is taken, by nobody else. -/
theorem Inv.acquire (h : Inv text path s) {fn : Callback} (hfree : s.holder = none) :
    Inv text path { s.setPhase p (.reading (some fn) s.disk.published.length .stat) with
      holder := some p
      calls := s.calls ++ [(p, fn)] } := by
  constructor
  · exact h.disk
  · exact forall_setPhase (P := fun _ ph => ph.Good text path s.disk)
      ⟨le_refl _, fun _ => rfl, trivial⟩ (fun q _ => h.good q)
  · apply forall_setPhase (P := fun q ph => ph.locked ↔ some p = some q)
    · exact iff_of_true (.inl rfl) rfl
    · intro q hq
      apply iff_of_false
      · intro hlocked
        rw [(h.mutex q).mp hlocked] at hfree
        cases hfree
      · exact fun heq => hq (Option.some.inj heq).symm
  · have hcurrent : s.current = [] := by
      apply current_of_none
      intro q hq
      rw [hfree] at hq
      cases hq
    have horder := h.order
    rw [hcurrent, List.append_nil] at horder
    show s.calls ++ [(p, fn)] = s.turns.map Turn.call ++ _
    rw [horder]
    congr 1
    simp [State.current, Phase.pending]
  · exact h.files
  · exact h.composed
  · exact h.reads

theorem setPhase_setPhase (ph ph' : Phase β) : (s.setPhase p ph).setPhase p ph' = s.setPhase p ph' := by
  unfold State.setPhase
  congr 1
  funext q
  by_cases hq : q = p
  · rw [if_pos hq, if_pos hq]
  · rw [if_neg hq, if_neg hq]
    exact if_neg hq

theorem not_locked_dead : ¬ (Phase.dead : Phase β).locked := by
  simp [Phase.locked, Phase.pending]

/-- A process dies, and its lock goes with it. -/
theorem Inv.crash (h : Inv text path s) :
    Inv text path { s.setPhase p .dead with
      holder := if s.holder = some p then none else s.holder
      turns := s.turns ++ ((s.procs p).pending.map (fun fn => ⟨p, fn, .crashed⟩)).toList } := by
  cases hpending : (s.procs p).pending with
  | some fn =>
    -- in its turn: the turn ends, then the lock is released
    rw [if_pos (h.holds hpending)]
    have hended := h.endTurn .crashed hpending rfl
    have hphase : (s.endTurn p fn .crashed).procs p = .releasing := setPhase_same _
    have hreleased := hended.release hphase .dead trivial not_locked_dead
    have hprocs : ((s.endTurn p fn .crashed).setPhase p .dead).procs = (s.setPhase p .dead).procs := by
      show ((s.setPhase p .releasing).setPhase p .dead).procs = _
      rw [setPhase_setPhase]
    simp only [hprocs] at hreleased
    exact hreleased
  | none =>
    rw [Option.map_none, Option.toList_none, List.append_nil]
    by_cases hreleasing : s.procs p = .releasing
    · rw [if_pos ((h.mutex p).mp (.inr hreleasing))]
      exact h.release hreleasing .dead trivial not_locked_dead
    · have hfree : ¬ (s.procs p).locked := by
        rintro (hsome | heq)
        · rw [hpending] at hsome
          cases hsome
        · exact hreleasing heq
      rw [if_neg (fun hholder => hfree ((h.mutex p).mpr hholder))]
      exact h.move rfl trivial hpending.symm hreleasing nofun

/-- A read goes on. -/
theorem Inv.keepReading (h : Inv text path s) {caller : Option Callback} {since : Nat}
    {r r' : Reading β} (hp : s.procs p = .reading caller since r) (hr : r'.Good s.disk since) :
    Inv text path (s.setPhase p (.reading caller since r')) := by
  have hgood := h.good_at hp
  exact h.move hp ⟨hgood.1, hgood.2.1, hr⟩ rfl nofun nofun

/-- What is opened is the last inode renamed into place. -/
theorem Inv.openFile (h : Inv text path s) {caller : Option Callback} {since i : Nat}
    (hp : s.procs p = .reading caller since .opening) (hi : s.disk.credentials = some i) :
    Inv text path (s.setPhase p (.reading caller since (.reading i []))) := by
  have hgood := h.good_at hp
  rw [h.disk.last, List.getLast?_eq_getElem?] at hi
  have hlt : s.disk.published.length - 1 < s.disk.published.length :=
    (List.getElem?_eq_some_iff.mp hi).1
  have hsince := hgood.1
  exact h.keepReading hp
    ⟨s.disk.published.length - 1, hlt, by omega, hi, ⟨_, rfl⟩⟩

/-- A temporary file is made. -/
theorem Inv.createTemp (h : Inv text path s) {fn : Callback} {data : List β}
    (hp : s.procs p = .creating fn data) :
    Inv text path { s.setPhase p (.writing fn s.disk.fresh data) with
      disk := { s.disk.setInode s.disk.fresh [] with fresh := s.disk.fresh + 1 } } := by
  have hgood := h.good_at hp
  have hnew : s.disk.fresh ∉ s.disk.published := fun hmem =>
    lt_irrefl _ (h.disk.used _ hmem)
  have hpending : (s.procs p).pending = some fn := by
    rw [hp]
    rfl
  refine h.write _ hpending ?_ rfl rfl (Nat.le_succ _) ?_ rfl
  · have hext := Disk.setInode_extends hnew ([] : List β)
    exact ⟨hext.published, hext.inodes⟩
  · intro hcontents
    refine ⟨?_, Nat.lt_succ_self _, hnew, ?_⟩
    · rw [hcontents]
      exact hgood
    · simp [Disk.setInode]

/-- Some more bytes are written to it. -/
theorem Inv.writeSome (h : Inv text path s) {fn : Callback} {i : Nat} {data : List β}
    (hp : s.procs p = .writing fn i data) (n : Nat) :
    Inv text path { s with disk := s.disk.setInode i (more (s.disk.inodes i) data n) } := by
  have hgood := h.good_at hp
  obtain ⟨hupdate, hused, hnew, hwritten⟩ := hgood
  have hpending : (s.procs p).pending = some fn := by
    rw [hp]
    rfl
  have hwrite := h.write (.writing fn i data) hpending
    (Disk.setInode_extends hnew (more (s.disk.inodes i) data n)) rfl rfl (le_refl _) ?_ rfl
  · rw [setPhase_self hp] at hwrite
    exact hwrite
  · intro hcontents
    refine ⟨?_, hused, hnew, ?_⟩
    · rw [hcontents]
      exact hupdate
    · have hsame : (s.disk.setInode i (more (s.disk.inodes i) data n)).inodes i =
          more (s.disk.inodes i) data n := by
        simp [Disk.setInode]
      rw [hsame]
      exact more_within hwritten n

/-- A read that finds no file sees the state before the first rename. -/
theorem Inv.stat_missing (h : Inv text path s) {caller : Option Callback} {since : Nat}
    (hp : s.procs p = .reading caller since .stat) (hnone : s.disk.credentials = none) :
    Inv text path (s.endRead text path p caller since none) := by
  have hgood := h.good_at hp
  -- no file at the path, so none was ever renamed there
  have hempty : s.disk.published = [] := by
    rw [h.disk.last, List.getLast?_eq_none_iff] at hnone
    exact hnone
  apply h.endRead hp
  · refine ⟨0, ?_, Nat.zero_le _, ?_, rfl⟩
    · have hlen := hgood.1
      rw [hempty] at hlen
      exact hlen
    · simp [Disk.files]
  · intro _
    simp [Disk.contents, hnone]

/-- A read that comes to the end has all of a file that was renamed into place, under the lock
    the last one. -/
theorem Inv.endOfFile (h : Inv text path s) {caller : Option Callback} {since i : Nat}
    {got : List β} (hp : s.procs p = .reading caller since (.reading i got))
    (hend : (s.disk.inodes i).length ≤ got.length) :
    Inv text path (s.endRead text path p caller since (some got)) := by
  have hgood := h.good_at hp
  obtain ⟨hsince, hunder, k, hk, hopened, hi, hread⟩ := hgood
  have hgot : got = s.disk.inodes i := hread.eq_of_length_le hend
  have hfile : (s.disk.files.take (k + 1)).getLast? = some (s.disk.inodes i) := by
    have hget : s.disk.files[k]? = some (s.disk.inodes i) := by
      rw [Disk.files, List.getElem?_map, hi]
      rfl
    rw [List.take_add_one, hget, Option.toList_some, List.getLast?_concat]
  apply h.endRead hp
  · refine ⟨k + 1, hopened, hk, ?_, ?_⟩
    · simp [Disk.files]
    · rw [hfile, hgot]
  · intro hcaller
    -- nothing was renamed since the lock was taken
    have hlast : k + 1 = s.disk.published.length := by
      have := hunder hcaller
      omega
    rw [h.disk.contents_eq, hgot, ← hfile, hlast, List.take_of_length_le]
    simp [Disk.files]

/-- **One step** keeps the invariant. -/
theorem Inv.step (h : Inv text path s) {l : Label} {s' : State β}
    (hstep : (system text path).step s l s') : Inv text path s' := by
  cases l with
  | load p =>
    obtain ⟨hp, rfl⟩ := hstep
    exact h.move hp ⟨le_refl _, nofun, trivial⟩ rfl nofun nofun
  | update p fn =>
    obtain ⟨hp, rfl⟩ := hstep
    exact h.move hp trivial rfl nofun nofun
  | giveUp p =>
    obtain ⟨fn, hp, rfl⟩ := hstep
    exact h.move hp trivial rfl nofun nofun
  | acquire p =>
    obtain ⟨fn, -, hfree, rfl⟩ := hstep
    exact h.acquire hfree
  | stat p =>
    obtain ⟨caller, since, hp, rfl⟩ := hstep
    by_cases hnone : s.disk.credentials = none
    · rw [if_pos hnone]
      exact h.stat_missing hp hnone
    · rw [if_neg hnone]
      exact h.keepReading hp trivial
  | openFile p =>
    obtain ⟨caller, since, i, hp, hi, rfl⟩ := hstep
    exact h.openFile hp hi
  | readSome p n =>
    obtain ⟨caller, since, i, got, hp, rfl⟩ := hstep
    have hgood := h.good_at hp
    obtain ⟨-, -, k, hk, hopened, hi, hgot⟩ := hgood
    exact h.keepReading hp ⟨k, hk, hopened, hi, more_within hgot n⟩
  | endOfFile p =>
    obtain ⟨caller, since, i, got, hp, hend, rfl⟩ := hstep
    exact h.endOfFile hp hend
  | fail p =>
    obtain ⟨since, r, hp, rfl⟩ | ⟨fn, hp, rfl⟩ := hstep
    · exact h.move hp trivial rfl nofun nofun
    · exact h.endTurn .failed hp rfl
  | callback p =>
    obtain ⟨fn, f, hp, rfl⟩ := hstep
    exact h.decide hp
  | createTemp p =>
    obtain ⟨fn, data, hp, rfl⟩ := hstep
    exact h.createTemp hp
  | writeSome p n =>
    obtain ⟨fn, i, data, hp, rfl⟩ := hstep
    exact h.writeSome hp n
  | close p =>
    obtain ⟨fn, i, data, hp, hdata, rfl⟩ := hstep
    have hgood := h.good_at hp
    obtain ⟨hupdate, hused, hnew, -⟩ := hgood
    exact h.move hp ⟨hupdate, hused, hnew, hdata⟩ rfl nofun nofun
  | rename p =>
    obtain ⟨fn, i, data, hp, rfl⟩ := hstep
    exact h.rename hp
  | release p =>
    obtain ⟨hp, rfl⟩ := hstep
    exact h.release hp .idle trivial (by simp [Phase.locked, Phase.pending])
  | crash p =>
    obtain ⟨-, rfl⟩ := hstep
    exact h.crash

theorem inv_of_reachable (h : Reachable (system text path) s) : Inv text path s := by
  refine System.invariant (Inv text path) ?_ (fun s l s' h hstep => h.step hstep) s h
  rintro s ⟨hcredentials, hpublished, hholder, hprocs, hcalls, hturns, hreads⟩
  constructor
  · exact ⟨by rw [hcredentials, hpublished]; rfl, by rw [hpublished]; nofun⟩
  · intro p
    rw [hprocs p]
    trivial
  · intro p
    rw [hprocs p, hholder]
    simp [Phase.locked, Phase.pending]
  · simp [hcalls, hturns, State.current, hholder]
  · simp [Disk.files, hpublished, hturns]
  · have hnone : s.disk.contents = none := by simp [Disk.contents, hcredentials]
    rw [hturns, hnone]
    exact .nil
  · rw [hreads]
    nofun

end steps

end TopologyVisualizer.Cli.Store
