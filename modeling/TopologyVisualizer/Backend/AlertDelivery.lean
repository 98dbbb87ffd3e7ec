import TopologyVisualizer.Framework.LTS
import TopologyVisualizer.Backend.Dispatch
import Mathlib.Algebra.Order.Field.Rat
import Mathlib.Order.WithBot

/-! # Delivering Alerts

    `submit`, `run` and `deliver` of `dispatch.py`: one bounded queue and
    one task that posts each message to each channel. Submissions come at
    any time, the channels answer what they like, and the task may be
    cancelled at any point.

    * Submitting is what the dispatcher of the triggers does
      (`dispatcher_submit`).
    * Every message has exactly one fate on every channel: recorded, queued,
      under way, or given up. Only the message at hand is given up, and only
      when the task is cancelled, which records nothing
      (`one_fate_per_channel`).
    * A channel answers a message at most three times, and again only after
      an answer that may get better; `sent` is recorded exactly when a POST
      was answered with success; and the pause between two attempts is never
      shorter than the backoff nor longer than thirty seconds, whatever the
      channel asks for (`attempts_of_message`).
-/

namespace TopologyVisualizer.Backend.AlertDelivery

open LTS Dispatch

/-! ### Channels -/

inductive ChannelName where
  | slack
  | teams
  | telegram
  deriving DecidableEq, Repr

def ChannelName.text : ChannelName → String
  | .slack => "slack"
  | .teams => "teams"
  | .telegram => "telegram"

structure Channel where
  name : ChannelName
  url : String
  chatId : String := ""
  deriving DecidableEq

/-- `urlsplit`: the scheme and the host of a URL. -/
structure SplitUrl where
  scheme : String
  hostname : String

/-- The configured settings of alerts. -/
structure Settings where
  enabled : Bool
  slackWebhookUrl : String
  teamsWebhookUrl : String
  telegramBotToken : String
  telegramChatId : String

/-- `[0-9]+:[A-Za-z0-9_-]+` -/
def isBotToken (token : String) : Bool :=
  let digits := token.toList.takeWhile Char.isDigit
  match token.toList.drop digits.length with
  | ':' :: rest => !digits.isEmpty && !rest.isEmpty &&
      rest.all (fun c => c.isAlphanum || c = '_' || c = '-')
  | _ => false

/-- The host of a URL that has to be `https`. -/
def https (urlsplit : String → SplitUrl) (url setting : String) : Except String String :=
  let parts := urlsplit url
  if parts.scheme ≠ "https" || parts.hostname = "" then
    .error (setting ++ " must be an https:// URL")
  else .ok parts.hostname

def slackChannel (urlsplit : String → SplitUrl) (s : Settings) : Except String (List Channel) :=
  if s.slackWebhookUrl = "" then .ok []
  else do
    let host ← https urlsplit s.slackWebhookUrl "ALERT_SLACK_WEBHOOK_URL"
    if host ≠ "hooks.slack.com" then
      .error "ALERT_SLACK_WEBHOOK_URL must be a https://hooks.slack.com/ URL"
    else .ok [⟨.slack, s.slackWebhookUrl, ""⟩]

def teamsChannel (urlsplit : String → SplitUrl) (s : Settings) : Except String (List Channel) :=
  if s.teamsWebhookUrl = "" then .ok []
  else do
    let _ ← https urlsplit s.teamsWebhookUrl "ALERT_TEAMS_WEBHOOK_URL"
    return [⟨.teams, s.teamsWebhookUrl, ""⟩]

def telegramChannel (s : Settings) : Except String (List Channel) :=
  if decide (s.telegramBotToken ≠ "") ≠ decide (s.telegramChatId ≠ "") then
    .error "ALERT_TELEGRAM_BOT_TOKEN and ALERT_TELEGRAM_CHAT_ID must be set together"
  else if s.telegramBotToken = "" then .ok []
  else if !isBotToken s.telegramBotToken then .error "ALERT_TELEGRAM_BOT_TOKEN is not a bot token"
  else .ok [⟨.telegram, "https://api.telegram.org/bot" ++ s.telegramBotToken ++ "/sendMessage",
    s.telegramChatId⟩]

/-- `channels_from`. -/
def channelsFrom (urlsplit : String → SplitUrl) (s : Settings) : Except String (List Channel) :=
  if !s.enabled then .ok []
  else do
    let slack ← slackChannel urlsplit s
    let teams ← teamsChannel urlsplit s
    let telegram ← telegramChannel s
    let channels := slack ++ teams ++ telegram
    if channels = [] then
      .error ("ALERTS_ENABLED is true but no channel is configured: set a Slack or Teams webhook " ++
        "URL, or a Telegram bot token and chat id")
    else return channels

/-! ### Replies and delays -/

/-- A Python float that is a number of seconds; `none` is NaN. -/
abbrev Seconds := Option (WithBot (WithTop ℚ))

def seconds (q : ℚ) : Seconds := some ((q : WithTop ℚ) : WithBot (WithTop ℚ))

/-- `<` of floats: false on NaN. -/
def Seconds.less (a b : Seconds) : Bool :=
  match a, b with
  | some x, some y => decide (x < y)
  | _, _ => false

/-- Python's `max(a, b)`. -/
def pyMax (a b : Seconds) : Seconds := if a.less b then b else a

/-- Python's `min(a, b)`. -/
def pyMin (a b : Seconds) : Seconds := if b.less a then b else a

/-- What came back. `status` is `none` when no response arrived. -/
structure Reply where
  status : Option Nat
  retryAfter : Option Seconds := none
  deriving DecidableEq

def Reply.success (r : Reply) : Bool := r.status.any (fun s => 200 ≤ s && s < 300)

/-- `_retryable`. -/
def Reply.retryable (r : Reply) : Bool :=
  match r.status with
  | none => true
  | some s => s = 429 || s ≥ 500

def maxAttempts : Nat := 3

/-- `BACKOFF_SECONDS[attempt - 1]` -/
def backoff (attempt : Nat) : ℚ := if attempt = 1 then 1 else 4

def maxRetryAfter : ℚ := 30

/-- The pause after attempt number `attempt`. -/
def delay (attempt : Nat) (r : Reply) : Seconds :=
  match r.retryAfter with
  | none => seconds (backoff attempt)
  | some after => pyMin (pyMax (seconds (backoff attempt)) after) (seconds maxRetryAfter)

/-! ### State -/

inductive Result where
  | sent
  | failed
  | dropped
  deriving DecidableEq, Repr

def Result.text : Result → String
  | .sent => "sent"
  | .failed => "failed"
  | .dropped => "dropped"

/-- An outcome that `record_alert` counted, with the message it was for. -/
structure Recorded where
  message : Nat
  channel : ChannelName
  result : Result
  deriving DecidableEq

/-- A POST that came back. -/
structure Posted where
  message : Nat
  channel : ChannelName
  reply : Reply
  deriving DecidableEq

/-- The message the task is at, the channel and those after it. -/
structure Job where
  message : Nat
  channel : ChannelName
  rest : List ChannelName
  attempt : Nat
  deriving DecidableEq

/-- Where the task of `run` is. -/
inductive Task where
  | waiting
  /-- In the thread that posts. -/
  | posting (job : Job)
  /-- Before the next attempt. -/
  | sleeping (job : Job)
  | cancelled
  deriving DecidableEq

/-- The job under way. -/
def Task.job : Task → Option Job
  | .waiting => none
  | .posting job => some job
  | .sleeping job => some job
  | .cancelled => none

/-- The message at hand, once for each channel that is not settled yet. -/
def Task.unsettled (t : Task) : List (Nat × ChannelName) :=
  match t.job with
  | none => []
  | some job => (job.channel :: job.rest).map (Prod.mk job.message)

/-- Messages are numbered in the order of their submission. -/
structure State where
  submitted : Nat := 0
  queue : List (Nat × Message) := []
  task : Task := .waiting
  recorded : List Recorded := []
  posts : List Posted := []
  /-- The pauses so far, each with the number of the attempt before it. -/
  pauses : List (Nat × Seconds) := []
  /-- What the task left unsettled when it was cancelled. A POST may still be on its way then, but
      nobody hears of the answer. -/
  givenUp : List (Nat × ChannelName) := []

/-! ### Labels -/

inductive Label where
  | submit (message : Message)
  /-- `queue.get` returns. -/
  | take
  /-- The POST comes back. -/
  | reply (r : Reply)
  /-- `deliver` raises. -/
  | raises
  | wake
  | cancel
  deriving DecidableEq

/-! ### The system -/

def State.submit (s : State) (channels : List ChannelName) (message : Message) : State :=
  if s.queue.length < queueCapacity then
    { s with submitted := s.submitted + 1, queue := s.queue ++ [(s.submitted, message)] }
  else
    -- `QueueFull`
    { s with
      submitted := s.submitted + 1
      recorded := s.recorded ++ channels.map (fun c => Recorded.mk s.submitted c .dropped) }

/-- The next channel, or back to the queue. -/
def next (message : Nat) : List ChannelName → Task
  | [] => .waiting
  | c :: rest => .posting ⟨message, c, rest, 1⟩

/-- The job is over, with this result. -/
def State.finish (s : State) (job : Job) (result : Result) : State :=
  { s with
    task := next job.message job.rest
    recorded := s.recorded ++ [⟨job.message, job.channel, result⟩] }

/-- What `deliver` makes of a reply. -/
def State.replied (s : State) (job : Job) (r : Reply) : State :=
  let s : State := { s with posts := s.posts ++ [⟨job.message, job.channel, r⟩] }
  if r.success then s.finish job .sent
  else if !r.retryable || job.attempt = maxAttempts then s.finish job .failed
  else { s with
    task := .sleeping job
    pauses := s.pauses ++ [(job.attempt, delay job.attempt r)] }

/-- The dispatcher of these channels. -/
def system (channels : List ChannelName) : System State Label where
  init := fun s => s = {}
  step := fun s lbl s' =>
    match lbl with
    | .submit message => s' = s.submit channels message
    | .take =>
        ∃ n message queue, s.task = .waiting ∧ s.queue = (n, message) :: queue ∧
          s' = { s with queue := queue, task := next n channels }
    | .reply r => ∃ job, s.task = .posting job ∧ s' = s.replied job r
    | .raises => ∃ job, s.task = .posting job ∧ s' = s.finish job .failed
    | .wake =>
        ∃ job, s.task = .sleeping job ∧
          s' = { s with task := .posting { job with attempt := job.attempt + 1 } }
    | .cancel => s' = { s with task := .cancelled, givenUp := s.givenUp ++ s.task.unsettled }

/-! ### The queue of the dispatcher -/

/-- The dispatcher that only submits, with the queue and the counters of `s`. -/
def State.dispatcher {τ : Type} (s : State) (d : Dispatcher τ) : Dispatcher τ :=
  { d with
    queue := s.queue.map Prod.snd
    recorded := s.recorded.map (fun r => (r.channel.text, r.result.text)) }

/-- Submitting here is submitting to the dispatcher. -/
theorem dispatcher_submit {τ δ : Type} [LinearOrder τ] [LinearOrder δ] (cfg : Config τ δ)
    {channels : List ChannelName} (hchannels : cfg.channels = channels.map ChannelName.text)
    (s : State) (d : Dispatcher τ) (message : Message) :
    (s.submit channels message).dispatcher d = (Dispatch.submit cfg (s.dispatcher d) message).2 := by
  unfold State.submit Dispatch.submit
  simp only [State.dispatcher, List.length_map]
  split
  · simp
  · simp [hchannels, Result.text]

/-! ### Channels are distinct -/

variable {urlsplit : String → SplitUrl} {settings : Settings} {cs : List Channel}

theorem names_of_slack (h : slackChannel urlsplit settings = .ok cs) :
    (cs.map Channel.name).Sublist [.slack] := by
  simp only [slackChannel, bind, Except.bind] at h
  repeat' split at h
  all_goals cases h <;> simp

theorem names_of_teams (h : teamsChannel urlsplit settings = .ok cs) :
    (cs.map Channel.name).Sublist [.teams] := by
  simp only [teamsChannel, bind, Except.bind] at h
  repeat' split at h
  all_goals cases h <;> simp

theorem names_of_telegram (h : telegramChannel settings = .ok cs) :
    (cs.map Channel.name).Sublist [.telegram] := by
  simp only [telegramChannel] at h
  repeat' split at h
  all_goals cases h <;> simp

/-- No channel is configured twice. -/
theorem channelsFrom_nodup (h : channelsFrom urlsplit settings = .ok cs) :
    (cs.map Channel.name).Nodup := by
  have hnodup : [ChannelName.slack, .teams, .telegram].Nodup := by decide
  simp only [channelsFrom, bind, Except.bind] at h
  split at h
  · cases h
    exact List.nodup_nil
  · repeat' split at h
    all_goals cases h
    rename_i hslack _ _ hteams _ _ htelegram _
    refine hnodup.sublist ?_
    rw [List.map_append, List.map_append]
    exact ((names_of_slack hslack).append (names_of_teams hteams)).append
      (names_of_telegram htelegram)

/-! ### One fate per channel -/

theorem count_map_mk (m : Nat) (cs : List ChannelName) (n : Nat) (c : ChannelName) :
    (cs.map (Prod.mk m)).count (n, c) = if m = n then cs.count c else 0 := by
  rw [List.count, List.countP_map]
  by_cases hn : m = n
  · rw [if_pos hn, List.count]
    refine List.countP_congr ?_
    intro c' _
    simp [hn]
  · rw [if_neg hn, List.countP_eq_zero]
    simp [hn]

theorem unsettled_of_job {t : Task} {job : Job} (h : t.job = some job) :
    t.unsettled = (job.channel :: job.rest).map (Prod.mk job.message) := by
  rw [Task.unsettled, h]

theorem unsettled_next (m : Nat) (cs : List ChannelName) :
    (next m cs).unsettled = cs.map (Prod.mk m) := by
  cases cs with
  | nil => rfl
  | cons c cs => rfl

/-- The fates of message `n` on channel `c`: recorded, queued, under way, or given up. -/
def State.fates (s : State) (n : Nat) (c : ChannelName) : Nat :=
  s.recorded.countP (fun r => r.message = n ∧ r.channel = c) +
    s.queue.countP (fun q => q.1 = n) + s.task.unsettled.count (n, c) + s.givenUp.count (n, c)

variable {channels : List ChannelName} {s s' : State} {l : Label}

/-- Finishing a job trades what is under way for a record. -/
theorem fates_finish (s : State) (job : Job) (result : Result) (n : Nat) (c : ChannelName)
    (hjob : s.task.job = some job) : (s.finish job result).fates n c = s.fates n c := by
  unfold State.fates State.finish
  simp only [unsettled_next, unsettled_of_job hjob, count_map_mk, List.countP_append,
    List.countP_singleton]
  by_cases hn : job.message = n
  · by_cases hc : job.channel = c
    · simp [hn, hc]
      omega
    · simp [hn, hc]
  · simp [hn]

/-- Every message so far has one fate on every channel. -/
structure Settled (channels : List ChannelName) (s : State) : Prop where
  fates : ∀ n, ∀ c ∈ channels, s.fates n c = if n < s.submitted then 1 else 0
  within : ∀ job, s.task.job = some job → ∀ c ∈ job.channel :: job.rest, c ∈ channels
  running : s.task ≠ .cancelled → s.givenUp = []
  one : ∀ g ∈ s.givenUp, ∀ g' ∈ s.givenUp, g.1 = g'.1

/-- Steps of a task that is not cancelled have given nothing up. -/
theorem Settled.givenUp_nil (h : Settled channels s) {job : Job} (hjob : s.task.job = some job) :
    s.givenUp = [] :=
  h.running (by rintro hcancelled; rw [hcancelled] at hjob; cases hjob)

/-- The job of `next`. -/
theorem job_next {m : Nat} {cs : List ChannelName} {job : Job} (h : (next m cs).job = some job) :
    job.channel :: job.rest = cs ∧ job.message = m ∧ job.attempt = 1 := by
  cases cs with
  | nil => cases h
  | cons c cs => cases h; exact ⟨rfl, rfl, rfl⟩

theorem Settled.finish (h : Settled channels s) {job : Job} (hjob : s.task.job = some job)
    (result : Result) : Settled channels (s.finish job result) where
  fates n c hc := by
    rw [fates_finish s job result n c hjob]
    exact h.fates n c hc
  within job' hjob' c hc := by
    have hnext := (job_next hjob').1
    rw [hnext] at hc
    exact h.within job hjob c (List.mem_cons_of_mem _ hc)
  running _ := h.givenUp_nil hjob
  one := h.one

/-- Another attempt at the same job settles nothing. -/
theorem Settled.retry (h : Settled channels s) {job : Job} (hjob : s.task.job = some job)
    {t : Task} {attempt : Nat} (ht : t.job = some { job with attempt := attempt })
    (posts : List Posted) (pauses : List (Nat × Seconds)) :
    Settled channels { s with task := t, posts := posts, pauses := pauses } where
  fates n c hc := by
    rw [← h.fates n c hc]
    simp only [State.fates, unsettled_of_job hjob, unsettled_of_job ht]
  within job' hjob' := by
    cases ht.symm.trans hjob'
    exact h.within job hjob
  running _ := h.givenUp_nil hjob
  one := h.one

theorem Settled.submit (h : Settled channels s) (hnodup : channels.Nodup) (message : Message) :
    Settled channels (s.submit channels message) := by
  -- one more fate for the new message, none for the others
  have hcount : ∀ {n : Nat} {c : ChannelName} {x : Nat}, c ∈ channels →
      x = s.fates n c + (if s.submitted = n then 1 else 0) →
      x = if n < s.submitted + 1 then 1 else 0 := by
    intro n c x hc hx
    rw [hx, h.fates n c hc]
    split_ifs <;> omega
  unfold State.submit
  split
  · refine ⟨fun n c hc => hcount hc ?_, h.within, h.running, h.one⟩
    unfold State.fates
    simp only [List.countP_append, List.countP_singleton, decide_eq_true_eq]
    omega
  · refine ⟨fun n c hc => hcount hc ?_, h.within, h.running, h.one⟩
    have hdropped : (channels.map (fun c => Recorded.mk s.submitted c .dropped)).countP
        (fun r => r.message = n ∧ r.channel = c) = if s.submitted = n then 1 else 0 := by
      rw [← List.count_eq_one_of_mem hnodup hc, ← count_map_mk, List.count, List.countP_map,
        List.countP_map]
      refine List.countP_congr ?_
      intro c' _
      simp
    unfold State.fates
    simp only [List.countP_append, hdropped]
    omega

theorem Settled.take (h : Settled channels s) (hnodup : channels.Nodup) {n : Nat}
    {message : Message} {queue : List (Nat × Message)} (hwaiting : s.task = .waiting)
    (hqueue : s.queue = (n, message) :: queue) :
    Settled channels { s with queue := queue, task := next n channels } where
  fates n' c hc := by
    rw [← h.fates n' c hc]
    unfold State.fates
    simp only [unsettled_next, count_map_mk, hqueue, List.countP_cons, hwaiting,
      List.count_eq_one_of_mem hnodup hc, decide_eq_true_eq]
    simp only [Task.unsettled, Task.job, List.count_nil]
    omega
  within job hjob c hc := by
    rw [(job_next hjob).1] at hc
    exact hc
  running _ := h.running (by rw [hwaiting]; nofun)
  one := h.one

/-- Cancelling trades what is under way for what is given up. -/
theorem Settled.cancel (h : Settled channels s) : Settled channels
    { s with task := .cancelled, givenUp := s.givenUp ++ s.task.unsettled } where
  fates n c hc := by
    rw [← h.fates n c hc]
    unfold State.fates
    rw [List.count_append]
    simp only [Task.unsettled, Task.job, List.count_nil]
    omega
  within := nofun
  running := nofun
  one := by
    cases hjob : s.task.job with
    | none =>
      have hnone : s.task.unsettled = [] := by rw [Task.unsettled, hjob]
      rw [hnone, List.append_nil]
      exact h.one
    | some job =>
      rw [h.givenUp_nil hjob, unsettled_of_job hjob, List.nil_append]
      simp only [List.mem_map]
      rintro _ ⟨c, -, rfl⟩ _ ⟨c', -, rfl⟩
      rfl

theorem settled_of_reachable (hnodup : channels.Nodup) (h : Reachable (system channels) s) :
    Settled channels s := by
  refine System.invariant (Settled channels) ?_ ?_ s h
  · intro s hs
    rw [hs]
    exact ⟨fun n c _ => by simp [State.fates, Task.unsettled, Task.job], nofun, fun _ => rfl, nofun⟩
  · intro s l s' hinv hstep
    simp only [system] at hstep
    cases l with
    | submit message => subst hstep; exact hinv.submit hnodup message
    | take =>
      obtain ⟨n, message, queue, hwaiting, hqueue, rfl⟩ := hstep
      exact hinv.take hnodup hwaiting hqueue
    | reply r =>
      obtain ⟨job, hposting, rfl⟩ := hstep
      have hjob : s.task.job = some job := by rw [hposting]; rfl
      have hposted : Settled channels
          { s with posts := s.posts ++ [⟨job.message, job.channel, r⟩] } :=
        ⟨hinv.fates, hinv.within, hinv.running, hinv.one⟩
      unfold State.replied
      simp only
      split
      · exact hposted.finish hjob .sent
      · split
        · exact hposted.finish hjob .failed
        · exact hinv.retry hjob rfl _ _
    | raises =>
      obtain ⟨job, hposting, rfl⟩ := hstep
      exact hinv.finish (by rw [hposting]; rfl) .failed
    | wake =>
      obtain ⟨job, hsleeping, rfl⟩ := hstep
      exact hinv.retry (by rw [hsleeping]; rfl) rfl _ _
    | cancel =>
      subst hstep
      exact hinv.cancel

/-- **One fate per channel**: whatever is submitted, answered and cancelled,
    every message is on every configured channel recorded once, waiting in
    the queue, under way, or given up, and exactly one of these. While the
    task runs nothing is given up; cancelling it gives up one message at
    most, on the channels that are not settled yet, and those are recorded
    nowhere. -/
theorem one_fate_per_channel (hcs : channelsFrom urlsplit settings = .ok cs)
    (h : Reachable (system (cs.map Channel.name)) s) :
    (∀ c ∈ cs, ∀ n,
      s.recorded.countP (fun r => r.message = n ∧ r.channel = c.name) +
        s.queue.countP (fun q => q.1 = n) + s.task.unsettled.count (n, c.name) +
        s.givenUp.count (n, c.name) = if n < s.submitted then 1 else 0) ∧
    (s.task ≠ .cancelled → s.givenUp = []) ∧
    ∀ g ∈ s.givenUp, ∀ g' ∈ s.givenUp, g.1 = g'.1 := by
  have hsettled := settled_of_reachable (channelsFrom_nodup hcs) h
  exact ⟨fun c hc n => hsettled.fates n c.name (List.mem_map_of_mem hc), hsettled.running,
    hsettled.one⟩

/-- Teams and a Telegram bot. -/
def sampleSettings : Settings := ⟨true, "", "https://teams.example/hook", "7:bot", "42"⟩

def sampleChannels : List Channel :=
  [⟨.teams, "https://teams.example/hook", ""⟩,
    ⟨.telegram, "https://api.telegram.org/bot7:bot/sendMessage", "42"⟩]

theorem channelsFrom_sample :
    channelsFrom (fun _ => ⟨"https", "teams.example"⟩) sampleSettings = .ok sampleChannels := by
  decide

/-- Teams asked for an hour's pause, then took the message; Telegram is next,
    and a second message waits. -/
def sampleState : State where
  submitted := 2
  queue := [(1, ⟨.warning, "two", [], "", ""⟩)]
  task := .posting ⟨0, .telegram, [], 1⟩
  recorded := [⟨0, .teams, .sent⟩]
  posts := [⟨0, .teams, ⟨some 429, some (seconds 3600)⟩⟩, ⟨0, .teams, ⟨some 200, none⟩⟩]
  pauses := [(1, seconds 30)]

theorem reachable_sampleState :
    Reachable (system (sampleChannels.map Channel.name)) sampleState := by
  have hinit : Reachable (system (sampleChannels.map Channel.name)) {} := .init rfl
  have hone := hinit.step (l := Label.submit ⟨.critical, "one", [], "", ""⟩) rfl
  have htwo := hone.step (l := Label.submit ⟨.warning, "two", [], "", ""⟩) rfl
  have htake := htwo.step (l := Label.take) ⟨0, ⟨.critical, "one", [], "", ""⟩, _, rfl, rfl, rfl⟩
  have hbusy := htake.step (l := Label.reply ⟨some 429, some (seconds 3600)⟩) ⟨_, rfl, rfl⟩
  have hwake := hbusy.step (l := Label.wake) ⟨_, rfl, rfl⟩
  have hsent := hwake.step (l := Label.reply ⟨some 200, none⟩) ⟨_, rfl, rfl⟩
  exact hsent

/-- The task is cancelled there: Telegram never gets the first message, and the second one stays. -/
def cancelledState : State :=
  { sampleState with task := .cancelled, givenUp := [(0, .telegram)] }

theorem reachable_cancelledState :
    Reachable (system (sampleChannels.map Channel.name)) cancelledState :=
  reachable_sampleState.step (l := Label.cancel) rfl

theorem one_fate_per_channel_sample :
    (∀ c ∈ sampleChannels, ∀ n,
      cancelledState.recorded.countP (fun r => r.message = n ∧ r.channel = c.name) +
        cancelledState.queue.countP (fun q => q.1 = n) +
        cancelledState.task.unsettled.count (n, c.name) +
        cancelledState.givenUp.count (n, c.name) = if n < 2 then 1 else 0) ∧
    cancelledState.givenUp = [(0, .telegram)] ∧ cancelledState.recorded = [⟨0, .teams, .sent⟩] ∧
    sampleState.givenUp = [] :=
  ⟨(one_fate_per_channel channelsFrom_sample reachable_cancelledState).1, rfl, rfl,
    (one_fate_per_channel channelsFrom_sample reachable_sampleState).2.1 nofun⟩

/-! ### Attempts -/

/-- The answers of channel `c` to message `n`. -/
def replies (posts : List Posted) (n : Nat) (c : ChannelName) : List Reply :=
  (posts.filter (fun p => p.message = n ∧ p.channel = c)).map Posted.reply

theorem replies_post (posts : List Posted) (job : Job) (rs : List Reply) (n : Nat)
    (c : ChannelName) :
    replies (posts ++ rs.map (Posted.mk job.message job.channel)) n c =
      replies posts n c ++ if job.message = n ∧ job.channel = c then rs else [] := by
  unfold replies
  rw [List.filter_append, List.map_append, List.filter_map, List.map_map]
  congr 1
  split
  · rename_i h
    simp [h, Function.comp_def]
  · rename_i h
    simp [h, Function.comp_def]

/-- An answer to retry on is no success. -/
theorem not_success_of_retryable {r : Reply} (h : r.retryable) : r.success = false := by
  unfold Reply.retryable at h
  unfold Reply.success
  cases hr : r.status with
  | none => rfl
  | some status =>
    rw [hr] at h
    simp only [Bool.or_eq_true, decide_eq_true_eq] at h
    simp only [Option.any_some, Bool.and_eq_false_iff, decide_eq_false_iff_not]
    omega

/-- What the task has settled when it is at a job: no other trace of it. -/
theorem Settled.sole (h : Settled channels s) {job : Job} (hjob : s.task.job = some job) :
    job.message < s.submitted ∧ (∀ q ∈ s.queue, q.1 ≠ job.message) ∧
      (∀ r ∈ s.recorded, ¬ (r.message = job.message ∧ r.channel = job.channel)) ∧
      job.channel ∉ job.rest := by
  have hfates := h.fates job.message job.channel (h.within job hjob _ (List.mem_cons_self ..))
  have hunsettled : s.task.unsettled.count (job.message, job.channel) =
      job.rest.count job.channel + 1 := by
    rw [unsettled_of_job hjob, count_map_mk]
    simp
  rw [State.fates, hunsettled] at hfates
  have hsubmitted : job.message < s.submitted := by
    by_contra hn
    rw [if_neg hn] at hfates
    omega
  rw [if_pos hsubmitted] at hfates
  refine ⟨hsubmitted, ?_, ?_, ?_⟩
  · have hqueue : s.queue.countP (fun q => q.1 = job.message) = 0 := by omega
    simpa [List.countP_eq_zero] using hqueue
  · have hrecorded : s.recorded.countP
        (fun r => r.message = job.message ∧ r.channel = job.channel) = 0 := by omega
    simpa [List.countP_eq_zero] using hrecorded
  · exact List.count_eq_zero.mp (by omega)

/-- What holds of the answers so far, wherever the task is. -/
structure Answered (s : State) : Prop where
  unstarted : ∀ n c, (s.submitted ≤ n ∨ ∃ q ∈ s.queue, q.1 = n) → replies s.posts n c = []
  length : ∀ n c, (replies s.posts n c).length ≤ maxAttempts
  retried : ∀ n c, ∀ r ∈ (replies s.posts n c).dropLast, r.retryable

/-- What the answers so far say about where the task is. -/
structure Tried (s : State) : Prop extends Answered s where
  resting : ∀ job, s.task.job = some job → ∀ c ∈ job.rest, replies s.posts job.message c = []
  retrying : ∀ job, s.task.job = some job → ∀ r ∈ replies s.posts job.message job.channel, r.retryable
  posting : ∀ job, s.task = .posting job →
    (replies s.posts job.message job.channel).length + 1 = job.attempt ∧ job.attempt ≤ maxAttempts
  sleeping : ∀ job, s.task = .sleeping job →
    (replies s.posts job.message job.channel).length = job.attempt ∧ job.attempt < maxAttempts
  sent : ∀ n c, ⟨n, c, .sent⟩ ∈ s.recorded ↔ ∃ r ∈ replies s.posts n c, r.success

/-- The task starts on channels that have not answered yet. -/
theorem Tried.of_next (h : Answered s) {n : Nat} {cs : List ChannelName}
    (hnext : s.task = next n cs) (hfresh : ∀ c ∈ cs, replies s.posts n c = [])
    (hsent : ∀ n c, ⟨n, c, .sent⟩ ∈ s.recorded ↔ ∃ r ∈ replies s.posts n c, r.success) : Tried s := by
  have hjob : ∀ job, s.task.job = some job →
      job.message = n ∧ job.attempt = 1 ∧ ∀ c ∈ job.channel :: job.rest, replies s.posts n c = [] := by
    intro job hjob
    rw [hnext] at hjob
    obtain ⟨hcs, hmessage, hattempt⟩ := job_next hjob
    exact ⟨hmessage, hattempt, by rw [hcs]; exact hfresh⟩
  refine ⟨h, ?_, ?_, ?_, ?_, hsent⟩
  · intro job hj c hc
    obtain ⟨rfl, -, hnone⟩ := hjob job hj
    exact hnone c (List.mem_cons_of_mem _ hc)
  · intro job hj
    obtain ⟨rfl, -, hnone⟩ := hjob job hj
    rw [hnone job.channel (List.mem_cons_self ..)]
    nofun
  · intro job hj
    obtain ⟨rfl, hattempt, hnone⟩ := hjob job (by rw [hj]; rfl)
    rw [hnone job.channel (List.mem_cons_self ..), hattempt]
    exact ⟨rfl, by decide⟩
  · intro job hj
    rw [hnext] at hj
    cases cs <;> cases hj

/-- One answer more, to the job at hand. -/
theorem Tried.post (h : Tried s) (hsettled : Settled channels s) {job : Job}
    (hposting : s.task = .posting job) (rs : List Reply) (hrs : rs.length ≤ 1) :
    Answered { s with posts := s.posts ++ rs.map (Posted.mk job.message job.channel) } ∧
      ∀ c ∈ job.rest, replies (s.posts ++ rs.map (Posted.mk job.message job.channel))
        job.message c = [] := by
  have hjob : s.task.job = some job := by rw [hposting]; rfl
  obtain ⟨hsubmitted, hqueue, -, hrest⟩ := hsettled.sole hjob
  obtain ⟨hlength, hattempt⟩ := h.posting job hposting
  refine ⟨⟨?_, ?_, ?_⟩, ?_⟩
  · intro n c hn
    rw [replies_post, h.unstarted n c hn, if_neg]
    · rfl
    · rintro ⟨rfl, -⟩
      rcases hn with hn | ⟨q, hq, hqn⟩
      · exact absurd hsubmitted (Nat.not_lt.mpr hn)
      · exact hqueue q hq hqn
  · intro n c
    rw [replies_post, List.length_append]
    split
    · rename_i heq
      obtain ⟨rfl, rfl⟩ := heq
      omega
    · exact h.length n c
  · intro n c r hr
    rw [replies_post] at hr
    split at hr
    · rename_i heq
      obtain ⟨rfl, rfl⟩ := heq
      refine h.retrying job hjob r ?_
      -- of the new answers there is at most one, and it is the last
      match rs, hrs with
      | [], _ => exact List.mem_of_mem_dropLast (by simpa using hr)
      | [_], _ => simpa using hr
    · rw [List.append_nil] at hr
      exact h.retried n c r hr
  · intro c hc
    have hne : job.channel ≠ c := fun heq => hrest (heq ▸ hc)
    rw [replies_post, h.resting job hjob c hc, if_neg (fun heq => hne heq.2)]
    rfl

/-- The task moves on from a job after these answers. -/
theorem Tried.finish (h : Tried s) (hsettled : Settled channels s) {job : Job}
    (hposting : s.task = .posting job) (rs : List Reply) (result : Result) (hrs : rs.length ≤ 1)
    (hresult : result = .sent ↔ ∃ r ∈ rs, r.success) :
    Tried (({ s with posts := s.posts ++ rs.map (Posted.mk job.message job.channel) } :
      State).finish job result) := by
  obtain ⟨hpost, hrest⟩ := h.post hsettled hposting rs hrs
  refine .of_next ⟨hpost.unstarted, hpost.length, hpost.retried⟩ rfl hrest ?_
  · intro n c
    change _ ∈ s.recorded ++ [_] ↔
      ∃ r ∈ replies (s.posts ++ rs.map (Posted.mk job.message job.channel)) n c, _
    rw [replies_post, List.mem_append, List.mem_singleton, h.sent n c]
    simp only [List.mem_append, or_and_right, exists_or]
    refine or_congr_right ?_
    split
    · rename_i heq
      obtain ⟨rfl, rfl⟩ := heq
      rw [← hresult]
      exact ⟨fun hr => (Recorded.mk.inj hr).2.2.symm, fun hr => by rw [hr]⟩
    · rename_i hne
      refine iff_of_false (fun hr => hne ?_) (by simp)
      exact ⟨(Recorded.mk.inj hr).1.symm, (Recorded.mk.inj hr).2.1.symm⟩

/-- The task sleeps on an answer to retry on. -/
theorem Tried.sleep (h : Tried s) (hsettled : Settled channels s) {job : Job}
    (hposting : s.task = .posting job) {r : Reply} (hr : r.retryable)
    (hattempt : job.attempt ≠ maxAttempts) (pauses : List (Nat × Seconds)) :
    Tried { s with
      posts := s.posts ++ [⟨job.message, job.channel, r⟩]
      task := .sleeping job
      pauses := pauses } := by
  have hjob : s.task.job = some job := by rw [hposting]; rfl
  obtain ⟨hpost, hrest⟩ := h.post hsettled hposting [r] (Nat.le_refl 1)
  have hreplies : ∀ n c, replies (s.posts ++ [⟨job.message, job.channel, r⟩]) n c = _ :=
    replies_post s.posts job [r]
  obtain ⟨hlength, hmax⟩ := h.posting job hposting
  refine ⟨⟨hpost.unstarted, hpost.length, hpost.retried⟩, ?_, ?_, nofun, ?_, ?_⟩
  · rintro _ ⟨⟩
    exact hrest
  · rintro _ ⟨⟩ r' hr'
    rw [hreplies, if_pos ⟨rfl, rfl⟩, List.mem_append, List.mem_singleton] at hr'
    rcases hr' with hold | rfl
    · exact h.retrying job hjob r' hold
    · exact hr
  · rintro _ ⟨⟩
    refine ⟨?_, Nat.lt_of_le_of_ne hmax hattempt⟩
    rw [hreplies, if_pos ⟨rfl, rfl⟩, List.length_append]
    exact hlength
  · intro n c
    rw [hreplies, h.sent n c]
    -- the new answer is no success
    split
    · simp [not_success_of_retryable hr]
    · simp

theorem Tried.submit (h : Tried s) (channels : List ChannelName) (message : Message) :
    Tried (s.submit channels message) := by
  unfold State.submit
  split
  · refine ⟨⟨?_, h.length, h.retried⟩, h.resting, h.retrying, h.posting, h.sleeping, h.sent⟩
    rintro n c (hn | ⟨q, hq, rfl⟩)
    · exact h.unstarted n c (.inl (Nat.le_of_succ_le hn))
    · rcases List.mem_append.mp hq with hold | hnew
      · exact h.unstarted q.1 c (.inr ⟨q, hold, rfl⟩)
      · rw [List.mem_singleton.mp hnew]
        exact h.unstarted _ c (.inl (Nat.le_refl _))
  · refine ⟨⟨?_, h.length, h.retried⟩, h.resting, h.retrying, h.posting, h.sleeping, ?_⟩
    · rintro n c (hn | hq)
      · exact h.unstarted n c (.inl (Nat.le_of_succ_le hn))
      · exact h.unstarted n c (.inr hq)
    · intro n c
      rw [← h.sent n c]
      simp

theorem tried_of_reachable (hnodup : channels.Nodup) (h : Reachable (system channels) s) :
    Tried s := by
  refine System.invariant_of_reachable Tried ?_ ?_ s h
  · intro s hs
    rw [hs]
    have hanswered : Answered {} :=
      ⟨fun _ _ _ => rfl, fun _ _ => Nat.zero_le _, fun _ _ _ hr => nomatch hr⟩
    have hwaiting : ({} : State).task = next 0 [] := rfl
    exact .of_next hanswered hwaiting nofun (fun n c => by simp [replies])
  · intro s l s' hreach hinv hstep
    have hsettled := settled_of_reachable hnodup hreach
    simp only [system] at hstep
    cases l with
    | submit message =>
      subst hstep
      exact hinv.submit channels message
    | take =>
      obtain ⟨n, message, queue, hwaiting, hqueue, rfl⟩ := hstep
      have hn : ∀ c, replies s.posts n c = [] := fun c =>
        hinv.unstarted n c (.inr ⟨(n, message), by rw [hqueue]; exact List.mem_cons_self .., rfl⟩)
      refine .of_next ⟨?_, hinv.length, hinv.retried⟩ rfl (fun c _ => hn c) hinv.sent
      rintro n' c (hn' | ⟨q, hq, hqn⟩)
      · exact hinv.unstarted n' c (.inl hn')
      · exact hinv.unstarted n' c (.inr ⟨q, by rw [hqueue]; exact List.mem_cons_of_mem _ hq, hqn⟩)
    | reply r =>
      obtain ⟨job, hposting, rfl⟩ := hstep
      unfold State.replied
      simp only
      split
      · rename_i hsuccess
        exact hinv.finish hsettled hposting [r] .sent (Nat.le_refl 1) (by simp [hsuccess])
      · rename_i hsuccess
        split
        · exact hinv.finish hsettled hposting [r] .failed (Nat.le_refl 1) (by simp [hsuccess])
        · rename_i hagain
          simp only [Bool.or_eq_true, Bool.not_eq_true', decide_eq_true_eq, not_or,
            Bool.not_eq_false] at hagain
          exact hinv.sleep hsettled hposting hagain.1 hagain.2 _
    | raises =>
      obtain ⟨job, hposting, rfl⟩ := hstep
      have hfinish := hinv.finish hsettled hposting [] .failed (Nat.zero_le 1) (by simp)
      simpa using hfinish
    | wake =>
      obtain ⟨job, hsleeping, rfl⟩ := hstep
      have hjob : s.task.job = some job := by rw [hsleeping]; rfl
      obtain ⟨hlength, hattempt⟩ := hinv.sleeping job hsleeping
      refine ⟨⟨hinv.unstarted, hinv.length, hinv.retried⟩, ?_, ?_, ?_, nofun, hinv.sent⟩
      · rintro _ ⟨⟩
        exact hinv.resting job hjob
      · rintro _ ⟨⟩
        exact hinv.retrying job hjob
      · rintro _ ⟨⟩
        exact ⟨congrArg (· + 1) hlength, hattempt⟩
    | cancel =>
      subst hstep
      exact ⟨⟨hinv.unstarted, hinv.length, hinv.retried⟩, nofun, nofun, nofun, nofun, hinv.sent⟩

/-- A float that is more than a number and not more than another is a number. -/
theorem seconds_of_between {a b : ℚ} {x : Seconds} (ha : (seconds a).less x)
    (hb : ¬ (seconds b).less x) : ∃ q, x = seconds q := by
  match x with
  | none => cases ha
  | some ⊥ => simp [Seconds.less, seconds] at ha
  | some (some none) =>
    have htop : (seconds b).less (some ((⊤ : WithTop ℚ) : WithBot (WithTop ℚ))) :=
      decide_eq_true (WithBot.coe_lt_coe.mpr (WithTop.coe_lt_top b))
    exact absurd htop hb
  | some (some (some q)) => exact ⟨q, rfl⟩

/-- The pause is at least the backoff and at most half a minute: a channel
    cannot hurry the task with a small or negative number, hold it up with an
    infinite one, or break it with NaN. -/
theorem delay_bounds (attempt : Nat) (r : Reply) :
    ∃ q, delay attempt r = seconds q ∧ backoff attempt ≤ q ∧ q ≤ maxRetryAfter := by
  have hbackoff : backoff attempt ≤ maxRetryAfter := by
    unfold backoff maxRetryAfter
    split <;> norm_num
  have hmin : pyMin (seconds (backoff attempt)) (seconds maxRetryAfter) =
      seconds (backoff attempt) := by
    simp [pyMin, Seconds.less, seconds, not_lt.mpr hbackoff]
  cases hafter : r.retryAfter with
  | none => exact ⟨backoff attempt, by rw [delay, hafter], le_refl _, hbackoff⟩
  | some after =>
    rw [delay, hafter]
    change ∃ q, pyMin (pyMax (seconds (backoff attempt)) after) (seconds maxRetryAfter) = _ ∧ _
    by_cases hless : (seconds (backoff attempt)).less after
    · rw [pyMax, if_pos hless]
      by_cases hmax : (seconds maxRetryAfter).less after
      · rw [pyMin, if_pos hmax]
        exact ⟨maxRetryAfter, rfl, hbackoff, le_refl _⟩
      · rw [pyMin, if_neg hmax]
        -- between the two bounds there are only numbers
        obtain ⟨q, rfl⟩ := seconds_of_between hless hmax
        simp only [Seconds.less, seconds, decide_eq_true_eq, WithBot.coe_lt_coe,
          WithTop.coe_lt_coe, not_lt] at hless hmax
        exact ⟨q, rfl, hless.le, hmax⟩
    · rw [pyMax, if_neg hless, hmin]
      exact ⟨backoff attempt, rfl, le_refl _, hbackoff⟩

/-- Every pause so far keeps the bounds. -/
theorem pauses_of_reachable (h : Reachable (system channels) s) :
    ∀ p ∈ s.pauses, ∃ q, p.2 = seconds q ∧ backoff p.1 ≤ q ∧ q ≤ maxRetryAfter := by
  refine System.invariant (fun s => ∀ p ∈ s.pauses, ∃ q, p.2 = seconds q ∧ backoff p.1 ≤ q ∧
    q ≤ maxRetryAfter) ?_ ?_ s h
  · intro s hs
    rw [hs]
    nofun
  · intro s l s' hinv hstep
    simp only [system] at hstep
    cases l with
    | reply r =>
      obtain ⟨job, -, rfl⟩ := hstep
      unfold State.replied State.finish
      simp only
      split_ifs
      · exact hinv
      · exact hinv
      · intro p hp
        rcases List.mem_append.mp hp with hold | hnew
        · exact hinv p hold
        · rw [List.mem_singleton.mp hnew]
          exact delay_bounds job.attempt r
    | _ =>
      have hsame : s'.pauses = s.pauses := by grind [State.submit, State.finish]
      rw [hsame]
      exact hinv

/-- **Attempts**: in every run a channel answers a message at most three
    times, each answer but the last one to retry on; `sent` is recorded
    exactly when an answer was a success; and the pauses keep their bounds. -/
theorem attempts_of_message (hcs : channelsFrom urlsplit settings = .ok cs)
    (h : Reachable (system (cs.map Channel.name)) s) :
    (∀ n c, (replies s.posts n c).length ≤ maxAttempts ∧
      (∀ r ∈ (replies s.posts n c).dropLast, r.retryable) ∧
      (⟨n, c, .sent⟩ ∈ s.recorded ↔ ∃ r ∈ replies s.posts n c, r.success)) ∧
    ∀ p ∈ s.pauses, ∃ q, p.2 = seconds q ∧ backoff p.1 ≤ q ∧ q ≤ maxRetryAfter := by
  have htried := tried_of_reachable (channelsFrom_nodup hcs) h
  exact ⟨fun n c => ⟨htried.length n c, htried.retried n c, htried.sent n c⟩,
    pauses_of_reachable h⟩

theorem attempts_of_message_sample :
    (replies sampleState.posts 0 .teams).length = 2 ∧
    (⟨0, .teams, .sent⟩ ∈ sampleState.recorded ↔
      ∃ r ∈ replies sampleState.posts 0 .teams, r.success) ∧
    ∀ p ∈ sampleState.pauses, ∃ q, p.2 = seconds q ∧ backoff p.1 ≤ q ∧ q ≤ maxRetryAfter :=
  have hattempts := attempts_of_message channelsFrom_sample reachable_sampleState
  ⟨rfl, (hattempts.1 0 .teams).2.2, hattempts.2⟩

end TopologyVisualizer.Backend.AlertDelivery
