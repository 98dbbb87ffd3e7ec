import TopologyVisualizer.Cli.Store

/-! # What the Credentials Store Guarantees

    The results about whole runs of the store: the reads and the turns are
    those of one sequential order, only a rename changes the file, an entry
    that was stored stays until a callback changes it, and an update that
    is left alone goes through.
-/

open LTS

namespace TopologyVisualizer.Cli.Store

/-! ### Entries of other servers -/

section entries
variable {β : Type} {text : Json.Text β} {path : String}

/-- The entry of a server in a file with these contents. -/
def entryOf (text : Json.Text β) (path : String) (contents : Option (List β)) (server : String) :
    Option Entry :=
  match read text path contents with
  | .ok f => f.entry server
  | .error _ => none

/-- The callback leaves the entry of a server as it is. -/
def Spares (fn : Callback) (server : String) : Prop :=
  ∀ f f', fn f = .ok f' → f'.entry server = f.entry server

/-- What was marshalled is read back, entry by entry. -/
theorem read_marshal (path : String) {f : File} {data : List β} (h : marshal text f = .ok data) :
    ∃ f', read text path (some data) = .ok f' ∧ ∀ server, f'.entry server = f.entry server := by
  unfold marshal at h
  cases hencode : encodeFile { f with version := fileVersion } with
  | error m => rw [hencode] at h; cases h
  | ok j =>
    rw [hencode] at h
    cases h
    obtain ⟨f', hdecode, hversion, hservers⟩ := decodeFile_encode hencode
    refine ⟨f', ?_, ?_⟩
    · simp [read, text.parse_print, hdecode, hversion]
    · intro server
      unfold File.entry
      rw [hservers]

/-- What an update that goes through has done. -/
theorem update_eq_some {fn : Callback} {contents : Option (List β)} {data : List β}
    (h : update text path fn contents = some data) :
    ∃ f f', read text path contents = .ok f ∧ fn f = .ok f' ∧ marshal text f' = .ok data := by
  unfold update at h
  cases hread : read text path contents with
  | error m => rw [hread] at h; cases h
  | ok f =>
    rw [hread] at h
    simp only at h
    cases hfn : fn f with
    | unchanged => rw [hfn] at h; cases h
    | error m => rw [hfn] at h; cases h
    | ok f' =>
      rw [hfn] at h
      simp only at h
      cases hdata : marshal text f' with
      | error m => rw [hdata] at h; cases h
      | ok data' =>
        rw [hdata] at h
        cases h
        exact ⟨f, f', rfl, hfn, hdata⟩

/-- An update leaves the entries it spares. -/
theorem entryOf_update {fn : Callback} {contents : Option (List β)} {data : List β} {server : String}
    (h : update text path fn contents = some data) (hspares : Spares fn server) :
    entryOf text path (some data) server = entryOf text path contents server := by
  obtain ⟨f, f', hread, hfn, hdata⟩ := update_eq_some h
  obtain ⟨f'', hback, hentries⟩ := read_marshal path hdata
  unfold entryOf
  rw [hback, hread]
  exact (hentries server).trans (hspares f f' hfn)

/-- Everything renamed into place can be read. -/
theorem Composes.readable {ts : List (Turn β)} {c : Option (List β)} (h : Composes text path ts c)
    {t : Turn β} {data : List β} (ht : t ∈ ts) (hdata : t.data = some data) :
    ∃ f, read text path (some data) = .ok f := by
  induction h with
  | nil => cases ht
  | skip _ hnone ih =>
    rcases List.mem_append.mp ht with hold | hnew
    · exact ih hold
    · rw [List.mem_singleton.mp hnew, hnone] at hdata
      cases hdata
  | commit _ hrenamed hupdate ih =>
    rcases List.mem_append.mp ht with hold | hnew
    · exact ih hold
    · rw [List.mem_singleton.mp hnew, hrenamed] at hdata
      cases hdata
      -- it was marshalled, with the version that this binary reads
      obtain ⟨f, f', -, -, hmarshal⟩ := update_eq_some hupdate
      obtain ⟨f'', hread, -⟩ := read_marshal path hmarshal
      exact ⟨f'', hread⟩

theorem composes_concat {ts : List (Turn β)} {t : Turn β} {c : Option (List β)}
    (h : Composes text path (ts ++ [t]) c) :
    ∃ c₀, Composes text path ts c₀ ∧
      ((t.data = none ∧ c = c₀) ∨
        ∃ data, t.data = some data ∧ update text path t.fn c₀ = some data ∧ c = some data) := by
  generalize hts : ts ++ [t] = all at h
  cases h with
  | nil => simp at hts
  | skip hbefore hnone =>
    obtain ⟨rfl, hsame⟩ := List.append_inj' hts rfl
    cases hsame
    exact ⟨_, hbefore, .inl ⟨hnone, rfl⟩⟩
  | commit hbefore hdata hupdate =>
    obtain ⟨rfl, hsame⟩ := List.append_inj' hts rfl
    cases hsame
    exact ⟨_, hbefore, .inr ⟨_, hdata, hupdate, rfl⟩⟩

/-- **No lost update**: what a turn stored for a server is there until a later turn whose
    callback does not spare it. -/
theorem Composes.entry_kept {before after : List (Turn β)} {t : Turn β} {data : List β}
    {c : Option (List β)} {server : String}
    (h : Composes text path (before ++ t :: after) c) (hdata : t.data = some data)
    (hspared : ∀ u ∈ after, u.data ≠ none → Spares u.fn server) :
    entryOf text path c server = entryOf text path (some data) server := by
  -- from the last turn back to the one that stored the entry
  induction after using List.reverseRecOn generalizing c with
  | nil =>
    obtain ⟨c₀, -, ⟨hnone, -⟩ | ⟨data', hdata', -, rfl⟩⟩ := composes_concat h
    · rw [hdata] at hnone
      cases hnone
    · rw [hdata] at hdata'
      cases hdata'
      rfl
  | append_singleton after u ih =>
    rw [← List.cons_append, ← List.append_assoc] at h
    obtain ⟨c₀, hbefore, hlast⟩ := composes_concat h
    have hkept := ih hbefore fun u' hu' => hspared u' (List.mem_append_left _ hu')
    -- the last turn changed nothing, or it renamed and spares the server
    obtain ⟨-, rfl⟩ | ⟨data', hrenamed, hupdate, rfl⟩ := hlast
    · exact hkept
    · have hspares := hspared u (List.mem_append_right _ List.mem_cons_self)
        (by rw [hrenamed]; nofun)
      exact (entryOf_update hupdate hspares).trans hkept

/-- `SignIn`'s final update. -/
def signIn (server : String) (e : Entry) : Callback := fun f =>
  .ok (f.set server e)

/-- `Logout`'s update. -/
def logout (all : Bool) (norm : String) : Callback := fun f =>
  let removed := f.servers.keys.filter (fun s => all || s = norm)
  if removed = [] then .unchanged
  else .ok { f with servers := f.servers.filter (fun s _ => !(all || s = norm)) }

/-- A file without the entries that match. -/
theorem logout_entry {all : Bool} {norm : String} {f f' : File} (h : logout all norm f = .ok f') :
    f'.entry = fun server => if all || server = norm then none else f.entry server := by
  unfold logout at h
  simp only at h
  split at h
  · cases h
  · cases h
    funext server
    unfold File.entry
    rw [Dict.get?_filter]
    by_cases hmatch : (all || server = norm) = true
    -- a server that is listed with a nil entry has none, before and after
    · rw [if_pos hmatch, hmatch]
      cases f.servers.get? server <;> rfl
    · rw [if_neg hmatch]
      rw [Bool.not_eq_true] at hmatch
      rw [hmatch]
      cases f.servers.get? server <;> rfl

theorem signIn_spares {server server' : String} (h : server' ≠ server) (e : Entry) :
    Spares (signIn server e) server' := by
  intro f f' hf
  cases hf
  rw [File.entry_set, Function.update_of_ne h]

end entries

/-! ### What a step does to the file -/

section contents
variable {β : Type} {text : Json.Text β} {path : String} {s s' : State β} {p : Nat}

@[simp] theorem endRead_disk (caller : Option Callback) (since : Nat) (got : Option (List β)) :
    (s.endRead text path p caller since got).disk = s.disk := by
  unfold State.endRead
  cases caller with
  | none => rfl
  | some fn =>
    simp only
    cases read text path got <;> rfl

@[simp] theorem decide_disk (fn : Callback) (f : File) : (s.decide text p fn f).disk = s.disk := by
  unfold State.decide
  cases fn f with
  | unchanged => rfl
  | error m => rfl
  | ok f' =>
    simp only
    cases marshal text f' <;> rfl

/-- Writing to the temporary file does not show at the path. -/
theorem Inv.contents_setInode (h : Inv text path s) {i : Nat} (hi : i ∉ s.disk.published)
    (data : List β) : (s.disk.setInode i data).contents = s.disk.contents := by
  -- what is at the path is the last file renamed into place, before and after
  have hdisk : (s.disk.setInode i data).WF := ⟨h.disk.last, h.disk.used⟩
  rw [hdisk.contents_eq, h.disk.contents_eq, (Disk.setInode_extends hi data).files_eq rfl]

/-- What a step does to the file and the lock. -/
inductive Effect (text : Json.Text β) (path : String) (s : State β) (l : Label) (s' : State β) :
    Prop where
  | quiet : s'.disk.contents = s.disk.contents → s'.holder = s.holder → Effect text path s l s'
  | acquired (p : Nat) : s'.disk.contents = s.disk.contents → s.holder = none →
      s'.holder = some p → Effect text path s l s'
  | released (p : Nat) : s'.disk.contents = s.disk.contents → s.holder = some p →
      s'.holder = none → Effect text path s l s'
  | renamed (p : Nat) (fn : Callback) (data : List β) : l = .rename p →
      (s.procs p).pending = some fn → update text path fn s.disk.contents = some data →
      s'.disk.contents = some data → s'.holder = s.holder → Effect text path s l s'

@[simp] theorem endRead_holder (caller : Option Callback) (since : Nat) (got : Option (List β)) :
    (s.endRead text path p caller since got).holder = s.holder := by
  unfold State.endRead
  cases caller with
  | none => rfl
  | some fn =>
    simp only
    cases read text path got <;> rfl

@[simp] theorem decide_holder (fn : Callback) (f : File) :
    (s.decide text p fn f).holder = s.holder := by
  unfold State.decide
  cases fn f with
  | unchanged => rfl
  | error m => rfl
  | ok f' =>
    simp only
    cases marshal text f' <;> rfl

/-- The rename puts what the callback returned in the place of the file as it is. -/
theorem Inv.effect_rename (h : Inv text path s) {fn : Callback} {i : Nat} {data : List β}
    (hp : s.procs p = .written fn i data) :
    Effect text path s (.rename p) { s.endTurn p fn (.renamed data) with
      disk := { s.disk with credentials := some i, published := s.disk.published ++ [i] } } := by
  have hgood := h.good_at hp
  obtain ⟨hupdate, -, -, hdata⟩ := hgood
  refine .renamed p fn data rfl ?_ hupdate ?_ rfl
  · rw [hp]
    rfl
  · rw [← hdata]
    rfl

theorem effect_crash :
    Effect text path s (.crash p) { s.setPhase p .dead with
      holder := if s.holder = some p then none else s.holder
      turns := s.turns ++ ((s.procs p).pending.map (fun fn => ⟨p, fn, .crashed⟩)).toList } := by
  by_cases hholder : s.holder = some p
  · exact .released p rfl hholder (if_pos hholder)
  · exact .quiet rfl (if_neg hholder)

/-- **The effect of every step.** -/
theorem Inv.effect (h : Inv text path s) {l : Label} (hstep : (system text path).step s l s') :
    Effect text path s l s' := by
  cases l with
  | load p =>
    obtain ⟨-, rfl⟩ := hstep
    exact .quiet rfl rfl
  | update p fn =>
    obtain ⟨-, rfl⟩ := hstep
    exact .quiet rfl rfl
  | giveUp p =>
    obtain ⟨fn, -, rfl⟩ := hstep
    exact .quiet rfl rfl
  | acquire p =>
    obtain ⟨fn, -, hfree, rfl⟩ := hstep
    exact .acquired p rfl hfree rfl
  | stat p =>
    obtain ⟨caller, since, -, rfl⟩ := hstep
    by_cases hnone : s.disk.credentials = none
    · rw [if_pos hnone]
      exact .quiet (by rw [endRead_disk]) (endRead_holder _ _ _)
    · rw [if_neg hnone]
      exact .quiet rfl rfl
  | openFile p =>
    obtain ⟨caller, since, i, -, -, rfl⟩ := hstep
    exact .quiet rfl rfl
  | readSome p n =>
    obtain ⟨caller, since, i, got, -, rfl⟩ := hstep
    exact .quiet rfl rfl
  | endOfFile p =>
    obtain ⟨caller, since, i, got, -, -, rfl⟩ := hstep
    exact .quiet (by rw [endRead_disk]) (endRead_holder _ _ _)
  | fail p =>
    obtain ⟨since, r, -, rfl⟩ | ⟨fn, -, rfl⟩ := hstep
    · exact .quiet rfl rfl
    · exact .quiet rfl rfl
  | callback p =>
    obtain ⟨fn, f, -, rfl⟩ := hstep
    exact .quiet (by rw [decide_disk]) (decide_holder _ _)
  | createTemp p =>
    obtain ⟨fn, data, -, rfl⟩ := hstep
    have hnew : s.disk.fresh ∉ s.disk.published := fun hmem =>
      lt_irrefl _ (h.disk.used _ hmem)
    exact .quiet (h.contents_setInode hnew []) rfl
  | writeSome p n =>
    obtain ⟨fn, i, data, hp, rfl⟩ := hstep
    have hgood := h.good_at hp
    exact .quiet (h.contents_setInode hgood.2.2.1 _) rfl
  | close p =>
    obtain ⟨fn, i, data, -, -, rfl⟩ := hstep
    exact .quiet rfl rfl
  | rename p =>
    obtain ⟨fn, i, data, hp, rfl⟩ := hstep
    exact h.effect_rename hp
  | release p =>
    obtain ⟨hp, rfl⟩ := hstep
    exact .released p rfl ((h.mutex p).mp (.inr hp)) rfl
  | crash p =>
    obtain ⟨-, rfl⟩ := hstep
    exact effect_crash

/-- **Only a rename changes the file**, and it makes of it what the callback returned. -/
theorem Inv.contents_step (h : Inv text path s) {l : Label}
    (hstep : (system text path).step s l s') :
    s'.disk.contents = s.disk.contents ∨
      ∃ p fn data, l = .rename p ∧ (s.procs p).pending = some fn ∧
        update text path fn s.disk.contents = some data ∧ s'.disk.contents = some data := by
  cases h.effect hstep with
  | quiet hsame _ => exact .inl hsame
  | acquired p hsame _ _ => exact .inl hsame
  | released p hsame _ _ => exact .inl hsame
  | renamed p fn data hl hpending hupdate hnew _ =>
    exact .inr ⟨p, fn, data, hl, hpending, hupdate, hnew⟩

/-- What a read saw is no file, or one that a turn renamed into place. -/
theorem Inv.got_of_read (h : Inv text path s) {r : Seen β} (hr : r ∈ s.reads) {data : List β}
    (hgot : r.got = some data) : ∃ t ∈ s.turns, t.data = some data := by
  obtain ⟨k, -, -, -, hk⟩ := h.reads r hr
  rw [hgot] at hk
  -- it is the last of some first files
  have hmem : data ∈ s.disk.files :=
    List.mem_of_mem_take (List.mem_of_getLast? hk.symm)
  rw [h.files] at hmem
  exact List.mem_filterMap.mp hmem

/-- No read is torn: what it saw is a complete file. -/
theorem Inv.read_ok (h : Inv text path s) {r : Seen β} (hr : r ∈ s.reads) :
    ∃ f, read text path r.got = .ok f := by
  cases hgot : r.got with
  | none => exact ⟨_, rfl⟩
  | some data =>
    obtain ⟨t, ht, hdata⟩ := h.got_of_read hr hgot
    exact h.composed.readable ht hdata

end contents

/-! ### The store as its callers see it -/

/-- The entry of every server, and who has the lock. -/
structure View where
  entries : String → Option Entry
  holder : Option Nat

inductive Access where
  | acquire (p : Nat)
  | write (p : Nat) (entries : String → Option Entry)
  | release (p : Nat)

/-- A file that is replaced in one step, by the holder of a lock. -/
def atomic : System View Access where
  init := fun v => v = ⟨fun _ => none, none⟩
  step := fun v l v' =>
    match l with
    | .acquire p => v.holder = none ∧ v' = { v with holder := some p }
    | .write p entries => v.holder = some p ∧ v' = { v with entries := entries }
    | .release p => v.holder = some p ∧ v' = { v with holder := none }

section view
variable {β : Type} {text : Json.Text β} {path : String} {s s' : State β}

def view (text : Json.Text β) (path : String) (s : State β) : View :=
  ⟨entryOf text path s.disk.contents, s.holder⟩

/-- **The store refines the atomic one**: what a step does is seen at once or not at all. -/
theorem Inv.view_step (h : Inv text path s) {l : Label}
    (hstep : (system text path).step s l s') :
    (∃ a, atomic.step (view text path s) a (view text path s')) ∨
      view text path s' = view text path s := by
  unfold view
  cases h.effect hstep with
  | quiet hsame hholder =>
    right
    rw [hsame, hholder]
  | acquired p hsame hfree hholder =>
    left
    rw [hsame, hholder]
    exact ⟨.acquire p, hfree, rfl⟩
  | released p hsame hholder hfree =>
    left
    rw [hsame, hfree]
    exact ⟨.release p, hholder, rfl⟩
  | renamed p fn data _ hpending _ _ hholder =>
    left
    rw [hholder]
    exact ⟨.write p _, h.holds hpending, rfl⟩

theorem view_of_reachable (h : Reachable (system text path) s) :
    Reachable atomic (view text path s) := by
  refine Reachable.simulate (view text path) ?_ ?_ h
  · rintro s ⟨hcredentials, -, hholder, -⟩
    show view text path s = _
    unfold view
    rw [hholder]
    congr 1
    funext server
    simp [entryOf, Disk.contents, hcredentials, read, File.entry, File.empty]
  · intro s l s' hs hstep
    exact (inv_of_reachable hs).view_step hstep

end view

/-! ### An update that is left alone -/

section progress
variable {β : Type} {text : Json.Text β} {path : String} {s : State β} {p : Nat}

theorem endRead_update (s : State β) (p : Nat) (fn : Callback) (since : Nat) {f : File}
    {got : Option (List β)} (hread : read text path got = .ok f) :
    (s.endRead text path p (some fn) since got).procs p = .deciding fn f ∧
    (s.endRead text path p (some fn) since got).turns = s.turns := by
  unfold State.endRead
  simp only [hread]
  exact ⟨setPhase_same _, rfl⟩

/-- `read` under the lock comes to the callback. -/
theorem exists_deciding (h : Reachable (system text path) s) {fn : Callback} {since : Nat} {f : File}
    (hp : s.procs p = .reading (some fn) since .stat)
    (hread : read text path s.disk.contents = .ok f) :
    ∃ s', Reachable (system text path) s' ∧ s'.procs p = .deciding fn f ∧ s'.disk = s.disk ∧
      s'.turns = s.turns := by
  cases hcredentials : s.disk.credentials with
  | none =>
    have hcontents : s.disk.contents = none := by simp [Disk.contents, hcredentials]
    rw [hcontents] at hread
    have hstat := h.step (l := Label.stat p) ⟨some fn, since, hp, (if_pos hcredentials).symm⟩
    have hend := endRead_update s p fn since hread
    exact ⟨_, hstat, hend.1, endRead_disk _ _ _, hend.2⟩
  | some i =>
    have hcontents : s.disk.contents = some (s.disk.inodes i) := by
      simp [Disk.contents, hcredentials]
    rw [hcontents] at hread
    have hsome : s.disk.credentials ≠ none := by
      rw [hcredentials]
      exact Option.some_ne_none i
    have hstat := h.step (l := Label.stat p) ⟨some fn, since, hp, (if_neg hsome).symm⟩
    have hopen := hstat.step (l := Label.openFile p)
      ⟨some fn, since, i, setPhase_same _, hcredentials, rfl⟩
    -- all of it in one piece
    have hall := hopen.step (l := Label.readSome p (s.disk.inodes i).length)
      ⟨some fn, since, i, [], setPhase_same _, rfl⟩
    have hgot : more [] (s.disk.inodes i) (s.disk.inodes i).length = s.disk.inodes i := by
      simp [more]
    have hend := hall.step (l := Label.endOfFile p)
      ⟨some fn, since, i, _, setPhase_same _, (congrArg List.length hgot).ge, rfl⟩
    have hdeciding := fun s₀ : State β => endRead_update s₀ p fn since (hgot.symm ▸ hread)
    exact ⟨_, hend, (hdeciding _).1, endRead_disk _ _ _, (hdeciding _).2⟩

/-- `write` comes to the rename. -/
theorem exists_renamed (h : Reachable (system text path) s) {fn : Callback} {f f' : File}
    {data : List β} (hp : s.procs p = .deciding fn f) (hfn : fn f = .ok f')
    (hdata : marshal text f' = .ok data) :
    ∃ s', Reachable (system text path) s' ∧ s'.procs p = .releasing ∧
      s'.disk.contents = some data ∧ s'.turns = s.turns ++ [⟨p, fn, .renamed data⟩] := by
  have hdecide : s.decide text p fn f = s.setPhase p (.creating fn data) := by
    simp [State.decide, hfn, hdata]
  have hcallback := h.step (l := Label.callback p) ⟨fn, f, hp, hdecide.symm⟩
  have hcreate := hcallback.step (l := Label.createTemp p) ⟨fn, data, setPhase_same _, rfl⟩
  -- the whole of it in one write
  have hwrite := hcreate.step (l := Label.writeSome p data.length)
    ⟨fn, s.disk.fresh, data, setPhase_same _, rfl⟩
  have hclose := hwrite.step (l := Label.close p)
    ⟨fn, s.disk.fresh, data, setPhase_same _, by simp [Disk.setInode, more, State.setPhase], rfl⟩
  have hrename := hclose.step (l := Label.rename p) ⟨fn, s.disk.fresh, data, setPhase_same _, rfl⟩
  refine ⟨_, hrename, setPhase_same _, ?_, rfl⟩
  simp [Disk.contents, Disk.setInode, more, State.setPhase]

/-- **An update that is left alone goes through**: nothing but another process or a failure keeps
    it from the file. -/
theorem exists_committed (h : Reachable (system text path) s) {fn : Callback} {data : List β}
    (hp : s.procs p = .idle) (hfree : s.holder = none)
    (hupdate : update text path fn s.disk.contents = some data) :
    ∃ s', Reachable (system text path) s' ∧ s'.procs p = .idle ∧ s'.holder = none ∧
      s'.disk.contents = some data ∧ s'.turns = s.turns ++ [⟨p, fn, .renamed data⟩] := by
  obtain ⟨f, f', hread, hfn, hdata⟩ := update_eq_some hupdate
  have hcall := h.step (l := Label.update p fn) ⟨hp, rfl⟩
  have hlock := hcall.step (l := Label.acquire p) ⟨fn, setPhase_same _, hfree, rfl⟩
  obtain ⟨s₁, h₁, hp₁, hdisk₁, hturns₁⟩ := exists_deciding hlock (setPhase_same _) hread
  obtain ⟨s₂, h₂, hp₂, hcontents₂, hturns₂⟩ := exists_renamed h₁ hp₁ hfn hdata
  have hrelease := h₂.step (l := Label.release p) ⟨hp₂, rfl⟩
  refine ⟨_, hrelease, setPhase_same _, rfl, hcontents₂, ?_⟩
  show s₂.turns = _
  rw [hturns₂, hturns₁]
  rfl

end progress

/-! ### The guarantees -/

/-- **The credentials file is linearizable and crash-atomic.** -/
theorem credentials_linearizable {β : Type} (text : Json.Text β) (path : String) (s : State β)
    (h : Reachable (system text path) s) :
    -- every read saw no file or a complete one that a turn renamed into place, and the one that
    -- was there at some point between the start and the end of the read
    (∀ r ∈ s.reads, r.Linear s.disk.files ∧ (∃ f, read text path r.got = .ok f) ∧
      ∀ data, r.got = some data → ∃ t ∈ s.turns, t.data = some data) ∧
    -- the files are those of the turns that renamed, in the order of the lock, and each is what
    -- the turn's callback made of the one before
    (s.calls = s.turns.map Turn.call ++ s.current ∧
      s.disk.files = s.turns.filterMap Turn.data ∧
      Composes text path s.turns s.disk.contents) ∧
    -- nothing but a rename changes the file, and a rename only after a callback that returned nil
    (∀ l s', (system text path).step s l s' → s'.disk.contents = s.disk.contents ∨
      ∃ p fn data, l = .rename p ∧ (s.procs p).pending = some fn ∧
        update text path fn s.disk.contents = some data ∧ s'.disk.contents = some data) ∧
    -- what a turn stored for a server is there until a turn that renamed changes it
    (∀ before t after data server, s.turns = before ++ t :: after → t.data = some data →
      (∀ u ∈ after, u.data ≠ none → Spares u.fn server) →
      entryOf text path s.disk.contents server = entryOf text path (some data) server) := by
  have hinv := inv_of_reachable h
  refine ⟨?_, ⟨hinv.order, hinv.files, hinv.composed⟩, ?_, ?_⟩
  · intro r hr
    exact ⟨hinv.reads r hr, hinv.read_ok hr, fun data hgot => hinv.got_of_read hr hgot⟩
  · intro l s' hstep
    exact hinv.contents_step hstep
  · intro before t after data server hturns hdata hspared
    have hcomposed := hinv.composed
    rw [hturns] at hcomposed
    exact hcomposed.entry_kept hdata hspared

/-- Documents that are their own text. -/
def wholeText : Json.Text Json where
  print j := [j]
  parse l := l.head?
  parse_print _ := rfl

/-- A sign-in, for the run below. -/
def sampleEntry : Entry where
  issuer := "http://localhost:8080/dex"
  clientID := "topology-cli"
  scopes := ["openid"]
  idToken := "id"
  expiry := 1700000000000000000
  refreshToken := "refresh"

/-- Two sign-ins to two servers, and the first one is still there. -/
theorem credentials_linearizable_two_servers :
    ∃ s, Reachable (system wholeText "credentials.json") s ∧ s.turns.length = 2 ∧
      entryOf wholeText "credentials.json" s.disk.contents "http://a" = some sampleEntry := by
  have hinit : Reachable (system wholeText "credentials.json")
      ⟨⟨none, fun _ => [], 0, []⟩, none, fun _ => .idle, [], [], []⟩ :=
    .init ⟨rfl, rfl, rfl, fun _ => rfl, rfl, rfl, rfl⟩
  obtain ⟨first, hfirst⟩ : ∃ data, update wholeText "credentials.json"
      (signIn "http://a" sampleEntry) none = some data := ⟨_, rfl⟩
  obtain ⟨second, hsecond⟩ : ∃ data, update wholeText "credentials.json"
      (signIn "http://b" sampleEntry) (some first) = some data := by
    rw [← hfirst]
    exact ⟨_, rfl⟩
  have hentry : entryOf wholeText "credentials.json" (some first) "http://a" = some sampleEntry := by
    rw [← hfirst]
    decide +kernel
  obtain ⟨s₁, h₁, hp₁, hfree₁, hcontents₁, hturns₁⟩ := exists_committed (p := 0) hinit rfl rfl hfirst
  rw [← hcontents₁] at hsecond
  obtain ⟨s₂, h₂, -, -, -, hturns₂⟩ := exists_committed h₁ hp₁ hfree₁ hsecond
  rw [hturns₁] at hturns₂
  refine ⟨s₂, h₂, by rw [hturns₂]; rfl, ?_⟩
  obtain ⟨-, -, -, hkept⟩ := credentials_linearizable wholeText "credentials.json" s₂ h₂
  rw [← hentry]
  apply hkept [] ⟨0, signIn "http://a" sampleEntry, .renamed first⟩ _ first "http://a" hturns₂ rfl
  intro u hu _
  rw [List.mem_singleton.mp hu]
  exact signIn_spares (by decide) sampleEntry

end TopologyVisualizer.Cli.Store
