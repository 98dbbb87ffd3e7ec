import TopologyVisualizer.Cli.Source
import TopologyVisualizer.Framework.Checks

/-! # Refreshing a Sign-in

    `refresh` and `discover` of `cli/internal/auth`, and the whole of
    `Source.get` with the classification of what went wrong: a
    `refusedError` clears the stored tokens, any other error keeps them.

    What is outside of the repository is a parameter: the HTTP client, the
    decoding of a token, and `golang.org/x/oauth2`, of which it is assumed
    that a response with a status other than 2xx comes back as a
    `RetrieveError` with this response, and that a request without a response
    does not (`OAuth2`).
-/

namespace TopologyVisualizer.Cli.Source

open Checks

/-! ### The token endpoint -/

/-- An HTTP response. -/
structure Response where
  statusCode : Nat
  status : String
  body : String
  deriving DecidableEq

/-- What came of the request to the token endpoint. -/
inductive Reply where
  | none (err : String)
  | response (r : Response)

/-- The errors of `oauth2`, as `describeTokenError` tells them apart. -/
inductive TokenError where
  /-- A `RetrieveError`. -/
  | retrieve (response : Option Response) (errorCode errorDescription : String)
  /-- A `ConnectionError` or `ErrInsecureTransport` in the chain. -/
  | transport (message : String)
  | other (message : String)

/-- What `refresh` reads of an `oauth2.Token`; an `id_token` that is no string is blank. -/
structure Token where
  idToken : String
  refreshToken : String

/-- The token source of `golang.org/x/oauth2`. -/
structure OAuth2 where
  token : Reply → Except TokenError Token
  /-- A response other than 2xx is a `RetrieveError` that carries it. -/
  of_response : ∀ r : Response, ¬ (200 ≤ r.statusCode ∧ r.statusCode ≤ 299) →
    ∃ code description, token (.response r) = .error (.retrieve (some r) code description)
  /-- Without a response there is none to carry. -/
  of_none : ∀ err, ∃ message, token (.none err) = .error (.transport message) ∨
    token (.none err) = .error (.other message)

/-- The errors of `refresh`: `refusedError`, and all others. -/
inductive RefreshError where
  | refused (message : String)
  | failed (message : String)

/-- `ConnectionError`. -/
def connectionError (target err : String) : String := "cannot reach " ++ target ++ ": " ++ err

/-- `describeTokenError`. -/
def describeTokenError (what : String) : TokenError → RefreshError
  | .retrieve response errorCode errorDescription =>
    .refused (what ++ ": the provider answered" ++
      (match response with
        | some r => " " ++ r.status
        | none => "") ++
      (if errorCode ≠ "" then " " ++ errorCode else "") ++
      (if errorDescription ≠ "" then " (" ++ errorDescription ++ ")" else ""))
  | .transport message => .failed message
  | .other message => .failed (connectionError "the token endpoint" message)

/-! ### Discovery -/

/-- `discovery`, as far as `refresh` reads it. -/
structure Discovery where
  issuer : String
  authorizationEndpoint : String
  tokenEndpoint : String

/-- What came of the request for the discovery document. -/
inductive Fetched where
  /-- `http.NewRequestWithContext` failed. -/
  | badRequest (err : String)
  | unreachable (err : String)
  /-- The decoded document, if it decodes. -/
  | answered (statusCode : Nat) (status : String) (document : Option Discovery)

/-- The claim `aud`: a string, a list, or anything else. -/
inductive Audience where
  | one (clientID : String)
  | many (clientIDs : List String)
  | other

/-- `claims`, as far as they are checked. The expiry is in seconds since the Unix epoch. -/
structure Claims where
  issuer : String
  audience : Audience
  expiry : Int
  nonce : String

/-- What `refresh` works with. -/
structure Provider where
  quote : String → String
  isAbs : String → Bool
  newHTTPClient : String → Option String
  checkSecretURL : String → Option String
  fetch : String → Fetched
  /-- The payload of a token in three parts, if it decodes. -/
  decodeClaims : String → Option Claims
  oauth2 : OAuth2
  /-- The reply of the token endpoint when the refresh token of an entry is presented. -/
  post : String → Entry → Reply

/-- `strings.TrimRight(s, "/")`. -/
def trimSlashes (s : String) : String := String.ofList (s.toList.reverse.dropWhile (· = '/')).reverse

section refreshing
variable (p : Provider)

/-- `discover`. -/
def discover (raw : String) : Except String Discovery :=
  let issuer := trimSlashes raw
  match p.checkSecretURL issuer with
  | some err => .error ("issuer: " ++ err)
  | none =>
    match p.fetch (issuer ++ "/.well-known/openid-configuration") with
    | .badRequest err => .error err
    | .unreachable err => .error (connectionError ("issuer " ++ issuer) err)
    | .answered statusCode status document =>
      if statusCode ≠ 200 then
        .error ("issuer " ++ issuer ++ ": discovery answered " ++ status ++ "; check --issuer")
      else match document with
        | none => .error ("issuer " ++ issuer ++ ": discovery document is not valid JSON")
        | some d => do
          rejectIf (trimSlashes d.issuer ≠ issuer) ("issuer " ++ issuer ++
            ": discovery names a different issuer " ++ p.quote d.issuer ++ "; check --issuer")
          rejectIf (d.authorizationEndpoint = "" ∨ d.tokenEndpoint = "")
            ("issuer " ++ issuer ++ ": discovery lacks an authorization or token endpoint")
          match p.checkSecretURL d.authorizationEndpoint with
          | some err => .error ("authorization endpoint: " ++ err)
          | none =>
            match p.checkSecretURL d.tokenEndpoint with
            | some err => .error ("token endpoint: " ++ err)
            | none => .ok d

/-- `caFile`. -/
def caFile (e : Entry) : Except String String :=
  if e.caFile ≠ "" ∧ !p.isAbs e.caFile then
    .error ("the saved --ca-file " ++ p.quote e.caFile ++
      " is not an absolute path; run login again with an absolute --ca-file")
  else .ok e.caFile

/-- `refresh` up to the request to the token endpoint. -/
def tokenEndpoint (e : Entry) : Except String String :=
  match caFile p e with
  | .error err => .error err
  | .ok file =>
    match p.newHTTPClient file with
    | some err => .error err
    | none => (discover p e.issuer).map Discovery.tokenEndpoint

/-- `hasAudience`. -/
def Claims.hasAudience (c : Claims) (clientID : String) : Bool :=
  match c.audience with
  | .one aud => aud = clientID
  | .many auds => clientID ∈ auds
  | .other => false

/-- `checkIDToken`. -/
def checkIDToken (token issuer clientID nonce : String) : Except String Claims :=
  -- `parseClaims` takes an expiry of zero for a missing one
  match (p.decodeClaims token).filter (fun c => c.expiry ≠ 0) with
  | none => .error "the provider returned a malformed ID token"
  | some c => do
    rejectIf (trimSlashes c.issuer ≠ trimSlashes issuer)
      ("the ID token was issued by " ++ p.quote c.issuer ++ ", not " ++ issuer)
    rejectIf (!c.hasAudience clientID) ("the ID token is not for client " ++ p.quote clientID)
    rejectIf (nonce ≠ "" ∧ c.nonce ≠ nonce)
      "the ID token does not answer this sign-in (nonce mismatch)"
    return c

/-- `refresh` from the reply of the token endpoint on. -/
def redeem (e : Entry) (reply : Reply) : Except RefreshError Entry :=
  match p.oauth2.token reply with
  | .error err => .error (describeTokenError "refreshing the sign-in" err)
  | .ok tok =>
    if tok.idToken = "" then
      .error (.refused "refreshing the sign-in: the provider returned no ID token")
    else match checkIDToken p tok.idToken e.issuer e.clientID "" with
      | .error err => .error (.refused ("refreshing the sign-in: " ++ err))
      | .ok c => .ok (redeemed e tok.idToken (c.expiry * 1000000000) tok.refreshToken)

/-- `refresh`. -/
def refresh (e : Entry) : Except RefreshError Entry :=
  match tokenEndpoint p e with
  | .error err => .error (.failed err)
  | .ok endpoint => redeem p e (p.post endpoint e)

/-! ### The whole of `get` -/

/-- What the file system gives a call: the file loaded without the lock, the file read under the
    lock, the file read again after a refusal, the error of a write if there is one, and the two
    times the clock is read. -/
structure Disk where
  loaded : Except String File
  locked : Except String File
  again : Except String File
  writeError : Option String
  loadedAt : GoTime
  lockedAt : GoTime

/-- What a call returns, and the file it has written, if any. -/
structure Result where
  written : Option File
  answer : Answer

/-- The end of `Update` when the callback succeeds. -/
def commit (disk : Disk) (f : File) (a : Answer) : Result :=
  match disk.writeError with
  | some err => ⟨none, .failed err⟩
  | none => ⟨some f, a⟩

/-- `Update` with a callback that comes to this decision on the file `f`. -/
def conclude (disk : Disk) (g : Get) (f : File) (onRefresh : Entry → Result) : Decision → Result
  | .unchanged a => ⟨none, a⟩
  | .clear e a => commit disk (f.set g.server e.clearTokens) a
  | .refresh e => onRefresh e

/-- The callback after the refresh token of `e` was refused. -/
def refusedUnderLock (disk : Disk) (g : Get) (e : Entry) (reason : String) : Result :=
  match disk.again with
  | .error err => ⟨none, .failed err⟩
  | .ok fresh =>
    -- a refusal leads to no second refresh
    conclude disk g fresh (fun _ => ⟨none, .failed reason⟩)
      (afterRefusal g e.refreshToken reason fresh)

/-- `get`. -/
def get (disk : Disk) (g : Get) : Result :=
  match disk.loaded with
  | .error err => ⟨none, .failed err⟩
  | .ok f =>
    match fastPath p.checkSecretURL disk.loadedAt g f with
    | some a => ⟨none, a⟩
    | none =>
      match disk.locked with
      | .error err => ⟨none, .failed err⟩
      | .ok f =>
        conclude disk g f
          (fun e =>
            match refresh p e with
            -- could not ask: the tokens are kept
            | .error (.failed err) => ⟨none, .failed err⟩
            | .error (.refused reason) => refusedUnderLock disk g e reason
            | .ok next => commit disk (f.set g.server next) (.token next.idToken))
          (underLock disk.lockedAt g f)

end refreshing

/-! ### Transient answers -/

/-- An answer that says nothing about the refresh token: none at all, 429 or 5xx. -/
def Reply.Transient : Reply → Prop
  | .none _ => True
  | .response r => r.statusCode = 429 ∨ (500 ≤ r.statusCode ∧ r.statusCode ≤ 599)

/-- A call whose refresh presents the token of `e` at the token endpoint. -/
structure Asks (p : Provider) (disk : Disk) (g : Get) (e : Entry) (endpoint : String) : Prop where
  loaded : ∃ f, disk.loaded = .ok f ∧ fastPath p.checkSecretURL disk.loadedAt g f = none
  locked : ∃ f, disk.locked = .ok f ∧ underLock disk.lockedAt g f = .refresh e
  endpoint : tokenEndpoint p e = .ok endpoint

/-- The call leaves the file as it was and does not ask for a login. -/
structure KeepsSignIn (r : Result) : Prop where
  written : r.written = none
  answer : ∀ reason, r.answer ≠ .notSignedIn reason

theorem keepsSignIn_failed (err : String) : KeepsSignIn ⟨none, .failed err⟩ where
  written := rfl
  answer := by
    intro reason h
    cases h

theorem keepsSignIn_token (value : String) : KeepsSignIn ⟨none, .token value⟩ where
  written := rfl
  answer := by
    intro reason h
    cases h

/-- After a refusal of the token of `e`, the file does not let itself be cleared: it cannot be
    read again, it has another token meanwhile, or it cannot be written. -/
def Disk.Withstands (disk : Disk) (g : Get) (e : Entry) : Prop :=
  match disk.again with
  | .error _ => True
  | .ok fresh =>
    match fresh.entry g.server with
    | none => False
    | some stored =>
      if stored.refreshToken = e.refreshToken then disk.writeError ≠ none else stored.signedIn

variable {p : Provider} {disk : Disk} {g : Get} {e : Entry} {endpoint : String}

/-- A refresh that fails without a refusal ends the call. -/
theorem get_of_failed (h : Asks p disk g e endpoint) {err : String}
    (hredeem : redeem p e (p.post endpoint e) = .error (.failed err)) :
    get p disk g = ⟨none, .failed err⟩ := by
  obtain ⟨f, hloaded, hfast⟩ := h.loaded
  obtain ⟨f', hlocked, hunder⟩ := h.locked
  simp only [get, hloaded, hfast, hlocked, hunder, conclude, refresh, h.endpoint, hredeem]

theorem get_of_refused (h : Asks p disk g e endpoint) {reason : String}
    (hredeem : redeem p e (p.post endpoint e) = .error (.refused reason)) :
    get p disk g = refusedUnderLock disk g e reason := by
  obtain ⟨f, hloaded, hfast⟩ := h.loaded
  obtain ⟨f', hlocked, hunder⟩ := h.locked
  simp only [get, hloaded, hfast, hlocked, hunder, conclude, refresh, h.endpoint, hredeem]

/-- Not reaching the token endpoint is no refusal. -/
theorem redeem_none (err : String) : ∃ message, redeem p e (.none err) = .error (.failed message) := by
  unfold redeem
  obtain ⟨message, h | h⟩ := p.oauth2.of_none err
  · rw [h]
    exact ⟨_, rfl⟩
  · rw [h]
    exact ⟨_, rfl⟩

/-- Any status other than 2xx is taken for a refusal. -/
theorem redeem_response {r : Response} (hstatus : ¬ (200 ≤ r.statusCode ∧ r.statusCode ≤ 299)) :
    ∃ reason, redeem p e (.response r) = .error (.refused reason) := by
  unfold redeem
  obtain ⟨code, description, h⟩ := p.oauth2.of_response r hstatus
  rw [h]
  exact ⟨_, rfl⟩

/-- A write either fails, and the file stays, or changes the file. -/
theorem keepsSignIn_commit (f : File) (reason : String) :
    KeepsSignIn (commit disk f (.notSignedIn reason)) ↔ disk.writeError ≠ none := by
  unfold commit
  cases disk.writeError with
  | none =>
    constructor
    · intro h
      cases h.written
    · intro h
      exact absurd rfl h
  | some err =>
    constructor
    · intro _ hnone
      cases hnone
    · intro _
      exact keepsSignIn_failed err

/-- A refusal keeps the sign-in exactly when the file withstands it. -/
theorem keepsSignIn_refused (reason : String) :
    KeepsSignIn (refusedUnderLock disk g e reason) ↔ disk.Withstands g e := by
  unfold refusedUnderLock Disk.Withstands
  cases disk.again with
  | error err =>
    constructor
    · intro _
      trivial
    · intro _
      exact keepsSignIn_failed err
  | ok fresh =>
    dsimp only
    cases hentry : fresh.entry g.server with
    | none =>
      have hafter : afterRefusal g e.refreshToken reason fresh =
          .unchanged (.notSignedIn "signed out") := by
        simp [afterRefusal, clearIfRefreshTokenIs, hentry]
      rw [hafter]
      constructor
      · intro h
        exact h.answer _ rfl
      · intro h
        exact h.elim
    | some stored =>
      dsimp only
      by_cases htoken : stored.refreshToken = e.refreshToken
      · -- the refused token is still there, and is cleared
        rw [if_pos htoken, ← htoken, afterRefusal_of_stored reason hentry]
        exact keepsSignIn_commit _ reason
      · have hclear : clearIfRefreshTokenIs fresh g.server e.refreshToken = none := by
          rw [clearIfRefreshTokenIs, hentry]
          simp [Option.filter, htoken]
        have hafter : afterRefusal g e.refreshToken reason fresh =
            if stored.signedIn then .unchanged (.token stored.idToken)
            else .unchanged (.notSignedIn "signed out") := by
          simp only [afterRefusal, hclear, hentry]
        rw [if_neg htoken, hafter]
        by_cases hsigned : stored.signedIn = true
        · rw [if_pos hsigned]
          constructor
          · intro _
            exact hsigned
          · intro _
            exact keepsSignIn_token stored.idToken
        · rw [if_neg hsigned]
          constructor
          · intro h
            exact absurd rfl (h.answer _)
          · intro h
            exact absurd h hsigned

/-- **Transient failures**: when the token endpoint gives a transient answer to a refresh, the
    file is left as it was and no login is asked for if and only if there was no response at
    all, or the file withstands a refusal. -/
theorem transient_keeps_sign_in_iff (p : Provider) (disk : Disk) (g : Get) (e : Entry)
    (endpoint : String) (hasks : Asks p disk g e endpoint)
    (htransient : (p.post endpoint e).Transient) :
    KeepsSignIn (get p disk g) ↔
      (∃ err, p.post endpoint e = .none err) ∨ disk.Withstands g e := by
  cases hreply : p.post endpoint e with
  | none err =>
    obtain ⟨message, hredeem⟩ := redeem_none (p := p) (e := e) err
    rw [← hreply] at hredeem
    rw [get_of_failed hasks hredeem]
    constructor
    · intro _
      exact .inl ⟨err, rfl⟩
    · intro _
      exact keepsSignIn_failed message
  | response r =>
    rw [hreply] at htransient
    have hstatus : ¬ (200 ≤ r.statusCode ∧ r.statusCode ≤ 299) := by
      rcases htransient with h | h <;> omega
    obtain ⟨reason, hredeem⟩ := redeem_response (p := p) (e := e) hstatus
    rw [← hreply] at hredeem
    rw [get_of_refused hasks hredeem, keepsSignIn_refused]
    constructor
    · intro h
      exact .inr h
    · intro h
      rcases h with ⟨err, hnone⟩ | h
      · cases hnone
      · exact h

/-! ### A provider that answers 503 -/

/-- `oauth2` without the decoding of a body. -/
def plainOAuth2 : OAuth2 where
  token := fun reply =>
    match reply with
    | .none err => .error (.other err)
    | .response r =>
      if 200 ≤ r.statusCode ∧ r.statusCode ≤ 299 then .ok ⟨r.body, ""⟩
      else .error (.retrieve (some r) "" "")
  of_response := fun _ h => ⟨"", "", if_neg h⟩
  of_none := fun err => ⟨err, .inr rfl⟩

/-- An issuer that can be reached, and a token endpoint that gives `reply`. -/
def sampleProvider (reply : Reply) : Provider where
  quote := id
  isAbs := fun _ => true
  newHTTPClient := fun _ => none
  checkSecretURL := fun _ => none
  fetch := fun _ => .answered 200 "200 OK"
    (some ⟨"https://issuer", "https://issuer/auth", "https://issuer/token"⟩)
  decodeClaims := fun _ => none
  oauth2 := plainOAuth2
  post := fun _ _ => reply

/-- A sign-in whose ID token has expired. -/
def sampleSignIn : Entry where
  issuer := "https://issuer"
  clientID := "cli"
  scopes := ["openid"]
  idToken := "old"
  expiry := 0
  refreshToken := "r1"

/-- The disk of a call that no one interferes with. -/
def sampleDisk : Disk where
  loaded := .ok (File.empty.set "https://topology" sampleSignIn)
  locked := .ok (File.empty.set "https://topology" sampleSignIn)
  again := .ok (File.empty.set "https://topology" sampleSignIn)
  writeError := none
  loadedAt := ⟨0, none⟩
  lockedAt := ⟨0, none⟩

theorem sampleDisk_asks (reply : Reply) : Asks (sampleProvider reply) sampleDisk
    ⟨"https://topology", .token⟩ sampleSignIn "https://issuer/token" where
  loaded := ⟨_, rfl, rfl⟩
  locked := ⟨_, rfl, rfl⟩
  endpoint := rfl

/-- An endpoint that cannot be reached leaves the sign-in alone. -/
theorem transient_unreachable :
    KeepsSignIn (get (sampleProvider (.none "connection refused")) sampleDisk
      ⟨"https://topology", .token⟩) :=
  (transient_keeps_sign_in_iff (sampleProvider (.none "connection refused")) sampleDisk _
    sampleSignIn "https://issuer/token" (sampleDisk_asks _) trivial).mpr (.inl ⟨_, rfl⟩)

/-- **A 503 signs the user out**: the tokens are cleared and a login is asked for. -/
theorem unavailable_signs_out :
    get (sampleProvider (.response ⟨503, "503 Service Unavailable", ""⟩)) sampleDisk
        ⟨"https://topology", .token⟩ =
      ⟨some (File.empty.set "https://topology" sampleSignIn |>.set "https://topology"
          sampleSignIn.clearTokens),
        .notSignedIn
          "refreshing the sign-in: the provider answered 503 Service Unavailable"⟩ := by
  rfl

end TopologyVisualizer.Cli.Source
