import TopologyVisualizer.Cli.Credentials

/-! # Token Source

    `Source.Token` and `Source.Refresh` of `cli/internal/auth/source.go`,
    one piece between two system calls at a time: what `get` does with the
    file it loaded without the lock, with the file it read under the lock,
    and with the answer of the provider.
-/

namespace TopologyVisualizer.Cli.Source

/-- `RefreshWindow`, in nanoseconds. -/
def refreshWindow : Int := 60 * 1000000000

/-- `Token`, or `Refresh` of a token that the server has rejected. -/
inductive Call where
  | token
  | refresh (rejected : String)

/-- The argument `rejected` of `get`. -/
def Call.rejected : Call → String
  | .token => ""
  | .refresh rejected => rejected

/-- A call, and the server of its source. -/
structure Get where
  server : String
  call : Call

/-- What a call returns. -/
inductive Answer where
  | token (value : String)
  /-- A `NotSignedInError`. -/
  | notSignedIn (reason : String)
  | failed (message : String)

/-- What the call makes of the answer of `get`. -/
def Call.answer : Call → Answer → Answer
  | .refresh _, .token "" => .notSignedIn "no credentials are stored for this server"
  | _, a => a

/-- `needsRefresh`. -/
def needsRefresh (now : GoTime) (e : Entry) (rejected : String) : Bool :=
  -- another process may have replaced the rejected token already
  if rejected ≠ "" then e.idToken = rejected
  else !(now.add refreshWindow).before ⟨e.expiry, none⟩

/-- The fast path of `get`, on the file loaded without the lock: an answer, or none when the
    token has to be refreshed. The check of the server's URL returns an error or none. -/
def fastPath (checkSecretURL : String → Option String) (now : GoTime) (g : Get) (f : File) :
    Option Answer :=
  match f.entry g.server with
  -- nothing was ever stored: the request goes without a token
  | none => some (.token "")
  | some e =>
    if !e.signedIn then some (.notSignedIn "the stored sign-in was cleared")
    else
      match checkSecretURL g.server with
      | some err => some (.failed ("server: " ++ err))
      | none => if !needsRefresh now e g.call.rejected then some (.token e.idToken) else none

/-- What the callback under the lock decides. -/
inductive Decision where
  /-- `errUnchanged`. -/
  | unchanged (answer : Answer)
  /-- The tokens of this entry are cleared, and the file is written. -/
  | clear (e : Entry) (answer : Answer)
  /-- The refresh token of this entry is redeemed. -/
  | refresh (e : Entry)

/-- The callback up to the refresh, on the file read under the lock. -/
def underLock (now : GoTime) (g : Get) (f : File) : Decision :=
  match f.entry g.server with
  | none => .unchanged (.notSignedIn "signed out")
  | some e =>
    if !e.signedIn then .unchanged (.notSignedIn "the stored sign-in was cleared")
    else if !needsRefresh now e g.call.rejected then .unchanged (.token e.idToken)
    else if e.refreshToken = "" then
      .clear e (.notSignedIn "the token expired and there is no refresh token")
    else .refresh e

/-- The entry that `refresh` returns when the provider grants one. -/
def redeemed (e : Entry) (idToken : String) (expiry : Int) (refreshToken : String) : Entry :=
  { e with
    idToken := idToken
    expiry := expiry
    -- a provider that returns none keeps the old one
    refreshToken := if refreshToken ≠ "" then refreshToken else e.refreshToken }

/-- `clearIfRefreshTokenIs`: the entry that it clears, if any. -/
def clearIfRefreshTokenIs (f : File) (server failed : String) : Option Entry :=
  (f.entry server).filter (fun e => e.refreshToken = failed)

/-- The callback after a refusal, on the file read again. -/
def afterRefusal (g : Get) (failed reason : String) (f : File) : Decision :=
  match clearIfRefreshTokenIs f g.server failed with
  | some e => .clear e (.notSignedIn reason)
  | none =>
    match f.entry g.server with
    | some e => if e.signedIn then .unchanged (.token e.idToken) else .unchanged (.notSignedIn "signed out")
    | none => .unchanged (.notSignedIn "signed out")

/-! ### What a decision says of the file -/

variable {now : GoTime} {g : Get} {f : File} {e : Entry} {a : Answer}

/-- The token that is presented is the stored one. -/
theorem underLock_refresh (h : underLock now g f = .refresh e) :
    f.entry g.server = some e ∧ e.signedIn ∧ e.refreshToken ≠ "" := by
  unfold underLock at h
  cases hentry : f.entry g.server with
  | none => rw [hentry] at h; cases h
  | some e' =>
    rw [hentry] at h
    simp only at h
    split_ifs at h with hsigned hneeds hempty
    cases h
    exact ⟨rfl, by simpa using hsigned, hempty⟩

/-- Without a refusal, only an entry without a refresh token is cleared. -/
theorem underLock_clear (h : underLock now g f = .clear e a) :
    f.entry g.server = some e ∧ e.signedIn ∧ e.refreshToken = "" := by
  unfold underLock at h
  cases hentry : f.entry g.server with
  | none => rw [hentry] at h; cases h
  | some e' =>
    rw [hentry] at h
    simp only at h
    split_ifs at h with hsigned hneeds hempty
    cases h
    exact ⟨rfl, by simpa using hsigned, hempty⟩

/-- While the refused token is stored, its entry is what is cleared. -/
theorem afterRefusal_of_stored (reason : String) (h : f.entry g.server = some e) :
    afterRefusal g e.refreshToken reason f = .clear e (.notSignedIn reason) := by
  have hclear : clearIfRefreshTokenIs f g.server e.refreshToken = some e := by
    simp [clearIfRefreshTokenIs, h]
  unfold afterRefusal
  rw [hclear]

end TopologyVisualizer.Cli.Source
