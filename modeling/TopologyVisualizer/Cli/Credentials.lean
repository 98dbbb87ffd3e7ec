import TopologyVisualizer.Framework.GoTime
import TopologyVisualizer.Wire

/-! # Credentials

    `Entry`, `File` and their JSON form in `cli/internal/auth/store.go`.

    A Go map is a `Dict`; what is written is sorted by key, so a file that
    was written and read back has the same entries in another order. The
    printed text of a document is a parameter (`Json.Text`): all that
    matters of it is that it can be read back.
-/

namespace TopologyVisualizer.Cli

open Json

/-! ### Entries -/

/-- `Entry`. An expiry is in nanoseconds since the Unix epoch. -/
structure Entry where
  issuer : String
  clientID : String
  scopes : List String
  caFile : String := ""
  idToken : String := ""
  expiry : Int := GoTime.zeroWall
  refreshToken : String := ""
  deriving DecidableEq

/-- `SignedIn`, of an entry that is there. -/
def Entry.signedIn (e : Entry) : Bool := e.idToken ≠ ""

/-- `clearTokens`. -/
def Entry.clearTokens (e : Entry) : Entry :=
  { e with idToken := "", refreshToken := "", expiry := GoTime.zeroWall }

/-- `fileVersion`. -/
def fileVersion : Int := 1

/-- `File`. A server may be listed without an entry. -/
structure File where
  version : Int
  servers : Dict String (Option Entry)

/-- The file that `read` returns when there is none. -/
def File.empty : File := ⟨fileVersion, .empty⟩

/-- `f.Servers[server]`. -/
def File.entry (f : File) (server : String) : Option Entry := (f.servers.get? server).join

/-- `f.Servers[server] = e`. -/
def File.set (f : File) (server : String) (e : Entry) : File :=
  { f with servers := f.servers.set server (some e) }

theorem File.entry_set (f : File) (server : String) (e : Entry) :
    (f.set server e).entry = Function.update f.entry server (some e) := by
  funext server'
  unfold File.entry File.set
  by_cases h : server' = server
  · rw [h, Dict.get?_set_self, Function.update_self]
    rfl
  · rw [Dict.get?_set_ne _ _ h, Function.update_of_ne h]

/-! ### Encoding -/

/-- A string with `omitempty`. -/
def omitEmpty (name value : String) : List (String × Json) :=
  if value = "" then [] else [(name, .str value)]

/-- `expiry`, with `omitzero`. -/
def encodeExpiry (expiry : Int) : Except String (List (String × Json)) :=
  if expiry = GoTime.zeroWall then .ok []
  else (Wire.marshalTime ⟨expiry, none⟩).map (fun j => [("expiry", j)])

/-- The fields of an entry, given those of its expiry. -/
def entryFields (e : Entry) (expiry : List (String × Json)) : List (String × Json) :=
  [("issuer", .str e.issuer), ("client_id", .str e.clientID),
    ("scopes", .arr (e.scopes.map Json.str))] ++
  omitEmpty "ca_file" e.caFile ++ omitEmpty "id_token" e.idToken ++ expiry ++
  omitEmpty "refresh_token" e.refreshToken

def encodeEntry (e : Entry) : Except String Json :=
  (encodeExpiry e.expiry).map (fun expiry => .obj (entryFields e expiry))

/-- A listed server: a nil entry is null. -/
def encodeServer (listed : String × Option Entry) : Except String (String × Json) :=
  match listed.2 with
  | none => .ok (listed.1, .null)
  | some e => (encodeEntry e).map (fun j => (listed.1, j))

/-- The document of a file. -/
def encodeFile (f : File) : Except String Json :=
  ((sortOn Prod.fst f.servers.entries).mapM encodeServer).map (fun servers =>
    .obj [("version", .int f.version), ("servers", .obj servers)])

/-! ### Decoding -/

def decodeEntry (fields : List (String × Json)) : Option Entry := do
  let issuer ← optionalField fields "issuer" readStr ""
  let clientID ← optionalField fields "client_id" readStr ""
  let scopes ← optionalField fields "scopes" (readList readStr) []
  let caFile ← optionalField fields "ca_file" readStr ""
  let idToken ← optionalField fields "id_token" readStr ""
  let expiry ← optionalField fields "expiry" (readTime Wire.yearZero Wire.yearTenThousand)
    GoTime.zeroWall
  let refreshToken ← optionalField fields "refresh_token" readStr ""
  return ⟨issuer, clientID, scopes, caFile, idToken, expiry, refreshToken⟩

/-- One value of the map of servers. -/
def decodeServer (j : Json) : Option (Option Entry) :=
  match j with
  | .null => some none
  | .obj fields => (decodeEntry fields).map some
  | _ => none

/-- The map of servers, a later field of a name in the place of an earlier one. -/
def decodeServers (j : Json) : Option (Dict String (Option Entry)) :=
  match j with
  | .obj fields =>
    (fields.mapM (fun f => (decodeServer f.2).map (fun e => (f.1, e)))).map (fun listed =>
      listed.foldl (fun d l => d.set l.1 l.2) .empty)
  | _ => none

/-- `json.Unmarshal` into a file that starts out as the empty one. -/
def decodeFile (j : Json) : Option File :=
  match j with
  | .obj fields => do
    let version ← optionalField fields "version" readInt fileVersion
    let servers ← optionalField fields "servers" decodeServers .empty
    return ⟨version, servers⟩
  | .null => some .empty
  | _ => none

/-! ### What is written can be read -/

theorem lookup_omitEmpty (name key value : String) :
    (omitEmpty name value).lookup key =
      if key = name then (if value = "" then none else some (.str value)) else none := by
  unfold omitEmpty
  by_cases hvalue : value = ""
  · simp [hvalue]
  · simp [hvalue, Dict.lookup_cons_ite]

/-- A string that was left out when empty is read back. -/
theorem optionalField_omitEmpty {fields : List (String × Json)} {name value : String}
    (h : fields.lookup name = if value = "" then none else some (.str value)) :
    optionalField fields name readStr "" = some value := by
  unfold optionalField withDefault
  rw [h]
  by_cases hvalue : value = ""
  · rw [if_pos hvalue, hvalue]
  · rw [if_neg hvalue]
    rfl

theorem optionalField_of_lookup {α : Type} {fields : List (String × Json)} {name : String}
    {read : Json → Option α} {default value : α} {j : Json} (h : fields.lookup name = some j)
    (hnull : j ≠ .null) (hread : read j = some value) :
    optionalField fields name read default = some value := by
  unfold optionalField withDefault nullable
  rw [h]
  cases j with
  | null => exact absurd rfl hnull
  | int n => simp [hread]
  | str s => simp [hread]
  | time ns => simp [hread]
  | arr items => simp [hread]
  | obj fields => simp [hread]

theorem readList_strings (ss : List String) : readList readStr (.arr (ss.map Json.str)) = some ss := by
  show (ss.map Json.str).mapM readStr = some ss
  rw [List.mapM_map]
  induction ss with
  | nil => rfl
  | cons s ss ih => rw [List.mapM_cons, ih]; rfl

/-- An expiry is read back, when it can be written. -/
theorem optionalField_expiry {fields rest : List (String × Json)} {expiry : Int}
    (h : encodeExpiry expiry = .ok rest) (hfields : fields.lookup "expiry" = rest.lookup "expiry") :
    optionalField fields "expiry" (readTime Wire.yearZero Wire.yearTenThousand) GoTime.zeroWall =
      some expiry := by
  unfold encodeExpiry at h
  split at h
  · next hzero =>
    cases h
    unfold optionalField withDefault
    rw [hfields, hzero]
    rfl
  · unfold Wire.marshalTime at h
    split at h
    · next hrange =>
      cases h
      exact optionalField_of_lookup hfields nofun (readTime_time hrange)
    · cases h

theorem lookup_encodeExpiry {expiry : Int} {rest : List (String × Json)} {name : String}
    (h : encodeExpiry expiry = .ok rest) (hname : name ≠ "expiry") : rest.lookup name = none := by
  unfold encodeExpiry Wire.marshalTime at h
  split_ifs at h
  · cases h
    rfl
  · cases h
    simp [Dict.lookup_cons_ite, hname]
  · cases h

theorem decodeEntry_entryFields {e : Entry} {rest : List (String × Json)}
    (h : encodeExpiry e.expiry = .ok rest) : decodeEntry (entryFields e rest) = some e := by
  have hother : ∀ name, name ≠ "expiry" → rest.lookup name = none :=
    fun _ hname => lookup_encodeExpiry h hname
  have hissuer : optionalField (entryFields e rest) "issuer" readStr "" = some e.issuer := rfl
  have hclient : optionalField (entryFields e rest) "client_id" readStr "" = some e.clientID := by
    rfl
  have hscopes : optionalField (entryFields e rest) "scopes" (readList readStr) [] =
      some e.scopes := by
    have hlookup : (entryFields e rest).lookup "scopes" = some (.arr (e.scopes.map Json.str)) := by
      simp [entryFields, Dict.lookup_cons_ite]
    exact optionalField_of_lookup hlookup nofun (readList_strings e.scopes)
  have hca : optionalField (entryFields e rest) "ca_file" readStr "" = some e.caFile := by
    apply optionalField_omitEmpty
    simp [entryFields, List.lookup_append, Dict.lookup_cons_ite, lookup_omitEmpty, hother]
  have hid : optionalField (entryFields e rest) "id_token" readStr "" = some e.idToken := by
    apply optionalField_omitEmpty
    simp [entryFields, List.lookup_append, Dict.lookup_cons_ite, lookup_omitEmpty, hother]
  have hexpiry : optionalField (entryFields e rest) "expiry"
      (readTime Wire.yearZero Wire.yearTenThousand) GoTime.zeroWall = some e.expiry := by
    apply optionalField_expiry h
    simp [entryFields, List.lookup_append, Dict.lookup_cons_ite, lookup_omitEmpty]
  have hrefresh : optionalField (entryFields e rest) "refresh_token" readStr "" =
      some e.refreshToken := by
    apply optionalField_omitEmpty
    simp [entryFields, List.lookup_append, Dict.lookup_cons_ite, lookup_omitEmpty, hother]
  simp only [decodeEntry, hissuer, hclient, hscopes, hca, hid, hexpiry, hrefresh,
    Option.bind_eq_bind, Option.bind_some]
  rfl

theorem decodeServer_encode {listed : String × Option Entry} {field : String × Json}
    (h : encodeServer listed = .ok field) :
    field.1 = listed.1 ∧ decodeServer field.2 = some listed.2 := by
  unfold encodeServer at h
  obtain ⟨name, entry⟩ := listed
  cases entry with
  | none =>
    cases h
    exact ⟨rfl, rfl⟩
  | some e =>
    simp only [encodeEntry] at h
    cases hexpiry : encodeExpiry e.expiry with
    | error m => rw [hexpiry] at h; cases h
    | ok rest =>
      rw [hexpiry] at h
      cases h
      refine ⟨rfl, ?_⟩
      show (decodeEntry (entryFields e rest)).map some = some (some e)
      rw [decodeEntry_entryFields hexpiry, Option.map_some]

theorem mapM_decodeServer {listed : List (String × Option Entry)} {fields : List (String × Json)}
    (h : List.Forall₂ (fun l f => encodeServer l = .ok f) listed fields) :
    fields.mapM (fun f => (decodeServer f.2).map (fun e => (f.1, e))) = some listed := by
  induction h with
  | nil => rfl
  | cons hwritten _ ih =>
    obtain ⟨hname, hentry⟩ := decodeServer_encode hwritten
    rw [List.mapM_cons, ih, hentry, hname]
    rfl

/-- **Round trip**: a file that could be written is read back with the same version and, at
    every server, the same entry. -/
theorem decodeFile_encode {f : File} {j : Json} (h : encodeFile f = .ok j) :
    ∃ f', decodeFile j = some f' ∧ f'.version = f.version ∧
      ∀ server, f'.servers.get? server = f.servers.get? server := by
  unfold encodeFile at h
  cases hservers : (sortOn Prod.fst f.servers.entries).mapM encodeServer with
  | error m => rw [hservers] at h; cases h
  | ok fields =>
    rw [hservers] at h
    cases h
    have hread := mapM_decodeServer (forall₂_of_mapM_ok hservers)
    refine ⟨⟨f.version, (sortOn Prod.fst f.servers.entries).foldl (fun d l => d.set l.1 l.2)
      .empty⟩, ?_, rfl, Dict.get?_foldl_set_of_perm (sortOn_perm _ _)⟩
    have hversion : optionalField [("version", .int f.version), ("servers", .obj fields)] "version"
        readInt fileVersion = some f.version := rfl
    have hlisted : decodeServers (.obj fields) = some ((sortOn Prod.fst f.servers.entries).foldl
        (fun d l => d.set l.1 l.2) .empty) := by
      simp only [decodeServers, hread, Option.map_some]
    have hfound : optionalField [("version", .int f.version), ("servers", .obj fields)] "servers"
        decodeServers .empty = some ((sortOn Prod.fst f.servers.entries).foldl
          (fun d l => d.set l.1 l.2) .empty) := by
      have hlookup : List.lookup "servers" [("version", Json.int f.version),
          ("servers", Json.obj fields)] = some (Json.obj fields) := by
        simp [Dict.lookup_cons_ite]
      exact optionalField_of_lookup hlookup nofun hlisted
    simp only [decodeFile, hversion, hfound, Option.bind_eq_bind, Option.bind_some]
    rfl

end TopologyVisualizer.Cli
