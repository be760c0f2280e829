import Mathlib.Algebra.Group.Nat.Defs
import PairQuote.Proofs.Settings.File

/-! # Precedence of settings

Each setting takes the value of the highest layer that sets it, and what lower layers say of it is
never looked at (`TakesHighest`).  Values are taken once all layers are one table, so an invalid
value in a lower layer does no harm.  There is one exception: a file is read as a whole before its
values are compared with those of other layers, and a decimal that cannot be read spoils all of it,
also where a higher layer sets the same setting (`load_overridden_infinity`).

Whatever the layers say, settings come with the address of a node, a connection and a request a
minute (`Sound`), or do not come at all.
-/
namespace PairQuote.Settings

variable {env : Environment} {files : Files} {path : String} {value : Key → Value}
  {s s' : Settings}

/-! ## Taking values -/

/-- Takes every setting from its value. -/
def ofValues? (value : Key → Value) : Option Settings := do
  return {
    host := ← (value .host).toText?
    port := UInt16.ofNat (← (value .port).toNumberOf? 16)
    shutdownTimeoutSecs := UInt32.ofNat (← (value .shutdownTimeout).toNumberOf? 32)
    rpcUrl := ← (value .rpcUrl).toText?
    chainId := UInt64.ofNat (← (value .chainId).toNumberOf? 64)
    connectionPoolSize := UInt64.ofNat (← (value .connectionPoolSize).toNumberOf? 64)
    requestTimeoutSecs := UInt64.ofNat (← (value .requestTimeout).toNumberOf? 64)
    requestsPerMinute := UInt32.ofNat (← (value .requestsPerMinute).toNumberOf? 32)
    logLevel := ← (value .logLevel).toText?
    logFormat := ← LogFormat.ofValue? (value .logFormat) }

/-- A table is taken by the values of the settings in it. -/
theorem ofTable?_eq {root : Value} (h : ∀ k : Key, k.value? root = some (value k)) :
    ofTable? root = ofValues? value := by
  simp only [ofTable?, textAt?, numberAt?, h, Option.bind_some]
  rfl

/-- What it means that a setting takes a value. -/
def Key.Takes (s : Settings) (v : Value) : Key → Prop
  | host => v.toText? = some s.host
  | port => v.toNumberOf? 16 = some s.port.toNat
  | shutdownTimeout => v.toNumberOf? 32 = some s.shutdownTimeoutSecs.toNat
  | rpcUrl => v.toText? = some s.rpcUrl
  | chainId => v.toNumberOf? 64 = some s.chainId.toNat
  | connectionPoolSize => v.toNumberOf? 64 = some s.connectionPoolSize.toNat
  | requestTimeout => v.toNumberOf? 64 = some s.requestTimeoutSecs.toNat
  | requestsPerMinute => v.toNumberOf? 32 = some s.requestsPerMinute.toNat
  | logLevel => v.toText? = some s.logLevel
  | logFormat => LogFormat.ofValue? v = some s.logFormat

theorem lt_of_toNumberOf? {v : Value} {width n : Nat} (h : v.toNumberOf? width = some n) :
    n < 2 ^ width :=
  of_decide_eq_true (Option.filter_eq_some_iff.mp h).2

/-! A number that a value is taken for is held in as many bits as it is taken for. -/

section Numbers
variable {v : Value} {n : Nat}

theorem toNumberOf?_sixteen (h : v.toNumberOf? 16 = some n) :
    v.toNumberOf? 16 = some (UInt16.ofNat n).toNat := by
  rw [UInt16.toNat_ofNat_of_lt' (lt_of_toNumberOf? h), h]

theorem toNumberOf?_thirtyTwo (h : v.toNumberOf? 32 = some n) :
    v.toNumberOf? 32 = some (UInt32.ofNat n).toNat := by
  rw [UInt32.toNat_ofNat_of_lt' (lt_of_toNumberOf? h), h]

theorem toNumberOf?_sixtyFour (h : v.toNumberOf? 64 = some n) :
    v.toNumberOf? 64 = some (UInt64.ofNat n).toNat := by
  rw [UInt64.toNat_ofNat_of_lt' (lt_of_toNumberOf? h), h]

end Numbers

/-- **Settings are taken exactly if each of them takes its value.** -/
theorem ofValues?_eq_some_iff :
    ofValues? value = some s ↔ ∀ k : Key, k.Takes s (value k) := by
  simp only [ofValues?, Option.bind_eq_bind, Option.bind_eq_some_iff]
  constructor
  · rintro ⟨host, hhost, port, hport, shutdown, hshutdown, rpcUrl, hrpcUrl, chainId, hchainId, pool,
      hpool, timeout, htimeout, requests, hrequests, level, hlevel, format, hformat, htaken⟩
    obtain rfl := Option.some.inj htaken
    intro k
    cases k with
    | host => exact hhost
    | port => exact toNumberOf?_sixteen hport
    | shutdownTimeout => exact toNumberOf?_thirtyTwo hshutdown
    | rpcUrl => exact hrpcUrl
    | chainId => exact toNumberOf?_sixtyFour hchainId
    | connectionPoolSize => exact toNumberOf?_sixtyFour hpool
    | requestTimeout => exact toNumberOf?_sixtyFour htimeout
    | requestsPerMinute => exact toNumberOf?_thirtyTwo hrequests
    | logLevel => exact hlevel
    | logFormat => exact hformat
  · intro h
    refine ⟨_, h .host, _, h .port, _, h .shutdownTimeout, _, h .rpcUrl, _, h .chainId,
      _, h .connectionPoolSize, _, h .requestTimeout, _, h .requestsPerMinute, _, h .logLevel,
      _, h .logFormat, ?_⟩
    -- a number that was held in so many bits is held in them again
    simp only [UInt16.ofNat_toNat, UInt32.ofNat_toNat, UInt64.ofNat_toNat]
    rfl

/-! ## The last checks -/

/-- What settings have that pass the last checks. -/
structure Sound (s : Settings) : Prop where
  rpcUrl : s.rpcUrl ≠ ""
  connections : 1 ≤ s.connectionPoolSize.toNat
  requests : 1 ≤ s.requestsPerMinute.toNat

theorem validate_eq_ok_iff : s.validate = .ok s' ↔ s = s' ∧ s.Sound := by
  unfold validate
  split
  · next hempty =>
    exact ⟨nofun, fun h => absurd (String.isEmpty_iff.mp hempty) h.2.rpcUrl⟩
  · next hrpcUrl =>
    split
    · next hnone =>
      refine ⟨nofun, fun h => absurd h.2.connections ?_⟩
      rw [hnone]
      decide
    · next hpool =>
      split
      · next hnone =>
        refine ⟨nofun, fun h => absurd h.2.requests ?_⟩
        rw [hnone]
        decide
      · next hrequests =>
        have hsound : s.Sound :=
          ⟨fun hempty => hrpcUrl (String.isEmpty_iff.mpr hempty),
            Nat.pos_of_ne_zero fun hnone => hpool (UInt64.toNat_inj.mp hnone),
            Nat.pos_of_ne_zero fun hnone => hrequests (UInt32.toNat_inj.mp hnone)⟩
        rw [Except.ok.injEq]
        exact ⟨fun h => ⟨h, hsound⟩, fun h => h.1⟩

/-- The settings with given values, if these can be taken and the last checks pass. -/
def settle (value : Key → Value) : Except LoadError Settings :=
  match ofValues? value with
  | some s => s.validate
  | none => .error .unusable

theorem settle_eq_ok_iff :
    settle value = .ok s ↔ (∀ k : Key, k.Takes s (value k)) ∧ s.Sound := by
  rw [settle, ← ofValues?_eq_some_iff]
  cases hvalues : ofValues? value with
  | none => exact ⟨nofun, fun h => nomatch h.1⟩
  | some taken =>
    rw [Option.some.injEq]
    constructor
    · intro h
      obtain ⟨rfl, hsound⟩ := validate_eq_ok_iff.mp h
      exact ⟨rfl, hsound⟩
    · rintro ⟨rfl, hsound⟩
      exact validate_eq_ok_iff.mpr ⟨rfl, hsound⟩

/-- Settings that are loaded are sound, from whatever sources. -/
theorem sound_of_load (h : load env files path = .ok s) : s.Sound := by
  unfold load at h
  split at h
  · cases h
  · split at h
    · obtain ⟨rfl, hsound⟩ := validate_eq_ok_iff.mp h
      exact hsound
    · cases h

/-! ## The highest layer decides -/

/-- What it means that settings are loaded from the highest layers. -/
structure TakesHighest (env : Environment) (files : Files) (path : String)
    (file : Key → Option Value) : Prop where
  /-- All that matters of the layers are the highest values. -/
  settled : load env files path = settle (Layer.highest env file)
  /-- There are settings exactly if all highest values can be taken and the last checks pass. -/
  ok_iff : ∀ s, load env files path = .ok s ↔
    (∀ k : Key, k.Takes s (Layer.highest env file k)) ∧ s.Sound
  /-- What a layer says of a setting is the highest value if no layer above says anything of it,
  whatever the layers below say. -/
  decides : ∀ (k : Key) front layer back v, Layer.all = front ++ layer :: back →
    (∀ above ∈ front, Layer.value? env file k above = none) →
    Layer.value? env file k layer = some v → Layer.highest env file k = v

theorem load_eq_settle {sheet : Sheet} (henv : env.IsRegular) (hfile : FileGives files path sheet)
    (hread : sheet.Readable) :
    load env files path = settle (Layer.highest env sheet.value?) := by
  obtain ⟨file, hentries, hsheet, hsaid⟩ := hfile.fileEntries_of_readable hread
  have hlayers : ∀ k : Key,
      k.value? (layered env file) = some (Layer.highest env sheet.value? k) := by
    intro k
    rw [value?_layered henv hsheet, funext hsaid]
  have htaken := ofTable?_eq hlayers
  unfold load settle
  rw [hentries]
  dsimp only
  cases hvalues : ofValues? (Layer.highest env sheet.value?) with
  | none => rw [htaken, hvalues]
  | some s => rw [htaken, hvalues]

theorem takesHighest {sheet : Sheet} (henv : env.IsRegular) (hfile : FileGives files path sheet)
    (hread : sheet.Readable) : TakesHighest env files path sheet.value? where
  settled := load_eq_settle henv hfile hread
  ok_iff s := by rw [load_eq_settle henv hfile hread, settle_eq_ok_iff]
  decides _ _ _ _ _ hall habove h := Layer.highest_eq hall habove h

theorem load_of_not_readable {sheet : Sheet} (hfile : FileGives files path sheet)
    (hread : ¬sheet.Readable) (env : Environment) :
    load env files path = .error (.file .unreadable) := by
  rw [load, hfile.fileEntries_of_not_readable hread]

/-- The refusal of an error; what is wrong with a source or a value is told in other words than the
last checks have. -/
def LoadError.refusalWith (words : String) (e : LoadError) : Refusal :=
  e.refusal?.getD (.misconfigured words)

/-- Every error says that the service is set up wrongly. -/
theorem LoadError.refusalWith_eq (words : String) (e : LoadError) :
    ∃ cause, e.refusalWith words = .misconfigured cause := by
  cases e with
  | file _ => exact ⟨words, rfl⟩
  | unusable => exact ⟨words, rfl⟩
  | noRpcUrl => exact ⟨_, rfl⟩
  | noConnections => exact ⟨_, rfl⟩
  | noRequests => exact ⟨_, rfl⟩

/-- **Settings are loaded from the highest layers.**  If all decimals of the settings file can be
read, each setting takes the value of the highest layer that sets it; if not, there are no settings
whatever the other layers say.  Settings are sound, and without them there is an error, which says
that the service is set up wrongly. -/
theorem load_by_precedence {sheet : Sheet} (henv : env.IsRegular)
    (hfile : FileGives files path sheet) :
    (sheet.Readable → TakesHighest env files path sheet.value?) ∧
      (¬sheet.Readable → load env files path = .error (.file .unreadable)) ∧
      (∀ word, Yaml.Node.isReal word = true →
        (isReadable (.real word) = true ↔ ¬Yaml.Node.isNumberWord word = true)) ∧
      ((∃ s, load env files path = .ok s ∧ s.Sound) ∨
        ∃ e, load env files path = .error e ∧
          ∀ words, ∃ cause, e.refusalWith words = .misconfigured cause) := by
  refine ⟨takesHighest henv hfile, fun hread => load_of_not_readable hfile hread env,
    fun word => isSome_real?_iff, ?_⟩
  cases hload : load env files path with
  | ok s => exact .inl ⟨s, rfl, sound_of_load hload⟩
  | error e => exact .inr ⟨e, rfl, fun words => e.refusalWith_eq words⟩

/-- A text with values that their settings cannot take. -/
def invalidSource : String :=
  "server:\n  port: 70000\n  host: h\nrate_limit:\n  requests_per_minute: -.5\nlogging:\n" ++
    "  level: true\n  format: JSON\n"

/-- What this text gives. -/
def invalidSheet : Sheet :=
  [("server", [("port", .int 70000), ("host", .text "h")]),
    ("rate_limit", [("requests_per_minute", .real "-.5")]),
    ("logging", [("level", .bool true), ("format", .text "JSON")])]

/-- Variables above these values, one of which is invalid itself. -/
def overridingVariables : Environment :=
  [("ETHEREUM_RPC_URL", "http://node"), ("HOME", "/"), ("SERVER_PORT", "8080"),
    ("V2QUOTE__SERVER__PORT", "none"), ("V2QUOTE__SERVER__HOST", ""),
    ("V2QUOTE__RATE_LIMIT__REQUESTS_PER_MINUTE", "7")]

/-- Invalid values below others do no harm, and a variable that is set to nothing counts. -/
theorem load_by_precedence_over_invalid_values :
    load overridingVariables [("c.yaml", invalidSource)] "c.yaml" =
      .ok ⟨"", 8080, 30, "http://node", 1, 5, 30, 7, "true", .json⟩ := by
  have hfile : FileGives [("c.yaml", invalidSource)] "c.yaml" invalidSheet :=
    .of_same invalidSource (by decide +kernel) (by decide +kernel)
      ⟨by decide +kernel, by decide +kernel, by decide +kernel⟩
  have henv : overridingVariables.IsRegular := ⟨by decide +kernel, by decide +kernel⟩
  have takes := (load_by_precedence henv hfile).1 (by decide +kernel)
  exact takes.settled.trans (by decide +kernel)

/-- A text with a word for infinity. -/
def infiniteSource : String := "server:\n  port: .inf\n"

/-- What this text gives. -/
def infiniteSheet : Sheet := [("server", [("port", .real ".inf")])]

/-- Variables above it. -/
def sufficientVariables : Environment := [("ETHEREUM_RPC_URL", "u"), ("SERVER_PORT", "8080")]

/-- **A word for infinity spoils the file even where a higher layer sets the same setting.**  The
port is that of the well-known variable, and with the highest values there would be settings; but
the file that has the word for the port cannot be read. -/
theorem load_overridden_infinity :
    sufficientVariables.IsRegular ∧
      FileGives [("c.yaml", infiniteSource)] "c.yaml" infiniteSheet ∧
      Layer.highest sufficientVariables infiniteSheet.value? .port = .text "8080" ∧
      settle (Layer.highest sufficientVariables infiniteSheet.value?) =
        .ok ⟨"0.0.0.0", 8080, 30, "u", 1, 5, 30, 600, "info", .text⟩ ∧
      load sufficientVariables [("c.yaml", infiniteSource)] "c.yaml" =
        .error (.file .unreadable) := by
  have hfile : FileGives [("c.yaml", infiniteSource)] "c.yaml" infiniteSheet :=
    .of_same infiniteSource (by decide +kernel) (by decide +kernel)
      ⟨by decide +kernel, by decide +kernel, by decide +kernel⟩
  exact ⟨⟨by decide +kernel, by decide +kernel⟩, hfile, rfl, by decide +kernel,
    load_of_not_readable hfile (by decide +kernel) _⟩

end PairQuote.Settings
