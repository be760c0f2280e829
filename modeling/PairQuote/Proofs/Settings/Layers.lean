import PairQuote.Proofs.Settings.Table
import PairQuote.Settings.Load

/-! # The layers of settings

A setting has a place of its own in the table, and bringing a value in for one setting leaves all
others alone (`Key.value?_set`).  So each layer may be looked at for one setting at a time, and in
the table of all layers a setting has the value of the highest `Layer` that sets it
(`value?_layered`).

The variables of an environment are taken as they are meant: each is set once, and a variable with
the marker is named after a setting (`Environment.IsRegular`).
-/
namespace PairQuote.Settings

open Value (IsCell IsSheet IsSectionEntry Tabular)

variable {env : Environment} {v root : Value} {k k' : Key}

namespace Key

/-! ## Places -/

theorem mem_all (k : Key) : k ∈ all := by
  cases k
  all_goals decide

/-- Every setting has a place of its own. -/
theorem eq_of_place (hsection : k.sectionName = k'.sectionName) (hname : k.name = k'.name) :
    k = k' := by
  have hall : ∀ k ∈ all, ∀ k' ∈ all,
      k.sectionName = k'.sectionName → k.name = k'.name → k = k' := by decide +kernel
  exact hall k k.mem_all k' k'.mem_all hsection hname

theorem lowerName_place (k : Key) :
    lowerName k.sectionName = k.sectionName ∧ lowerName k.name = k.name := by
  have hall : ∀ k ∈ all, lowerName k.sectionName = k.sectionName ∧ lowerName k.name = k.name := by
    decide +kernel
  exact hall k k.mem_all

/-- The name of a section is no path. -/
theorem ofText_sectionName (k : Key) : Path.ofText k.sectionName = .name k.sectionName := by
  cases k
  all_goals rfl

theorem set_path (h : v.isPlain = true) :
    k.path.set v root = root.insert k.sectionName
      (((root.get? k.sectionName).getD .null).insert k.name v) := by
  obtain ⟨hsection, hname⟩ := k.lowerName_place
  rw [path, Path.set, Path.modify, hsection, hname, Value.put_of_isPlain h]

/-- **A value that is set for one setting leaves all others alone.** -/
theorem value?_set (h : v.isPlain = true) :
    k'.value? (k.path.set v root) = if k' = k then some v else k'.value? root := by
  rw [value?, set_path h, Value.getIn?_insert]
  by_cases hsection : k'.sectionName = k.sectionName
  · rw [if_pos hsection, Value.get?_insert]
    by_cases hname : k'.name = k.name
    · rw [if_pos hname, if_pos (eq_of_place hsection hname)]
    · have hother : k' ≠ k := by
        rintro rfl
        exact hname rfl
      rw [if_neg hname, if_neg hother, value?, Value.getIn?, hsection]
      cases root.get? k.sectionName with
      | none => rfl
      | some row => rfl
  · have hother : k' ≠ k := by
      rintro rfl
      exact hsection rfl
    rw [if_neg hsection, if_neg hother, value?]

theorem isSheet_set (h : v.isPlain = true) (hroot : IsSheet root) :
    IsSheet (k.path.set v root) := by
  obtain ⟨hsection, hname⟩ := k.lowerName_place
  have hcells : Tabular IsCell ((root.get? k.sectionName).getD .null).entries := by
    have hrow := (Value.isSection_of_get? hroot k.sectionName).entries
    cases hget : root.get? k.sectionName with
    | none => exact Value.tabular_nil
    | some row => rwa [hget] at hrow
  rw [set_path h]
  exact hroot.insert ⟨k.ofText_sectionName, hsection, Value.isSection_insert hcells ⟨hname, h⟩⟩

end Key

/-- Steps each of which brings in what is said of one setting bring in all that is said. -/
theorem value?_foldl {step : Value → Key → Value} (said : Key → Option Value)
    (hstep : ∀ root k k', k'.value? (step root k) =
      if k' = k then (said k).or (k'.value? root) else k'.value? root) (ks : List Key)
    (root : Value) (k : Key) :
    k.value? (ks.foldl step root) =
      if k ∈ ks then (said k).or (k.value? root) else k.value? root := by
  induction ks generalizing root with
  | nil => rfl
  | cons first ks ih =>
    rw [List.foldl_cons, ih, hstep]
    by_cases hfirst : k = first
    · subst hfirst
      rw [if_pos rfl, if_pos List.mem_cons_self, ← Option.or_assoc, Option.or_self, ite_self]
    · rw [if_neg hfirst]
      simp only [List.mem_cons, hfirst, false_or]

/-! ## Defaults -/

theorem Key.isPlain_default (k : Key) : k.default.isPlain = true := by
  cases k
  all_goals rfl

theorem value?_defaults (k : Key) : k.value? defaults = some k.default := by
  have hstep : ∀ (root : Value) (k k' : Key), k'.value? (k.path.set k.default root) =
      if k' = k then (some k.default).or (k'.value? root) else k'.value? root := by
    intro root k k'
    rw [Key.value?_set k.isPlain_default]
    rfl
  rw [defaults, value?_foldl (fun k => some k.default) hstep, if_pos k.mem_all]
  rfl

/-! ## Well-known variables -/

/-- What a well-known variable says of a setting. -/
def wellKnownValue? (env : Environment) (k : Key) : Option Value :=
  (k.wellKnown?.bind fun name => env.lookup name).map .text

theorem value?_overlayWellKnown (env : Environment) (root : Value) (k : Key) :
    k.value? (overlayWellKnown env root) = (wellKnownValue? env k).or (k.value? root) := by
  rw [overlayWellKnown, value?_foldl (wellKnownValue? env), if_pos k.mem_all]
  intro root k k'
  rw [wellKnownValue?]
  cases k.wellKnown?.bind fun name => env.lookup name with
  | none => exact (ite_self _).symm
  | some text => exact Key.value?_set rfl

/-! ## Variables named after section and setting -/

/-- The variable that is named after section and setting. -/
def Key.variableName : Key → String
  | host => "V2QUOTE__SERVER__HOST"
  | port => "V2QUOTE__SERVER__PORT"
  | shutdownTimeout => "V2QUOTE__SERVER__SHUTDOWN_TIMEOUT_SECS"
  | rpcUrl => "V2QUOTE__BLOCKCHAIN__RPC_URL"
  | chainId => "V2QUOTE__BLOCKCHAIN__CHAIN_ID"
  | connectionPoolSize => "V2QUOTE__BLOCKCHAIN__CONNECTION_POOL_SIZE"
  | requestTimeout => "V2QUOTE__BLOCKCHAIN__REQUEST_TIMEOUT_SECS"
  | requestsPerMinute => "V2QUOTE__RATE_LIMIT__REQUESTS_PER_MINUTE"
  | logLevel => "V2QUOTE__LOGGING__LEVEL"
  | logFormat => "V2QUOTE__LOGGING__FORMAT"

/-- Section and setting with a point between them. -/
def Key.dotted (k : Key) : String := k.sectionName ++ "." ++ k.name

theorem Key.variableName_inj (h : k.variableName = k'.variableName) : k = k' := by
  have hall : ∀ k ∈ all, ∀ k' ∈ all, k.variableName = k'.variableName → k = k' := by
    decide +kernel
  exact hall k k.mem_all k' k'.mem_all h

theorem Key.ofText_dotted (k : Key) : Path.ofText k.dotted = k.path := by
  cases k
  all_goals rfl

/-- Such a variable sets its setting. -/
theorem said_by_variableName (k : Key) (text : String) :
    variableEntry? (k.variableName, text) = some (k.dotted, Value.ofVariable text) := by
  have hall : ∀ k ∈ Key.all,
      marker.isPrefixOf (lowerName k.variableName).toList = true ∧
        String.ofList (pointed ((lowerName k.variableName).toList.drop marker.length)) =
          k.dotted := by decide +kernel
  obtain ⟨hmarked, hdotted⟩ := hall k k.mem_all
  unfold variableEntry?
  rw [if_pos hmarked, hdotted]

theorem nothing_said_of_not_marked {e : String × String}
    (h : ¬marker.isPrefixOf (lowerName e.1).toList = true) : variableEntry? e = none := by
  unfold variableEntry?
  exact if_neg h

/-- A variable says a plain value. -/
theorem isPlain_ofVariable (text : String) : (Value.ofVariable text).isPlain = true := by
  rw [Value.ofVariable]
  split
  · rfl
  · split
    · rfl
    · split
      · rfl
      · split
        · rfl
        · rfl

/-- Variables as they are meant: each is set once, and those with the marker are named after
settings. -/
structure Environment.IsRegular (env : Environment) : Prop where
  names : (env.map (·.1)).Nodup
  marked : ∀ e ∈ env, marker.isPrefixOf (lowerName e.1).toList = true →
    ∃ k ∈ Key.all, e.1 = k.variableName

theorem Environment.IsRegular.of_cons {e : String × String} (h : IsRegular (e :: env)) :
    env.lookup e.1 = none ∧ IsRegular env := by
  obtain ⟨hfresh, hnames⟩ := List.nodup_cons.mp h.names
  exact ⟨Entries.lookup_eq_none_of_not_mem hfresh, hnames,
    fun e he => h.marked e (List.mem_cons_of_mem _ he)⟩

/-- What a variable named after it says of a setting. -/
def variableValue? (env : Environment) (k : Key) : Option Value :=
  (env.lookup k.variableName).map Value.ofVariable

/-- The first variable sets the setting that it is named after, or nothing at all. -/
theorem overlay_variables_cons {e : String × String} (henv : Environment.IsRegular (e :: env))
    (root : Value) :
    (∃ k : Key, e.1 = k.variableName ∧
      Value.overlay (List.filterMap variableEntry? (e :: env)) root =
        Value.overlay (env.filterMap variableEntry?) (k.path.set (Value.ofVariable e.2) root)) ∨
      (∀ k : Key, k.variableName ≠ e.1) ∧
        Value.overlay (List.filterMap variableEntry? (e :: env)) root =
          Value.overlay (env.filterMap variableEntry?) root := by
  by_cases hmarked : marker.isPrefixOf (lowerName e.1).toList = true
  · obtain ⟨k, -, hname⟩ := henv.marked e List.mem_cons_self hmarked
    have hsaid : variableEntry? e = some (k.dotted, Value.ofVariable e.2) := by
      rw [← said_by_variableName, ← hname]
    refine .inl ⟨k, hname, ?_⟩
    rw [List.filterMap_cons_some hsaid, Value.overlay_cons, Key.ofText_dotted]
  · have hnothing := nothing_said_of_not_marked hmarked
    refine .inr ⟨fun k hsame => ?_, by rw [List.filterMap_cons_none hnothing]⟩
    have hsaid := said_by_variableName k e.2
    rw [hsame, hnothing] at hsaid
    cases hsaid

/-- **The variables set their settings and nothing else.** -/
theorem value?_overlay_variables (henv : env.IsRegular) (root : Value) (k : Key) :
    k.value? (Value.overlay (env.filterMap variableEntry?) root) =
      (variableValue? env k).or (k.value? root) := by
  induction env generalizing root with
  | nil => rfl
  | cons e env ih =>
    obtain ⟨hfresh, hrest⟩ := henv.of_cons
    rw [variableValue?, List.lookup_cons]
    rcases overlay_variables_cons henv root with ⟨k', hname, hset⟩ | ⟨hother, hset⟩
    · rw [hset, ih hrest, Key.value?_set (isPlain_ofVariable e.2), variableValue?]
      by_cases h : k = k'
      · -- no later variable has the name of this one
        rw [if_pos h, h, ← hname, hfresh, BEq.rfl]
        rfl
      · have hother : k.variableName ≠ e.1 :=
          fun hsame => h (Key.variableName_inj (hsame.trans hname))
        rw [if_neg h, beq_false_of_ne hother]
    · rw [hset, ih hrest, variableValue?, beq_false_of_ne (hother k)]

theorem isSheet_overlay_variables (henv : env.IsRegular) (hroot : IsSheet root) :
    IsSheet (Value.overlay (env.filterMap variableEntry?) root) := by
  induction env generalizing root with
  | nil => exact hroot
  | cons e env ih =>
    obtain ⟨-, hrest⟩ := henv.of_cons
    rcases overlay_variables_cons henv root with ⟨k, -, hset⟩ | ⟨-, hset⟩
    · rw [hset]
      exact ih hrest (Key.isSheet_set (isPlain_ofVariable e.2) hroot)
    · rw [hset]
      exact ih hrest hroot

/-! ## All layers -/

/-- The layers of settings. -/
inductive Layer where
  /-- One of the well-known variables. -/
  | wellKnown
  /-- The variable that is named after section and setting. -/
  | named
  | file
  | default
  deriving DecidableEq, Repr

namespace Layer

/-- All layers, from the highest to the lowest. -/
def all : List Layer := [wellKnown, named, file, default]

/-- What a layer says of a setting. -/
def value? (env : Environment) (file : Key → Option Value) (k : Key) : Layer → Option Value
  | wellKnown => wellKnownValue? env k
  | named => variableValue? env k
  | .file => file k
  | default => some k.default

/-- What the highest layer that sets it says of a setting. -/
def highest (env : Environment) (file : Key → Option Value) (k : Key) : Value :=
  (all.findSome? (value? env file k)).getD k.default

/-- A layer that sets a setting decides if no higher one does. -/
theorem highest_eq {file : Key → Option Value} {front back : List Layer} {layer : Layer}
    (hall : all = front ++ layer :: back) (habove : ∀ l ∈ front, value? env file k l = none)
    (h : value? env file k layer = some v) : highest env file k = v := by
  rw [highest, hall, List.findSome?_append, List.findSome?_eq_none_iff.mpr habove,
    List.findSome?_cons, h]
  rfl

end Layer

/-- **In the table of all layers each setting has the value of the highest layer that sets it.** -/
theorem value?_layered {file : List (String × Value)} (henv : env.IsRegular)
    (hfile : Tabular IsSectionEntry file) (k : Key) :
    k.value? (layered env file) = some (Layer.highest env (fun k => k.value? (.table file)) k) := by
  have hsheet : IsSheet (Value.overlay (env.filterMap variableEntry?)
      (Value.overlay file Value.empty)) :=
    isSheet_overlay_variables henv (Value.isSheet_overlay hfile Value.isSheet_empty)
  have hcollected : k.value? (.table (collected env file)) =
      (variableValue? env k).or (k.value? (.table file)) := by
    refine (value?_overlay_variables henv (Value.overlay file Value.empty) k).trans ?_
    have hsaid : k.value? (Value.overlay file Value.empty) = k.value? (.table file) := by
      rw [Key.value?, Value.getIn?_overlay hfile]
      exact Option.or_none
    rw [hsaid]
  have hunder : k.value? (Value.overlay (collected env file) defaults) =
      (k.value? (.table (collected env file))).or (some k.default) := by
    rw [← value?_defaults]
    exact Value.getIn?_overlay hsheet defaults k.sectionName k.name
  rw [layered, value?_overlayWellKnown, hunder, hcollected, Layer.highest, Layer.all]
  -- both sides look for the first layer that says anything
  simp only [List.findSome?_cons, Layer.value?]
  cases wellKnownValue? env k with
  | some v => rfl
  | none =>
    cases variableValue? env k with
    | some v => rfl
    | none =>
      cases k.value? (.table file) with
      | some v => rfl
      | none => rfl

end PairQuote.Settings
