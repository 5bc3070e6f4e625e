/-
**Settings from named values.**

* `Settings.Sets`: what a named value does to settings; a name that is unknown and a value out of
  bounds do nothing at all;
* `set?_eq_some_iff`: a name sets what it says;
* `Settings.Holds`: the settings that named values make. Each name has what its last value makes of
  it, and a name that is left out has its usual value;
* `ofEntries?_spec`: named values are refused exactly if one of them does nothing, and otherwise
  make valid settings.
-/

import TypeSchema.Proofs.Json.Fields
import TypeSchema.Settings.Document

namespace TypeSchema.Settings

/-! ### One name -/

/-- What a named value does to settings. -/
inductive Sets : String → Datum → (Settings → Settings) → Prop
  | flowPath {value : Datum} {path : String} (text : value.toText? = some path)
      (visible : IsVisible path) :
      Sets "flow_path" value fun settings => { settings with flowPath := path }
  | maxRetries {value : Datum} {count : Int} (integer : value.toInteger? = some count)
      (bound : 1 ≤ count) :
      Sets "max_retries" value fun settings => { settings with maxRetries := count.toNat }
  | retryInterval {value : Datum} {interval : Binary64} (real : value.toReal? = some interval)
      (bound : IsPositive interval) :
      Sets "retry_interval" value fun settings => { settings with retryInterval := interval }
  | noCallTimeout : Sets "call_timeout" .null fun settings => { settings with callTimeout := none }
  | callTimeout {value : Datum} {limit : Binary64} (real : value.toReal? = some limit)
      (bound : IsPositive limit) :
      Sets "call_timeout" value fun settings => { settings with callTimeout := some limit }
  | concurrency {value : Datum} {count : Int} (integer : value.toInteger? = some count)
      (bound : 1 ≤ count) :
      Sets "concurrency" value fun settings => { settings with concurrency := count.toNat }
  | maxReexportDepth {value : Datum} {depth : Int} (integer : value.toInteger? = some depth)
      (bound : 0 ≤ depth) :
      Sets "max_reexport_depth" value fun settings =>
        { settings with maxReexportDepth := depth.toNat }
  | statusNoticeDelay {value : Datum} {delay : Binary64} (real : value.toReal? = some delay)
      (bound : IsNonnegative delay) :
      Sets "status_notice_delay" value fun settings => { settings with statusNoticeDelay := delay }
  | minPositionQueryVersion {value : Datum} {version : String}
      (text : value.toText? = some version) :
      Sets "min_position_query_version" value fun settings =>
        { settings with minPositionQueryVersion := version }

section Checks

variable {α : Type} {read : Option α} {settings : Settings}

/-- A value that is read and checked. -/
theorem checked_eq_some_iff {check : α → Prop} [DecidablePred check] {make : α → Settings} :
    (do let value ← read; if check value then some (make value) else none) = some settings ↔
      ∃ value, read = some value ∧ check value ∧ settings = make value := by
  cases read with
  | none => simp
  | some value => simp [eq_comm]

theorem natural_eq_some_iff {least : Nat} {datum : Datum} {make : Nat → Settings} :
    (do return make (← datum.toNatural? least)) = some settings ↔
      ∃ integer, datum.toInteger? = some integer ∧ (least : Int) ≤ integer ∧
        settings = make integer.toNat := by
  unfold Datum.toNatural?
  cases datum.toInteger? with
  | none => simp
  | some integer =>
    by_cases bound : (least : Int) ≤ integer
    · simp [bound, eq_comm]
    · simp [bound]

end Checks

/-- **A name sets what it says.** -/
theorem set?_eq_some_iff {settings next : Settings} {name : String} {value : Datum} :
    settings.set? name value = some next ↔
      ∃ change, Sets name value change ∧ next = change settings := by
  constructor
  · intro set
    unfold set? at set
    rw [ite_eq_iff] at set
    obtain ⟨rfl, set⟩ | ⟨-, set⟩ := set
    · obtain ⟨path, text, visible, rfl⟩ := checked_eq_some_iff.mp set
      exact ⟨_, .flowPath text visible, rfl⟩
    rw [ite_eq_iff] at set
    obtain ⟨rfl, set⟩ | ⟨-, set⟩ := set
    · obtain ⟨count, integer, bound, rfl⟩ := natural_eq_some_iff.mp set
      exact ⟨_, .maxRetries integer bound, rfl⟩
    rw [ite_eq_iff] at set
    obtain ⟨rfl, set⟩ | ⟨-, set⟩ := set
    · obtain ⟨interval, real, bound, rfl⟩ := checked_eq_some_iff.mp set
      exact ⟨_, .retryInterval real bound, rfl⟩
    rw [ite_eq_iff] at set
    obtain ⟨rfl, set⟩ | ⟨-, set⟩ := set
    · split at set
      next =>
        cases set
        exact ⟨_, .noCallTimeout, rfl⟩
      next =>
        obtain ⟨limit, real, bound, rfl⟩ := checked_eq_some_iff.mp set
        exact ⟨_, .callTimeout real bound, rfl⟩
    rw [ite_eq_iff] at set
    obtain ⟨rfl, set⟩ | ⟨-, set⟩ := set
    · obtain ⟨count, integer, bound, rfl⟩ := natural_eq_some_iff.mp set
      exact ⟨_, .concurrency integer bound, rfl⟩
    rw [ite_eq_iff] at set
    obtain ⟨rfl, set⟩ | ⟨-, set⟩ := set
    · obtain ⟨depth, integer, bound, rfl⟩ := natural_eq_some_iff.mp set
      exact ⟨_, .maxReexportDepth integer bound, rfl⟩
    rw [ite_eq_iff] at set
    obtain ⟨rfl, set⟩ | ⟨-, set⟩ := set
    · obtain ⟨delay, real, bound, rfl⟩ := checked_eq_some_iff.mp set
      exact ⟨_, .statusNoticeDelay real bound, rfl⟩
    rw [ite_eq_iff] at set
    obtain ⟨rfl, set⟩ | ⟨-, set⟩ := set
    · obtain ⟨version, text, same⟩ := Option.bind_eq_some_iff.mp set
      cases same
      exact ⟨_, .minPositionQueryVersion text, rfl⟩
    cases set
  · rintro ⟨change, sets, rfl⟩
    unfold set?
    cases sets with
    | flowPath text visible =>
      simp only [String.reduceEq, if_true, if_false]
      exact checked_eq_some_iff.mpr ⟨_, text, visible, rfl⟩
    | maxRetries integer bound =>
      simp only [String.reduceEq, if_true, if_false]
      exact natural_eq_some_iff.mpr ⟨_, integer, bound, rfl⟩
    | retryInterval real bound =>
      simp only [String.reduceEq, if_true, if_false]
      exact checked_eq_some_iff.mpr ⟨_, real, bound, rfl⟩
    | noCallTimeout => simp only [String.reduceEq, if_true, if_false]
    | callTimeout real bound =>
      simp only [String.reduceEq, if_true, if_false]
      split
      next => cases real
      next => exact checked_eq_some_iff.mpr ⟨_, real, bound, rfl⟩
    | concurrency integer bound =>
      simp only [String.reduceEq, if_true, if_false]
      exact natural_eq_some_iff.mpr ⟨_, integer, bound, rfl⟩
    | maxReexportDepth integer bound =>
      simp only [String.reduceEq, if_true, if_false]
      exact natural_eq_some_iff.mpr ⟨_, integer, bound, rfl⟩
    | statusNoticeDelay real bound =>
      simp only [String.reduceEq, if_true, if_false]
      exact checked_eq_some_iff.mpr ⟨_, real, bound, rfl⟩
    | minPositionQueryVersion text =>
      simp only [String.reduceEq, if_true, if_false]
      exact Option.bind_eq_some_iff.mpr ⟨_, text, rfl⟩

namespace Sets

variable {name : String} {value : Datum} {change : Settings → Settings}

theorem valid (sets : Sets name value change) {settings : Settings} (valid : settings.Valid) :
    (change settings).Valid := by
  cases sets with
  | flowPath _ visible => exact { valid with flowPath := visible }
  | maxRetries _ bound => exact { valid with maxRetries := Int.toNat_le_toNat bound }
  | retryInterval _ bound => exact { valid with retryInterval := bound }
  | noCallTimeout =>
    refine { valid with callTimeout := fun limit given => ?_ }
    cases given
  | callTimeout _ bound =>
    refine { valid with callTimeout := fun given same => ?_ }
    cases same
    exact bound
  | concurrency _ bound => exact { valid with concurrency := Int.toNat_le_toNat bound }
  | maxReexportDepth => exact { valid with }
  | statusNoticeDelay _ bound => exact { valid with statusNoticeDelay := bound }
  | minPositionQueryVersion => exact { valid with }

/-- One field is set, whatever the others are. -/
theorem fields (sets : Sets name value change) :
    ∃ scalar, ∀ settings : Settings,
      (change settings).fields = setField name scalar settings.fields := by
  cases sets with
  | flowPath => exact ⟨.text _, fun _ => by simp [Settings.fields, setField]; rfl⟩
  | maxRetries => exact ⟨.number (.int _), fun _ => by simp [Settings.fields, setField]; rfl⟩
  | retryInterval => exact ⟨.number (.real _), fun _ => by simp [Settings.fields, setField]; rfl⟩
  | noCallTimeout => exact ⟨.null, fun _ => by simp [Settings.fields, setField]⟩
  | callTimeout => exact ⟨.number (.real _), fun _ => by simp [Settings.fields, setField]; rfl⟩
  | concurrency => exact ⟨.number (.int _), fun _ => by simp [Settings.fields, setField]; rfl⟩
  | maxReexportDepth =>
    exact ⟨.number (.int _), fun _ => by simp [Settings.fields, setField]; rfl⟩
  | statusNoticeDelay =>
    exact ⟨.number (.real _), fun _ => by simp [Settings.fields, setField]; rfl⟩
  | minPositionQueryVersion => exact ⟨.text _, fun _ => by simp [Settings.fields, setField]; rfl⟩

/-- Other fields stay, and the field of the name does not depend on what it was. -/
theorem lookup_fields (sets : Sets name value change) (settings : Settings) (other : String) :
    (change settings).fields.lookup other =
      if other = name then (change {}).fields.lookup name else settings.fields.lookup other := by
  obtain ⟨scalar, set⟩ := sets.fields
  rw [set, set, lookup_setField, lookup_setField, if_pos rfl]

end Sets

theorem usual_valid : Valid {} where
  flowPath := by decide
  maxRetries := by decide
  retryInterval := by decide +kernel
  callTimeout := by decide +kernel
  concurrency := by decide
  statusNoticeDelay := by decide +kernel

/-! ### Several names -/

/-- A name and a value that settings accept. -/
def Accepts (entry : String × Datum) : Prop := ∃ change, Sets entry.1 entry.2 change

theorem accepts_iff {entry : String × Datum} :
    Accepts entry ↔ (({} : Settings).set? entry.1 entry.2).isSome := by
  rw [Option.isSome_iff_exists]
  constructor
  · rintro ⟨change, sets⟩
    exact ⟨_, set?_eq_some_iff.mpr ⟨change, sets, rfl⟩⟩
  · rintro ⟨next, set⟩
    obtain ⟨change, sets, -⟩ := set?_eq_some_iff.mp set
    exact ⟨change, sets⟩

instance (entry : String × Datum) : Decidable (Accepts entry) := decidable_of_iff _ accepts_iff.symm

/-- The settings that named values make. A name has what its last value alone makes of it; a name
that is left out has its usual value. -/
def Holds (settings : Settings) (entries : List (String × Datum)) : Prop :=
  ∀ name,
    match entries.reverse.lookup name with
    | none => settings.fields.lookup name = ({} : Settings).fields.lookup name
    | some value => ∃ change, Sets name value change ∧
        settings.fields.lookup name = (change {}).fields.lookup name

theorem Sets.holds {settings : Settings} {entries : List (String × Datum)} {name : String}
    {value : Datum} {change : Settings → Settings} (sets : Sets name value change)
    (holds : settings.Holds entries) : (change settings).Holds (entries ++ [(name, value)]) := by
  intro other
  rw [List.reverse_append, List.reverse_singleton, List.singleton_append, lookup_first,
    sets.lookup_fields]
  by_cases same : other = name
  · subst same
    rw [if_pos rfl, if_pos rfl]
    exact ⟨change, sets, rfl⟩
  · rw [if_neg same, if_neg same]
    exact holds other

theorem ofEntries?_concat (entries : List (String × Datum)) (name : String) (value : Datum) :
    ofEntries? (entries ++ [(name, value)]) =
      (ofEntries? entries).bind fun settings => settings.set? name value := by
  unfold ofEntries?
  rw [List.foldlM_append]
  refine congrArg (Option.bind _) (funext fun settings => ?_)
  rw [List.foldlM_cons]
  cases settings.set? name value with
  | none => rfl
  | some next => rfl

/-- **Named values make valid settings, or one of them is refused.** -/
theorem ofEntries?_spec (entries : List (String × Datum)) :
    match ofEntries? entries with
    | none => ∃ entry ∈ entries, ¬ Accepts entry
    | some settings =>
      settings.Valid ∧ settings.Holds entries ∧ ∀ entry ∈ entries, Accepts entry := by
  induction entries using List.reverseRecOn with
  | nil => exact ⟨usual_valid, fun name => rfl, nofun⟩
  | append_singleton entries entry ih =>
    obtain ⟨name, value⟩ := entry
    rw [ofEntries?_concat]
    cases made : ofEntries? entries with
    | none =>
      rw [made] at ih
      obtain ⟨entry, member, refused⟩ := ih
      exact ⟨entry, List.mem_append_left _ member, refused⟩
    | some settings =>
      rw [made] at ih
      obtain ⟨valid, holds, accepted⟩ := ih
      rw [Option.bind_some]
      cases set : settings.set? name value with
      | none =>
        refine ⟨(name, value), List.mem_append_right _ (List.mem_singleton_self _), ?_⟩
        rintro ⟨change, sets⟩
        rw [set?_eq_some_iff.mpr ⟨change, sets, rfl⟩] at set
        cases set
      | some next =>
        obtain ⟨change, sets, rfl⟩ := set?_eq_some_iff.mp set
        refine ⟨sets.valid valid, sets.holds holds, ?_⟩
        rw [List.forall_mem_append, List.forall_mem_singleton]
        exact ⟨accepted, change, sets⟩

end TypeSchema.Settings
