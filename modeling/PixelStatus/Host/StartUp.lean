/-
# The states that the simulator starts with

Before it registers a monitor or serves a request, the simulator writes a state
for every source that the configuration shows. Nothing takes a state out of the
store again, so from then on no rendering misses a source, whatever monitors and
clients write.
-/

import PixelStatus.Core.NamedSources
import PixelStatus.Core.StatusApiCapacity
import PixelStatus.Host.MonitoredDisplay

namespace PixelStatus

/-! ## The loop of the simulator -/

def availableStatus (config : AppConfig) (preferred : Bytes)
    (fallback : Bytes := bytes "unknown") : Bytes :=
  if preferred ∈ config.statuses then preferred else fallback

def preferredStatuses : List Bytes := ["ok", "fail", "info", "ok"].map bytes

/-- Without monitors the simulator shows states of its own. -/
def demoStates (config : AppConfig) : Bool := config.monitors.isEmpty

/-- The first state of a source, by its place among so many. The last state of a
demonstration grows stale. -/
def startUpState (config : AppConfig) (startedAt : TimePoint) (count : Nat)
    (source : Bytes × Nat) : MonitorState where
  id := source.1
  status :=
    if demoStates config then
      availableStatus config (preferredStatuses.getD (source.2 % preferredStatuses.length) [])
    else bytes "unknown"
  message :=
    if demoStates config then bytes "Simulator-generated state"
    else bytes "Awaiting monitor or push update"
  observedAt := startedAt
  updatedAt := startedAt
  ttl := if demoStates config ∧ source.2 + 1 = count then some 6000 else none

/-- One round of the loop, which ends the program when the store refuses the state. -/
def initializeState (config : AppConfig) (startedAt : TimePoint) (count : Nat)
    (states : StateStore) (source : Bytes × Nat) : Option StateStore :=
  match states.upsert (startUpState config startedAt count source) with
  | (true, states) => some states
  | (false, _) => none

def initializeStates (config : AppConfig) (startedAt : TimePoint) : Option StateStore :=
  let sources := uniqueSources config
  sources.zipIdx.foldlM (initializeState config startedAt sources.length) .empty

/-! ## What the loop leaves -/

variable {config : AppConfig} {startedAt : TimePoint} {count : Nat} {source : Bytes × Nat}
  {store : StateStore}

/-- The status that is chosen is defined. -/
theorem availableStatus_mem (unknown : bytes "unknown" ∈ config.statuses) (preferred : Bytes) :
    availableStatus config preferred ∈ config.statuses := by
  unfold availableStatus
  split
  next defined => exact defined
  · exact unknown

/-- So is the status of a first state. -/
theorem startUpState_status (unknown : bytes "unknown" ∈ config.statuses) :
    (startUpState config startedAt count source).status ∈ config.statuses := by
  unfold startUpState
  dsimp only
  split
  · exact availableStatus_mem unknown _
  · exact unknown

theorem preferredStatuses_ne_nil (index : Nat) :
    preferredStatuses.getD (index % preferredStatuses.length) [] ≠ [] := by
  have each : ∀ place < preferredStatuses.length, preferredStatuses.getD place [] ≠ [] := by decide
  exact each _ (Nat.mod_lt index (by decide))

/-- The store takes the first state of every source that is named. -/
theorem startUpState_acceptable (named : isValidIdentifier source.1 = true) :
    (startUpState config startedAt count source).Acceptable := by
  refine ⟨isValidIdentifier_ne_nil named, ?_, ?_⟩
  · unfold startUpState
    dsimp only
    split
    · unfold availableStatus
      split
      · exact preferredStatuses_ne_nil source.2
      · decide
    · decide
  · unfold startUpState
    dsimp only
    split
    · rintro ttl same
      obtain rfl := Option.mem_some_iff.mp same
      decide
    · exact fun ttl impossible => absurd impossible (Option.not_mem_none ttl)

/-- A first state under a valid name is written. -/
theorem initializeState_eq (named : isValidIdentifier source.1 = true) :
    initializeState config startedAt count store source =
      some (store.upsert (startUpState config startedAt count source)).2 := by
  rw [initializeState, StateStore.upsert_of_acceptable (startUpState_acceptable named)]

/-- A store that knows all of these sources, and nothing but defined statuses. -/
structure StateStore.Started (statuses : Statuses) (sources : List Bytes) (store : StateStore) :
    Prop where
  known : ∀ source ∈ sources, (store.find source).isSome = true
  defined : store.ReportsDefined statuses

/-- One round adds its source to those that the store knows. -/
theorem initializeState_started (unknown : bytes "unknown" ∈ config.statuses)
    (named : isValidIdentifier source.1 = true) {sources : List Bytes}
    (started : store.Started config.statuses sources) :
    ∃ next, initializeState config startedAt count store source = some next ∧
      next.Started config.statuses (sources ++ [source.1]) := by
  refine ⟨_, initializeState_eq named, ?_, started.defined.upsert (startUpState_status unknown)⟩
  intro other member
  rcases List.mem_append.mp member with earlier | last
  · exact StateStore.find_upsert_isSome (started.known other earlier)
  · obtain rfl := List.mem_singleton.mp last
    have stored := @StateStore.find_upsert_self store _
      (@startUpState_acceptable config startedAt count source named)
    exact Option.isSome_of_eq_some stored

/-- So are the first states of all sources. -/
theorem foldlM_initializeState (unknown : bytes "unknown" ∈ config.statuses)
    {rounds : List (Bytes × Nat)} {sources : List Bytes}
    (named : ∀ round ∈ rounds, isValidIdentifier round.1 = true)
    (started : store.Started config.statuses sources) :
    ∃ next, rounds.foldlM (initializeState config startedAt count) store = some next ∧
      next.Started config.statuses (sources ++ rounds.map Prod.fst) := by
  induction rounds generalizing store sources with
  | nil => exact ⟨store, rfl, (List.append_nil sources).symm ▸ started⟩
  | cons round rounds ih =>
      have parts := List.forall_mem_cons.mp named
      obtain ⟨next, reached, later⟩ := @initializeState_started config startedAt count round store
        unknown parts.1 sources started
      obtain ⟨last, ends, all⟩ := ih parts.2 later
      refine ⟨last, ?_, ?_⟩
      · rw [List.foldlM_cons, reached]
        exact ends
      · rwa [List.append_assoc] at all

/-- The loop goes through, and leaves a state for every source that is shown. -/
theorem initializeStates_of_loaded {platform : Platform} {round : Rounding}
    {parse : Bytes → Option Json} {path : Bytes} {file : ConfigFile}
    (loaded : (loadConfigFile platform round parse path file).config = some config)
    (startedAt : TimePoint) :
    ∃ store, initializeStates config startedAt = some store ∧
      store.Started config.statuses config.shownSources := by
  have nothing : StateStore.empty.Started config.statuses [] := by
    refine ⟨List.forall_mem_nil _, ?_⟩
    intro id entry impossible
    cases impossible
  have named : ∀ round ∈ (uniqueSources config).zipIdx, isValidIdentifier round.1 = true := by
    intro round member
    have listed := mem_uniqueSources.mp (List.fst_mem_of_mem_zipIdx member)
    exact named_of_loadConfigFile loaded round.1 listed
  obtain ⟨store, ends, started⟩ := @foldlM_initializeState config startedAt
    (uniqueSources config).length .empty (requiredStatuses_of_loadConfigFile loaded).unknown _ []
    named nothing
  rw [List.nil_append, List.zipIdx_map_fst] at started
  refine ⟨store, ends, ?_, started.defined⟩
  exact fun source shown => started.known source (mem_uniqueSources.mpr shown)

/-! ## Runs -/

/-- One write, whoever makes it. -/
def StoreWrites (store next : StateStore) : Prop := ∃ state, next = (store.upsert state).2

/-- What the store knows it knows for ever. -/
theorem known_of_writes {later : StateStore} {id : Bytes}
    (writes : Relation.ReflTransGen StoreWrites store later) (known : (store.find id).isSome = true) :
    (later.find id).isSome = true := by
  induction writes with
  | refl => exact known
  | tail _ step ih =>
      obtain ⟨state, rfl⟩ := step
      exact StateStore.find_upsert_isSome ih

/-- A step of a request or a publication writes once at most. -/
theorem writes_of_service {Thread : Type} [DecidableEq Thread] {api : StatusApi}
    {system next : StatusApiCapacity.System Thread} (step : StatusApiCapacity.Step api system next) :
    Relation.ReflTransGen StoreWrites system.store next.store := by
  cases step with
  | publish job outcome now => exact .single ⟨_, rfl⟩
  | post step =>
      cases step with
      | file thread post busy existed admitted updated => exact .single ⟨post.state, rfl⟩
      | arrive | lock | look | refuse | grant | fail | respond | leave => exact .refl

/-- A step of a monitored display writes once at most. -/
theorem writes_of_display {platform : Platform} {Runner : Type}
    {display next : MonitoredDisplay platform Runner}
    (step : MonitoredDisplay.Step config display next) :
    Relation.ReflTransGen StoreWrites display.store next.store := by
  cases step with
  | startUp state unknown => exact .single ⟨state, rfl⟩
  | publish place job registered outcome now => exact .single ⟨_, rfl⟩
  | register | claim | release => exact .refl

/-- Every shown source is resolved at any time, and no rendering misses one. -/
structure ShowsAll (config : AppConfig) (store : StateStore) : Prop where
  resolved : ∀ source ∈ config.shownSources, ∀ now, (store.resolve source now).isSome = true
  rendered : ∀ round now animationOrigin calendar wallNow output,
    (render round store config now animationOrigin calendar wallNow output).1.missingSources = 0

/-- A store that knows every source shows all of them. -/
theorem showsAll_of_known
    (known : ∀ source ∈ config.shownSources, (store.find source).isSome = true) :
    ShowsAll config store where
  resolved source shown _ := StateStore.resolve_isSome.trans (known source shown)
  rendered _ _ _ _ _ _ := render_missingSources_eq_zero (StateStore.missing_eq_zero.mpr known)

/-- A simulator that has loaded its configuration starts, and from then on misses no
source in any run of requests and publications; as long as monitors alone write, it
misses no status either. -/
theorem startUp_showsAll {platform : Platform} {round : Rounding} {parse : Bytes → Option Json}
    {path : Bytes} {file : ConfigFile}
    (loaded : (loadConfigFile platform round parse path file).config = some config)
    (startedAt : TimePoint) :
    ∃ store, initializeStates config startedAt = some store ∧
      (∀ (Thread : Type) [DecidableEq Thread] (api : StatusApi)
        (system later : StatusApiCapacity.System Thread), system.store = store →
        Relation.ReflTransGen (StatusApiCapacity.Step api) system later →
        ShowsAll config later.store) ∧
      ∀ (Runner : Type) (display : MonitoredDisplay platform Runner),
        Relation.ReflTransGen (MonitoredDisplay.Step config) { engine := .empty, store } display →
        ShowsAll config display.store ∧
        ∀ now animationOrigin calendar wallNow output,
          (render round display.store config now animationOrigin calendar wallNow
            output).1.missingStatuses = 0 := by
  obtain ⟨store, initialized, started⟩ := initializeStates_of_loaded loaded startedAt
  refine ⟨store, initialized, ?_, ?_⟩
  · rintro Thread _ api system later rfl run
    have writes : Relation.ReflTransGen StoreWrites system.store later.store :=
      run.lift' StatusApiCapacity.System.store fun _ _ => writes_of_service
    exact showsAll_of_known fun source shown => known_of_writes writes (started.known source shown)
  · intro Runner display run
    have writes : Relation.ReflTransGen StoreWrites store display.store :=
      run.lift' MonitoredDisplay.store fun _ _ => writes_of_display
    have required := requiredStatuses_of_loadConfigFile loaded
    have accepted := accepted_of_loadConfigFile loaded
    have kept : MonitoredDisplay.Invariant config display := by
      clear writes
      induction run with
      | refl => exact ⟨List.forall_mem_nil _, started.defined⟩
      | tail _ step ih => exact ih.step accepted required step
    refine ⟨?_, ?_⟩
    · exact showsAll_of_known fun source shown =>
        known_of_writes writes (started.known source shown)
    · exact fun now animationOrigin calendar wallNow output =>
        render_complete (kept.reports.statusesDefined required) output

/-- A panel shows every source that its four widgets name. -/
theorem startUp_showsAll_panel : ∃ store, initializeStates panelConfig 0 = some store ∧
    uniqueSources panelConfig =
      ["site", "mail", "load", "departure", "a", "b", "c"].map bytes ∧
    ShowsAll panelConfig store := by
  obtain ⟨store, initialized, -, shows⟩ := startUp_showsAll (@panelDocument_loads []) 0
  exact ⟨store, initialized, by decide +kernel, (shows Unit _ .refl).1⟩

end PixelStatus
