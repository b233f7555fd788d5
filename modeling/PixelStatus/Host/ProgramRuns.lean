/-
# Runs of the program

The program enters its loop when the command line is accepted, the configuration is
loaded and the operating system plays along; none of its own checks stops it behind
that. What it enters the loop with is what the laws of the loop, the executor and the
API ask for.
-/

import PixelStatus.Core.StoredFrame
import PixelStatus.Host.CommandLineGrammar
import PixelStatus.Host.ExecutorRuns
import PixelStatus.Host.Program
import PixelStatus.Host.SimulatorRuns

namespace PixelStatus

open Host Logged Outcome

/-! ## The display -/

/-- The text of a display whose address could not be bound. -/
def unboundText (options : HttpDisplayOptions) : Bytes :=
  bytes "Unable to bind HTTP display server to " ++ options.bindAddress ++ [0x3A]
    ++ decimal options.port.toNat

/-- A display with such sides and options fails over the socket only. -/
theorem begin_create {width height : Nat} {options : HttpDisplayOptions}
    (wide : 1 ≤ width ∧ width ≤ 256) (high : 1 ≤ height ∧ height ≤ 256)
    (address : options.bindAddress ≠ [])
    (refresh : minimumRefreshInterval ≤ options.defaultRefreshInterval ∧
      options.defaultRefreshInterval ≤ maximumRefreshInterval) (bound : Int) :
    ∃ serving, (HttpDisplayDriver.create width height options).begin bound =
      if bound < 1 ∨ bound > 65535 then
        (false, (HttpDisplayDriver.create width height options).failed (unboundText options))
      else (true, serving) := by
  have named : ¬ (width = 0 ∨ height = 0 ∨ options.bindAddress = []) := by
    rintro (none | none | none)
    · omega
    · omega
    · exact address none
  have pixels : width * height ≤ 256 * 256 := Nat.mul_le_mul wide.2 high.2
  have words : width ≤ (2 ^ 64 - 1) / height := by
    rw [Nat.le_div_iff_mul_le high.1]
    exact pixels.trans (by decide)
  have paced : ¬ (options.defaultRefreshInterval < minimumRefreshInterval ∨
      options.defaultRefreshInterval > maximumRefreshInterval) :=
    not_or.mpr ⟨not_lt.mpr refresh.1, not_lt.mpr refresh.2⟩
  unfold HttpDisplayDriver.begin HttpDisplayDriver.create
  dsimp only
  rw [if_neg Bool.false_ne_true, if_neg named,
    if_neg (not_or.mpr ⟨not_lt.mpr words, not_lt.mpr pixels⟩), if_neg paced]
  exact ⟨_, rfl⟩

/-! ## The monitors -/

section

variable {build : HostBuild} {resolver : SecretResolver} {startedAt : TimePoint}
  {statuses : Statuses}

/-- The job is what the program registers for a configured monitor. -/
structure RegisteredFor (build : HostBuild) (resolver : SecretResolver) (startedAt : TimePoint)
    (configured : PullMonitorConfig) (job : Job build.platform MonitorRunner) : Prop where
  definition : job.definition = configured.definition
  created : createMonitorRunner build resolver configured.source = .ok job.runner
  nextDue : job.nextDue = startedAt
  idle : job.inFlight = false

/-- The error about a monitor that asks for what the build has not, or whose secrets
cannot be put in place. -/
def Uncreated (build : HostBuild) (resolver : SecretResolver) (monitors : List PullMonitorConfig)
    (error : Bytes) : Prop :=
  ∃ configured ∈ monitors, ∃ reason,
    createMonitorRunner build resolver configured.source = .error reason ∧
      Refusal build resolver configured.source reason ∧
      error = bytes "Unable to create monitor " ++ configured.id ++ bytes ": " ++ reason

/-- The engine takes all of these monitors, as far as it can tell. -/
structure Takes (statuses : Statuses) (engine : MonitorEngine build.platform MonitorRunner)
    (monitors : List PullMonitorConfig) : Prop where
  accepted : ∀ configured ∈ monitors, configured.Accepted build.platform statuses
  room : engine.jobs.length + monitors.length ≤ maximumMonitorCount
  distinct : (monitors.map PullMonitorConfig.id).Nodup
  fresh : ∀ configured ∈ monitors, configured.id ∉ engine.jobs.map fun job => job.definition.id

variable {engine : MonitorEngine build.platform MonitorRunner} {configured : PullMonitorConfig}
  {monitors : List PullMonitorConfig}

/-- Of monitors that a loader accepts, only one whose runner cannot be created is refused. -/
theorem Takes.head (takes : Takes statuses engine (configured :: monitors)) :
    Ends (Uncreated build resolver (configured :: monitors))
      (fun registered => ∃ job fresh, RegisteredFor build resolver startedAt configured job ∧
        registered = engine.push job fresh)
      (registerMonitor build resolver startedAt engine configured) := by
  have accepted := takes.accepted configured List.mem_cons_self
  have valid := accepted.definition_valid
  have fresh := takes.fresh configured List.mem_cons_self
  have room := takes.room
  rw [List.length_cons] at room
  unfold registerMonitor
  split
  next reason refused =>
    have explained := createMonitorRunner_failsWith accepted.source reason refused
    exact Ends.error ⟨configured, List.mem_cons_self, reason, refused, explained, rfl⟩
  next runner created =>
    rw [MonitorEngine.add_of_valid valid (by omega) fresh]
    exact Ends.ok ⟨⟨configured.definition, valid, runner, startedAt, false⟩, fresh,
      ⟨rfl, created, rfl, rfl⟩, rfl⟩

/-- A monitor that is registered leaves the others to be taken. -/
theorem Takes.tail (takes : Takes statuses engine (configured :: monitors))
    {job : Job build.platform MonitorRunner}
    {fresh : job.definition.id ∉ engine.jobs.map fun job => job.definition.id}
    (registered : RegisteredFor build resolver startedAt configured job) :
    Takes statuses (engine.push job fresh) monitors := by
  have jobs : (engine.push job fresh).jobs = engine.jobs ++ [job] := rfl
  have distinct := takes.distinct
  have room := takes.room
  rw [List.map_cons, List.nodup_cons] at distinct
  rw [List.length_cons] at room
  refine ⟨(List.forall_mem_cons.mp takes.accepted).2, ?_, distinct.2, ?_⟩
  · rw [jobs, List.length_append, List.length_singleton]
    omega
  · intro other member
    rw [jobs, List.map_append, List.mem_append, not_or]
    refine ⟨(List.forall_mem_cons.mp takes.fresh).2 other member, ?_⟩
    rw [List.map_singleton, List.mem_singleton, registered.definition]
    intro same
    have same : other.id = configured.id := same
    exact distinct.1 (same ▸ List.mem_map_of_mem member)

/-- The loop registers all monitors or ends at one that cannot be created. -/
theorem Takes.ends (takes : Takes statuses engine monitors) :
    Ends (Uncreated build resolver monitors)
      (fun registered => ∃ jobs, registered.jobs = engine.jobs ++ jobs ∧
        List.Forall₂ (RegisteredFor build resolver startedAt) monitors jobs)
      (monitors.foldlM (registerMonitor build resolver startedAt) engine) := by
  induction monitors generalizing engine with
  | nil => exact Ends.ok ⟨[], (List.append_nil _).symm, .nil⟩
  | cons configured monitors ih =>
      rw [List.foldlM_cons]
      apply takes.head.bind
      rintro _ ⟨job, fresh, first, rfl⟩
      obtain ⟨fails, ends⟩ := ih (takes.tail first)
      refine ⟨?_, ?_⟩
      · intro error stopped
        obtain ⟨other, member, refused⟩ := fails error stopped
        exact ⟨other, List.mem_cons_of_mem _ member, refused⟩
      · intro registered reached
        obtain ⟨jobs, same, rest⟩ := ends registered reached
        refine ⟨job :: jobs, ?_, .cons first rest⟩
        rw [same, MonitorEngine.push, List.append_assoc, List.singleton_append]

end

/-! ## The configuration -/

/-- A load that returns nothing says why. -/
theorem errors_of_loadConfigFile {platform : Platform} {round : Rounding}
    {parse : Bytes → Option Json} {path : Bytes} {file : ConfigFile}
    (refused : (loadConfigFile platform round parse path file).config = none) :
    (loadConfigFile platform round parse path file).errors ≠ [] := by
  have fails (message : Bytes) : (failLoading message).errors ≠ [] := List.cons_ne_nil _ _
  unfold loadConfigFile at refused ⊢
  dsimp only at refused ⊢
  cases file with
  | unopened | unsized => exact fails _
  | unreadable length =>
      dsimp only
      split <;> exact fails _
  | contents text =>
      dsimp only at refused ⊢
      by_cases long : text.length > maximumConfigBytes
      · rw [if_pos long]
        exact fails _
      · rw [if_neg long] at refused ⊢
        split at refused
        · unfold finishLoading at refused
          split at refused
          · cases refused
          next spoken => exact spoken
        · exact fails _

/-! ## The stages -/

/-- The command line says this. -/
def Accepts (build : HostBuild) (surroundings : Surroundings) (arguments : List Bytes)
    (options : CommandLine) : Prop :=
  parseCommandLine build.platform surroundings.defaultConfigPath arguments = some options

/-- The configuration that these options name is this one. -/
def Loads (build : HostBuild) (round : Rounding) (surroundings : Surroundings)
    (options : CommandLine) (config : AppConfig) : Prop :=
  (loadConfigFile build.platform round surroundings.library.parse options.configPath
    (surroundings.file options.configPath)).config = some config

/-- Why the program ended before its loop: what it was given, or what the operating
system answered. -/
inductive Explained (build : HostBuild) (round : Rounding) (surroundings : Surroundings)
    (arguments : List Bytes) : StartFailure → Prop
  | signalFailed (posix : build.platform ≠ .windows) (refused : surroundings.ignoresSigpipe = false) :
      Explained build round surroundings arguments .signalFailed
  | usage
      (refused : parseCommandLine build.platform surroundings.defaultConfigPath arguments = none) :
      Explained build round surroundings arguments .usage
  | configuration (options : CommandLine) (accepted : Accepts build surroundings arguments options)
      (errors : List Bytes)
      (refused : loadConfigFile build.platform round surroundings.library.parse options.configPath
        (surroundings.file options.configPath) = { config := none, errors })
      (some : errors ≠ []) :
      Explained build round surroundings arguments (.configuration errors)
  | noDisplay (options : CommandLine) (accepted : Accepts build surroundings arguments options)
      (none : options.windowEnabled = false ∧ options.webDisplayEnabled = false) :
      Explained build round surroundings arguments .noDisplay
  | windowFailed (options : CommandLine) (accepted : Accepts build surroundings arguments options)
      (enabled : options.windowEnabled = true) (windows : build.platform = .windows)
      (detail : Bytes) (refused : surroundings.windowError = some detail) :
      Explained build round surroundings arguments (.windowFailed detail)
  | displayFailed (options : CommandLine) (accepted : Accepts build surroundings arguments options)
      (enabled : options.webDisplayEnabled = true)
      (refused : surroundings.boundPort < 1 ∨ surroundings.boundPort > 65535) :
      Explained build round surroundings arguments
        (.displayFailed (unboundText (Program.displayOptions options)))
  | monitorFailed (options : CommandLine) (accepted : Accepts build surroundings arguments options)
      (config : AppConfig) (loaded : Loads build round surroundings options config) (error : Bytes)
      (refused : Uncreated build (Program.resolver build surroundings) config.monitors error) :
      Explained build round surroundings arguments (.monitorFailed error)
  | executorFailed (what : Option Bytes) (refused : surroundings.threadError = some what) :
      Explained build round surroundings arguments
        (.executorFailed (MonitorExecutor.startErrorText what))
  | apiFailed (options : CommandLine) (accepted : Accepts build surroundings arguments options)
      (enabled : options.apiEnabled = true) (refused : surroundings.apiBinds = false) :
      Explained build round surroundings arguments (.apiFailed (Program.unboundApiText options))

namespace Program

variable {build : HostBuild} {round : Rounding} {surroundings : Surroundings}
  {arguments : List Bytes} {options : CommandLine} {config : AppConfig}

/-- Only the operating system's refusal ends the program here. -/
theorem ignoreSigpipe_ends : Ends (Explained build round surroundings arguments) (fun _ => True)
    (ignoreSigpipe build surroundings) := by
  unfold ignoreSigpipe
  split
  next refused => exact Ends.error (.signalFailed refused.1 refused.2)
  · exact Ends.ok trivial

/-- Only a wrong command line does here. -/
theorem loadOptions_ends : Ends (Explained build round surroundings arguments)
    (Accepts build surroundings arguments) (loadOptions build surroundings arguments) := by
  unfold loadOptions
  split
  next refused => exact Ends.error (.usage refused)
  next options accepted => exact Ends.ok accepted

/-- Only a wrong configuration file does here. -/
theorem loadConfig_ends (accepted : Accepts build surroundings arguments options) :
    Ends (Explained build round surroundings arguments) (Loads build round surroundings options)
      (loadConfig build round surroundings options.configPath) := by
  unfold loadConfig
  dsimp only
  split
  next refused =>
    refine Ends.error (.configuration options accepted _ ?_ (errors_of_loadConfigFile refused))
    exact (congrArg (ConfigLoadResult.mk · _) refused : _)
  next config loaded => exact Ends.ok loaded

/-- Only a missing display or its window does here. -/
theorem startWindow_ends (accepted : Accepts build surroundings arguments options) :
    Ends (Explained build round surroundings arguments) (fun _ => True)
      (startWindow surroundings options) := by
  have valid := CommandLine.valid_of_parseCommandLine accepted
  unfold startWindow
  split
  next none =>
    simp only [Bool.and_eq_true, Bool.not_eq_true'] at none
    exact Ends.error (.noDisplay options accepted none)
  · split
    next window =>
      have windows : build.platform = .windows := by
        cases platform : build.platform with
        | windows => rfl
        | linux => simp [valid.windowEnabled platform] at window
      split
      next detail refused =>
        exact Ends.error (.windowFailed options accepted window windows detail refused)
      · exact Ends.ok trivial
    · exact Ends.ok trivial

section

variable (accepted : Accepts build surroundings arguments options)
  (loaded : Loads build round surroundings options config)

include loaded

include accepted in
/-- Only the socket library's answer does here. -/
theorem startDisplay_ends :
    Ends (Explained build round surroundings arguments)
      (fun webDisplay => ∀ driver ∈ webDisplay, ∃ options,
        (HttpDisplayDriver.create config.display.width config.display.height options).begin
          surroundings.boundPort = (true, driver))
      (startDisplay surroundings options config.display) := by
  have valid := CommandLine.valid_of_parseCommandLine accepted
  have inside := (accepted_of_loadConfigFile loaded).display
  obtain ⟨wide, tall⟩ : config.display.width ≤ 256 ∧ config.display.height ≤ 256 := by
    obtain ⟨root, silent, rfl⟩ := parseConfig_of_loadConfigFile loaded
    exact parseConfig_sides.value silent
  have width : 1 ≤ config.display.width := inside.width
  have height : 1 ≤ config.display.height := inside.height
  obtain ⟨serving, begins⟩ := @begin_create _ _ (displayOptions options) ⟨width, wide⟩
    ⟨height, tall⟩ valid.webDisplayBind valid.webRefreshInterval surroundings.boundPort
  unfold startDisplay
  by_cases refused : surroundings.boundPort < 1 ∨ surroundings.boundPort > 65535
  · rw [if_pos refused] at begins
    rw [begins]
    split
    next enabled => exact Ends.error (.displayFailed options accepted enabled refused)
    · exact Ends.ok fun _ => (nomatch ·)
  · rw [if_neg refused] at begins
    rw [begins]
    split
    · apply Ends.ok
      rintro driver ⟨⟩
      exact ⟨displayOptions options, begins⟩
    · exact Ends.ok fun _ => (nomatch ·)

/-- The first states end nothing. -/
theorem startStates_ends : Ends (Explained build round surroundings arguments)
    (fun states => initializeStates config surroundings.startedAt = some states)
    (startStates surroundings config) := by
  obtain ⟨store, initialized, -⟩ := initializeStates_of_loaded loaded surroundings.startedAt
  unfold startStates
  rw [initialized]
  exact Ends.ok rfl

include accepted in
/-- Only a monitor that cannot be created does here. -/
theorem startMonitors_ends : Ends (Explained build round surroundings arguments)
    (fun engine => List.Forall₂
      (RegisteredFor build (resolver build surroundings) surroundings.startedAt)
      config.monitors engine.jobs)
    (startMonitors build surroundings config.monitors) := by
  have monitors := (accepted_of_loadConfigFile loaded).monitors
  have takes : Takes config.statuses (.empty : MonitorEngine build.platform MonitorRunner)
      config.monitors :=
    ⟨monitors.each, (Nat.zero_add _).trans_le monitors.count, monitors.distinct,
      fun _ _ => List.not_mem_nil⟩
  obtain ⟨fails, ends⟩ := @Takes.ends build (resolver build surroundings) surroundings.startedAt
    _ _ _ takes
  unfold startMonitors registerMonitors
  split
  next error stopped =>
    exact Ends.error (.monitorFailed options accepted config loaded error (fails error stopped))
  next engine reached =>
    obtain ⟨jobs, same, each⟩ := ends engine reached
    have same : engine.jobs = jobs := same
    exact Ends.ok (same ▸ each)

end

/-- What the program knows of the executor it has started. -/
structure Pumping (options : CommandLine) (config : AppConfig)
    (executor : MonitorExecutor build.platform MonitorRunner) : Prop where
  reachable : Transition.Reachable MonitorExecutor.Initial MonitorExecutor.Step executor
  workers : 1 ≤ executor.options.workerCount ∧
    executor.options.workerCount ≤ options.monitorWorkerCount ∧
    executor.options.workerCount ≤ config.monitors.length

/-- The jobs of a new engine are all idle. -/
theorem clear_of_registered {startedAt : TimePoint} {resolver : SecretResolver}
    {monitors : List PullMonitorConfig} {jobs : List (Job build.platform MonitorRunner)}
    (registered : List.Forall₂ (RegisteredFor build resolver startedAt) monitors jobs) :
    ∀ job ∈ jobs, job.inFlight = false := by
  induction registered with
  | nil => exact List.forall_mem_nil _
  | cons first _ ih => exact List.forall_mem_cons.mpr ⟨first.idle, ih⟩

/-- Only a thread that cannot be created does here. -/
theorem startExecutor_ends (valid : options.Valid build.platform)
    {engine : MonitorEngine build.platform MonitorRunner} {states : StateStore}
    (registered : List.Forall₂
      (RegisteredFor build (resolver build surroundings) surroundings.startedAt)
      config.monitors engine.jobs) :
    Ends (Explained build round surroundings arguments)
      (fun started => (started.isSome = true ↔ config.monitors ≠ []) ∧
        ∀ executor ∈ started, Pumping options config executor)
      (startExecutor build surroundings options engine states) := by
  have count : config.monitors.length = engine.jobs.length := registered.length_eq
  have least := valid.monitorWorkerCount
  unfold startExecutor
  split
  next some =>
    have accepted : (createExecutor build options engine states).refusal = none := by
      unfold MonitorExecutor.refusal createExecutor
      dsimp only
      rw [if_neg Bool.false_ne_true, if_neg (by omega), if_neg (by decide)]
    have initial : MonitorExecutor.Initial (createExecutor build options engine states) :=
      { system :=
          { idle := fun _ => rfl, clear := clear_of_registered registered, unpublished := rfl }
        workers := rfl
        owner := rfl
        isRunning := rfl
        failed := rfl
        lastError := rfl
        stats := rfl
        publishedSinceStart := rfl }
    dsimp only
    rw [accepted]
    cases refused : surroundings.threadError with
    | some what => exact Ends.error (.executorFailed what refused)
    | none =>
        apply Ends.ok
        refine ⟨?_, ?_⟩
        · rw [Option.isSome_some, ← List.length_pos_iff]
          exact iff_of_true rfl (by omega)
        · rintro executor ⟨⟩
          refine ⟨?_, ?_, ?_, ?_⟩
          · exact (Transition.Reachable.of_initial initial).tail (.owner (.start _ rfl accepted))
          · exact le_min least.1 (by omega)
          · exact Nat.min_le_left _ _
          · exact (Nat.min_le_right _ _).trans count.ge
  next none =>
    have none : config.monitors = [] := List.length_eq_zero_iff.mp (by omega)
    exact Ends.ok ⟨iff_of_false Bool.false_ne_true (not_not_intro none), fun _ => (nomatch ·)⟩

/-- Only an address that cannot be bound does here. -/
theorem startApi_ends (accepted : Accepts build surroundings arguments options) :
    Ends (Explained build round surroundings arguments)
      (fun started => started.isSome = options.apiEnabled ∧
        ∀ api ∈ started, api.bearerToken ≠ [])
      (startApi surroundings options) := by
  have valid := CommandLine.valid_of_parseCommandLine accepted
  have token : options.apiToken.getD (generateBearerToken surroundings.randomWords) ≠ [] := by
    cases given : options.apiToken with
    | none =>
        intro empty
        have length := congrArg List.length empty
        simp [generateBearerToken, hexWord] at length
    | some token => exact valid.apiToken token given
  unfold startApi
  dsimp only
  split
  next enabled =>
    split
    · apply Ends.ok
      refine ⟨enabled.symm, ?_⟩
      rintro api ⟨⟩
      exact token
    next unbound =>
      exact Ends.error (.apiFailed options accepted enabled (Bool.eq_false_iff.mpr unbound))
  next disabled => exact Ends.ok ⟨(Bool.eq_false_iff.mpr disabled).symm, fun _ => (nomatch ·)⟩

/-- What the program knows when it enters its loop. -/
structure Ready (build : HostBuild) (round : Rounding) (surroundings : Surroundings)
    (arguments : List Bytes) (started : Started build) : Prop where
  accepted : Accepts build surroundings arguments started.options
  loaded : Loads build round surroundings started.options started.config
  enters : ∀ calendar, SimulatorRun.Initial (setting build round surroundings calendar started)
    (enter build surroundings started)
  registered : List.Forall₂
    (RegisteredFor build (resolver build surroundings) surroundings.startedAt)
    started.config.monitors started.engine.jobs
  pumped : started.executor.isSome = true ↔ started.config.monitors ≠ []
  pumping : ∀ executor ∈ started.executor, Pumping started.options started.config executor
  serves : started.api.isSome = started.options.apiEnabled
  guarded : ∀ api ∈ started.api, api.bearerToken ≠ []

/-- The start ends as explained or with everything ready. -/
theorem start_ends : Ends (Explained build round surroundings arguments)
    (Ready build round surroundings arguments) (start build round surroundings arguments) := by
  unfold start
  apply ignoreSigpipe_ends.bind
  intro _ _
  apply loadOptions_ends.bind
  intro options accepted
  have valid := CommandLine.valid_of_parseCommandLine accepted
  apply (loadConfig_ends accepted).bind
  intro config loaded
  apply (startWindow_ends accepted).bind
  intro _ _
  apply (startDisplay_ends accepted loaded).bind
  intro webDisplay serves
  apply (startStates_ends loaded).bind
  intro states initialized
  apply (startMonitors_ends accepted loaded).bind
  intro engine registered
  apply (startExecutor_ends valid registered).bind
  rintro executor ⟨pumped, pumping⟩
  apply (startApi_ends accepted).bind
  rintro api ⟨enabled, guarded⟩
  apply Ends.ok
  refine ⟨accepted, loaded, fun calendar => ?_, registered, pumped, pumping, enabled, guarded⟩
  refine ⟨initialized, ?_, rfl, rfl, rfl, rfl, rfl, rfl, rfl, rfl⟩
  intro driver member
  obtain ⟨options, begins⟩ := serves driver member
  exact ⟨options, surroundings.boundPort, begins⟩

/-- A machine with the sample configuration, and nothing that refuses. -/
def sampleSurroundings : Surroundings where
  ignoresSigpipe := true
  defaultConfigPath := bytes "pixelstatus.sample.json"
  file _ := .contents []
  library := { parse := fun _ => some (.object sampleDocument), dump := fun _ => none }
  environment _ := none
  credentials _ := none
  windowError := none
  boundPort := 8788
  threadError := none
  apiBinds := true
  randomWords _ := 0
  startedAt := 0

def sampleArguments : List Bytes := [bytes "--web-refresh-ms", bytes "50"]

def sampleCommandLine : CommandLine :=
  { defaultCommandLine .linux sampleSurroundings.defaultConfigPath with webRefreshInterval := 50 }

/-- The sample's arguments are accepted. -/
theorem sampleArguments_read :
    parseCommandLine plainLinux.platform sampleSurroundings.defaultConfigPath sampleArguments =
      some sampleCommandLine := rfl

/-- The sample's monitors get their runners. -/
theorem sampleMonitors_created : ∀ configured ∈ sampleConfig.monitors, ∃ runner,
    createMonitorRunner plainLinux (resolver plainLinux sampleSurroundings) configured.source =
      .ok runner := by
  have loaded := @sampleDocument_loads []
  have plain : ∀ configured ∈ sampleConfig.monitors, configured.source.Plain := by
    decide +kernel
  have supported : ∀ configured ∈ sampleConfig.monitors,
      plainLinux.Supports configured.source := by
    decide +kernel
  intro configured member
  have accepted := (accepted_of_loadConfigFile loaded).monitors.each configured member
  obtain ⟨runner, created, -⟩ := createMonitorRunner_of_accepted
    (resolver plainLinux sampleSurroundings) accepted.source (plain configured member)
    (supported configured member)
  exact ⟨runner, created⟩

/-- Nothing there explains a failure. -/
theorem sample_unexplained (failure : StartFailure) :
    ¬ Explained plainLinux Double.exact sampleSurroundings sampleArguments failure := by
  intro explained
  cases explained with
  | signalFailed posix refused => cases refused
  | usage refused =>
      rw [sampleArguments_read] at refused
      cases refused
  | configuration options accepted errors refused some =>
      have loaded := @sampleDocument_loads options.configPath
      have refused := congrArg ConfigLoadResult.config refused
      exact Option.some_ne_none _ (loaded.symm.trans refused)
  | noDisplay options accepted none =>
      obtain rfl := Option.some.inj (sampleArguments_read.symm.trans accepted)
      exact absurd none.2 (by decide)
  | windowFailed options accepted enabled windows detail refused => cases windows
  | displayFailed options accepted enabled refused =>
      change (8788 : Int) < 1 ∨ (8788 : Int) > 65535 at refused
      omega
  | monitorFailed options accepted config loaded error refused =>
      obtain rfl := Option.some.inj (Eq.trans (Eq.symm loaded) sampleDocument_loads)
      obtain ⟨configured, member, reason, refused, _⟩ := refused
      obtain ⟨runner, created⟩ := sampleMonitors_created configured member
      rw [created] at refused
      cases refused
  | executorFailed what refused => cases refused
  | apiFailed options accepted enabled refused => cases refused

end Program

end PixelStatus
