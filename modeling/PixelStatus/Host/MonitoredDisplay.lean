/-
# A display that only monitors write to

The program writes a start-up state for every source it shows, registers the
configured monitors and pumps them; nothing else writes to the store. The pumps
of any number of threads are runs of the atomic steps here. Every status that
comes into the store, and the one that replaces it when it expires, is defined
by the configuration.
-/

import PixelStatus.Core.MonitorConcurrency
import PixelStatus.Core.RenderAccepted
import PixelStatus.Core.RenderStatuses
import PixelStatus.Host.Registration

namespace PixelStatus

/-- The status of every outcome of an accepted policy is defined. -/
theorem PolicyAccepted.evaluate_mem {platform : Platform} {statuses : Statuses}
    {policy : EvaluationPolicy} (accepted : PolicyAccepted platform statuses policy)
    (result : MonitorResult) : (Evaluator.evaluate platform result policy).status ∈ statuses := by
  unfold Evaluator.evaluate
  split
  · exact accepted.transportFailure
  · split
    next matched => exact accepted.rules _ (Evaluator.firstMatch_mem matched)
    · exact accepted.noMatch

/-- Every reported status in the store is defined. -/
def StateStore.ReportsDefined (store : StateStore) (statuses : Statuses) : Prop :=
  ∀ id, ∀ entry ∈ store.states.lookup id, entry.state.status ∈ statuses

/-- A state with a defined status keeps every report defined. -/
theorem StateStore.ReportsDefined.upsert {store : StateStore} {statuses : Statuses}
    (reports : store.ReportsDefined statuses) {state : MonitorState}
    (defined : state.status ∈ statuses) : (store.upsert state).2.ReportsDefined statuses := by
  by_cases acceptable : state.Acceptable
  · rw [StateStore.upsert_of_acceptable acceptable]
    intro id entry filed
    by_cases same : id = state.id
    · subst same
      rw [StateStore.lookup_accept_self acceptable] at filed
      obtain rfl := Option.mem_some_iff.mp filed
      exact defined
    · rw [StateStore.lookup_accept_ne acceptable same] at filed
      exact reports id entry filed
  · rw [StateStore.upsert_of_not_acceptable acceptable]
    exact reports

/-- What is reported is defined, so what is resolved is. -/
theorem StateStore.ReportsDefined.statusesDefined {store : StateStore} {statuses : Statuses}
    (reports : store.ReportsDefined statuses) (required : RequiredStatuses statuses) :
    StatusesDefined statuses store where
  resolved id now resolved resolves := by
    obtain ⟨entry, filed, rfl⟩ := Option.map_eq_some_iff.mp resolves
    rw [resolveEntry_effectiveStatus]
    split
    · exact required.stale
    · exact reports id entry filed
  unknown := required.unknown

/-- The engine and the store of a running program. -/
structure MonitoredDisplay (platform : Platform) (Runner : Type) where
  engine : MonitorEngine platform Runner
  store : StateStore

namespace MonitoredDisplay

variable {platform : Platform} {Runner : Type}

/-- What the program writes and runs, one atomic step at a time. -/
inductive Step (config : AppConfig) :
    MonitoredDisplay platform Runner → MonitoredDisplay platform Runner → Prop
  | startUp (display : MonitoredDisplay platform Runner) (state : MonitorState)
      (unknown : state.status = bytes "unknown") :
      Step config display { display with store := (display.store.upsert state).2 }
  | register (display : MonitoredDisplay platform Runner) (configured : PullMonitorConfig)
      (member : configured ∈ config.monitors) (runner : Option Runner) (firstDue : TimePoint)
      (engine : MonitorEngine platform Runner)
      (added : display.engine.add configured.definition runner firstDue = .ok engine) :
      Step config display { display with engine }
  | claim (display : MonitoredDisplay platform Runner) (now : TimePoint) (maximumRuns : Nat) :
      Step config display { display with engine := display.engine.claim now maximumRuns }
  | publish (display : MonitoredDisplay platform Runner) (place : Nat)
      (job : Job platform Runner) (registered : display.engine.jobs[place]? = some job)
      (outcome : RunnerOutcome) (now : TimePoint) :
      Step config display
        { display with store := (display.store.upsert (job.publication outcome now)).2 }
  | release (display : MonitoredDisplay platform Runner) (places : List Nat) :
      Step config display { display with engine := display.engine.release places }

/-- Before anything is written or registered. -/
def Initial (display : MonitoredDisplay platform Runner) : Prop :=
  display = { engine := .empty, store := .empty }

/-! ## Pumps are runs of these steps -/

section

variable {config : AppConfig}

/-- Running the claimed jobs is a run of these steps. -/
theorem run_execute (run : Nat → RunnerOutcome) (now : TimePoint) (places : List Nat)
    (engine : MonitorEngine platform Runner) (store : StateStore) (report : MonitorPumpReport) :
    Relation.ReflTransGen (Step config) { engine, store }
      { engine := (MonitorEngine.execute run now places (engine, store, report)).1
        store := (MonitorEngine.execute run now places (engine, store, report)).2.1 } := by
  induction places generalizing engine store report with
  | nil => exact .refl
  | cons place places ih =>
      unfold MonitorEngine.execute
      split
      · exact ih _ _ _
      next job registered =>
        apply Relation.ReflTransGen.head (.publish _ place job registered (run place) now)
        apply Relation.ReflTransGen.head (.release _ [place])
        exact ih _ _ _

/-- A whole pump is a run. -/
theorem run_runDue (engine : MonitorEngine platform Runner) (store : StateStore)
    (run : Nat → RunnerOutcome) (now : TimePoint) (maximumRuns : Nat) :
    Relation.ReflTransGen (Step config) { engine, store }
      { engine := (engine.runDue store run now maximumRuns).1
        store := (engine.runDue store run now maximumRuns).2.1 } :=
  (run_execute run now _ _ _ _).head (.claim _ now maximumRuns)

variable {Thread : Type} [DecidableEq Thread]

/-- The engine and the store that the threads share. -/
def shared (system : MonitorConcurrency.System platform Runner Thread) :
    MonitoredDisplay platform Runner where
  engine := system.engine
  store := system.store

/-- A step of concurrent pumps is such a step or changes nothing that is shared,
but for a registration or a write from elsewhere. -/
theorem step_of_concurrent {system next : MonitorConcurrency.System platform Runner Thread}
    (step : MonitorConcurrency.Step system next) :
    shared next = shared system ∨ Step config (shared system) (shared next) ∨
      (∃ definition runner firstDue,
        system.engine.add definition runner firstDue = .ok next.engine ∧
          next.store = system.store) ∨
      ∃ state, next.engine = system.engine ∧ next.store = (system.store.upsert state).2 := by
  cases step with
  | claim thread idle now maximumRuns =>
      exact Or.inr (Or.inl (.claim (shared system) now maximumRuns))
  | publish thread pump busy outcome finished claim current job registered =>
      exact Or.inr (Or.inl (.publish (shared system) claim.job job registered outcome pump.now))
  | release thread pump busy published claim current =>
      exact Or.inr (Or.inl (.release (shared system) [claim.job]))
  | unwind thread pump busy unwinding =>
      exact Or.inr (Or.inl (.release (shared system) (pump.unreleased.map _)))
  | register definition runner firstDue engine added =>
      exact Or.inr (Or.inr (Or.inl ⟨definition, runner, firstDue, added, rfl⟩))
  | write state => exact Or.inr (Or.inr (Or.inr ⟨state, rfl, rfl⟩))
  | beginRun | endRun | throw | finish => exact Or.inl rfl

end

/-! ## What every run keeps -/

/-- The jobs are configured monitors, and what is reported is defined. -/
structure Invariant (config : AppConfig) (display : MonitoredDisplay platform Runner) : Prop where
  configured : ∀ job ∈ display.engine.jobs, ∃ monitor ∈ config.monitors,
    job.definition = monitor.definition
  reports : display.store.ReportsDefined config.statuses

variable {config : AppConfig} {display next : MonitoredDisplay platform Runner}

/-- A publication of a configured job has a defined status. -/
theorem publication_mem (accepted : config.Accepted platform) {job : Job platform Runner}
    {monitor : PullMonitorConfig} (member : monitor ∈ config.monitors)
    (same : job.definition = monitor.definition) (outcome : RunnerOutcome) (now : TimePoint) :
    (job.publication outcome now).status ∈ config.statuses := by
  have policy := (accepted.monitors.each monitor member).evaluation.evaluate_mem outcome.result
  show (Evaluator.evaluate platform outcome.result job.definition.evaluation).status ∈ _
  rw [same]
  exact policy

/-- Every step keeps the invariant. -/
theorem Invariant.step (accepted : config.Accepted platform)
    (required : RequiredStatuses config.statuses) (hinv : Invariant config display)
    (step : Step config display next) : Invariant config next := by
  have changed (engine : MonitorEngine platform Runner)
      (change : Nat → Job platform Runner → Job platform Runner)
      (keeps : ∀ index job, (change index job).definition = job.definition) :
      (∀ job ∈ engine.jobs, ∃ monitor ∈ config.monitors, job.definition = monitor.definition) →
        ∀ job ∈ engine.jobs.mapIdx change, ∃ monitor ∈ config.monitors,
          job.definition = monitor.definition := by
    intro configured job member
    obtain ⟨index, inside, rfl⟩ := List.mem_mapIdx.mp member
    rw [keeps]
    exact configured _ (List.getElem_mem inside)
  cases step with
  | startUp state unknown =>
      exact ⟨hinv.configured, hinv.reports.upsert (unknown ▸ required.unknown)⟩
  | register monitor member runner firstDue engine added =>
      obtain ⟨job, jobs, -, same, -⟩ := MonitorEngine.jobs_of_add added
      refine ⟨?_, hinv.reports⟩
      rw [jobs]
      intro other member'
      rcases List.mem_append.mp member' with earlier | last
      · exact hinv.configured other earlier
      · obtain rfl := List.mem_singleton.mp last
        exact ⟨monitor, member, same⟩
  | claim now maximumRuns =>
      exact ⟨changed _ _ (by intro _ _; split <;> rfl) hinv.configured, hinv.reports⟩
  | publish place job registered outcome now =>
      obtain ⟨monitor, member, same⟩ := hinv.configured job (List.mem_of_getElem? registered)
      exact ⟨hinv.configured,
        hinv.reports.upsert (publication_mem accepted member same outcome now)⟩
  | release places =>
      exact ⟨changed _ _ (by intro _ _; split <;> rfl) hinv.configured, hinv.reports⟩

/-- It holds in every run over an accepted configuration. -/
theorem invariant_of_reachable (accepted : config.Accepted platform)
    (required : RequiredStatuses config.statuses)
    (reachable : Transition.Reachable Initial (Step config) display) :
    Invariant config display := by
  apply reachable.induction
  · rintro start rfl
    refine ⟨?_, ?_⟩
    · exact List.forall_mem_nil _
    · intro id entry impossible
      cases impossible
  · exact fun _ _ _ hinv step => hinv.step accepted required step

/-- In every run over an accepted configuration, at any time, every effective
status is defined, no rendering misses one, and every source is drawn with the
appearance of its own. -/
theorem statuses_defined {round : Rounding} {parse : Bytes → Option Json} {path : Bytes}
    {file : ConfigFile}
    (loaded : (loadConfigFile platform round parse path file).config = some config)
    (reachable : Transition.Reachable Initial (Step config) display) (now : TimePoint) :
    (∀ id resolved, display.store.resolve id now = some resolved →
      resolved.effectiveStatus ∈ config.statuses) ∧
    (∀ resolved ∈ display.store.snapshot now, resolved.effectiveStatus ∈ config.statuses) ∧
    (∀ animationOrigin calendar wallNow output,
      (render round display.store config now animationOrigin calendar wallNow
        output).1.missingStatuses = 0) ∧
    ∀ animationOrigin source report, ∃ appearance,
      config.statuses.lookup (((display.store.resolve source now).map
        ResolvedState.effectiveStatus).getD (bytes "unknown")) = some appearance ∧
      (sampleSource round display.store config now animationOrigin source report).1.color =
        some (appearance.sample round (max (durationCast (now -
          ((display.store.resolve source now).map
            ResolvedState.statusEnteredAt).getD animationOrigin)) 0)) := by
  have required := requiredStatuses_of_loadConfigFile loaded
  have hinv := invariant_of_reachable (accepted_of_loadConfigFile loaded) required reachable
  have defined := hinv.reports.statusesDefined required
  refine ⟨fun id => defined.resolved id now, fun resolved member => ?_, ?_, ?_⟩
  · obtain ⟨id, resolves⟩ := StateStore.mem_snapshot.mp member
    exact defined.resolved id now resolved resolves
  · exact fun _ _ _ output => render_complete defined output
  · exact fun _ source report => (sampleSource_of_defined defined source report).2

/-- The monitor of the sample configuration. -/
def site : PullMonitorConfig := sampleConfig.monitors.get ⟨0, by decide +kernel⟩

theorem site_configured : site ∈ sampleConfig.monitors := List.get_mem _ _

def siteJob : Job .linux Unit where
  definition := site.definition
  valid := ((accepted_of_loadConfigFile (@sampleDocument_loads [])).monitors.each site
    site_configured).definition_valid
  runner := ()
  nextDue := 0
  inFlight := false

/-- The site answers with its status code. -/
def answered : RunnerOutcome := .returned { transportSuccess := true, value := .integer 200 }

/-- The start-up states: of the site, and one that expires after a millisecond. -/
def startedStore : StateStore :=
  ((StateStore.empty.upsert { id := bytes "site", status := bytes "unknown" }).2.upsert
    { id := bytes "gateway", status := bytes "unknown", ttl := some 1 }).2

/-- The store after a pump at six seconds. -/
def pumpedStore : StateStore :=
  ((MonitorEngine.empty.push siteJob List.not_mem_nil).runDue startedStore (fun _ => answered)
    6000000000 4).2.1

/-- The store after the pump is reached by a run. -/
theorem reachable_pumpedStore : ∃ engine : MonitorEngine .linux Unit,
    Transition.Reachable Initial (Step sampleConfig) { engine, store := pumpedStore } := by
  have initial : Transition.Reachable Initial (Step sampleConfig)
      ({ engine := .empty, store := .empty } : MonitoredDisplay .linux Unit) := .of_initial rfl
  have started := (initial.tail (.startUp _ { id := bytes "site", status := bytes "unknown" }
    rfl)).tail (.startUp _ { id := bytes "gateway", status := bytes "unknown", ttl := some 1 } rfl)
  obtain ⟨start, fresh, registered⟩ := started.tail (.register _ site site_configured (some ()) 0
    _ (MonitorEngine.add_of_valid siteJob.valid (by decide) List.not_mem_nil))
  exact ⟨_, start, fresh,
    registered.trans (run_runDue _ startedStore (fun _ => answered) 6000000000 4)⟩

/-- After the pump the site is well and the other source stale; both are drawn. -/
theorem statuses_defined_pumped :
    (pumpedStore.resolve (bytes "site") 6250000000).map ResolvedState.effectiveStatus =
        some (bytes "ok") ∧
      (pumpedStore.resolve (bytes "gateway") 6250000000).map ResolvedState.effectiveStatus =
        some (bytes "stale") ∧
      (render Double.exact pumpedStore sampleConfig 6250000000 0 noon 43200
        (Frame.create 24 16)).1.missingStatuses = 0 := by
  obtain ⟨engine, reachable⟩ := reachable_pumpedStore
  have complete := (statuses_defined (@sampleDocument_loads []) reachable 6250000000).2.2.1
  have drawn := complete 0 noon 43200 (Frame.create 24 16)
  dsimp only at drawn
  exact ⟨by decide +kernel, by decide +kernel, drawn⟩

end MonitoredDisplay

end PixelStatus
