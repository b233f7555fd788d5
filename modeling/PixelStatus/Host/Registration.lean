/-
# Registering the configured monitors

Before the display starts, the program builds a runner for every configured
monitor and adds it to the engine, and ends at the first failure. What the
loader accepts never ends it.
-/

import PixelStatus.Core.Config.Load
import PixelStatus.Core.MonitorEngine
import PixelStatus.Host.MonitorRunnerFactory

namespace PixelStatus

open Outcome

/-- What the engine is told of a configured monitor. -/
def PullMonitorConfig.definition (configured : PullMonitorConfig) : MonitorDefinition where
  id := configured.id
  interval := configured.interval
  ttl := configured.ttl
  evaluation := configured.evaluation

/-- The loader's bounds are within those of the engine. -/
theorem PullMonitorConfig.Accepted.definition_valid {platform : Platform} {statuses : Statuses}
    {configured : PullMonitorConfig} (accepted : configured.Accepted platform statuses) :
    configured.definition.Valid platform where
  id := accepted.id
  interval := lt_of_lt_of_le (by decide) accepted.interval.1
  ttl := fun ttl member => lt_of_lt_of_le Int.one_pos (accepted.ttl ttl member).1
  evaluation := accepted.evaluation.valid

namespace Host

section

variable (build : HostBuild) (resolver : SecretResolver) (startedAt : TimePoint)

def registerMonitor (engine : MonitorEngine build.platform MonitorRunner)
    (configured : PullMonitorConfig) :
    Except Bytes (MonitorEngine build.platform MonitorRunner) :=
  match createMonitorRunner build resolver configured.source with
  | .error error =>
      .error (bytes "Unable to create monitor " ++ configured.id ++ bytes ": " ++ error)
  | .ok runner =>
      match engine.add configured.definition (some runner) startedAt with
      | .error error =>
          .error (bytes "Unable to register monitor " ++ configured.id ++ bytes ": " ++ error)
      | .ok engine => .ok engine

/-- The start-up loop over the configured monitors. -/
def registerMonitors (monitors : List PullMonitorConfig) :
    Except Bytes (MonitorEngine build.platform MonitorRunner) :=
  monitors.foldlM (registerMonitor build resolver startedAt) MonitorEngine.empty

/-- The job is what a configured monitor is registered as. -/
structure RegisteredAs (configured : PullMonitorConfig)
    (job : Job build.platform MonitorRunner) : Prop where
  definition : job.definition = configured.definition
  created : createMonitorRunner build resolver configured.source = .ok job.runner
  source : job.runner.source = configured.source
  nextDue : job.nextDue = startedAt
  idle : job.inFlight = false

end

variable {build : HostBuild} (resolver : SecretResolver) (startedAt : TimePoint)
  {statuses : Statuses}

/-- An accepted monitor with a new id is registered while there is room. -/
theorem registerMonitor_of_accepted {engine : MonitorEngine build.platform MonitorRunner}
    {configured : PullMonitorConfig} (accepted : configured.Accepted build.platform statuses)
    (plain : configured.source.Plain) (supported : build.Supports configured.source)
    (room : engine.jobs.length < maximumMonitorCount)
    (fresh : configured.id ∉ engine.jobs.map fun job => job.definition.id) :
    ∃ job fresh, registerMonitor build resolver startedAt engine configured =
        .ok (engine.push job fresh) ∧ RegisteredAs build resolver startedAt configured job := by
  obtain ⟨runner, created, same⟩ :=
    createMonitorRunner_of_accepted resolver accepted.source plain supported
  have valid := accepted.definition_valid
  refine ⟨⟨configured.definition, valid, runner, startedAt, false⟩, fresh, ?_,
    ⟨rfl, created, same, rfl, rfl⟩⟩
  rw [registerMonitor, created]
  dsimp only
  rw [MonitorEngine.add_of_valid valid room fresh]

/-- The loop registers the monitors that are left, in their order, when their
ids are new and there is room for all of them. -/
theorem foldlM_registerMonitor_of_accepted {monitors : List PullMonitorConfig}
    {engine : MonitorEngine build.platform MonitorRunner}
    (accepted : ∀ configured ∈ monitors, configured.Accepted build.platform statuses)
    (plain : ∀ configured ∈ monitors, configured.source.Plain)
    (supported : ∀ configured ∈ monitors, build.Supports configured.source)
    (room : engine.jobs.length + monitors.length ≤ maximumMonitorCount)
    (distinct : (monitors.map PullMonitorConfig.id).Nodup)
    (fresh : ∀ configured ∈ monitors,
      configured.id ∉ engine.jobs.map fun job => job.definition.id) :
    ∃ registered jobs,
      monitors.foldlM (registerMonitor build resolver startedAt) engine = .ok registered ∧
        registered.jobs = engine.jobs ++ jobs ∧
        List.Forall₂ (RegisteredAs build resolver startedAt) monitors jobs := by
  induction monitors generalizing engine with
  | nil => exact ⟨engine, [], rfl, (List.append_nil _).symm, .nil⟩
  | cons configured monitors ih =>
      rw [List.forall_mem_cons] at accepted plain supported fresh
      rw [List.map_cons, List.nodup_cons] at distinct
      rw [List.length_cons] at room
      obtain ⟨job, new, registers, registered⟩ :=
        registerMonitor_of_accepted resolver startedAt accepted.1 plain.1 supported.1
          (by omega) fresh.1
      have jobs : (engine.push job new).jobs = engine.jobs ++ [job] := rfl
      have later : ∀ other ∈ monitors,
          other.id ∉ (engine.push job new).jobs.map fun job => job.definition.id := by
        intro other member
        rw [jobs, List.map_append, List.mem_append, not_or]
        refine ⟨?_, ?_⟩
        · exact fresh.2 other member
        · rw [List.map_singleton, List.mem_singleton, registered.definition]
          intro same
          have same : other.id = configured.id := same
          exact distinct.1 (same ▸ List.mem_map_of_mem member)
      obtain ⟨result, rest, ends, appended, each⟩ := ih accepted.2 plain.2 supported.2
        (by rw [jobs, List.length_append, List.length_singleton]; omega) distinct.2 later
      refine ⟨result, job :: rest, ?_, ?_, .cons registered each⟩
      · rw [List.foldlM_cons, registers]
        exact ends
      · rw [appended, jobs, List.append_assoc, List.singleton_append]

/-- Every monitor of a configuration that the loader returns is registered, in
the order of the configuration, when no header refers to a secret and the build
supports every source. -/
theorem registerMonitors_of_loaded {round : Rounding} {parse : Bytes → Option Json}
    {path : Bytes} {file : ConfigFile} {config : AppConfig}
    (loaded : (loadConfigFile build.platform round parse path file).config = some config)
    (plain : ∀ configured ∈ config.monitors, configured.source.Plain)
    (supported : ∀ configured ∈ config.monitors, build.Supports configured.source) :
    ∃ engine, registerMonitors build resolver startedAt config.monitors = .ok engine ∧
      List.Forall₂ (RegisteredAs build resolver startedAt) config.monitors engine.jobs := by
  have monitors := (accepted_of_loadConfigFile loaded).monitors
  let start : MonitorEngine build.platform MonitorRunner := MonitorEngine.empty
  have nothing : start.jobs = [] := rfl
  have room : start.jobs.length + config.monitors.length ≤ maximumMonitorCount := by
    rw [nothing, List.length_nil, Nat.zero_add]
    exact monitors.count
  obtain ⟨engine, jobs, ends, same, each⟩ := foldlM_registerMonitor_of_accepted resolver
    startedAt monitors.each plain supported room monitors.distinct
    (fun _ _ => List.not_mem_nil)
  rw [nothing, List.nil_append] at same
  exact ⟨engine, ends, same ▸ each⟩

/-- Linux without OpenSSL. -/
def plainLinux : HostBuild := { platform := .linux, openssl := false }

/-- Windows without OpenSSL, which has WinHTTP and pings. -/
def plainWindows : HostBuild := { platform := .windows, openssl := false }

/-- A monitor that is well when it gets any result; the fields are in their order. -/
def networkMonitor (fields : List (String × Json)) : Json :=
  .object (members (("evaluate", .array
    [.object (members [("otherwise", .object (members [("status", textJson "ok")]))])]) :: fields))

/-- A configuration with a monitor of every type. -/
def networkDocument : Members :=
  deckDocument
    [siteMonitor,
      networkMonitor
        [("host", textJson "127.0.0.1"), ("id", textJson "port"), ("interval", textJson "10s"),
          ("port", .unsigned 18080), ("type", textJson "tcp_connect")],
      networkMonitor
        [("host", textJson "localhost"), ("id", textJson "gateway"), ("interval", textJson "1m"),
          ("type", textJson "icmp_ping")],
      networkMonitor
        [("host", textJson "127.0.0.1"), ("id", textJson "banner"), ("interval", textJson "10s"),
          ("observe", .object (members [("body", .boolean true)])), ("port", .unsigned 18080),
          ("read_until", textJson "\n"), ("send", textJson ""), ("type", textJson "tcp_exchange")],
      networkMonitor
        [("family", textJson "ipv4"), ("host", textJson "localhost"), ("id", textJson "name"),
          ("interval", textJson "10s"), ("observe", .object (members [("addresses", .boolean true)])),
          ("timeout", textJson "1s"), ("ttl", textJson "30s"), ("type", textJson "dns")]]

def networkConfig : AppConfig := (parseConfig .windows Double.exact networkDocument).value

/-- The configuration with a monitor of every type is loaded. -/
theorem networkDocument_loads {path : Bytes} :
    (loadConfigFile .windows Double.exact (fun _ => some (.object networkDocument)) path
      (.contents [])).config = some networkConfig :=
  loadConfigFile_of_silent (Nat.zero_le _) rfl (by decide +kernel)

/-- One monitor of every type is registered. -/
theorem registerMonitors_of_loaded_network :
    networkConfig.monitors.map (fun configured => configured.source.ctorIdx) = [0, 1, 2, 3, 4] ∧
      ∃ engine, registerMonitors plainWindows none 0 networkConfig.monitors = .ok engine ∧
        List.Forall₂ (RegisteredAs plainWindows none 0) networkConfig.monitors engine.jobs := by
  have loaded := @networkDocument_loads []
  have plain : ∀ configured ∈ networkConfig.monitors, configured.source.Plain := by
    decide +kernel
  have supported : ∀ configured ∈ networkConfig.monitors,
      plainWindows.Supports configured.source := by
    decide +kernel
  exact ⟨by decide +kernel,
    @registerMonitors_of_loaded plainWindows none 0 _ _ _ _ _ loaded plain supported⟩

end Host

end PixelStatus
