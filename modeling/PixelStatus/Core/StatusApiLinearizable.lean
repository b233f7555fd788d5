/-
# Concurrent POSTs are atomic

A POST takes several steps under the update lock of the API, which monitors do not
take. As long as nothing is published under the id that it is about, and no
publication takes the room of its state, no one can tell: what is called, answered
and published could have come from an API that files and answers in a single step.
A publication that the POST notices can give it away.
-/

import PixelStatus.Core.StatusApiCapacity
import PixelStatus.Logic.Trace

namespace PixelStatus.StatusApiCapacity

variable {Thread : Type} [DecidableEq Thread]

/-- What is to be seen of the API and of the monitors beside it. -/
inductive Event (Thread : Type)
  | called (thread : Thread) (state : MonitorState) (now : TimePoint)
  | returned (thread : Thread) (response : Option ApiResponse)
  | published (state : MonitorState)

/-! ## The API in single steps -/

/-- A POST that has been called, and its response once it has one. -/
structure AtomicPost where
  state : MonitorState
  now : TimePoint
  response : Option (Option ApiResponse) := none

/-- The store and the POSTs under way, each with its answer once it has one. -/
structure AtomicSystem (Thread : Type) where
  store : StateStore
  posts : Thread → Option AtomicPost

/-- One operation on the store at a time. -/
inductive AtomicStep (api : StatusApi) :
    AtomicSystem Thread → Option (Event Thread) → AtomicSystem Thread → Prop
  | call (system : AtomicSystem Thread) (thread : Thread) (idle : system.posts thread = none)
      (request : ApiRequest) (now : TimePoint) (state : MonitorState)
      (asks : Asks api request now state) :
      AtomicStep api system (some (.called thread state now))
        { system with posts := Function.update system.posts thread (some { state, now }) }
  | update (system : AtomicSystem Thread) (thread : Thread) (post : AtomicPost)
      (busy : system.posts thread = some post) (pending : post.response = none) :
      AtomicStep api system none
        { store := (api.update system.store post.state post.now).2
          posts := Function.update system.posts thread (some { post with
            response := some (api.update system.store post.state post.now).1 }) }
  | answer (system : AtomicSystem Thread) (thread : Thread) (post : AtomicPost)
      (busy : system.posts thread = some post) (response : Option ApiResponse)
      (answered : post.response = some response) :
      AtomicStep api system (some (.returned thread response))
        { system with posts := Function.update system.posts thread none }
  | publish {platform : Platform} {Runner : Type} (system : AtomicSystem Thread)
      (job : Job platform Runner) (outcome : RunnerOutcome) (now : TimePoint) :
      AtomicStep api system (some (.published (job.publication outcome now)))
        { system with store := (system.store.upsert (job.publication outcome now)).2 }

/-! ## The concurrent API -/

/-- A publication that no POST under the lock can notice. -/
structure Unnoticed (api : StatusApi) (system : System Thread) (state : MonitorState) : Prop where
  considerate : Considerate api system state
  other : ∀ thread post, system.posts thread = some post → post.phase.inside = true →
    post.state.id ≠ state.id

/-- A step with what it shows: a call, an answer, or a publication by any job. -/
inductive ShownStep (api : StatusApi) :
    System Thread → Option (Event Thread) → System Thread → Prop
  | call {system next : System Thread} (step : PostStep api system next) (thread : Thread)
      (post : Post) (idle : system.posts thread = none) (busy : next.posts thread = some post) :
      ShownStep api system (some (.called thread post.state post.now)) next
  | inner {system next : System Thread} (step : PostStep api system next)
      (same : ∀ thread, next.posts thread = none ↔ system.posts thread = none) :
      ShownStep api system none next
  | answer {system next : System Thread} (step : PostStep api system next) (thread : Thread)
      (post : Post) (response : Option ApiResponse) (busy : system.posts thread = some post)
      (answered : post.phase = .answered response) (idle : next.posts thread = none) :
      ShownStep api system (some (.returned thread response)) next
  | publish {platform : Platform} {Runner : Type} (system : System Thread)
      (job : Job platform Runner) (outcome : RunnerOutcome) (now : TimePoint) :
      ShownStep api system (some (.published (job.publication outcome now)))
        (system.publish (job.publication outcome now))

/-- A step that publishes nothing which a POST under the lock can notice. -/
def DiscreetStep (api : StatusApi) (system : System Thread) (event : Option (Event Thread))
    (next : System Thread) : Prop :=
  ShownStep api system event next ∧
    ∀ state, event = some (.published state) → Unnoticed api system state

/-- The response that is settled for a POST: with its state filed it only has to
be read back. -/
def settled (api : StatusApi) (store : StateStore) (post : Post) :
    Option (Option ApiResponse) :=
  match post.phase with
  | .filed existed =>
      some ((store.resolve post.state.id post.now).bind fun resolved =>
        api.jsonResponse (if existed then 200 else 201) (resolvedStateJson resolved post.now))
  | .answered response => some response
  | _ => none

/-- What the POSTs in flight amount to. -/
def System.atomic (api : StatusApi) (system : System Thread) : AtomicSystem Thread where
  store := system.store
  posts thread := (system.posts thread).map fun post =>
    { state := post.state, now := post.now, response := settled api system.store post }

variable {api : StatusApi} {system next : System Thread} {thread : Thread} {post : Post}
  {store : StateStore}

/-! ## Single steps -/

omit [DecidableEq Thread] in
/-- The response of a POST outside the lock does not depend on the store. -/
theorem settled_of_outside (outside : post.phase.inside = false) (first second : StateStore) :
    settled api first post = settled api second post := by
  unfold settled
  cases phase : post.phase with
  | filed existed =>
      rw [phase] at outside
      cases outside
  | waiting | locked | looked | admitted | answered => rfl

omit [DecidableEq Thread] in
/-- The abstract service knows the pending POSTs. -/
theorem atomic_posts (busy : system.posts thread = some post) :
    (system.atomic api).posts thread = some
      { state := post.state, now := post.now, response := settled api system.store post } := by
  show (system.posts thread).map _ = _
  rw [busy]
  rfl

/-- A thread goes on while the store stays. -/
theorem atomic_advance (phase : PostPhase) (holder : Option Thread) :
    ({ system.advance thread post phase with holder } : System Thread).atomic api =
      { store := system.store
        posts := Function.update (system.atomic api).posts thread (some
          { state := post.state, now := post.now
            response := settled api system.store { post with phase } }) } := by
  rw [System.atomic, AtomicSystem.mk.injEq]
  refine ⟨rfl, ?_⟩
  funext other
  by_cases same : other = thread
  · subst same
    simp only [System.advance, Function.update_self, Option.map_some]
  · simp only [System.advance, Function.update_of_ne same, System.atomic]

/-- A step between two phases without a response is not to be seen. -/
theorem atomic_silent (busy : system.posts thread = some post) {phase : PostPhase}
    (holder : Option Thread)
    (same : settled api system.store { post with phase } = settled api system.store post) :
    ({ system.advance thread post phase with holder } : System Thread).atomic api =
      system.atomic api := by
  rw [atomic_advance, same, ← atomic_posts busy, Function.update_eq_self]
  rfl

/-- A step of a thread that goes on shows nothing. -/
theorem shownStep_inner (step : PostStep api system next) (busy : system.posts thread = some post)
    {later : Post} (posts : next.posts = Function.update system.posts thread (some later)) :
    ShownStep api system none next := by
  refine .inner step fun other => ?_
  rw [posts]
  by_cases same : other = thread
  · rw [same, Function.update_self, busy]
    simp
  · rw [Function.update_of_ne same]

/-- Every step of a POST is a shown step, whatever it shows. -/
theorem exists_shownStep (step : PostStep api system next) :
    ∃ event, ShownStep api system event next := by
  cases step with
  | arrive thread idle request now state asks =>
      exact ⟨_, .call (.arrive system thread idle request now state asks) thread _ idle
        (Function.update_self _ _ _)⟩
  | lock thread post busy waiting free =>
      exact ⟨none, shownStep_inner (.lock system thread post busy waiting free) busy rfl⟩
  | look thread post busy locked =>
      exact ⟨none, shownStep_inner (.look system thread post busy locked) busy rfl⟩
  | refuse thread post busy existed looked full =>
      exact ⟨none, shownStep_inner (.refuse system thread post busy existed looked full) busy rfl⟩
  | grant thread post busy existed looked room =>
      exact ⟨none, shownStep_inner (.grant system thread post busy existed looked room) busy rfl⟩
  | file thread post busy existed admitted updated =>
      exact ⟨none, shownStep_inner (.file system thread post busy existed admitted updated) busy
        rfl⟩
  | fail thread post busy existed admitted failed =>
      exact ⟨none, shownStep_inner (.fail system thread post busy existed admitted failed) busy
        rfl⟩
  | respond thread post busy existed filed =>
      exact ⟨none, shownStep_inner (.respond system thread post busy existed filed) busy rfl⟩
  | leave thread post busy response answered =>
      exact ⟨_, .answer (.leave system thread post busy response answered) thread post response
        busy answered (Function.update_self _ _ _)⟩

/-- What holds of the POSTs in every run: while a POST is under the lock, its id
is stored exactly if it was found. -/
def Seen (system : System Thread) : Prop :=
  ∀ thread post existed, system.posts thread = some post →
    post.phase = .looked existed ∨ post.phase = .admitted existed →
      (system.store.find post.state.id).isSome = existed

namespace Seen

/-- A thread goes on while the store stays. -/
theorem advance (seen : Seen system) {phase : PostPhase} (holder : Option Thread)
    (found : ∀ existed, phase = .looked existed ∨ phase = .admitted existed →
      (system.store.find post.state.id).isSome = existed) :
    Seen ({ system.advance thread post phase with holder } : System Thread) := by
  intro other otherPost existed busy later
  by_cases same : other = thread
  · subst same
    dsimp only [System.advance] at busy
    rw [Function.update_self] at busy
    obtain rfl := Option.some.inj busy
    exact found existed later
  · dsimp only [System.advance] at busy
    rw [Function.update_of_ne same] at busy
    exact seen other otherPost existed busy later

omit [DecidableEq Thread] in
/-- A POST between looking and filing has the lock. -/
theorem not_outside {existed : Bool}
    (phase : post.phase = .looked existed ∨ post.phase = .admitted existed) :
    post.phase.inside = true := by
  rcases phase with phase | phase <;> rw [phase] <;> rfl

/-- A step of a POST keeps what the threads have seen true. -/
theorem postStep (seen : Seen system) (hinv : Invariant api system)
    (step : PostStep api system next) : Seen next := by
  cases step with
  | arrive thread idle request now state asks => exact seen.advance system.holder (by simp)
  | lock thread post busy waiting free => exact seen.advance (some thread) (by simp)
  | look thread post busy locked => exact seen.advance system.holder (by simp)
  | refuse thread post busy existed looked full => exact seen.advance none (by simp)
  | grant thread post busy existed looked room =>
      apply seen.advance system.holder
      rintro found (impossible | same)
      · cases impossible
      · cases same
        exact seen thread post existed busy (Or.inl looked)
  | file thread post busy existed admitted updated =>
      intro other otherPost found otherBusy later
      have inside := not_outside later
      dsimp only [System.advance] at otherBusy
      by_cases same : other = thread
      · subst same
        rw [Function.update_self] at otherBusy
        obtain rfl := Option.some.inj otherBusy
        rcases later with later | later <;> cases later
      · rw [Function.update_of_ne same] at otherBusy
        have outside := hinv.outside_of_ne busy (by rw [admitted]; rfl) otherBusy same
        rw [outside] at inside
        cases inside
  | fail thread post busy existed admitted failed => exact seen.advance none (by simp)
  | respond thread post busy existed filed => exact seen.advance none (by simp)
  | leave thread post busy response answered =>
      intro other otherPost found otherBusy later
      dsimp only at otherBusy
      by_cases same : other = thread
      · subst same
        rw [Function.update_self] at otherBusy
        cases otherBusy
      · rw [Function.update_of_ne same] at otherBusy
        exact seen other otherPost found otherBusy later

omit [DecidableEq Thread] in
/-- So does a publication that goes unnoticed. -/
theorem publish (seen : Seen system) {state : MonitorState}
    (unnoticed : Unnoticed api system state) : Seen (system.publish state) := by
  intro thread post existed busy later
  rw [← seen thread post existed busy later, System.publish,
    StateStore.find_upsert_ne (unnoticed.other thread post busy (not_outside later))]

end Seen

/-- What holds between any two steps. -/
structure Sound (api : StatusApi) (system : System Thread) : Prop where
  fits : Invariant api system
  seen : Seen system

/-- A discreet step keeps the system sound. -/
theorem Sound.step {event : Option (Event Thread)} (sound : Sound api system)
    (step : DiscreetStep api system event next) : Sound api next := by
  obtain ⟨step, discreet⟩ := step
  cases step with
  | call step | inner step | answer step =>
      exact ⟨sound.fits.postStep step, sound.seen.postStep sound.fits step⟩
  | publish _ job outcome now =>
      have unnoticed := discreet _ rfl
      exact ⟨sound.fits.publish (job.acceptable_publication outcome now) unnoticed.considerate,
        sound.seen.publish unnoticed⟩

/-! ## Every step is matched -/

omit [DecidableEq Thread] in
/-- The update of a POST that finds its id new and the store full. -/
theorem update_of_full {state : MonitorState} (now : TimePoint)
    (full : Full api (store.find state.id).isSome store) :
    api.update store state now =
      (api.errorResponse (507, bytes "status store limit reached"), store) := by
  rw [StatusApi.update]
  exact if_pos (by simpa [Full] using full)

/-- The update of a POST that finds room for an acceptable state. -/
theorem update_of_accepted {state : MonitorState} (now : TimePoint) {existed : Bool}
    (found : (store.find state.id).isSome = existed) (room : ¬ Full api existed store)
    (updated : (store.upsert state).1 = true) :
    api.update store state now =
      (((store.upsert state).2.resolve state.id now).bind fun resolved =>
        api.jsonResponse (if existed then 200 else 201) (resolvedStateJson resolved now),
        (store.upsert state).2) := by
  rw [StateStore.upsert_fst, decide_eq_true_iff] at updated
  rw [← found] at room
  simp only [StatusApi.update]
  rw [if_neg (by simpa [Full] using room), StateStore.upsert_of_acceptable updated, found]

/-- An update that the store rejects is answered so. -/
theorem update_of_rejected {state : MonitorState} (now : TimePoint) {existed : Bool}
    (found : (store.find state.id).isSome = existed) (room : ¬ Full api existed store)
    (failed : (store.upsert state).1 = false) :
    api.update store state now =
      (api.errorResponse (500, bytes "unable to update state"), store) := by
  rw [StateStore.upsert_fst, decide_eq_false_iff_not] at failed
  rw [← found] at room
  simp only [StatusApi.update]
  rw [if_neg (by simpa [Full] using room), StateStore.upsert_of_not_acceptable failed]

omit [DecidableEq Thread] in
/-- An admitted POST has room: what it found is stored, and a new id fits. -/
theorem Sound.room (sound : Sound api system) (busy : system.posts thread = some post)
    {existed : Bool} (admitted : post.phase = .admitted existed) :
    (system.store.find post.state.id).isSome = existed ∧ ¬ Full api existed system.store := by
  have found := sound.seen thread post existed busy (Or.inr admitted)
  refine ⟨found, ?_⟩
  rintro ⟨rfl, full⟩
  rw [Option.isSome_eq_false_iff, Option.isNone_iff_eq_none] at found
  exact absurd full (not_le.mpr ((sound.fits thread post busy).room admitted found))

/-- The atomic update of a POST that has no response yet. -/
theorem atomic_update (busy : system.posts thread = some post)
    (pending : settled api system.store post = none) :
    AtomicStep api (system.atomic api) none
      { store := (api.update system.store post.state post.now).2
        posts := Function.update (system.atomic api).posts thread (some
          { state := post.state, now := post.now
            response := some (api.update system.store post.state post.now).1 }) } :=
  .update (system.atomic api) thread _ (atomic_posts busy) pending

/-- A POST that is given its response under the lock: the store stays. -/
theorem atomic_answer (busy : system.posts thread = some post)
    (pending : settled api system.store post = none) {response : Option ApiResponse}
    (update : api.update system.store post.state post.now = (response, system.store)) :
    AtomicStep api (system.atomic api) none
      ((system.answer thread post response).atomic api) := by
  have step := atomic_update busy pending
  rw [update] at step
  rwa [System.answer, atomic_advance]

omit [DecidableEq Thread] in
/-- The store changes only under an id that no POST is about to read back. -/
theorem atomic_store (same : ∀ thread post, system.posts thread = some post →
      settled api store post = settled api system.store post) :
    ({ system with store } : System Thread).atomic api =
      { system.atomic api with store } := by
  rw [System.atomic, System.atomic, AtomicSystem.mk.injEq]
  refine ⟨rfl, ?_⟩
  funext thread
  dsimp only
  cases busy : system.posts thread with
  | none => rfl
  | some post => rw [Option.map_some, Option.map_some, same thread post busy]

/-- Filing changes nothing for the other POSTs, which are outside the lock. -/
theorem atomic_file (sound : Sound api system) (busy : system.posts thread = some post)
    (inside : post.phase.inside = true) (phase : PostPhase) :
    ({ system.advance thread post phase with store } : System Thread).atomic api =
      { store
        posts := Function.update (system.atomic api).posts thread (some
          { state := post.state, now := post.now
            response := settled api store { post with phase } }) } := by
  rw [System.atomic, AtomicSystem.mk.injEq]
  refine ⟨rfl, ?_⟩
  funext other
  by_cases same : other = thread
  · subst same
    simp only [System.advance, Function.update_self, Option.map_some]
  · simp only [System.advance, Function.update_of_ne same, System.atomic]
    cases held : system.posts other with
    | none => rfl
    | some otherPost =>
        have outside := sound.fits.outside_of_ne busy inside held same
        rw [Option.map_some, Option.map_some, settled_of_outside outside store system.store]

/-- A POST that leaves is no longer pending. -/
theorem atomic_leave :
    ({ system with posts := Function.update system.posts thread none } :
      System Thread).atomic api =
      { system.atomic api with
        posts := Function.update (system.atomic api).posts thread none } := by
  rw [System.atomic, AtomicSystem.mk.injEq]
  refine ⟨rfl, ?_⟩
  funext other
  by_cases same : other = thread
  · subst same
    simp only [Function.update_self, Option.map_none]
  · simp only [Function.update_of_ne same, System.atomic]

omit [DecidableEq Thread] in
/-- An unnoticed publication changes no answer that is settled. -/
theorem Unnoticed.settled_eq {state : MonitorState} (unnoticed : Unnoticed api system state)
    (busy : system.posts thread = some post) :
    settled api (system.store.upsert state).2 post = settled api system.store post := by
  by_cases outside : post.phase.inside = false
  · exact settled_of_outside outside _ _
  · rw [Bool.not_eq_false] at outside
    have different := unnoticed.other thread post busy outside
    unfold settled
    rw [StateStore.resolve, StateStore.resolve, StateStore.lookup_upsert_ne different]

/-- A thread that was not in `handle` and now is has been called. -/
theorem arrives_of_idle (step : PostStep api system next) (idle : system.posts thread = none)
    (busy : next.posts thread = some post) :
    ∃ request, Asks api request post.now post.state ∧
      next = system.advance thread { state := post.state, now := post.now } .waiting := by
  have replaced {other : Thread} {old : Post} {new : Option Post}
      (held : system.posts other = some old)
      (posts : Function.update system.posts other new thread = some post) : False := by
    by_cases same : thread = other
    · rw [same, held] at idle
      cases idle
    · rw [Function.update_of_ne same, idle] at posts
      cases posts
  cases step with
  | arrive other unused request now state asks =>
      dsimp only [System.advance] at busy
      by_cases same : thread = other
      · subst same
        rw [Function.update_self] at busy
        obtain rfl := Option.some.inj busy
        exact ⟨request, asks, rfl⟩
      · rw [Function.update_of_ne same, idle] at busy
        cases busy
  | lock _ _ held | look _ _ held | refuse _ _ held | grant _ _ held | file _ _ held
  | fail _ _ held | respond _ _ held | leave _ _ held => exact (replaced held busy).elim

/-- A thread that was in `handle` and now is not has returned its response. -/
theorem leaves_of_busy (step : PostStep api system next) (busy : system.posts thread = some post)
    (idle : next.posts thread = none) :
    next = { system with posts := Function.update system.posts thread none } := by
  have replaced {other : Thread} {new : Post}
      (posts : Function.update system.posts other (some new) thread = none) : False := by
    by_cases same : thread = other
    · rw [same, Function.update_self] at posts
      cases posts
    · rw [Function.update_of_ne same, busy] at posts
      cases posts
  cases step with
  | leave other old held response answered =>
      dsimp only at idle
      by_cases same : thread = other
      · rw [same]
      · rw [Function.update_of_ne same, busy] at idle
        cases idle
  | arrive | lock | look | refuse | grant | file | fail | respond =>
      exact (replaced idle).elim

/-- Under the lock a POST looks without being seen, and is answered or files its
state in the one step that counts. -/
theorem matched_inner (sound : Sound api system) (step : PostStep api system next)
    (same : ∀ thread, next.posts thread = none ↔ system.posts thread = none) :
    next.atomic api = system.atomic api ∨
      AtomicStep api (system.atomic api) none (next.atomic api) := by
  cases step with
  | arrive thread idle request now state asks =>
      have gone := (same thread).mpr idle
      dsimp only [System.advance] at gone
      rw [Function.update_self] at gone
      cases gone
  | lock thread post busy waiting free =>
      exact Or.inl (atomic_silent busy (some thread) (by simp [settled, waiting]))
  | look thread post busy locked =>
      exact Or.inl (atomic_silent busy system.holder (by simp [settled, locked]))
  | grant thread post busy existed looked room =>
      exact Or.inl (atomic_silent busy system.holder (by simp [settled, looked]))
  | refuse thread post busy existed looked full =>
      have found := sound.seen thread post existed busy (Or.inl looked)
      exact Or.inr (atomic_answer busy (by simp [settled, looked])
        (update_of_full post.now (found ▸ full)))
  | file thread post busy existed admitted updated =>
      obtain ⟨found, room⟩ := sound.room busy admitted
      have step : AtomicStep api (system.atomic api) none _ :=
        atomic_update busy (by simp [settled, admitted])
      rw [update_of_accepted post.now found room updated] at step
      have view : ({ system.advance thread post (.filed existed) with
            store := (system.store.upsert post.state).2 } : System Thread).atomic api = _ :=
        atomic_file sound busy (by rw [admitted]; rfl) (.filed existed)
      exact Or.inr (view ▸ step)
  | fail thread post busy existed admitted failed =>
      obtain ⟨found, room⟩ := sound.room busy admitted
      exact Or.inr (atomic_answer busy (by simp [settled, admitted])
        (update_of_rejected post.now found room failed))
  | respond thread post busy existed filed =>
      exact Or.inl (atomic_silent busy none (by simp [settled, filed]))
  | leave thread post busy response answered =>
      have stays := (same thread).mp (Function.update_self thread none system.posts)
      rw [busy] at stays
      cases stays

/-- Every step is matched by a step of the atomic API that shows the same, or it
shows nothing and leaves the atomic view. -/
theorem matched {event : Option (Event Thread)} (sound : Sound api system)
    (step : DiscreetStep api system event next) :
    (event = none ∧ next.atomic api = system.atomic api) ∨
      AtomicStep api (system.atomic api) event (next.atomic api) := by
  obtain ⟨step, discreet⟩ := step
  cases step with
  | call step thread post idle busy =>
      obtain ⟨request, asks, rfl⟩ := arrives_of_idle step idle busy
      have view := @atomic_advance _ _ api system thread { state := post.state, now := post.now }
        .waiting system.holder
      have unused : (system.atomic api).posts thread = none := by
        show (system.posts thread).map _ = none
        rw [idle, Option.map_none]
      exact Or.inr (view ▸ .call (system.atomic api) thread unused request post.now post.state asks)
  | inner step same =>
      rcases matched_inner sound step same with silent | step
      · exact Or.inl ⟨rfl, silent⟩
      · exact Or.inr step
  | answer step thread post response busy answered idle =>
      obtain rfl := leaves_of_busy step busy idle
      have view := @atomic_leave _ _ api system thread
      exact Or.inr (view ▸ .answer (system.atomic api) thread _ (atomic_posts busy) response
        (by simp [settled, answered]))
  | publish _ job outcome now =>
      have view : (system.publish (job.publication outcome now)).atomic api = _ :=
        atomic_store fun thread post busy => (discreet _ rfl).settled_eq busy
      exact Or.inr (view ▸ .publish (system.atomic api) job outcome now)

/-- A step of one thread between two phases shows nothing. -/
theorem discreetStep_stage {phase later : PostPhase} {holder holder' : Option Thread}
    {store' : StateStore} (step : PostStep api (system.stage thread post phase holder store)
      (system.stage thread post later holder' store')) :
    DiscreetStep api (system.stage thread post phase holder store) none
      (system.stage thread post later holder' store') := by
  have posts : (system.stage thread post later holder' store').posts = Function.update
      (system.stage thread post phase holder store).posts thread
        (some { post with phase := later }) :=
    (Function.update_idem _ _ _).symm
  exact ⟨shownStep_inner step (posts_stage phase holder store) posts, nofun⟩

/-- The POST is under the lock with its state filed, and this is the store. -/
def filedSystem (store : StateStore) : System Unit :=
  idleSystem.stage () buildPost (.filed false) (some ()) store

/-- What the POST reads back. -/
def buildAnswer (store : StateStore) : Option ApiResponse :=
  (store.resolve buildState.id 0).bind fun resolved =>
    smallApi.jsonResponse 201 (resolvedStateJson resolved 0)

/-- The store with the state of the POST. -/
def buildStore : StateStore := (StateStore.empty.upsert buildState).2

/-- The POST has been called and has filed its state. -/
theorem shows_filed : Trace (DiscreetStep smallApi) idleSystem [.called () buildState 0]
    (filedSystem buildStore) := by
  have busy (phase : PostPhase) (holder : Option Unit) (store : StateStore) :=
    @posts_stage _ _ idleSystem () buildPost phase holder store
  have calls : DiscreetStep smallApi idleSystem (some (.called () buildState 0))
      (idleSystem.stage () buildPost .waiting none .empty) :=
    ⟨.call (.arrive idleSystem () rfl StatusApi.examplePost 0 buildState asks_buildState) ()
      buildPost rfl rfl, nofun⟩
  have locks := @PostStep.lock _ _ smallApi _ () _ (busy .waiting none .empty) rfl rfl
  have looks := @PostStep.look _ _ smallApi _ () _ (busy .locked (some ()) .empty) rfl
  have room : ¬ Full smallApi false idleSystem.store := by
    rintro ⟨_, full⟩
    exact absurd full (by decide)
  have admits := @admits_stage _ _ smallApi idleSystem () buildPost false room
  have files := files_buildState (busy (.admitted false) (some ()) .empty)
  rw [advance_stage] at locks looks files
  have run := ((Trace.refl idleSystem).tail calls).tail (discreetStep_stage locks)
  exact ((run.tail (discreetStep_stage looks)).tail (discreetStep_stage admits)).tail
    (discreetStep_stage files)

/-- From there on the POST answers with what it reads back. -/
theorem answers_filed (store : StateStore) :
    ∃ middle, DiscreetStep smallApi (filedSystem store) none middle ∧
      DiscreetStep smallApi middle (some (.returned () (buildAnswer store)))
        { idleSystem with store } := by
  have filed := @posts_stage _ _ idleSystem () buildPost (.filed false) (some ()) store
  have answered := @posts_stage _ _ idleSystem () buildPost (.answered (buildAnswer store)) none store
  have responds := @PostStep.respond _ _ smallApi _ () _ filed false rfl
  rw [answer_stage] at responds
  have leaves := @PostStep.leave _ _ smallApi _ () _ answered _ rfl
  have idle : ({ idleSystem.stage () buildPost (.answered (buildAnswer store)) none store with
      posts := Function.update (idleSystem.stage () buildPost (.answered (buildAnswer store))
        none store).posts () none } : System Unit) = { idleSystem with store } := by
    rw [System.mk.injEq]
    refine ⟨rfl, ?_, rfl⟩
    exact (Function.update_idem _ _ _).trans (Function.update_eq_self () idleSystem.posts)
  rw [idle] at leaves
  exact ⟨_, discreetStep_stage responds, .answer leaves () _ _ answered rfl rfl, nofun⟩

/-- What is known of the POSTs of the API in single steps: they have been called, and
their responses are those of updates. -/
def Accountable (api : StatusApi) (events : List (Event Thread)) (system : AtomicSystem Thread) :
    Prop :=
  ∀ thread post, system.posts thread = some post →
    .called thread post.state post.now ∈ events ∧
      ∀ response, post.response = some response →
        ∃ store, response = (api.update store post.state post.now).1

/-- The response is that of an update with a state that was called. -/
def Accounted (api : StatusApi) (events : List (Event Thread)) (thread : Thread)
    (response : Option ApiResponse) : Prop :=
  ∃ state now store, .called thread state now ∈ events ∧
    response = (api.update store state now).1

omit [DecidableEq Thread] in
/-- What has happened stays in the account. -/
theorem Accounted.mono {events more : List (Event Thread)} {response : Option ApiResponse}
    (accounted : Accounted api events thread response) :
    Accounted api (events ++ more) thread response := by
  obtain ⟨state, now, store, called, same⟩ := accounted
  exact ⟨state, now, store, List.mem_append_left more called, same⟩

/-- An event that changes one POST is accounted for. -/
theorem Accountable.update {events : List (Event Thread)} {atomic : AtomicSystem Thread}
    (accountable : Accountable api events atomic) {event : Option (Event Thread)} (new : AtomicPost)
    (called : .called thread new.state new.now ∈ events ++ event.toList)
    (updated : ∀ response, new.response = some response →
      ∃ store, response = (api.update store new.state new.now).1) (store : StateStore) :
    Accountable api (events ++ event.toList)
      { store, posts := Function.update atomic.posts thread (some new) } := by
  intro other post busy
  by_cases same : other = thread
  · subst same
    dsimp only at busy
    rw [Function.update_self] at busy
    cases busy
    exact ⟨called, updated⟩
  · dsimp only at busy
    rw [Function.update_of_ne same] at busy
    obtain ⟨called, updated⟩ := accountable other post busy
    exact ⟨List.mem_append_left _ called, updated⟩

/-- Every answer of the API in single steps is that of one update with the state that
was called. -/
theorem accounted_of_trace {start atomic : AtomicSystem Thread} {events : List (Event Thread)}
    (idle : ∀ thread, start.posts thread = none)
    (trace : Trace (AtomicStep api) start events atomic) :
    Accountable api events atomic ∧
      ∀ thread response, .returned thread response ∈ events →
        Accounted api events thread response := by
  induction trace with
  | refl =>
      refine ⟨?_, fun _ _ member => absurd member List.not_mem_nil⟩
      intro thread post busy
      rw [idle thread] at busy
      cases busy
  | @tail middle last events event trace step ih =>
      obtain ⟨accountable, accounted⟩ := ih
      have earlier (quiet : ∀ thread response, event ≠ some (.returned thread response)) :
          ∀ thread response, .returned thread response ∈ events ++ event.toList →
            Accounted api (events ++ event.toList) thread response := by
        intro thread response member
        obtain old | new := List.mem_append.mp member
        · exact (accounted thread response old).mono
        · exact absurd (Option.mem_toList.mp new) (quiet thread response)
      cases step with
      | call _ thread idle request now state asks =>
          have called := List.mem_append_right events
            (List.mem_singleton_self (Event.called thread state now))
          refine ⟨accountable.update { state, now } called ?_ _, earlier nofun⟩
          exact fun _ impossible => absurd impossible (Option.some_ne_none _).symm
      | update _ thread post busy pending =>
          obtain ⟨called, _⟩ := accountable thread post busy
          refine ⟨accountable.update { post with
            response := some (api.update middle.store post.state post.now).1 }
              (List.mem_append_left _ called) ?_ _, earlier nofun⟩
          exact fun _ same => ⟨middle.store, (Option.some.inj same).symm⟩
      | answer _ thread post busy response answered =>
          obtain ⟨called, updated⟩ := accountable thread post busy
          refine ⟨?_, ?_⟩
          · intro other otherPost otherBusy
            dsimp only at otherBusy
            by_cases same : other = thread
            · rw [same, Function.update_self] at otherBusy
              cases otherBusy
            · rw [Function.update_of_ne same] at otherBusy
              obtain ⟨called, updated⟩ := accountable other otherPost otherBusy
              exact ⟨List.mem_append_left _ called, updated⟩
          · intro other given member
            obtain old | new := List.mem_append.mp member
            · exact (accounted other given old).mono
            · cases List.mem_singleton.mp new
              obtain ⟨store, same⟩ := updated response answered
              exact ⟨post.state, post.now, store, List.mem_append_left _ called, same⟩
      | publish _ job outcome now =>
          refine ⟨?_, earlier nofun⟩
          intro thread post busy
          obtain ⟨called, updated⟩ := accountable thread post busy
          exact ⟨List.mem_append_left _ called, updated⟩

/-- A monitor under the id of the POST. -/
def buildJob : Job .linux Unit where
  definition := { id := bytes "build", interval := 1000 }
  valid := ⟨by decide, by decide, nofun, by decide⟩
  runner := ()
  nextDue := 0
  inFlight := false

/-- The store once that monitor has published. -/
def noticedStore : StateStore := (buildStore.upsert (buildJob.publication (.threw none) 0)).2

/-- What an update with the state of the POST answers, whatever is stored. -/
theorem update_buildState (store : StateStore) :
    (smallApi.update store buildState 0).1.map ApiResponse.status = some 507 ∨
      ∃ existed : Bool, (smallApi.update store buildState 0).1 =
        smallApi.jsonResponse (if existed then 200 else 201)
          (resolvedStateJson (resolveEntry buildState 0 0) 0) := by
  by_cases full : Full smallApi (store.find buildState.id).isSome store
  · have refused : (smallApi.errorResponse (507, bytes "status store limit reached")).map
        ApiResponse.status = some 507 := by
      decide +kernel
    rw [update_of_full 0 full]
    exact .inl refused
  · have acceptable : buildState.Acceptable := by decide
    have updated : (store.upsert buildState).1 = true := by
      rw [StateStore.upsert_fst]
      exact decide_eq_true acceptable
    have shown (enteredAt : TimePoint) :
        resolvedStateJson (resolveEntry buildState enteredAt 0) 0 =
          resolvedStateJson (resolveEntry buildState 0 0) 0 := rfl
    rw [update_of_accepted 0 rfl full updated, StateStore.upsert_of_acceptable acceptable,
      StateStore.resolve, StateStore.lookup_accept_self]
    dsimp only [Option.map_some, Option.bind_some]
    rw [shown]
    exact .inr ⟨(store.find buildState.id).isSome, rfl⟩

/-- No such update answers with the state of the monitor. -/
theorem buildAnswer_noticed (store : StateStore) :
    buildAnswer noticedStore ≠ (smallApi.update store buildState 0).1 := by
  have created : (buildAnswer noticedStore).map ApiResponse.status = some 201 := by
    decide +kernel
  intro same
  obtain full | ⟨existed, answered⟩ := update_buildState store
  · rw [← same, created] at full
    cases full
  · have different (existed : Bool) : (buildAnswer noticedStore).map ApiResponse.body ≠
        (smallApi.jsonResponse (if existed then 200 else 201)
          (resolvedStateJson (resolveEntry buildState 0 0) 0)).map ApiResponse.body := by
      revert existed
      decide +kernel
    exact different existed (congrArg (Option.map ApiResponse.body) (same.trans answered))

/-- A publication between the filing of a state and its reading back shows in the answer,
which no run of the API in single steps gives. -/
theorem noticed_publication : ∃ events, ∃ system : System Unit,
    Trace (ShownStep smallApi) idleSystem events system ∧
      ∀ atomic, ¬ Trace (AtomicStep smallApi) (idleSystem.atomic smallApi) events atomic := by
  obtain ⟨middle, responds, leaves⟩ := answers_filed noticedStore
  have publishes : ShownStep smallApi (filedSystem buildStore)
      (some (.published (buildJob.publication (.threw none) 0))) (filedSystem noticedStore) :=
    .publish _ buildJob (.threw none) 0
  have filed := shows_filed.mono fun _ _ _ step => step.1
  refine ⟨_, _, ((filed.tail publishes).tail responds.1).tail leaves.1, ?_⟩
  intro atomic trace
  have idle (thread : Unit) : (idleSystem.atomic smallApi).posts thread = none := rfl
  obtain ⟨state, now, store, called, same⟩ := (accounted_of_trace idle trace).2 ()
    (buildAnswer noticedStore) (by simp)
  obtain ⟨rfl, rfl⟩ : state = buildState ∧ now = 0 := by simpa using called
  exact buildAnswer_noticed store same

end PixelStatus.StatusApiCapacity
