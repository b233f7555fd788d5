/-
# The capacity of the store under concurrent POSTs

A POST that has passed its checks looks its id up, compares the number of states
with the limit and files its state: three store operations under the update lock
of the API. A monitor publishes without that lock, so it may come between them.
-/

import PixelStatus.Core.MonitorEngine
import PixelStatus.Core.StatusApiAtomicity
import PixelStatus.Logic.Transition

namespace PixelStatus

namespace StateStore

variable {store : StateStore} {state : MonitorState}

/-- An id that is looked up is one of the counted ones. -/
theorem find_isSome_iff {id : Bytes} : (store.find id).isSome = true ↔ id ∈ store.states := by
  rw [find, Option.isSome_map, AList.lookup_isSome]

/-- A store is as large as it has ids. -/
theorem size_eq_length_keys : store.size = store.states.keys.length := by
  rw [size, AList.keys, List.keys, List.length_map]

theorem size_accept (acceptable : state.Acceptable) :
    (store.accept state acceptable).size =
      (@List.erase Bytes instBEqOfDecidableEq store.states.keys state.id).length + 1 := by
  rw [size_eq_length_keys, accept, AList.keys_insert, List.length_cons]

/-- A state under a known id takes no room. -/
theorem size_upsert_of_mem (stored : state.id ∈ store.states) :
    (store.upsert state).2.size = store.size := by
  by_cases acceptable : state.Acceptable
  · have nonempty : 0 < store.states.keys.length := List.length_pos_of_mem stored
    have shorter := @List.length_erase_of_mem Bytes instBEqOfDecidableEq _ _ _ stored
    rw [upsert_of_acceptable acceptable, size_accept, shorter, size_eq_length_keys]
    omega
  · rw [upsert_of_not_acceptable acceptable]

/-- A state under a new id takes one place. -/
theorem size_upsert_of_absent (acceptable : state.Acceptable) (absent : store.find state.id = none) :
    (store.upsert state).2.size = store.size + 1 := by
  have stranger : state.id ∉ store.states := by
    rw [← find_isSome_iff, absent]
    simp
  have same := @List.erase_of_not_mem Bytes instBEqOfDecidableEq _ _ _ stranger
  rw [upsert_of_acceptable acceptable, size_accept, same, size_eq_length_keys]

/-- An upsert adds at most one state. -/
theorem size_upsert_le : (store.upsert state).2.size ≤ store.size + 1 := by
  by_cases acceptable : state.Acceptable
  · have shorter := @List.erase_sublist Bytes instBEqOfDecidableEq state.id store.states.keys
    rw [upsert_of_acceptable acceptable, size_accept, size_eq_length_keys]
    exact Nat.succ_le_succ shorter.length_le
  · rw [upsert_of_not_acceptable acceptable]
    exact Nat.le_succ _

/-- An update touches no other id. -/
theorem find_upsert_ne {id : Bytes} (different : id ≠ state.id) :
    (store.upsert state).2.find id = store.find id := by
  rw [find, find, lookup_upsert_ne different]

/-- What was written is found. -/
theorem find_upsert_self (acceptable : state.Acceptable) :
    (store.upsert state).2.find state.id = some state := by
  rw [find, upsert_of_acceptable acceptable, lookup_accept_self acceptable, Option.map_some]

/-- What is stored stays stored. -/
theorem find_upsert_isSome {id : Bytes} (stored : (store.find id).isSome = true) :
    ((store.upsert state).2.find id).isSome = true := by
  by_cases same : id = state.id
  · by_cases acceptable : state.Acceptable
    · rw [same, find_upsert_self acceptable, Option.isSome_some]
    · rw [upsert_of_not_acceptable acceptable, stored]
  · rw [find_upsert_ne same, stored]

end StateStore

namespace StatusApiCapacity

/-- How far a POST is behind the checks of its request. -/
inductive PostPhase
  | waiting
  | locked
  | looked (existed : Bool)
  | admitted (existed : Bool)
  | filed (existed : Bool)
  | answered (response : Option ApiResponse)

/-- A POST that asks for a state. -/
structure Post where
  state : MonitorState
  now : TimePoint
  phase : PostPhase := .waiting

/-- The store, the POSTs under way and the update lock. -/
structure System (Thread : Type) where
  store : StateStore
  posts : Thread → Option Post
  /-- Who holds the update lock. -/
  holder : Option Thread

variable {Thread : Type} [DecidableEq Thread]

namespace System

/-- A thread goes on to another phase. -/
def advance (system : System Thread) (thread : Thread) (post : Post) (phase : PostPhase) :
    System Thread :=
  { system with posts := Function.update system.posts thread (some { post with phase }) }

/-- A thread returns a response and gives the lock back. -/
def answer (system : System Thread) (thread : Thread) (post : Post)
    (response : Option ApiResponse) : System Thread :=
  { system.advance thread post (.answered response) with holder := none }

/-- A monitor publishes. -/
def publish (system : System Thread) (state : MonitorState) : System Thread :=
  { system with store := (system.store.upsert state).2 }

end System

variable (api : StatusApi)

/-- The request is a POST that passes every check before the lock. -/
def Asks (request : ApiRequest) (now : TimePoint) (state : MonitorState) : Prop :=
  api.authorized request = true ∧ asciiLower request.method = bytes "post" ∧
    ∃ target, route request.target = some target ∧ api.parseUpdate request target now = .ok state

/-- The comparison with the limit, which only a new id needs. -/
def Full (existed : Bool) (store : StateStore) : Prop :=
  existed = false ∧ store.size ≥ api.limits.maximumStates

/-- One atomic step of one thread in `handle`. -/
inductive PostStep : System Thread → System Thread → Prop
  | arrive (system : System Thread) (thread : Thread) (idle : system.posts thread = none)
      (request : ApiRequest) (now : TimePoint) (state : MonitorState)
      (asks : Asks api request now state) :
      PostStep system (system.advance thread { state, now } .waiting)
  | lock (system : System Thread) (thread : Thread) (post : Post)
      (busy : system.posts thread = some post) (waiting : post.phase = .waiting)
      (free : system.holder = none) :
      PostStep system { system.advance thread post .locked with holder := some thread }
  | look (system : System Thread) (thread : Thread) (post : Post)
      (busy : system.posts thread = some post) (locked : post.phase = .locked) :
      PostStep system
        (system.advance thread post (.looked (system.store.find post.state.id).isSome))
  | refuse (system : System Thread) (thread : Thread) (post : Post)
      (busy : system.posts thread = some post) (existed : Bool)
      (looked : post.phase = .looked existed) (full : Full api existed system.store) :
      PostStep system (system.answer thread post
        (api.errorResponse (507, bytes "status store limit reached")))
  | grant (system : System Thread) (thread : Thread) (post : Post)
      (busy : system.posts thread = some post) (existed : Bool)
      (looked : post.phase = .looked existed) (room : ¬ Full api existed system.store) :
      PostStep system (system.advance thread post (.admitted existed))
  | file (system : System Thread) (thread : Thread) (post : Post)
      (busy : system.posts thread = some post) (existed : Bool)
      (admitted : post.phase = .admitted existed)
      (updated : (system.store.upsert post.state).1 = true) :
      PostStep system
        { system.advance thread post (.filed existed) with
          store := (system.store.upsert post.state).2 }
  | fail (system : System Thread) (thread : Thread) (post : Post)
      (busy : system.posts thread = some post) (existed : Bool)
      (admitted : post.phase = .admitted existed)
      (failed : (system.store.upsert post.state).1 = false) :
      PostStep system (system.answer thread post
        (api.errorResponse (500, bytes "unable to update state")))
  | respond (system : System Thread) (thread : Thread) (post : Post)
      (busy : system.posts thread = some post) (existed : Bool)
      (filed : post.phase = .filed existed) :
      PostStep system (system.answer thread post
        ((system.store.resolve post.state.id post.now).bind fun resolved =>
          api.jsonResponse (if existed then 200 else 201)
            (resolvedStateJson resolved post.now)))
  | leave (system : System Thread) (thread : Thread) (post : Post)
      (busy : system.posts thread = some post) (response : Option ApiResponse)
      (answered : post.phase = .answered response) :
      PostStep system { system with posts := Function.update system.posts thread none }

/-- A step of a POST, or the publication of a run by any job. -/
inductive Step : System Thread → System Thread → Prop
  | post {system next : System Thread} (step : PostStep api system next) : Step system next
  | publish {platform : Platform} {Runner : Type} (system : System Thread)
      (job : Job platform Runner) (outcome : RunnerOutcome) (now : TimePoint) :
      Step system (system.publish (job.publication outcome now))

/-! ## A POST that is left alone -/

section

variable {api} {system : System Thread} {thread : Thread} {post : Post}

/-- The system with one thread in a phase, and the lock and the store as given. -/
def System.stage (system : System Thread) (thread : Thread) (post : Post) (phase : PostPhase)
    (holder : Option Thread) (store : StateStore) : System Thread :=
  { system.advance thread post phase with holder, store }

/-- The stage of a POST is the one it was set to. -/
theorem posts_stage (phase : PostPhase) (holder : Option Thread) (store : StateStore) :
    (system.stage thread post phase holder store).posts thread = some { post with phase } := by
  dsimp only [System.stage, System.advance]
  rw [Function.update_self]

/-- Only the last phase of a thread is kept. -/
theorem advance_stage (phase later : PostPhase) (holder : Option Thread) (store : StateStore) :
    (system.stage thread post phase holder store).advance thread { post with phase } later =
      system.stage thread post later holder store := by
  simp [System.stage, System.advance]

/-- A POST that is answered lets go of the lock. -/
theorem answer_stage (phase : PostPhase) (response : Option ApiResponse)
    (holder : Option Thread) (store : StateStore) :
    (system.stage thread post phase holder store).answer thread { post with phase } response =
      system.stage thread post (.answered response) none store := by
  rw [System.answer, advance_stage]
  rfl

/-- A POST that nobody interrupts has the lock and has looked its id up. -/
theorem runs_to_looked (busy : system.posts thread = some post) (waiting : post.phase = .waiting)
    (free : system.holder = none) :
    Relation.ReflTransGen (PostStep api) system
      (system.stage thread post (.looked (system.store.find post.state.id).isSome) (some thread)
        system.store) := by
  have locks : PostStep api system (system.stage thread post .locked (some thread) system.store) :=
    .lock system thread post busy waiting free
  have looks := @PostStep.look _ _ api _ thread _
    (@posts_stage _ _ system thread post .locked (some thread) system.store) rfl
  rw [advance_stage] at looks
  exact (Relation.ReflTransGen.single locks).tail looks

/-- A POST that looked and found room is admitted. -/
theorem admits_stage {existed : Bool} (room : ¬ Full api existed system.store) :
    PostStep api (system.stage thread post (.looked existed) (some thread) system.store)
      (system.stage thread post (.admitted existed) (some thread) system.store) := by
  have admits := @PostStep.grant _ _ api _ thread _
    (@posts_stage _ _ system thread post (.looked existed) (some thread) system.store)
    existed rfl room
  rwa [advance_stage] at admits

/-- A POST whose steps nobody interrupts does what the sequential update does. -/
theorem runs_alone (busy : system.posts thread = some post) (waiting : post.phase = .waiting)
    (free : system.holder = none) :
    Relation.ReflTransGen (PostStep api) system
      (system.stage thread post (.answered (api.update system.store post.state post.now).1) none
        (api.update system.store post.state post.now).2) := by
  have before := @runs_to_looked _ _ api _ _ _ busy waiting free
  let existed := (system.store.find post.state.id).isSome
  by_cases full : Full api existed system.store
  · have refuses := @PostStep.refuse _ _ api _ thread _
      (@posts_stage _ _ system thread post (.looked existed) (some thread) system.store)
      existed rfl full
    rw [answer_stage] at refuses
    have update : api.update system.store post.state post.now =
        (api.errorResponse (507, bytes "status store limit reached"), system.store) := by
      rw [StatusApi.update]
      exact if_pos (by simpa [Full, existed] using full)
    rw [update]
    exact before.tail refuses
  · have busyAdmitted :=
      @posts_stage _ _ system thread post (.admitted existed) (some thread) system.store
    have room : ¬ ((!existed) = true ∧ system.store.size ≥ api.limits.maximumStates) := by
      simpa [Full] using full
    have before := before.tail (admits_stage full)
    let after := (system.store.upsert post.state).2
    by_cases acceptable : post.state.Acceptable
    · have upsert := @StateStore.upsert_of_acceptable system.store post.state acceptable
      have files := @PostStep.file _ _ api _ thread _ busyAdmitted existed rfl
        (congrArg Prod.fst upsert)
      rw [advance_stage] at files
      have responds := @PostStep.respond _ _ api _ thread _
        (@posts_stage _ _ system thread post (.filed existed) (some thread) after) existed rfl
      rw [answer_stage] at responds
      have update : api.update system.store post.state post.now =
          ((after.resolve post.state.id post.now).bind fun resolved =>
            api.jsonResponse (if existed then 200 else 201)
              (resolvedStateJson resolved post.now), after) := by
        simp only [StatusApi.update, after]
        rw [if_neg (by simpa [existed] using room), upsert]
      rw [update]
      exact (before.tail files).tail responds
    · have upsert := @StateStore.upsert_of_not_acceptable system.store post.state acceptable
      have fails := @PostStep.fail _ _ api _ thread _ busyAdmitted existed rfl
        (congrArg Prod.fst upsert)
      rw [answer_stage] at fails
      have update : api.update system.store post.state post.now =
          (api.errorResponse (500, bytes "unable to update state"), system.store) := by
        simp only [StatusApi.update]
        rw [if_neg (by simpa [existed] using room), upsert]
      rw [update]
      exact before.tail fails

end

/-! ## The invariant -/

/-- The thread stands between taking the lock and giving it back. -/
def PostPhase.inside : PostPhase → Bool
  | .waiting => false
  | .answered _ => false
  | _ => true

/-- A POST of an id that is not stored has passed the comparison. -/
def AboutToInsert (system : System Thread) (thread : Thread) (post : Post) : Prop :=
  system.posts thread = some post ∧ post.phase = .admitted false ∧
    system.store.find post.state.id = none

/-- What is known of a POST: inside it holds the lock, an id that it found stays
stored, and about to insert it has room. -/
structure Fits (system : System Thread) (thread : Thread) (post : Post) : Prop where
  holds : post.phase.inside = true → system.holder = some thread
  existed : post.phase = .looked true ∨ post.phase = .admitted true →
    (system.store.find post.state.id).isSome = true
  room : post.phase = .admitted false → system.store.find post.state.id = none →
    system.store.size < api.limits.maximumStates

/-- What every step keeps. -/
def Invariant (system : System Thread) : Prop :=
  ∀ thread post, system.posts thread = some post → Fits api system thread post

/-- A publication that takes no room from a POST about to insert: it adds no state,
or the very id that is about to be inserted, or there is room for both. -/
def Considerate (system : System Thread) (state : MonitorState) : Prop :=
  (system.store.find state.id).isSome = true ∨
    ∀ thread post, AboutToInsert system thread post →
      post.state.id = state.id ∨ system.store.size + 1 < api.limits.maximumStates

/-- A step in which no publication takes the room of a POST. -/
inductive ConsiderateStep : System Thread → System Thread → Prop
  | post {system next : System Thread} (step : PostStep api system next) :
      ConsiderateStep system next
  | publish {platform : Platform} {Runner : Type} (system : System Thread)
      (job : Job platform Runner) (outcome : RunnerOutcome) (now : TimePoint)
      (considerate : Considerate api system (job.publication outcome now)) :
      ConsiderateStep system (system.publish (job.publication outcome now))

variable {api} {system next : System Thread} {thread : Thread} {post : Post}

omit [DecidableEq Thread] in
/-- Nothing is asked of a POST that is not inside. -/
theorem Fits.of_outside (outside : post.phase.inside = false) : Fits api system thread post where
  holds inside := by
    rw [outside] at inside
    cases inside
  existed := by
    rintro (phase | phase)
    · rw [phase] at outside
      cases outside
    · rw [phase] at outside
      cases outside
  room phase := by
    rw [phase] at outside
    cases outside

namespace Invariant

omit [DecidableEq Thread] in
/-- At most one POST is inside. -/
theorem outside_of_ne (hinv : Invariant api system) (busy : system.posts thread = some post)
    (inside : post.phase.inside = true) {other : Thread} {otherPost : Post}
    (otherBusy : system.posts other = some otherPost) (different : other ≠ thread) :
    otherPost.phase.inside = false := by
  by_contra both
  rw [Bool.not_eq_false] at both
  have same := (hinv other otherPost otherBusy).holds both
  rw [(hinv thread post busy).holds inside] at same
  exact different (Option.some.inj same).symm

/-- A thread goes on to a phase that fits, and leaves store and lock alone. -/
theorem advance (hinv : Invariant api system) {phase : PostPhase}
    (fits : Fits api system thread { post with phase }) :
    Invariant api (system.advance thread post phase) := by
  intro other otherPost busy
  by_cases same : other = thread
  · subst same
    dsimp only [System.advance] at busy
    rw [Function.update_self] at busy
    cases busy
    exact ⟨fits.holds, fits.existed, fits.room⟩
  · dsimp only [System.advance] at busy
    rw [Function.update_of_ne same] at busy
    have before := hinv other otherPost busy
    exact ⟨before.holds, before.existed, before.room⟩

/-- A thread goes on, and no other one is inside. -/
theorem alone (hposts : next.posts = Function.update system.posts thread (some post))
    (fits : Fits api next thread post)
    (outside : ∀ other otherPost, system.posts other = some otherPost → other ≠ thread →
      otherPost.phase.inside = false) : Invariant api next := by
  intro other otherPost busy
  rw [hposts] at busy
  by_cases same : other = thread
  · subst same
    rw [Function.update_self] at busy
    cases busy
    exact fits
  · rw [Function.update_of_ne same] at busy
    exact Fits.of_outside (outside other otherPost busy same)

/-- A step of a POST keeps the invariant. -/
theorem postStep (hinv : Invariant api system) (step : PostStep api system next) :
    Invariant api next := by
  cases step with
  | arrive thread idle request now state asks => exact hinv.advance (Fits.of_outside rfl)
  | lock thread post busy waiting free =>
      apply alone rfl
      · exact ⟨fun _ => rfl, by simp, by simp⟩
      · intro other otherPost otherBusy _
        by_contra inside
        rw [Bool.not_eq_false] at inside
        have holds := (hinv other otherPost otherBusy).holds inside
        rw [free] at holds
        cases holds
  | look thread post busy locked =>
      have holds := (hinv thread post busy).holds (by rw [locked]; rfl)
      apply hinv.advance
      exact ⟨fun _ => holds, by simp, by simp⟩
  | refuse thread post busy existed looked full =>
      apply alone rfl (Fits.of_outside rfl)
      exact fun other otherPost => hinv.outside_of_ne busy (by rw [looked]; rfl)
  | grant thread post busy existed looked room =>
      have fits := hinv thread post busy
      apply hinv.advance
      refine ⟨fun _ => fits.holds (by rw [looked]; rfl), ?_, ?_⟩
      · rintro (impossible | same)
        · cases impossible
        · cases same
          exact fits.existed (Or.inl looked)
      · intro same _
        cases same
        exact not_le.mp fun full => room ⟨rfl, full⟩
  | file thread post busy existed admitted updated =>
      apply alone rfl
      · exact ⟨fun _ => (hinv thread post busy).holds (by rw [admitted]; rfl), by simp, by simp⟩
      · exact fun other otherPost => hinv.outside_of_ne busy (by rw [admitted]; rfl)
  | fail thread post busy existed admitted failed =>
      apply alone rfl (Fits.of_outside rfl)
      exact fun other otherPost => hinv.outside_of_ne busy (by rw [admitted]; rfl)
  | respond thread post busy existed filed =>
      apply alone rfl (Fits.of_outside rfl)
      exact fun other otherPost => hinv.outside_of_ne busy (by rw [filed]; rfl)
  | leave thread post busy response answered =>
      intro other otherPost otherBusy
      dsimp only at otherBusy
      by_cases same : other = thread
      · subst same
        rw [Function.update_self] at otherBusy
        cases otherBusy
      · rw [Function.update_of_ne same] at otherBusy
        have before := hinv other otherPost otherBusy
        exact ⟨before.holds, before.existed, before.room⟩

omit [DecidableEq Thread] in
/-- A considerate publication keeps the invariant. -/
theorem publish (hinv : Invariant api system) {state : MonitorState}
    (acceptable : state.Acceptable) (considerate : Considerate api system state) :
    Invariant api (system.publish state) := by
  intro thread post busy
  have fits := hinv thread post busy
  refine ⟨fits.holds, fun found => ?_, fun admitted absent => ?_⟩
  · exact StateStore.find_upsert_isSome (fits.existed found)
  · have different : post.state.id ≠ state.id := by
      intro same
      rw [System.publish, same, StateStore.find_upsert_self acceptable] at absent
      cases absent
    have absent : system.store.find post.state.id = none := by
      rwa [System.publish, StateStore.find_upsert_ne different] at absent
    rcases considerate with stored | room
    · have size := StateStore.size_upsert_of_mem (StateStore.find_isSome_iff.mp stored)
      exact size ▸ fits.room admitted absent
    · rcases room thread post ⟨busy, admitted, absent⟩ with same | room
      · exact absurd same different
      · exact Nat.lt_of_le_of_lt StateStore.size_upsert_le room

/-- So does every considerate step. -/
theorem considerateStep (hinv : Invariant api system) (step : ConsiderateStep api system next) :
    Invariant api next := by
  cases step with
  | post step => exact hinv.postStep step
  | publish _ job outcome now considerate =>
      exact hinv.publish (Job.acceptable_publication job outcome now) considerate

end Invariant

/-- No thread is in `handle`; the store may hold anything. -/
def Initial (system : System Thread) : Prop := ∀ thread, system.posts thread = none

/-- The invariant holds in every considerate run. -/
theorem invariant_of_reachable
    (reachable : Transition.Reachable Initial (ConsiderateStep api) system) :
    Invariant api system := by
  apply reachable.induction
  · intro start idle thread post busy
    rw [idle thread] at busy
    cases busy
  · exact fun _ _ _ hinv step => hinv.considerateStep step

/-- Only the filing of an admitted POST adds an id. -/
theorem adds_cases (step : PostStep api system next) {id : Bytes}
    (absent : system.store.find id = none) (present : (next.store.find id).isSome = true) :
    ∃ thread post existed, system.posts thread = some post ∧ post.phase = .admitted existed ∧
      post.state.id = id ∧ next.store = (system.store.upsert post.state).2 := by
  have unchanged (same : next.store = system.store) : False := by
    rw [same, absent] at present
    cases present
  cases step with
  | file thread post busy existed admitted updated =>
      refine ⟨thread, post, existed, busy, admitted, ?_, rfl⟩
      by_contra different
      rw [StateStore.find_upsert_ne (Ne.symm different), absent] at present
      cases present
  | arrive | lock | look | refuse | grant | fail | respond | leave =>
      exact absurd rfl unchanged

/-- With the room of the POSTs left alone, an added id finds room. -/
theorem Invariant.room_of_adds (hinv : Invariant api system) (step : PostStep api system next)
    {id : Bytes} (absent : system.store.find id = none)
    (present : (next.store.find id).isSome = true) :
    system.store.size < api.limits.maximumStates ∧
      next.store.size ≤ api.limits.maximumStates := by
  obtain ⟨thread, post, existed, busy, admitted, rfl, store⟩ := adds_cases step absent present
  have fits := hinv thread post busy
  have room : system.store.size < api.limits.maximumStates := by
    cases existed with
    | false => exact fits.room admitted absent
    | true =>
        have stored := fits.existed (Or.inr admitted)
        rw [absent] at stored
        cases stored
  refine ⟨?_, ?_⟩
  · exact room
  · rw [store]
    exact Nat.le_trans StateStore.size_upsert_le room

/-- A step of a POST that adds no id leaves the number of states as it is. -/
theorem Invariant.size_postStep (hinv : Invariant api system) (step : PostStep api system next) :
    next.store.size ≤ max system.store.size api.limits.maximumStates := by
  cases step with
  | file thread post busy existed admitted updated =>
      by_cases absent : system.store.find post.state.id = none
      · have step : PostStep api system _ := .file system thread post busy existed admitted updated
        have acceptable : post.state.Acceptable := by
          rwa [StateStore.upsert_fst, decide_eq_true_iff] at updated
        have present : ((system.store.upsert post.state).2.find post.state.id).isSome = true := by
          rw [StateStore.find_upsert_self acceptable, Option.isSome_some]
        exact le_max_of_le_right (hinv.room_of_adds step absent present).2
      · have stored := StateStore.find_isSome_iff.mp (Option.isSome_iff_ne_none.mpr absent)
        exact le_max_of_le_left (StateStore.size_upsert_of_mem stored).le
  | arrive | lock | look | refuse | grant | fail | respond | leave => exact le_max_left _ _

/-- POSTs alone never bring the store above the limit. -/
theorem size_of_posts {start : System Thread} (initial : Initial start)
    (run : Relation.ReflTransGen (PostStep api) start system) :
    system.store.size ≤ max start.store.size api.limits.maximumStates := by
  induction run with
  | refl => exact le_max_left _ _
  | tail earlier step ih =>
      have considerate := Relation.ReflTransGen.mono
        (fun _ _ step => ConsiderateStep.post step) _ _ earlier
      have hinv := invariant_of_reachable ⟨start, initial, considerate⟩
      exact (hinv.size_postStep step).trans (max_le ih (le_max_right _ _))

/-- In every run whose publications leave the POSTs their room, no POST adds an id
to a full store; and POSTs alone never bring the store above the limit. -/
theorem capacity_limit (api : StatusApi) :
    (∀ (system next : System Thread) (id : Bytes),
      Transition.Reachable Initial (ConsiderateStep api) system → PostStep api system next →
        system.store.find id = none → (next.store.find id).isSome = true →
          system.store.size < api.limits.maximumStates ∧
            next.store.size ≤ api.limits.maximumStates) ∧
    ∀ start system : System Thread, Initial start →
      Relation.ReflTransGen (PostStep api) start system →
        system.store.size ≤ max start.store.size api.limits.maximumStates := by
  refine ⟨?_, ?_⟩
  · intro system next id reachable step absent present
    exact (invariant_of_reachable reachable).room_of_adds step absent present
  · exact fun start system initial run => size_of_posts initial run

/-! ## What an inconsiderate publication leads to -/

omit [DecidableEq Thread] in
/-- Once a publication has taken its room, a POST files into the full store. -/
theorem overfull_of_inconsiderate {state : MonitorState} (acceptable : state.Acceptable)
    (taken : ¬ Considerate api system state) :
    ∃ thread post, AboutToInsert (system.publish state) thread post ∧
      (system.publish state).store.size ≥ api.limits.maximumStates := by
  rw [Considerate, not_or] at taken
  obtain ⟨absent, inserting⟩ := taken
  push Not at inserting
  obtain ⟨thread, post, about, different, full⟩ := inserting
  rw [Bool.not_eq_true, Option.isSome_eq_false_iff, Option.isNone_iff_eq_none] at absent
  refine ⟨thread, post, ⟨about.1, about.2.1, ?_⟩, ?_⟩
  · rw [System.publish, StateStore.find_upsert_ne different]
    exact about.2.2
  · exact full.trans (StateStore.size_upsert_of_absent acceptable absent).ge

/-! ## A run -/

/-- An API with room for one state. -/
def smallApi : StatusApi := { StatusApi.exampleApi with limits := { maximumStates := 1 } }

def buildState : MonitorState where
  id := bytes "build"
  status := bytes "ok"
  value := .integer 42

theorem asks_buildState : Asks smallApi StatusApi.examplePost 0 buildState :=
  ⟨by decide +kernel, by decide, .item (bytes "build"), by decide +kernel, by rfl⟩

def idleSystem : System Unit where
  store := .empty
  posts _ := none
  holder := none

def buildPost : Post := { state := buildState, now := 0 }

/-- The POST has found that its id is new and that there is room. -/
def admittedSystem : System Unit :=
  idleSystem.stage () buildPost (.admitted false) (some ()) .empty

theorem initial_idleSystem : Initial idleSystem := fun _ => rfl

/-- A POST comes to be admitted to a store with one place. -/
theorem runs_admittedSystem :
    Relation.ReflTransGen (PostStep smallApi) idleSystem admittedSystem := by
  have arrives : PostStep smallApi idleSystem (idleSystem.advance () buildPost .waiting) :=
    .arrive idleSystem () rfl StatusApi.examplePost 0 buildState asks_buildState
  have looked := @runs_to_looked _ _ smallApi (idleSystem.advance () buildPost .waiting) ()
    buildPost rfl rfl rfl
  have room : ¬ Full smallApi false idleSystem.store := by
    rintro ⟨_, full⟩
    exact absurd full (by decide)
  have admits := @admits_stage _ _ smallApi idleSystem () buildPost false room
  have same : (idleSystem.advance () buildPost .waiting).stage () buildPost (.looked false)
      (some ()) .empty = idleSystem.stage () buildPost (.looked false) (some ()) .empty := by
    simp [System.stage, System.advance]
  exact ((Relation.ReflTransGen.single arrives).trans (same ▸ looked)).tail admits

/-- The POST files its state. -/
theorem files_buildState {system : System Unit}
    (busy : system.posts () = some { buildPost with phase := .admitted false }) :
    PostStep smallApi system
      { system.advance () { buildPost with phase := .admitted false } (.filed false) with
        store := (system.store.upsert buildState).2 } :=
  .file system () _ busy false rfl (by rw [StateStore.upsert_fst]; decide)

/-- Without a monitor the state finds room. -/
theorem capacity_limit_buildState :
    idleSystem.store.size < smallApi.limits.maximumStates := by
  have considerate := Relation.ReflTransGen.mono
    (fun _ _ step => ConsiderateStep.post step) _ _ runs_admittedSystem
  exact ((capacity_limit smallApi).1 admittedSystem _ (bytes "build")
    ⟨idleSystem, initial_idleSystem, considerate⟩
    (files_buildState (posts_stage (.admitted false) (some ()) .empty)) (by decide) (by decide)).1

/-- A monitor that has not published before. -/
def gatewayDefinition : MonitorDefinition := { id := bytes "gateway", interval := 1000 }

/-- The gateway's monitor is valid. -/
theorem gatewayDefinition_valid : gatewayDefinition.Valid .linux :=
  ⟨by decide, by decide, by simp [gatewayDefinition], by decide⟩

def gatewayJob : Job .linux Unit where
  definition := gatewayDefinition
  valid := gatewayDefinition_valid
  runner := ()
  nextDue := 0
  inFlight := false

/-- The store is full by the time the POST files its state. -/
theorem capacity_exceeded :
    ¬ ∀ (api : StatusApi) (system next : System Unit) (id : Bytes),
      Transition.Reachable Initial (Step api) system → PostStep api system next →
        system.store.find id = none → (next.store.find id).isSome = true →
          system.store.size < api.limits.maximumStates := by
  intro always
  have run := Relation.ReflTransGen.mono (fun _ _ step => Step.post step) _ _ runs_admittedSystem
  have published := Transition.Reachable.tail ⟨idleSystem, initial_idleSystem, run⟩
    (Step.publish admittedSystem gatewayJob (.threw none) 0)
  have room := always smallApi _ _ (bytes "build") published
    (files_buildState rfl) (by decide) (by decide)
  exact absurd room (by decide)

end StatusApiCapacity

end PixelStatus
