/-
# What a stored state says about its history

The store keeps one entry per id. This module says which summary of the whole
update sequence that entry is: the last accepted update of the id together with
the date of the first update of its trailing run, where a run is broken by a
change of status or by an expiry between two updates. The law speaks of the
instant at which a TTL is meant to end; the store obeys it as long as this
instant is one of the clock's count, and an update for which it is not is
answered wrongly as soon as it is filed.
-/

import PixelStatus.Core.State
import PixelStatus.Logic.TrailingRun

namespace PixelStatus

open TrailingRun

/-- A later update continues an earlier one when it reports the same status
strictly before the earlier one expires. -/
def MonitorState.ContinuedBy (earlier later : MonitorState) : Prop :=
  later.status = earlier.status ∧
    ∀ ttl ∈ earlier.ttl, later.updatedAt < earlier.expiry ttl

/-- An update has expired at `now` when it has a TTL and `now` has reached its end. -/
def MonitorState.ExpiredAt (state : MonitorState) (now : TimePoint) : Prop :=
  ∃ ttl ∈ state.ttl, now ≥ state.expiry ttl

/-- The expiry of a timely update is the one that the store tests. -/
theorem MonitorState.Timely.expiredAt_iff {state : MonitorState} (timely : state.Timely)
    {now : TimePoint} : state.expiredAt now = true ↔ state.ExpiredAt now := by
  rw [MonitorState.expiredAt_iff]
  unfold MonitorState.ExpiredAt
  refine exists_congr fun ttl => and_congr_right fun httl => ?_
  rw [timely.expiresAt_eq httl]

/-- The two conditions as `upsert` tests them. -/
theorem MonitorState.Timely.continuedBy_iff {earlier later : MonitorState}
    (timely : earlier.Timely) : earlier.ContinuedBy later ↔
      later.status = earlier.status ∧ earlier.expiredAt later.updatedAt = false := by
  unfold MonitorState.ContinuedBy
  rw [← Bool.not_eq_true, timely.expiredAt_iff]
  unfold MonitorState.ExpiredAt
  simp only [not_exists, not_and, not_le, ge_iff_le]

/-- The accepted updates of one id, oldest first. -/
def acceptedUpdates (id : Bytes) (history : List MonitorState) : List MonitorState :=
  history.filter fun state => decide state.Acceptable && decide (state.id = id)

/-- The accepted updates of two histories in a row. -/
theorem acceptedUpdates_append (id : Bytes) (earlier later : List MonitorState) :
    acceptedUpdates id (earlier ++ later) =
      acceptedUpdates id earlier ++ acceptedUpdates id later :=
  List.filter_append ..

theorem acceptedUpdates_singleton {id : Bytes} {state : MonitorState} :
    acceptedUpdates id [state] = if state.Acceptable ∧ state.id = id then [state] else [] := by
  unfold acceptedUpdates
  by_cases h : state.Acceptable ∧ state.id = id
  · simp [h]
  · rw [if_neg h]
    simpa using h

/-- The accepted updates of an id are those of the history. -/
theorem mem_acceptedUpdates {id : Bytes} {history : List MonitorState} {state : MonitorState} :
    state ∈ acceptedUpdates id history ↔
      state ∈ history ∧ state.Acceptable ∧ state.id = id := by
  simp [acceptedUpdates]

/-- A history in which every accepted update is timely. -/
def AllTimely (history : List MonitorState) : Prop :=
  ∀ state ∈ history, state.Acceptable → state.Timely

/-- The accepted updates of a timely history are timely. -/
theorem AllTimely.accepted {history : List MonitorState} (timely : AllTimely history)
    (id : Bytes) : ∀ state ∈ acceptedUpdates id history, state.Timely := by
  intro state member
  obtain ⟨reported, acceptable, -⟩ := mem_acceptedUpdates.mp member
  exact timely state reported acceptable

namespace StateStore

/-- The store after a sequence of upserts. -/
def replay (history : List MonitorState) : StateStore :=
  history.foldl (fun store state => (store.upsert state).2) empty

/-- The last update of a history is written last. -/
theorem replay_snoc (history : List MonitorState) (state : MonitorState) :
    replay (history ++ [state]) = ((replay history).upsert state).2 := by
  simp [replay]

/-- What an entry records of the accepted updates of its id. -/
def Summarizes (updates : List MonitorState) : Option Entry → Prop
  | none => updates = []
  | some entry => updates.getLast? = some entry.state ∧
      ∃ run first, IsTrailingRun MonitorState.ContinuedBy updates run ∧
        run.head? = some first ∧ entry.statusEnteredAt = first.updatedAt

/-- The stored instant is inherited exactly by a continuing update. -/
theorem enteredAt_some {existing : Entry} (timely : existing.state.Timely)
    (state : MonitorState) :
    (existing.state.ContinuedBy state ∧
        enteredAt (some existing) state = existing.statusEnteredAt) ∨
      (¬ existing.state.ContinuedBy state ∧
        enteredAt (some existing) state = state.updatedAt) := by
  unfold enteredAt
  rw [timely.continuedBy_iff]
  by_cases hstatus : existing.state.status = state.status
  · cases hstale : existing.state.expiredAt state.updatedAt with
    | true => simp [hstatus, hstale]
    | false => simp [hstatus, hstale]
  · simp [hstatus, Ne.symm hstatus]

/-- Accepting one more update of the id keeps the summary. -/
theorem Summarizes.accept {updates : List MonitorState} {existing : Option Entry}
    (summary : Summarizes updates existing) (timely : ∀ update ∈ updates, update.Timely)
    (state : MonitorState) :
    Summarizes (updates ++ [state])
      (some { state, statusEnteredAt := enteredAt existing state }) := by
  refine ⟨List.getLast?_concat, ?_⟩
  cases existing with
  | none =>
      obtain rfl : updates = [] := summary
      exact ⟨[state], state, IsTrailingRun.singleton state, rfl, rfl⟩
  | some existing =>
      obtain ⟨hlast, run, first, hrun, hfirst, hentered⟩ := summary
      have last := timely _ (List.mem_of_getLast? hlast)
      rcases enteredAt_some last state with ⟨hcontinues, hsame⟩ | ⟨hbreak, hnew⟩
      · refine ⟨run ++ [state], first, hrun.snoc_of_continues hlast hcontinues, ?_, ?_⟩
        · rw [List.head?_append, hfirst, Option.some_or]
        · exact hsame.trans hentered
      · exact ⟨[state], state, IsTrailingRun.snoc_of_not_continues hlast hbreak, rfl, hnew⟩

/-- The entry that the accepted updates of an id leave. -/
def entryOf (updates : List MonitorState) : Option Entry :=
  updates.foldl
    (fun existing state => some { state, statusEnteredAt := enteredAt existing state }) none

/-- One more update makes the entry anew. -/
theorem entryOf_snoc (updates : List MonitorState) (state : MonitorState) :
    entryOf (updates ++ [state]) =
      some { state, statusEnteredAt := enteredAt (entryOf updates) state } := by
  simp [entryOf]

/-- After any history, the entry of an id is what its accepted updates leave. -/
theorem lookup_replay (history : List MonitorState) (id : Bytes) :
    (replay history).states.lookup id = entryOf (acceptedUpdates id history) := by
  induction history using List.reverseRecOn with
  | nil => exact rfl
  | append_singleton history state ih =>
      rw [replay_snoc, acceptedUpdates_append, acceptedUpdates_singleton]
      by_cases hacceptable : state.Acceptable
      · rw [upsert_of_acceptable hacceptable]
        by_cases hid : state.id = id
        · subst hid
          rw [if_pos ⟨hacceptable, rfl⟩, lookup_accept_self, entryOf_snoc, ih]
        · rw [if_neg fun h => hid h.2, List.append_nil,
            lookup_accept_ne hacceptable (Ne.symm hid), ih]
      · rw [upsert_of_not_acceptable hacceptable, if_neg fun h => hacceptable h.1,
          List.append_nil, ih]

/-- The entry that timely updates leave summarizes them. -/
theorem summarizes_entryOf {updates : List MonitorState}
    (timely : ∀ update ∈ updates, update.Timely) : Summarizes updates (entryOf updates) := by
  induction updates using List.reverseRecOn with
  | nil => exact rfl
  | append_singleton updates state ih =>
      have earlier : ∀ update ∈ updates, update.Timely :=
        fun update member => timely update (List.mem_append_left _ member)
      rw [entryOf_snoc]
      exact (ih earlier).accept earlier state

/-! ## What a query answers -/

/-- The answer to a query, from the accepted updates of the id alone. -/
structure Answers (updates : List MonitorState) (now : TimePoint)
    (resolved : ResolvedState) : Prop where
  last : updates.getLast? = some resolved.state
  expired_iff : resolved.freshnessExpired = true ↔ resolved.state.ExpiredAt now
  status_expired : resolved.state.ExpiredAt now → resolved.effectiveStatus = staleStatus
  status_fresh : ¬ resolved.state.ExpiredAt now →
    resolved.effectiveStatus = resolved.state.status
  entered_expired : ∀ ttl ∈ resolved.state.ttl, now ≥ resolved.state.expiry ttl →
    resolved.statusEnteredAt = resolved.state.expiry ttl
  entered_fresh : ¬ resolved.state.ExpiredAt now →
    ∃ run first, IsTrailingRun MonitorState.ContinuedBy updates run ∧
      run.head? = some first ∧ resolved.statusEnteredAt = first.updatedAt

/-- The law leaves one answer: two queries of equal histories agree. -/
theorem Answers.unique {updates : List MonitorState} {now : TimePoint}
    {first second : ResolvedState} (hfirst : Answers updates now first)
    (hsecond : Answers updates now second) : first = second := by
  have hstate : first.state = second.state :=
    Option.some.inj (hfirst.last.symm.trans hsecond.last)
  obtain ⟨state, firstStatus, firstEntered, firstExpired⟩ := first
  obtain ⟨state', secondStatus, secondEntered, secondExpired⟩ := second
  obtain rfl : state = state' := hstate
  have hexpired : firstExpired = secondExpired :=
    Bool.eq_iff_iff.mpr (hfirst.expired_iff.trans hsecond.expired_iff.symm)
  by_cases hstale : state.ExpiredAt now
  · have hstatus := (hfirst.status_expired hstale).trans (hsecond.status_expired hstale).symm
    obtain ⟨ttl, httl, hnow⟩ := hstale
    have hentered := (hfirst.entered_expired ttl httl hnow).trans
      (hsecond.entered_expired ttl httl hnow).symm
    exact ResolvedState.mk.injEq .. ▸ ⟨rfl, hstatus, hentered, hexpired⟩
  · have hstatus := (hfirst.status_fresh hstale).trans (hsecond.status_fresh hstale).symm
    obtain ⟨run, head, hrun, hhead, hentered⟩ := hfirst.entered_fresh hstale
    obtain ⟨run', head', hrun', hhead', hentered'⟩ := hsecond.entered_fresh hstale
    obtain rfl := hrun.unique hrun'
    obtain rfl : head = head' := Option.some.inj (hhead.symm.trans hhead')
    exact ResolvedState.mk.injEq .. ▸ ⟨rfl, hstatus, hentered.trans hentered'.symm, hexpired⟩

/-- An expired state is stale from its expiry on. -/
theorem resolveEntry_of_expired {state : MonitorState} {ttl : Duration} {now : TimePoint}
    (httl : state.ttl = some ttl) (hnow : now ≥ state.expiresAt ttl)
    (enteredAt : TimePoint) :
    resolveEntry state enteredAt now =
      { state, effectiveStatus := staleStatus, statusEnteredAt := state.expiresAt ttl,
        freshnessExpired := true } := by
  unfold resolveEntry
  rw [httl]
  exact if_pos hnow

/-- A fresh state has its own status. -/
theorem resolveEntry_of_fresh {state : MonitorState} {now : TimePoint}
    (hfresh : state.expiredAt now = false) (enteredAt : TimePoint) :
    resolveEntry state enteredAt now =
      { state, effectiveStatus := state.status, statusEnteredAt := enteredAt,
        freshnessExpired := false } := by
  unfold resolveEntry
  split
  · rfl
  · rename_i ttl httl
    rw [← Bool.not_eq_true, MonitorState.expiredAt_iff] at hfresh
    exact if_neg fun hnow => hfresh ⟨ttl, httl, hnow⟩

/-- An entry that sums the updates up answers as they do. -/
theorem answers_resolveEntry {updates : List MonitorState} {entry : Entry}
    (summary : Summarizes updates (some entry)) (timely : ∀ update ∈ updates, update.Timely)
    (now : TimePoint) :
    Answers updates now (resolveEntry entry.state entry.statusEnteredAt now) := by
  obtain ⟨hlast, hrun⟩ := summary
  have last := timely _ (List.mem_of_getLast? hlast)
  by_cases hexpired : entry.state.ExpiredAt now
  · obtain ⟨ttl, httl, hnow⟩ := hexpired
    have reached : now ≥ entry.state.expiresAt ttl := (last.expiresAt_eq httl).symm ▸ hnow
    rw [resolveEntry_of_expired httl reached, last.expiresAt_eq httl]
    refine ⟨hlast, ⟨fun _ => ⟨ttl, httl, hnow⟩, fun _ => rfl⟩, fun _ => rfl,
      fun hfresh => absurd ⟨ttl, httl, hnow⟩ hfresh, ?_,
      fun hfresh => absurd ⟨ttl, httl, hnow⟩ hfresh⟩
    intro ttl' httl' _
    obtain rfl : ttl = ttl' := Option.some.inj (httl.symm.trans httl')
    rfl
  · have fresh : entry.state.expiredAt now = false :=
      Bool.not_eq_true _ ▸ fun expired => hexpired (last.expiredAt_iff.mp expired)
    rw [resolveEntry_of_fresh fresh]
    refine ⟨hlast, ⟨fun h => absurd h (by simp), fun h => absurd h hexpired⟩,
      fun h => absurd h hexpired, fun _ => rfl,
      fun ttl httl hnow => absurd ⟨ttl, httl, hnow⟩ hexpired, fun _ => hrun⟩

/-- A query finds nothing exactly when no update of the id was accepted, and
otherwise answers for those updates. -/
def Answered (updates : List MonitorState) (now : TimePoint) : Option ResolvedState → Prop
  | none => updates = []
  | some resolved => Answers updates now resolved

/-- A query is answered by the updates alone. -/
theorem answered_resolve {history : List MonitorState} {id : Bytes}
    (timely : ∀ update ∈ acceptedUpdates id history, update.Timely) (now : TimePoint) :
    Answered (acceptedUpdates id history) now ((replay history).resolve id now) := by
  have hsummary := summarizes_entryOf timely
  rw [resolve, lookup_replay]
  cases hentry : entryOf (acceptedUpdates id history) with
  | none =>
      rw [hentry] at hsummary
      exact hsummary
  | some entry =>
      rw [hentry] at hsummary
      exact answers_resolveEntry hsummary timely now

/-- With dates that never decrease, every update of a run is dated no later
than the run's last one. -/
theorem Answers.entered_le {updates : List MonitorState} {now : TimePoint}
    {resolved : ResolvedState} (answers : Answers updates now resolved)
    (ordered : (updates.map MonitorState.updatedAt).Pairwise (· ≤ ·))
    (hfresh : ¬ resolved.state.ExpiredAt now) :
    resolved.statusEnteredAt ≤ resolved.state.updatedAt := by
  obtain ⟨run, first, hrun, hfirst, hentered⟩ := answers.entered_fresh hfresh
  have hnonempty : updates ≠ [] := by
    rintro rfl
    simpa using answers.last
  have hlast : run.getLast? = some resolved.state :=
    (hrun.getLast?_eq hnonempty).trans answers.last
  have hsorted : run.Pairwise fun earlier later => earlier.updatedAt ≤ later.updatedAt :=
    (List.pairwise_map.mp ordered).sublist hrun.suffix.sublist
  rw [hentered]
  cases run with
  | nil => simp at hfirst
  | cons head rest =>
      obtain rfl : head = first := by simpa using hfirst
      rcases List.mem_cons.mp (List.mem_of_getLast? hlast) with hhead | hrest
      · rw [hhead]
      · exact (List.pairwise_cons.mp hsorted).1 _ hrest

/-- What a store owes to the history it comes from. A query answers for the
accepted updates of its id alone, and no others decide it; a rejected upsert
leaves the store as it was; a snapshot lists every stored id once, in ascending
order, with what a query for it answers; and with dates that never decrease an
unexpired entry was entered no later than it was updated, and that no later
than now. -/
structure Law (history : List MonitorState) (now : TimePoint) : Prop where
  answered : ∀ id, Answered (acceptedUpdates id history) now ((replay history).resolve id now)
  own : ∀ id other, acceptedUpdates id other = acceptedUpdates id history →
    (replay other).resolve id now = (replay history).resolve id now
  rejected : ∀ state, ¬ state.Acceptable → replay (history ++ [state]) = replay history
  snapshot : ∀ resolved, resolved ∈ (replay history).snapshot now ↔
    ∃ id, (replay history).resolve id now = some resolved ∧ resolved.state.id = id
  ascending : (((replay history).snapshot now).map fun resolved =>
    resolved.state.id).Pairwise (· < ·)
  dated : ∀ id resolved, (replay history).resolve id now = some resolved →
    ((acceptedUpdates id history).map MonitorState.updatedAt).Pairwise (· ≤ ·) →
    resolved.state.updatedAt ≤ now → resolved.freshnessExpired = false →
    resolved.statusEnteredAt ≤ resolved.state.updatedAt ∧ resolved.state.updatedAt ≤ now

/-- A timely history obeys the law at any time. -/
theorem law_of_timely {history : List MonitorState} (timely : AllTimely history)
    (now : TimePoint) : Law history now where
  answered id := answered_resolve (timely.accepted id) now
  own id other same := by rw [resolve, resolve, lookup_replay, lookup_replay, same]
  rejected state refused := by rw [replay_snoc, upsert_of_not_acceptable refused]
  snapshot resolved := by
    rw [mem_snapshot]
    refine exists_congr fun id => ⟨fun hresolve => ⟨hresolve, ?_⟩, And.left⟩
    obtain ⟨entry, hentry, rfl⟩ := Option.map_eq_some_iff.mp hresolve
    rw [resolveEntry_state, ((replay history).filed id entry hentry).1]
  ascending := snapshot_ids_ascending now
  dated id resolved hresolve hordered hnow hfresh := by
    have hanswers := answered_resolve (timely.accepted id) now
    rw [hresolve] at hanswers
    refine ⟨Answers.entered_le hanswers hordered fun hexpired => ?_, hnow⟩
    rw [(Answers.expired_iff hanswers).mpr hexpired] at hfresh
    exact absurd hfresh (by simp)

/-- A last update whose TTL ends outside the clock's count is answered wrongly at
the instant that the store takes for its end. -/
theorem not_law_of_untimely {earlier : List MonitorState} {state : MonitorState}
    (acceptable : state.Acceptable) {ttl : Duration} (httl : ttl ∈ state.ttl)
    (outside : ¬ FitsCount (state.expiry ttl)) :
    ¬ Law (earlier ++ [state]) (state.expiresAt ttl) := by
  intro law
  have accepted : acceptedUpdates state.id (earlier ++ [state]) =
      acceptedUpdates state.id earlier ++ [state] := by
    rw [acceptedUpdates_append, acceptedUpdates_singleton, if_pos ⟨acceptable, rfl⟩]
  have answered := law.answered state.id
  rw [resolve, lookup_replay, accepted, entryOf_snoc, Option.map_some,
    resolveEntry_of_expired httl (le_refl (state.expiresAt ttl))] at answered
  have answers : Answers _ _ _ := answered
  -- Stale at this instant, the update has to be so by the law and from its real end on.
  obtain ⟨other, hother, reached⟩ := answers.expired_iff.mp rfl
  obtain rfl : ttl = other := Option.some.inj (httl.symm.trans hother)
  have entered := answers.entered_expired ttl httl reached
  rw [MonitorState.expiresAt_eq] at entered
  exact outside ((SignedWord.wrap_eq_self_iff (Nat.two_pow_pos 63)).mp entered)

/-- The history law. At every moment of a history and every instant of the clock
the store obeys its law, if and only if every accepted update's TTL ends at an
instant of the clock. -/
theorem history_law (history : List MonitorState) :
    (∀ earlier, earlier <+: history → ∀ now, FitsCount now → Law earlier now) ↔
      AllTimely history := by
  refine ⟨?_, ?_⟩
  · intro law state member acceptable ttl httl
    by_contra outside
    obtain ⟨earlier, later, rfl⟩ := List.append_of_mem member
    have prefixed : earlier ++ [state] <+: earlier ++ state :: later :=
      ⟨later, (List.append_cons earlier state later).symm⟩
    have now : FitsCount (state.expiresAt ttl) := fitsCount_toCount _
    exact not_law_of_untimely acceptable httl outside (law _ prefixed _ now)
  · intro timely earlier before now _
    exact law_of_timely (fun state member => timely state (before.subset member)) now

/-- An update with a TTL of some 292 years, dated at the origin of the clock. -/
def longLived : MonitorState where
  id := bytes "build"
  status := bytes "ok"
  ttl := some 9223372036855

/-- It is accepted, and stale at the instant of its own date. -/
theorem history_law_longLived :
    longLived.Acceptable ∧
      ((replay [longLived]).resolve longLived.id 0).map ResolvedState.effectiveStatus =
        some staleStatus ∧
      ¬ Law [longLived] 0 := by
  have stale : ((replay [longLived]).resolve longLived.id 0).map ResolvedState.effectiveStatus =
      some staleStatus := by decide
  refine ⟨by decide, stale, ?_⟩
  intro law
  obtain ⟨resolved, found, effective⟩ := Option.map_eq_some_iff.mp stale
  have answered := law.answered longLived.id
  rw [found] at answered
  have answers : Answers (acceptedUpdates longLived.id [longLived]) 0 resolved := answered
  have last : resolved.state = longLived := by
    have only : acceptedUpdates longLived.id [longLived] = [longLived] := by decide
    have same := answers.last
    rw [only] at same
    exact (Option.some.inj same).symm
  have fresh : ¬ resolved.state.ExpiredAt 0 := by
    rw [last]
    rintro ⟨ttl, httl, reached⟩
    obtain rfl : 9223372036855 = ttl := Option.some.inj httl
    exact absurd reached (by decide)
  rw [answers.status_fresh fresh, last] at effective
  exact absurd effective (by decide)

end StateStore

end PixelStatus
