/-
# The state store

The store maps a source id to its last accepted update and to the instant at
which that update's reported status was entered. Its structure carries what
`upsert` guarantees of every entry, so no later proof has to re-derive it.
-/

import PixelStatus.Core.Basic
import Mathlib.Data.List.Sort

namespace PixelStatus

/-- The instant from which an update no longer counts as fresh, in the clock's
count: neither the TTL in nanoseconds nor the sum is checked to fit in it. -/
def MonitorState.expiresAt (state : MonitorState) (ttl : Duration) : TimePoint :=
  toCount (state.updatedAt + toCount (nanoseconds ttl))

/-- The end of an update's TTL, as it is meant. -/
def MonitorState.expiry (state : MonitorState) (ttl : Duration) : Int :=
  state.updatedAt + nanoseconds ttl

/-- An update whose TTL, if it has one, ends at an instant of the clock's count. -/
def MonitorState.Timely (state : MonitorState) : Prop :=
  ∀ ttl ∈ state.ttl, FitsCount (state.expiry ttl)

instance (state : MonitorState) : Decidable state.Timely :=
  inferInstanceAs (Decidable (∀ ttl ∈ state.ttl, FitsCount (state.expiry ttl)))

/-- However the parts of the sum are wrapped, the whole sum is. -/
theorem MonitorState.expiresAt_eq (state : MonitorState) (ttl : Duration) :
    state.expiresAt ttl = toCount (state.expiry ttl) := SignedWord.wrap_add_wrap

/-- The stored expiry of a timely state is its exact one. -/
theorem MonitorState.Timely.expiresAt_eq {state : MonitorState} (timely : state.Timely)
    {ttl : Duration} (httl : ttl ∈ state.ttl) : state.expiresAt ttl = state.expiry ttl := by
  rw [MonitorState.expiresAt_eq]
  exact SignedWord.wrap_of_fits (timely ttl httl)

/-- Whether an update has a TTL whose end `now` has reached. -/
def MonitorState.expiredAt (state : MonitorState) (now : TimePoint) : Bool :=
  match state.ttl with
  | none => false
  | some ttl => now ≥ state.expiresAt ttl

/-- A state has expired once the clock has come to its stored expiry. -/
theorem MonitorState.expiredAt_iff {state : MonitorState} {now : TimePoint} :
    state.expiredAt now = true ↔ ∃ ttl ∈ state.ttl, now ≥ state.expiresAt ttl := by
  unfold MonitorState.expiredAt
  cases state.ttl with
  | none => simp
  | some ttl => simp

/-- What `upsert` asks of an update before it touches the store. -/
def MonitorState.Acceptable (state : MonitorState) : Prop :=
  state.id ≠ [] ∧ state.status ≠ [] ∧ ∀ ttl ∈ state.ttl, 0 ≤ ttl

instance (state : MonitorState) : Decidable state.Acceptable :=
  inferInstanceAs (Decidable (_ ∧ _ ∧ ∀ ttl ∈ state.ttl, 0 ≤ ttl))

structure Entry where
  state : MonitorState
  statusEnteredAt : TimePoint := 0
  deriving DecidableEq

/-- The stored entries, each filed under the id of an acceptable update. -/
structure StateStore where
  states : UnorderedMap Bytes Entry
  filed : ∀ id, ∀ entry ∈ states.lookup id, entry.state.id = id ∧ entry.state.Acceptable

def staleStatus : Bytes := bytes "stale"

/-- What a stored entry says at a moment. -/
def resolveEntry (state : MonitorState) (enteredAt now : TimePoint) : ResolvedState :=
  let resolved : ResolvedState :=
    { state, effectiveStatus := state.status, statusEnteredAt := enteredAt,
      freshnessExpired := false }
  match state.ttl with
  | none => resolved
  | some ttl =>
      if now ≥ state.expiresAt ttl then
        { resolved with
          effectiveStatus := staleStatus
          statusEnteredAt := state.expiresAt ttl
          freshnessExpired := true }
      else resolved

/-- A state is resolved to its own status until it expires. -/
theorem resolveEntry_effectiveStatus (state : MonitorState) (enteredAt now : TimePoint) :
    (resolveEntry state enteredAt now).effectiveStatus =
      if state.expiredAt now then staleStatus else state.status := by
  unfold resolveEntry MonitorState.expiredAt
  dsimp only
  split
  · rfl
  · rw [apply_ite ResolvedState.effectiveStatus]
    simp only [decide_eq_true_eq]

namespace StateStore

def empty : StateStore where
  states := ∅
  filed := by
    intro id entry hentry
    simp at hentry

/-- The instant an accepted update enters its status: its own date, or the
stored one while the same status has been reported without expiring. -/
def enteredAt (existing : Option Entry) (state : MonitorState) : TimePoint :=
  match existing with
  | none => state.updatedAt
  | some existing =>
      if existing.state.status = state.status then
        let wasStale := existing.state.expiredAt state.updatedAt
        if wasStale then state.updatedAt else existing.statusEnteredAt
      else state.updatedAt

/-- File an acceptable update under its id. -/
def accept (store : StateStore) (state : MonitorState) (acceptable : state.Acceptable) :
    StateStore where
  states := store.states.insert state.id
    { state, statusEnteredAt := enteredAt (store.states.lookup state.id) state }
  filed := by
    intro id entry hentry
    by_cases hid : id = state.id
    · subst hid
      rw [AList.lookup_insert] at hentry
      obtain rfl := Option.mem_some_iff.mp hentry
      exact ⟨rfl, acceptable⟩
    · rw [AList.lookup_insert_ne hid] at hentry
      exact store.filed id entry hentry

/-- `StateStore::upsert`. -/
def upsert (store : StateStore) (state : MonitorState) : Bool × StateStore :=
  if acceptable : state.Acceptable then (true, store.accept state acceptable)
  else (false, store)

/-- `StateStore::find`. -/
def find (store : StateStore) (id : Bytes) : Option MonitorState :=
  (store.states.lookup id).map Entry.state

/-- `StateStore::resolve`. -/
def resolve (store : StateStore) (id : Bytes) (now : TimePoint) : Option ResolvedState :=
  (store.states.lookup id).map fun entry =>
    resolveEntry entry.state entry.statusEnteredAt now

/-- The order in which `snapshot` sorts: bytewise by id. -/
def idOrder (left right : ResolvedState) : Prop := left.state.id ≤ right.state.id

instance : DecidableRel idOrder :=
  fun left right => inferInstanceAs (Decidable (left.state.id ≤ right.state.id))

/-- `StateStore::snapshot`. -/
def snapshot (store : StateStore) (now : TimePoint) : List ResolvedState :=
  (store.states.entries.map fun item =>
    resolveEntry item.2.state item.2.statusEnteredAt now).insertionSort idOrder

def size (store : StateStore) : Nat := store.states.entries.length

/-! ## What one upsert does -/

variable {store : StateStore} {state : MonitorState}

/-- An acceptable state is filed. -/
theorem upsert_of_acceptable (acceptable : state.Acceptable) :
    store.upsert state = (true, store.accept state acceptable) := dif_pos acceptable

/-- A rejected update leaves the store as it was. -/
theorem upsert_of_not_acceptable (rejected : ¬ state.Acceptable) :
    store.upsert state = (false, store) := dif_neg rejected

/-- The store takes exactly the acceptable states. -/
theorem upsert_fst : (store.upsert state).1 = decide state.Acceptable := by
  by_cases h : state.Acceptable
  · simp [upsert_of_acceptable h, h]
  · simp [upsert_of_not_acceptable h, h]

/-- The entry of an accepted state is found under its id. -/
@[simp]
theorem lookup_accept_self (acceptable : state.Acceptable) :
    (store.accept state acceptable).states.lookup state.id =
      some { state, statusEnteredAt := enteredAt (store.states.lookup state.id) state } :=
  AList.lookup_insert store.states

/-- Accepting an update changes no other id. -/
theorem lookup_accept_ne (acceptable : state.Acceptable) {id : Bytes}
    (hid : id ≠ state.id) :
    (store.accept state acceptable).states.lookup id = store.states.lookup id :=
  AList.lookup_insert_ne hid

/-- Whatever the update, an upsert changes at most the entry under its id. -/
theorem lookup_upsert_ne {id : Bytes} (hid : id ≠ state.id) :
    (store.upsert state).2.states.lookup id = store.states.lookup id := by
  by_cases h : state.Acceptable
  · rw [upsert_of_acceptable h]
    exact lookup_accept_ne h hid
  · rw [upsert_of_not_acceptable h]

/-! ## The snapshot -/

/-- The reported state is the stored one. -/
theorem resolveEntry_state (state : MonitorState) (enteredAt now : TimePoint) :
    (resolveEntry state enteredAt now).state = state := by
  unfold resolveEntry
  split
  · rfl
  · split <;> rfl

instance : Std.Total idOrder := ⟨fun left right => List.le_total left.state.id right.state.id⟩

instance : IsTrans ResolvedState idOrder := ⟨fun _ _ _ => List.le_trans⟩

/-- A snapshot lists what resolves. -/
theorem mem_snapshot {now : TimePoint} {resolved : ResolvedState} :
    resolved ∈ store.snapshot now ↔ ∃ id, store.resolve id now = some resolved := by
  unfold snapshot resolve
  rw [(List.perm_insertionSort idOrder _).mem_iff, List.mem_map]
  refine ⟨?_, ?_⟩
  · rintro ⟨⟨id, entry⟩, hmem, rfl⟩
    exact ⟨id, by rw [AList.mem_lookup_iff.mpr hmem, Option.map_some]⟩
  · rintro ⟨id, hresolve⟩
    obtain ⟨entry, hentry, rfl⟩ := Option.map_eq_some_iff.mp hresolve
    exact ⟨⟨id, entry⟩, AList.mem_lookup_iff.mp hentry, rfl⟩

/-- The ids of a snapshot are the stored keys in some order. -/
theorem snapshot_ids_perm (now : TimePoint) :
    ((store.snapshot now).map fun resolved => resolved.state.id).Perm store.states.keys := by
  have hperm := (List.perm_insertionSort idOrder
    (store.states.entries.map fun item =>
      resolveEntry item.2.state item.2.statusEnteredAt now)).map
        fun resolved => resolved.state.id
  refine hperm.trans (List.Perm.of_eq ?_)
  rw [List.map_map]
  refine List.map_congr_left fun item hitem => ?_
  have hfiled := store.filed item.1 item.2 (AList.mem_lookup_iff.mpr hitem)
  rw [Function.comp_apply, resolveEntry_state, hfiled.1]

/-- A snapshot lists every stored id once, in ascending order. -/
theorem snapshot_ids_ascending (now : TimePoint) :
    ((store.snapshot now).map fun resolved => resolved.state.id).Pairwise (· < ·) := by
  have hsorted := List.pairwise_insertionSort idOrder
    (store.states.entries.map fun item =>
      resolveEntry item.2.state item.2.statusEnteredAt now)
  have hperm : ((store.snapshot now).map fun resolved => resolved.state.id).Perm
      store.states.keys := snapshot_ids_perm now
  have hnodup := hperm.nodup_iff.mpr store.states.keys_nodup
  rw [List.pairwise_map]
  refine (hsorted.and (List.pairwise_map.mp hnodup)).imp fun ⟨hle, hne⟩ => ?_
  exact Decidable.byContradiction fun hlt => hne (List.le_antisymm hle (List.not_lt.mp hlt))

end StateStore

end PixelStatus
