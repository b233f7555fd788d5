/-
# Connecting a socket

A connection is tried with the addresses of the resolver's list in their order,
each on a socket of its own, until one is connected or the deadline has passed.
The calls of the operating system are arguments. Beside its state the model
counts what the program does with sockets: a socket whose scope is left is
closed, unless it was moved into the result. A socket that is waited for is put
into a set, which on one platform has room for small numbers only.
-/

import PixelStatus.Host.NetworkRunners
import PixelStatus.Logic.Outcome

namespace PixelStatus.Host

open Outcome

/-- An address to connect to. -/
structure SocketAddress where
  family : Int
  data : Bytes
  deriving DecidableEq

/-- The calls on the clock and on sockets, which fail with an error code, and what
the platform makes of the codes. `select` tells whether the socket was ready
before the time ran out. -/
structure SocketCalls (σ : Type) where
  platform : Platform
  now : σ → TimePoint × σ
  socket : SocketAddress → σ → Except Int Nat × σ
  setNonblocking : Nat → σ → Except Int Unit × σ
  connect : Nat → SocketAddress → σ → Except Int Unit × σ
  select : Nat → Bool → Int → σ → Except Int Bool × σ
  socketError : Nat → σ → Int × σ
  close : Nat → σ → σ
  pending : Int → Bool
  interrupted : Int → Bool
  timedOut : Int → Bool

/-- `FD_SETSIZE`. -/
def fdSetSize : Nat := 1024

/-- `EMFILE`. -/
def tooManyFiles : Int := 24

/-- `FD_SET` is defined of the socket: Windows lists the sockets of a set, POSIX has
a bit for each number below the size. -/
def SocketCalls.FitsSet {σ : Type} (calls : SocketCalls σ) (handle : Nat) : Prop :=
  calls.platform = .windows ∨ handle < fdSetSize

instance {σ : Type} (calls : SocketCalls σ) (handle : Nat) : Decidable (calls.FitsSet handle) :=
  inferInstanceAs (Decidable (_ ∨ _))

/-- Why a run has no result: a loop did not end in so many rounds, or `FD_SET` was not
defined. -/
inductive Stuck
  | rounds
  | undefined

inductive WaitResult
  | ready
  | timeout
  | error (nativeError : Int)

/-- The state with the open sockets, the most there were at a time, and the
addresses of the list that were visited. -/
structure Sockets (σ : Type) where
  os : σ
  opened : List Nat := []
  peak : Nat := 0
  visited : List SocketAddress := []

variable {σ : Type} (calls : SocketCalls σ)

namespace Sockets

/-- The loop comes to an address. -/
def visit (sockets : Sockets σ) (address : SocketAddress) (os : σ) : Sockets σ :=
  { sockets with os, visited := sockets.visited ++ [address] }

/-- A socket was created and used. -/
def hold (sockets : Sockets σ) (handle : Nat) (os : σ) : Sockets σ :=
  { sockets with
    os
    opened := handle :: sockets.opened
    peak := max sockets.peak (sockets.opened.length + 1) }

/-- `~TcpSocket` of a valid socket. -/
def drop (sockets : Sockets σ) (handle : Nat) : Sockets σ :=
  { sockets with
    os := calls.close handle sockets.os
    opened := sockets.opened.erase handle }

end Sockets

/-- `select_socket`, which looks at the number once the socket is in the set. -/
def selectSocket (handle : Nat) (readable : Bool) (remaining : Int) (state : σ) :
    Except Int Bool × σ :=
  if calls.platform ≠ .windows ∧ fdSetSize ≤ handle then (.error tooManyFiles, state)
  else calls.select handle readable remaining state

/-- `wait_for_socket`, in at most so many rounds. -/
def waitForSocket (handle : Nat) (readable : Bool) (deadline : TimePoint) :
    Nat → σ → Except Stuck (WaitResult × σ)
  | 0, _ => .error .rounds
  | rounds + 1, state =>
      let (now, state) := calls.now state
      let remaining := (deadline - now).tdiv 1000
      if remaining ≤ 0 then .ok (.timeout, state)
      else if ¬ calls.FitsSet handle then .error .undefined
      else match selectSocket calls handle readable remaining state with
        | (.ok false, state) => .ok (.timeout, state)
        | (.ok true, state) =>
            let (code, state) := calls.socketError handle state
            if code ≠ 0 then .ok (.error code, state) else .ok (.ready, state)
        | (.error code, state) =>
            if calls.interrupted code then waitForSocket handle readable deadline rounds state
            else .ok (.error code, state)

/-- How the loop's body leaves the scope of a valid socket. -/
inductive Attempt
  | moved
  | failed (error : MonitorError) (nativeError : Int)
  | next (finalError : Int)

variable (rounds : Nat) (deadline : TimePoint)

/-- What the loop's body makes of a wait. -/
def WaitResult.attempt : WaitResult → Attempt
  | .ready => .moved
  | .timeout => .failed .timeout 0
  | .error code => .next code

/-- The loop's body behind the check of the socket. -/
def attempt (address : SocketAddress) (handle : Nat) (state : σ) : Except Stuck (Attempt × σ) :=
  match calls.setNonblocking handle state with
  | (.error code, state) => .ok (.next code, state)
  | (.ok (), state) =>
      match calls.connect handle address state with
      | (.ok (), state) => .ok (.moved, state)
      | (.error code, state) =>
          if !calls.pending code then .ok (.next code, state)
          else do
            let (waited, state) ← waitForSocket calls handle false deadline rounds state
            return (waited.attempt, state)

/-- What `connect_tcp` returns: an error with a code, or a connected socket. -/
abbrev Connected := Except (MonitorError × Int) Nat

/-- The loop over the addresses, with the last error. -/
def connectAddresses :
    List SocketAddress → Int → Sockets σ → Except Stuck (Connected × Sockets σ)
  | [], finalError, sockets =>
      if calls.timedOut finalError then .ok (.error (.timeout, finalError), sockets)
      else
        let (now, os) := calls.now sockets.os
        let error := if now ≥ deadline then MonitorError.timeout else .connection
        .ok (.error (error, finalError), { sockets with os })
  | address :: addresses, finalError, sockets =>
      let (now, os) := calls.now sockets.os
      if now ≥ deadline then .ok (.error (.timeout, finalError), { sockets with os })
      else match calls.socket address os with
        | (.error code, os) => connectAddresses addresses code (sockets.visit address os)
        | (.ok handle, os) => do
            let (ended, os) ← attempt calls rounds deadline address handle os
            let sockets := (sockets.visit address os).hold handle os
            match ended with
            | .moved => return (.ok handle, sockets)
            | .failed error code => return (.error (error, code), sockets.drop calls handle)
            | .next code => connectAddresses addresses code (sockets.drop calls handle)

/-- What the runtime and the resolver answer. -/
structure Resolution where
  runtimeError : Int := 0
  resolutionError : Int := 0
  addresses : List SocketAddress

def connectTcp (resolution : Resolution) (sockets : Sockets σ) :
    Except Stuck (Connected × Sockets σ) :=
  if resolution.runtimeError ≠ 0 then
    .ok (.error (.internal, resolution.runtimeError), sockets)
  else if resolution.resolutionError ≠ 0 ∨ resolution.addresses = [] then
    .ok (.error (.nameResolution, resolution.resolutionError), sockets)
  else connectAddresses calls rounds deadline resolution.addresses 0 sockets

/-- `TcpConnectMonitorRunner::run`, at whose end the connected socket is closed. -/
def tcpConnectRun (config : TcpConnectMonitorConfig) (resolution : Resolution)
    (sockets : Sockets σ) : Except Stuck (MonitorResult × Sockets σ) := do
  let (began, os) := calls.now sockets.os
  let (connected, sockets) ← connectTcp calls rounds (began + nanoseconds config.timeout)
    resolution { sockets with os }
  let (finished, os) := calls.now sockets.os
  let result := runTcpConnect config connected began finished
  let sockets := { sockets with os }
  match connected with
  | .error _ => return (result, sockets)
  | .ok handle => return (result, sockets.drop calls handle)

/-! ## Waiting ends -/

/-- The clock gets to the deadline: each reading before it lowers a bound, which no
other call raises. -/
structure Advances (deadline : TimePoint) (bound : σ → Nat) : Prop where
  now : ∀ state, (calls.now state).1 < deadline → bound (calls.now state).2 < bound state
  now_le : ∀ state, bound (calls.now state).2 ≤ bound state
  socket : ∀ address state, bound (calls.socket address state).2 ≤ bound state
  setNonblocking : ∀ handle state, bound (calls.setNonblocking handle state).2 ≤ bound state
  connect : ∀ handle address state, bound (calls.connect handle address state).2 ≤ bound state
  select : ∀ handle readable remaining state,
    bound (calls.select handle readable remaining state).2 ≤ bound state
  socketError : ∀ handle state, bound (calls.socketError handle state).2 ≤ bound state
  close : ∀ handle state, bound (calls.close handle state) ≤ bound state

variable {calls} {rounds} {deadline} {bound : σ → Nat}

/-- Time remains only before the deadline. -/
theorem lt_of_remaining {now : TimePoint} (remains : 0 < (deadline - now).tdiv 1000) :
    now < deadline := by
  apply Int.not_le.mp
  intro late
  have passed : (deadline - now).tdiv 1000 = -(now - deadline).tdiv 1000 := by
    rw [← Int.neg_tdiv, Int.neg_sub]
  have spent : 0 ≤ (now - deadline).tdiv 1000 := Int.tdiv_nonneg (by omega) (by omega)
  omega

/-- A socket that fits the set is selected. -/
theorem selectSocket_of_fitsSet {handle : Nat} (fits : calls.FitsSet handle) :
    selectSocket calls handle = calls.select handle := by
  funext readable remaining state
  have room : ¬ (calls.platform ≠ .windows ∧ fdSetSize ≤ handle) := by
    rintro ⟨posix, large⟩
    exact fits.elim posix (Nat.not_lt.mpr large)
  rw [selectSocket, if_neg room]

/-- Waiting goes wrong only over a socket that does not fit the set. -/
def Unfit (calls : SocketCalls σ) (handle : Nat) (stuck : Stuck) : Prop :=
  stuck = .undefined ∧ ¬ calls.FitsSet handle

/-- Waiting for a socket ends, at the latest at the deadline. -/
theorem waitForSocket_ends (advances : Advances calls deadline bound) (handle : Nat)
    (readable : Bool) {state : σ} (enough : bound state < rounds) :
    Ends (Unfit calls handle) (fun waited => bound waited.2 ≤ bound state)
      (waitForSocket calls handle readable deadline rounds state) := by
  induction rounds generalizing state with
  | zero => omega
  | succ rounds ih =>
      rw [waitForSocket]
      have read := advances.now_le state
      have lower := advances.now state
      generalize calls.now state = reading at read lower ⊢
      obtain ⟨now, reached⟩ := reading
      dsimp only at read lower ⊢
      split
      · exact Ends.ok read
      next early =>
        have before : now < deadline := lt_of_remaining (Int.not_le.mp early)
        split
        next unfit => exact Ends.error ⟨rfl, unfit⟩
        next fits =>
          rw [selectSocket_of_fitsSet (not_not.mp fits)]
          have selected := advances.select handle readable ((deadline - now).tdiv 1000) reached
          generalize calls.select handle readable ((deadline - now).tdiv 1000) reached = answer
            at selected ⊢
          obtain ⟨answer, later⟩ := answer
          dsimp only at selected
          cases answer with
          | ok ready =>
              cases ready with
              | false => exact Ends.ok (selected.trans read)
              | true =>
                  have checked := advances.socketError handle later
                  dsimp only
                  split <;> exact Ends.ok (checked.trans (selected.trans read))
          | error code =>
              dsimp only
              split
              · have sooner := lower before
                obtain ⟨fails, ends⟩ := @ih later (by omega)
                exact ⟨fails, fun waited ended => (ends waited ended).trans (selected.trans read)⟩
              · exact Ends.ok (selected.trans read)

/-- What one attempt leaves: no reading too much, and only a wait fails at once. -/
structure Attempted (bound : σ → Nat) (before : σ) (attempted : Attempt × σ) : Prop where
  spent : bound attempted.2 ≤ bound before
  timeout : ∀ error code, attempted.1 = .failed error code → error = .timeout

/-- An attempt ends and closes the socket it does not hand over. -/
theorem attempt_ends (advances : Advances calls deadline bound) (address : SocketAddress)
    (handle : Nat) {state : σ} (enough : bound state < rounds) :
    Ends (Unfit calls handle) (Attempted bound state)
      (attempt calls rounds deadline address handle state) := by
  unfold attempt
  have set := advances.setNonblocking handle state
  generalize calls.setNonblocking handle state = answer at set ⊢
  obtain ⟨answer, later⟩ := answer
  dsimp only at set
  cases answer with
  | error code => exact Ends.ok ⟨set, fun _ _ impossible => nomatch impossible⟩
  | ok =>
      dsimp only
      have connects := advances.connect handle address later
      generalize calls.connect handle address later = answer at connects ⊢
      obtain ⟨answer, last⟩ := answer
      dsimp only at connects
      have total := connects.trans set
      cases answer with
      | ok => exact Ends.ok ⟨total, fun _ _ impossible => nomatch impossible⟩
      | error code =>
          dsimp only
          split
          · exact Ends.ok ⟨total, fun _ _ impossible => nomatch impossible⟩
          · have waits := @waitForSocket_ends _ _ rounds _ _ advances handle false last (by omega)
            refine waits.bind fun waited spent => Ends.ok ⟨spent.trans total, ?_⟩
            intro error code failed
            cases result : waited.1 with
            | ready | error code => cases (congrArg WaitResult.attempt result).symm.trans failed
            | timeout =>
                cases (congrArg WaitResult.attempt result).symm.trans failed
                rfl

/-! ## No socket is left open -/

/-- What holds after some addresses were tried, of which there was at least one
when a socket is connected, and all when the connection failed. -/
structure Settled (addresses : List SocketAddress) (before : Sockets σ) (connected : Connected)
    (after : Sockets σ) : Prop where
  tried : ∃ tried, tried <+: addresses ∧ after.visited = before.visited ++ tried ∧
    (∀ handle, connected = .ok handle → tried ≠ []) ∧
    ∀ code, connected = .error (.connection, code) → tried = addresses
  error : ∀ error code, connected = .error (error, code) → error = .timeout ∨ error = .connection
  opened : after.opened = connected.toOption.toList ++ before.opened
  peak : after.peak ≤ max before.peak (before.opened.length + 1)

namespace Settled

variable {address : SocketAddress} {addresses : List SocketAddress} {before after : Sockets σ}
  {connected : Connected} {os : σ}

/-- The loop gives up before it tries another address. -/
theorem stopped {code : Int} :
    Settled addresses before (.error (.timeout, code)) { before with os } where
  tried := by
    refine ⟨[], List.nil_prefix, (List.append_nil _).symm, ?_, ?_⟩
    · exact fun _ impossible => nomatch impossible
    · exact fun _ impossible => nomatch impossible
  error := by
    rintro error code ⟨⟩
    exact .inl rfl
  opened := rfl
  peak := Nat.le_max_left _ _

/-- An address was tried in vain before the others. -/
theorem cons {between : Sockets σ} (visited : between.visited = before.visited ++ [address])
    (opened : between.opened = before.opened)
    (peak : between.peak ≤ max before.peak (before.opened.length + 1))
    (settled : Settled addresses between connected after) :
    Settled (address :: addresses) before connected after := by
  obtain ⟨tried, initial, seen, some', all⟩ := settled.tried
  constructor
  · refine ⟨address :: tried, List.cons_prefix_cons.mpr ⟨rfl, initial⟩, ?_, ?_, ?_⟩
    · rw [seen, visited, List.append_assoc, List.singleton_append]
    · exact fun _ _ => List.cons_ne_nil _ _
    · exact fun code failed => congrArg _ (all code failed)
  · exact settled.error
  · rw [settled.opened, opened]
  · have least := settled.peak
    rw [opened] at least
    omega

end Settled

/-- A socket that was held and dropped is as if it had not been. -/
theorem drop_hold (sockets : Sockets σ) (handle : Nat) (os : σ) :
    ((sockets.hold handle os).drop calls handle).opened = sockets.opened :=
  List.erase_cons_head ..

/-- Some address of the list can be given a socket that does not fit the set. -/
def Overfull (calls : SocketCalls σ) (addresses : List SocketAddress) (stuck : Stuck) : Prop :=
  stuck = .undefined ∧ ∃ address ∈ addresses, ∃ state handle,
    (calls.socket address state).1 = .ok handle ∧ ¬ calls.FitsSet handle

/-- A later address may be the one that gets stuck. -/
theorem Overfull.cons {address : SocketAddress} {addresses : List SocketAddress} {stuck : Stuck}
    (overfull : Overfull calls addresses stuck) : Overfull calls (address :: addresses) stuck := by
  obtain ⟨undefined, other, member, created⟩ := overfull
  exact ⟨undefined, other, List.mem_cons_of_mem _ member, created⟩

/-- The loop over the addresses ends with all of them settled. -/
theorem connectAddresses_settled (advances : Advances calls deadline bound)
    (addresses : List SocketAddress) {finalError : Int} {sockets : Sockets σ}
    (enough : bound sockets.os < rounds) :
    Ends (Overfull calls addresses)
      (fun connected => Settled addresses sockets connected.1 connected.2)
      (connectAddresses calls rounds deadline addresses finalError sockets) := by
  induction addresses generalizing finalError sockets with
  | nil =>
      rw [connectAddresses]
      split
      · exact Ends.ok .stopped
      · refine Ends.ok ?_
        split
        · exact .stopped
        · constructor
          · refine ⟨[], List.nil_prefix, (List.append_nil _).symm, ?_, fun _ _ => rfl⟩
            exact fun _ impossible => nomatch impossible
          · rintro error code ⟨⟩
            exact .inr rfl
          · rfl
          · exact Nat.le_max_left _ _
  | cons address addresses ih =>
      rw [connectAddresses]
      have read := advances.now_le sockets.os
      generalize calls.now sockets.os = reading at read ⊢
      obtain ⟨now, os⟩ := reading
      dsimp only at read ⊢
      split
      · exact Ends.ok .stopped
      · have created := advances.socket address os
        generalize socket : calls.socket address os = answer at created ⊢
        obtain ⟨answer, later⟩ := answer
        dsimp only at created
        cases answer with
        | error code =>
            have settled := @ih code (sockets.visit address later)
              (by dsimp only [Sockets.visit]; omega)
            refine settled.imp (fun _ => Overfull.cons) fun connected settled => ?_
            exact @Settled.cons _ _ _ sockets _ _ (sockets.visit address later) rfl rfl
              (Nat.le_max_left _ _) settled
        | ok handle =>
            have unfit (stuck : Stuck) (unfit : Unfit calls handle stuck) :
                Overfull calls (address :: addresses) stuck :=
              ⟨unfit.1, address, List.mem_cons_self, os, handle, congrArg Prod.fst socket, unfit.2⟩
            have attempted := @attempt_ends _ _ rounds _ _ advances address handle later (by omega)
            refine (attempted.imp unfit fun _ => id).bind ?_
            rintro ⟨ended, last⟩ ⟨rest, timeout⟩
            dsimp only at rest timeout ⊢
            cases ended with
            | moved =>
                refine Ends.ok ⟨?_, ?_, rfl, Nat.le_refl _⟩
                · exact ⟨[address], List.cons_prefix_cons.mpr ⟨rfl, List.nil_prefix⟩, rfl,
                    fun _ _ => List.cons_ne_nil _ _, fun _ impossible => nomatch impossible⟩
                · exact fun _ _ impossible => nomatch impossible
            | failed error code =>
                obtain rfl := timeout error code rfl
                refine Ends.ok ⟨?_, ?_, drop_hold _ _ _, Nat.le_refl _⟩
                · exact ⟨[address], List.cons_prefix_cons.mpr ⟨rfl, List.nil_prefix⟩, rfl,
                    fun _ _ => List.cons_ne_nil _ _, fun _ impossible => nomatch impossible⟩
                · rintro error code ⟨⟩
                  exact .inl rfl
            | next code =>
                have closed := advances.close handle last
                have settled := @ih code
                  (((sockets.visit address last).hold handle last).drop calls handle)
                  (by dsimp only [Sockets.drop, Sockets.hold]; omega)
                refine settled.imp (fun _ => Overfull.cons) fun connected settled => ?_
                exact @Settled.cons _ _ _ sockets _ _
                  (((sockets.visit address last).hold handle last).drop calls handle) rfl
                  (drop_hold _ _ _) (Nat.le_refl _) settled

/-- What holds after a run, which has visited some addresses. -/
structure CleanRun (resolution : Resolution) (before : Sockets σ) (result : MonitorResult)
    (after : Sockets σ) (tried : List SocketAddress) : Prop where
  initial : tried <+: resolution.addresses
  visited : after.visited = before.visited ++ tried
  opened : after.opened = before.opened
  peak : after.peak ≤ max before.peak (before.opened.length + 1)
  success : result.transportSuccess = true → result.error = .none ∧ tried ≠ []
  failure : result.transportSuccess = false →
    result.error ∈ [.timeout, .connection, .nameResolution, .internal] ∧
      result.value = .monostate
  connection : result.error = .connection → tried = resolution.addresses
  unresolved : result.error = .nameResolution ∨ result.error = .internal → tried = []

/-- A run that connects nothing is clean when its error says how far it got. -/
theorem CleanRun.failed {resolution : Resolution} {before after : Sockets σ}
    {tried : List SocketAddress} {config : TcpConnectMonitorConfig} {error : MonitorError}
    {code : Int} {began finished : TimePoint} (initial : tried <+: resolution.addresses)
    (visited : after.visited = before.visited ++ tried) (opened : after.opened = before.opened)
    (peak : after.peak ≤ max before.peak (before.opened.length + 1))
    (kind : error ∈ [.timeout, .connection, .nameResolution, .internal])
    (all : error = .connection → tried = resolution.addresses)
    (none : error = .nameResolution ∨ error = .internal → tried = []) :
    CleanRun resolution before
      (runTcpConnect config (.error (error, code) : Connected) began finished) after tried where
  initial := initial
  visited := visited
  opened := opened
  peak := peak
  success impossible := nomatch impossible
  failure _ := ⟨kind, rfl⟩
  connection := all
  unresolved := none

/-- What is connected, or that nothing was tried. -/
inductive Connects (resolution : Resolution) (sockets : Sockets σ) : Connected × Sockets σ → Prop
  | unresolved (error : MonitorError) (code : Int)
      (kind : error = .nameResolution ∨ error = .internal) :
      Connects resolution sockets (.error (error, code), sockets)
  | settled {connected : Connected} {after : Sockets σ}
      (settled : Settled resolution.addresses sockets connected after) :
      Connects resolution sockets (connected, after)

/-- A connection ends with a socket or without any. -/
theorem connectTcp_ends (advances : Advances calls deadline bound) (resolution : Resolution)
    {sockets : Sockets σ} (enough : bound sockets.os < rounds) :
    Ends (Overfull calls resolution.addresses) (Connects resolution sockets)
      (connectTcp calls rounds deadline resolution sockets) := by
  unfold connectTcp
  split
  · exact Ends.ok (.unresolved _ _ (.inr rfl))
  · split
    · exact Ends.ok (.unresolved _ _ (.inl rfl))
    · have settled := @connectAddresses_settled _ calls rounds deadline bound advances
        resolution.addresses 0 sockets enough
      exact settled.imp (fun _ => id) fun _ => .settled

/-- Whatever the operating system answers, a run of a connection monitor ends once
the clock gets to its deadline, and leaves open what was open before, unless it can be
given a socket that does not fit the set it is waited for in. It holds one socket at a
time, tries the resolver's addresses in their order, and reports a failed connection
only when it has tried all of them. -/
theorem tcpConnectRun_clean {bound : TimePoint → σ → Nat}
    (advances : ∀ deadline, Advances calls deadline (bound deadline))
    (config : TcpConnectMonitorConfig) (resolution : Resolution) (sockets : Sockets σ)
    (enough : bound ((calls.now sockets.os).1 + nanoseconds config.timeout) sockets.os < rounds) :
    Ends (Overfull calls resolution.addresses)
      (fun run => ∃ tried, CleanRun resolution sockets run.1 run.2 tried)
      (tcpConnectRun calls rounds config resolution sockets) := by
  unfold tcpConnectRun
  generalize began : calls.now sockets.os = reading at enough
  obtain ⟨now, os⟩ := reading
  have clock := advances (now + nanoseconds config.timeout)
  have read := clock.now_le sockets.os
  rw [began] at read
  dsimp only at enough read ⊢
  have connects := @connectTcp_ends _ calls rounds _ _ clock resolution { sockets with os }
    (by dsimp only; omega)
  refine connects.bind ?_
  rintro _ (⟨error, code, kind⟩ | ⟨settled⟩)
  · refine Ends.ok ⟨[], CleanRun.failed List.nil_prefix (List.append_nil _).symm rfl
      (Nat.le_max_left _ _) ?_ ?_ fun _ => rfl⟩
    · obtain rfl | rfl := kind <;> decide
    · rintro rfl
      obtain impossible | impossible := kind <;> cases impossible
  next connected after =>
    obtain ⟨tried, initial, visited, some', all⟩ := settled.tried
    cases connected with
    | ok handle =>
        refine Ends.ok ⟨tried, ?_⟩
        constructor
        case initial => exact initial
        case visited => exact visited
        case opened =>
          show after.opened.erase handle = sockets.opened
          rw [settled.opened]
          exact List.erase_cons_head ..
        case peak => exact settled.peak
        case success => exact fun _ => ⟨rfl, some' handle rfl⟩
        case failure => exact fun impossible => nomatch impossible
        case connection => exact fun impossible => nomatch impossible
        case unresolved => rintro (impossible | impossible) <;> cases impossible
    | error failure =>
        obtain ⟨error, code⟩ := failure
        have kind := settled.error error code rfl
        refine Ends.ok ⟨tried, CleanRun.failed initial visited settled.opened settled.peak
          ?_ ?_ ?_⟩
        · obtain rfl | rfl := kind <;> decide
        · rintro rfl
          exact all code rfl
        · rintro (rfl | rfl)
          · obtain impossible | impossible := kind <;> cases impossible
          · obtain impossible | impossible := kind <;> cases impossible

/-- A host whose clock moves on by a second with each reading, that refuses connections
over IPv4 and takes its time over IPv6; the state counts the readings. -/
def secondsCalls : SocketCalls Nat where
  platform := .linux
  now readings := ((readings * 1000000000 : Nat), readings + 1)
  socket _ readings := (.ok 3, readings)
  setNonblocking _ readings := (.ok (), readings)
  connect _ address readings := (.error (if address.family = 2 then 111 else 115), readings)
  select _ _ _ readings := (.ok true, readings)
  socketError _ readings := (0, readings)
  close _ readings := readings
  pending code := code = 115
  interrupted code := code = 4
  timedOut code := code = 110

theorem advances_secondsCalls (deadline : TimePoint) :
    Advances secondsCalls deadline fun readings => deadline.toNat + 1 - readings where
  now readings early := by
    have early : ((readings * 1000000000 : Nat) : Int) < deadline := early
    show deadline.toNat + 1 - (readings + 1) < deadline.toNat + 1 - readings
    omega
  now_le readings := by
    show deadline.toNat + 1 - (readings + 1) ≤ deadline.toNat + 1 - readings
    omega
  socket _ _ := Nat.le_refl _
  setNonblocking _ _ := Nat.le_refl _
  connect _ _ _ := Nat.le_refl _
  select _ _ _ _ := Nat.le_refl _
  socketError _ _ := Nat.le_refl _
  close _ _ := Nat.le_refl _

/-- A name with an address of either family. -/
def twoAddresses : Resolution where
  addresses := [{ family := 2, data := [127, 0, 0, 1] }, { family := 10, data := [1] }]

theorem tcpConnectRun_clean_seconds :
    ∃ result after tried, tcpConnectRun secondsCalls 2000000002
        { host := bytes "localhost", port := 80 } twoAddresses { os := 0, opened := [9] } =
          .ok (result, after) ∧
      CleanRun twoAddresses { os := 0, opened := [9] } result after tried := by
  have clean := @tcpConnectRun_clean _ secondsCalls 2000000002 _ advances_secondsCalls
    { host := bytes "localhost", port := 80 } twoAddresses { os := 0, opened := [9] } (by decide)
  rcases clean.1.ok_or_error with ⟨⟨result, after⟩, reached⟩ | ⟨_, _, _, _, _, _, _, created, unfit⟩
  · obtain ⟨tried, holds⟩ := clean.2 _ reached
    exact ⟨result, after, tried, reached, holds⟩
  · cases created
    exact absurd (.inr (by decide)) unfit

/-- A pending connection on a socket beyond the set is undefined. -/
example : tcpConnectRun { secondsCalls with socket := fun _ readings => (.ok 1024, readings) } 9
    { host := bytes "localhost", port := 80, timeout := 9000 } twoAddresses { os := 0 } =
      .error .undefined := rfl

end PixelStatus.Host
