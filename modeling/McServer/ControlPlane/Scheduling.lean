import McServer.ControlPlane.Reconciliation
import Mathlib.Logic.Function.Basic

set_option autoImplicit false

namespace McServer.ControlPlane

open Domain

def RequestError.retryAfter : RequestError → Option Nat
  | .rateLimited seconds _ => seconds.map (· * 10 ^ 9)
  | _ => none

def AkamaiComputeError.retryAfter : AkamaiComputeError → Option Nat
  | .request source => source.retryAfter
  | _ => none

def ComputeError.retryAfter : ComputeError → Option Nat
  | .akamai error => error.retryAfter
  | .local _ | .akamaiNotConfigured => none

def ReconcileError.retryAfter : ReconcileError → Option Nat
  | .compute error => error.retryAfter
  | .repository _ | .domain _ | .timestamp _ | .agent _ | .didNotConverge _ | .writableDataLost _ => none

namespace Scheduling

def maxErrorRetryDelay : Nat := 300 * 10 ^ 9

def maximumDuration : Nat := (2 ^ 64 - 1) * 10 ^ 9 + 999999999

def checkedMul (duration factor : Nat) : Option Nat :=
  if duration * factor ≤ maximumDuration then some (duration * factor) else none

def errorRetryDelay (base consecutiveFailures : Nat) : Nat :=
  let exponent := min (consecutiveFailures - 1) 6
  let multiplier := 2 ^ exponent
  min ((checkedMul base multiplier).getD maxErrorRetryDelay) maxErrorRetryDelay

theorem errorRetryDelay_eq (base consecutiveFailures : Nat) :
    errorRetryDelay base consecutiveFailures =
      min (base * 2 ^ min (consecutiveFailures - 1) 6) maxErrorRetryDelay := by
  have below : maxErrorRetryDelay ≤ maximumDuration := by decide
  unfold errorRetryDelay checkedMul
  dsimp only
  split
  · rfl
  · simp only [Option.getD_none, Nat.min_self]
    omega

theorem errorRetryDelay_mono (base : Nat) : Monotone (errorRetryDelay base) := by
  intro fewer more le
  rw [errorRetryDelay_eq, errorRetryDelay_eq]
  have exponents : min (fewer - 1) 6 ≤ min (more - 1) 6 := by omega
  have powers : 2 ^ min (fewer - 1) 6 ≤ 2 ^ min (more - 1) 6 := Nat.pow_le_pow_right (by decide) exponents
  have products := Nat.mul_le_mul_left base powers
  omega

theorem errorRetryDelay_bounds (base consecutiveFailures : Nat) :
    min base maxErrorRetryDelay ≤ errorRetryDelay base consecutiveFailures ∧
      errorRetryDelay base consecutiveFailures ≤ maxErrorRetryDelay := by
  rw [errorRetryDelay_eq]
  have grows : base ≤ base * 2 ^ min (consecutiveFailures - 1) 6 :=
    Nat.le_mul_of_pos_right base (Nat.two_pow_pos _)
  omega

structure RetryState where
  consecutiveFailures : Nat
  retryAt : Nat
  deriving DecidableEq

def maximumU32 : Nat := 2 ^ 32 - 1

def isError : Except ReconcileError ReconcileOutcome → Bool
  | .error _ => true
  | .ok _ => false

structure Turn where
  cancelled : Bool
  waited : Nat
  took : Nat
  outcome : Except ReconcileError ReconcileOutcome

inductive Trigger where
  | notification
  | retry
  | resync
  deriving DecidableEq

structure Attempt where
  serverId : ServerId
  trigger : Trigger
  entry : Option RetryState
  startedAt : Nat
  finishedAt : Nat
  outcome : Except ReconcileError ReconcileOutcome

structure WorkerState where
  clock : Nat
  pending : ServerId → Option RetryState
  attempts : List Attempt

inductive Event where
  | notification (waited : Nat) (server : Option ServerId) (turn : Turn)
  | retryTick (waited : Nat) (entries : List (ServerId × Turn))
  | resyncTick (waited : Nat) (servers : Option (List (ServerId × Turn)))

section Worker

variable (retryInterval : Nat)

def retryDelay (error : ReconcileError) (consecutiveFailures : Nat) : Nat :=
  match error.retryAfter with
  | some delay => min (max delay retryInterval) maxErrorRetryDelay
  | none => errorRetryDelay retryInterval consecutiveFailures

def reconcileAndSchedule (serverId : ServerId) (previousFailures : Nat)
    (outcome : Except ReconcileError ReconcileOutcome) (now : Nat)
    (pending : ServerId → Option RetryState) : ServerId → Option RetryState :=
  match outcome with
  | .ok .stable => pending
  | .ok .retry =>
    Function.update pending serverId (some { consecutiveFailures := 0, retryAt := now + retryInterval })
  | .error error =>
    let consecutiveFailures := min (previousFailures + 1) maximumU32
    Function.update pending serverId
      (some { consecutiveFailures, retryAt := now + retryDelay retryInterval error consecutiveFailures })

def attempt (trigger : Trigger) (serverId : ServerId) (turn : Turn) (state : WorkerState) : WorkerState :=
  let entry := state.pending serverId
  let previousFailures := (entry.map (·.consecutiveFailures)).getD 0
  let startedAt := state.clock + turn.waited
  let finishedAt := startedAt + turn.took
  { clock := finishedAt
    pending := reconcileAndSchedule retryInterval serverId previousFailures turn.outcome finishedAt
      (Function.update state.pending serverId none)
    attempts := { serverId, trigger, entry, startedAt, finishedAt, outcome := turn.outcome } :: state.attempts }

def retryLoop : List (ServerId × Turn) → WorkerState → WorkerState
  | [], state => state
  | (serverId, turn) :: rest, state =>
    if turn.cancelled then state else retryLoop rest (attempt retryInterval .retry serverId turn state)

def resyncLoop (now : Nat) : List (ServerId × Turn) → WorkerState → WorkerState
  | [], state => state
  | (serverId, turn) :: rest, state =>
    if turn.cancelled then state
    else if (state.pending serverId).any (·.retryAt > now) then resyncLoop now rest state
    else resyncLoop now rest (attempt retryInterval .resync serverId turn state)

def step : Event → WorkerState → WorkerState
  | .notification waited none _, state => { state with clock := state.clock + waited }
  | .notification waited (some serverId) turn, state =>
    attempt retryInterval .notification serverId turn { state with clock := state.clock + waited }
  | .retryTick waited entries, state =>
    let now := state.clock + waited
    let due := entries.filter fun (serverId, _) => (state.pending serverId).any (·.retryAt ≤ now)
    retryLoop retryInterval due { state with clock := now }
  | .resyncTick waited none, state => { state with clock := state.clock + waited }
  | .resyncTick waited (some servers), state =>
    let now := state.clock + waited
    resyncLoop retryInterval now servers { state with clock := now }

def Event.Possible (state : WorkerState) : Event → Prop
  | .retryTick _ entries =>
    (entries.map Prod.fst).Nodup ∧ ∀ serverId, serverId ∈ entries.map Prod.fst ↔ (state.pending serverId).isSome
  | .notification _ _ _ | .resyncTick _ _ => True

inductive Reached : WorkerState → Prop where
  | start (clock : Nat) : Reached { clock, pending := fun _ => none, attempts := [] }
  | step {state : WorkerState} {event : Event} (reached : Reached state) (possible : event.Possible state) :
      Reached (step retryInterval event state)

namespace WorkerState

def history (state : WorkerState) (serverId : ServerId) : List Attempt :=
  state.attempts.filter (·.serverId = serverId)

end WorkerState

def errorsSince (history : List Attempt) : Nat := (history.takeWhile (isError ·.outcome)).length

def entryAfter : List Attempt → Option RetryState
  | [] => none
  | last :: earlier =>
    match last.outcome with
    | .ok .stable => none
    | .ok .retry => some { consecutiveFailures := 0, retryAt := last.finishedAt + retryInterval }
    | .error error =>
      let consecutiveFailures := min (errorsSince (last :: earlier)) maximumU32
      some { consecutiveFailures, retryAt := last.finishedAt + retryDelay retryInterval error consecutiveFailures }

def Attempt.InTime (attempt : Attempt) : Prop :=
  attempt.trigger ≠ .notification → ∀ entry, attempt.entry = some entry → entry.retryAt ≤ attempt.startedAt

structure Exact (state : WorkerState) : Prop where
  entries : ∀ serverId, state.pending serverId = entryAfter retryInterval (state.history serverId)
  inTime : ∀ attempt ∈ state.attempts, attempt.InTime

variable {retryInterval}

theorem failures_of_entryAfter (history : List Attempt) :
    ((entryAfter retryInterval history).map (·.consecutiveFailures)).getD 0 = min (errorsSince history) maximumU32 := by
  cases history with
  | nil => simp [entryAfter, errorsSince]
  | cons last earlier =>
    rcases outcome : last.outcome with error | (_ | _) <;>
      simp [entryAfter, errorsSince, isError, outcome]

theorem attempt_others {serverId other : ServerId} (trigger : Trigger) (turn : Turn) (state : WorkerState)
    (different : other ≠ serverId) :
    (attempt retryInterval trigger serverId turn state).pending other = state.pending other := by
  rcases outcome : turn.outcome with error | (_ | _) <;>
    simp [attempt, reconcileAndSchedule, outcome, different]

theorem attempt_entries {state : WorkerState} (exact : Exact retryInterval state) (trigger : Trigger)
    (serverId : ServerId) (turn : Turn) (other : ServerId) :
    (attempt retryInterval trigger serverId turn state).pending other =
      entryAfter retryInterval ((attempt retryInterval trigger serverId turn state).history other) := by
  by_cases same : other = serverId
  · subst same
    have previous : ((state.pending other).map (·.consecutiveFailures)).getD 0 =
        min (errorsSince (state.history other)) maximumU32 := by
      rw [exact.entries other, failures_of_entryAfter]
    have counted : min (min (errorsSince (state.history other)) maximumU32 + 1) maximumU32 =
        min (errorsSince (state.history other) + 1) maximumU32 := by omega
    rcases outcome : turn.outcome with error | (_ | _)
    · have errors (last : Attempt) (failed : last.outcome = .error error) :
          errorsSince (last :: state.history other) = errorsSince (state.history other) + 1 := by
        simp [errorsSince, isError, failed]
      simp only [attempt, reconcileAndSchedule, outcome, Function.update_self, WorkerState.history,
        List.filter_cons, decide_true, if_true, entryAfter, previous]
      rw [← WorkerState.history, errors _ rfl, counted]
    · simp [attempt, reconcileAndSchedule, WorkerState.history, entryAfter, outcome]
    · simp [attempt, reconcileAndSchedule, WorkerState.history, entryAfter, outcome]
  · have different : serverId ≠ other := fun equal => same equal.symm
    have history : (attempt retryInterval trigger serverId turn state).history other = state.history other := by
      simp [attempt, WorkerState.history, different]
    rw [attempt_others trigger turn state same, history, exact.entries other]

theorem attempt_exact {state : WorkerState} {trigger : Trigger} {serverId : ServerId}
    (exact : Exact retryInterval state) (turn : Turn)
    (due : trigger ≠ .notification → ∀ entry, state.pending serverId = some entry → entry.retryAt ≤ state.clock) :
    Exact retryInterval (attempt retryInterval trigger serverId turn state) where
  entries := attempt_entries exact trigger serverId turn
  inTime := by
    intro made mem
    rcases List.mem_cons.mp mem with rfl | mem
    · intro ticked entry found
      exact Nat.le_trans (due ticked entry found) (Nat.le_add_right _ _)
    · exact exact.inTime made mem

theorem Exact.at_later_time {state : WorkerState} (exact : Exact retryInterval state) (clock : Nat) :
    Exact retryInterval { state with clock } := ⟨exact.entries, exact.inTime⟩

theorem clock_le_attempt (trigger : Trigger) (serverId : ServerId) (turn : Turn) (state : WorkerState) :
    state.clock ≤ (attempt retryInterval trigger serverId turn state).clock := by
  simp only [attempt]
  omega

theorem retryLoop_exact {entries : List (ServerId × Turn)} {state : WorkerState}
    (exact : Exact retryInterval state) (once : (entries.map Prod.fst).Nodup)
    (due : ∀ serverId ∈ entries.map Prod.fst, ∀ entry, state.pending serverId = some entry →
      entry.retryAt ≤ state.clock) :
    Exact retryInterval (retryLoop retryInterval entries state) := by
  induction entries generalizing state with
  | nil => exact exact
  | cons first rest ih =>
    obtain ⟨serverId, turn⟩ := first
    simp only [List.map_cons, List.nodup_cons] at once
    rw [retryLoop]
    split
    · exact exact
    · refine ih (attempt_exact exact turn fun _ => due serverId (by simp)) once.2 ?_
      intro other mem entry found
      have different : other ≠ serverId := fun same => once.1 (same ▸ mem)
      rw [attempt_others _ turn state different] at found
      exact Nat.le_trans (due other (by simp [mem]) entry found) (clock_le_attempt _ serverId turn state)

theorem resyncLoop_exact {now : Nat} {servers : List (ServerId × Turn)} {state : WorkerState}
    (exact : Exact retryInterval state) (since : now ≤ state.clock) :
    Exact retryInterval (resyncLoop retryInterval now servers state) := by
  induction servers generalizing state with
  | nil => exact exact
  | cons first rest ih =>
    obtain ⟨serverId, turn⟩ := first
    rw [resyncLoop]
    split
    · exact exact
    · split
      · exact ih exact since
      · next early =>
        refine ih (attempt_exact exact turn fun _ entry found => ?_)
          (Nat.le_trans since (clock_le_attempt _ serverId turn state))
        have late : entry.retryAt ≤ now := by simpa [found] using early
        exact Nat.le_trans late since

theorem step_exact {event : Event} {state : WorkerState} (exact : Exact retryInterval state)
    (possible : event.Possible state) : Exact retryInterval (step retryInterval event state) := by
  cases event with
  | notification waited server turn =>
    cases server with
    | none => exact exact.at_later_time _
    | some serverId => exact attempt_exact (exact.at_later_time _) turn fun ticked => absurd rfl ticked
  | retryTick waited entries =>
    refine retryLoop_exact (exact.at_later_time _) (possible.1.sublist (List.filter_sublist.map _)) ?_
    intro serverId mem entry found
    obtain ⟨⟨_, turn⟩, chosen, rfl⟩ := List.mem_map.mp mem
    have known : state.pending _ = some entry := found
    have due := (List.mem_filter.mp chosen).2
    simpa [known] using due
  | resyncTick waited servers =>
    cases servers with
    | none => exact exact.at_later_time _
    | some servers => exact resyncLoop_exact (exact.at_later_time _) (Nat.le_refl _)

theorem reached_exact {state : WorkerState} (reached : Reached retryInterval state) :
    Exact retryInterval state := by
  induction reached with
  | start clock => exact ⟨fun _ => rfl, by simp⟩
  | step _ possible ih => exact step_exact ih possible

theorem entryAfter_isSome_iff (history : List Attempt) :
    (entryAfter retryInterval history).isSome ↔ ∃ last, history.head? = some last ∧ last.outcome ≠ .ok .stable := by
  cases history with
  | nil => simp [entryAfter]
  | cons last earlier => rcases outcome : last.outcome with error | (_ | _) <;> simp [entryAfter, outcome]

end Worker

theorem worker_schedule_exact {retryInterval : Nat} {state : WorkerState}
    (reached : Reached retryInterval state) :
    (∀ serverId, (state.pending serverId).isSome ↔
        ∃ last, (state.history serverId).head? = some last ∧ last.outcome ≠ .ok .stable) ∧
      (∀ serverId entry, state.pending serverId = some entry →
        entry.consecutiveFailures = min (errorsSince (state.history serverId)) maximumU32) ∧
      (∀ attempt ∈ state.attempts, attempt.trigger ≠ .notification →
        ∀ entry, attempt.entry = some entry → entry.retryAt ≤ attempt.startedAt) ∧
      (∀ serverId entry last error, state.pending serverId = some entry →
        (state.history serverId).head? = some last → last.outcome = .error error → error.retryAfter = none →
        entry.retryAt = last.finishedAt + errorRetryDelay retryInterval entry.consecutiveFailures) ∧
      Monotone (errorRetryDelay retryInterval) ∧
      ∀ failures, min retryInterval maxErrorRetryDelay ≤ errorRetryDelay retryInterval failures ∧
        errorRetryDelay retryInterval failures ≤ maxErrorRetryDelay := by
  have exact := reached_exact reached
  refine ⟨?_, ?_, exact.inTime, ?_, errorRetryDelay_mono retryInterval, errorRetryDelay_bounds retryInterval⟩
  · intro serverId
    rw [exact.entries, entryAfter_isSome_iff]
  · intro serverId entry found
    rw [exact.entries] at found
    simpa [found] using @failures_of_entryAfter retryInterval (state.history serverId)
  · intro serverId entry last error found newest failed hint
    rw [exact.entries] at found
    cases past : state.history serverId with
    | nil => simp [past] at newest
    | cons first earlier =>
      obtain rfl : first = last := by simpa [past] using newest
      simp only [past, entryAfter, failed, Option.some.injEq] at found
      simp [← found, retryDelay, hint]

namespace Sample

def serverId : ServerId := ⟨⟨7⟩⟩

def failing : WorkerState :=
  step (5 * 10 ^ 9) (.retryTick (5 * 10 ^ 9) [(serverId, ⟨false, 1, 2, .error (.didNotConverge serverId)⟩)])
    (step (5 * 10 ^ 9) (.notification 1 (some serverId) ⟨false, 2, 3, .error (.didNotConverge serverId)⟩)
      { clock := 0, pending := fun _ => none, attempts := [] })

end Sample

theorem worker_schedule_after_errors :
    Sample.failing.pending Sample.serverId = some { consecutiveFailures := 2, retryAt := 15000000009 } ∧
      (Sample.failing.pending Sample.serverId).isSome ∧
      ∀ attempt ∈ Sample.failing.attempts, attempt.trigger ≠ .notification →
        ∀ entry, attempt.entry = some entry → entry.retryAt ≤ attempt.startedAt := by
  have reached : Reached (5 * 10 ^ 9) Sample.failing := by
    refine .step (.step (.start 0) trivial) ⟨by simp, fun other => ?_⟩
    by_cases same : other = Sample.serverId <;>
      simp [step, attempt, reconcileAndSchedule, same]
  have exact := worker_schedule_exact reached
  exact ⟨by decide +kernel, (exact.1 Sample.serverId).mpr ⟨_, rfl, nofun⟩, exact.2.2.1⟩

end Scheduling

end McServer.ControlPlane
