import McServer.System.Reconciling
import McServer.System.Connections
import McServer.Library.Record

set_option autoImplicit false

namespace McServer.System

open Domain Store Agent ControlPlane Interleaving Interleaving.Contract

section Soundness

variable (setup : Setup) (policy : Policy setup)

theorem program_works (thread : Thread) (task : Task) (admitted : policy.admitsTask thread task) :
    (contract setup policy).Triple exec thread (fun _ => True) (program setup thread task)
      fun _ _ => True := by
  cases thread with
  | worker =>
    cases task with
    | startUp =>
      exact Triple.bind _ (startUp_works setup.manager setup.reapLocal)
        fun _ => Triple.done fun _ _ => trivial
    | reconcile server => exact reconcileAndSchedule_works setup.manager server
    | request | connect => exact Triple.done fun _ held => held
  | client number =>
    cases task with
    | request request => exact serve_works admitted
    | startUp | reconcile | connect => exact Triple.done fun _ held => held
  | connection number =>
    cases task with
    | connect listener request certificate => exact handleConnection_works
    | startUp | reconcile | request => exact Triple.done fun _ held => held

theorem sound : Sound (machine setup) (contract setup policy) policy.admitsTask where
  rely_refl := rely_refl setup policy
  rely_trans := rely_trans setup policy
  exec_keeps := exec_keeps setup policy
  exec_relies := exec_relies setup policy
  environment_keeps action _ inv := environment_keeps inv action
  environment_relies thread action world _ := environment_relies setup policy thread action world
  crash_keeps _ inv := crash_keeps inv
  program_safe thread task world admitted _ := program_works setup policy thread task admitted world trivial

theorem initial_inv : Inv setup policy initial where
  history := History.start
  log entry earlier recent := by
    have length := recent.length_le
    simp [initial] at length
  agents := by
    refine ⟨?_, ?_, ?_, ?_, ?_⟩ <;> simp [initial, Link.initial, Host.fresh, Host.lastSnapshotId]
  fleet := by
    refine ⟨?_, ?_, ?_, ?_, ?_, ?_⟩ <;> simp [initial, Table.Unique]
  tenancy := by
    refine ⟨?_, ?_⟩ <;> simp [initial]
  specified := by
    refine ⟨?_, ?_⟩ <;> simp [initial, Database.empty]
  results := by simp [initial, Database.empty]
  terminated := by simp [initial, Database.empty]
  directories := by simp [initial]

theorem initial_respected :
    Sound.Respected (machine setup) (contract setup policy) (Machine.idle initial) :=
  Sound.idle_respected (initial_inv setup policy)

end Soundness

def Admitted {setup : Setup} (policy : Policy setup) (run : Run) : Prop :=
  ∀ event ∈ run, event.Admitted policy.admitsTask

variable {setup : Setup} {run : Run} {thread : Thread}

theorem admitted_unrestricted (run : Run) :
    Admitted (Policy.unrestricted setup) run := by
  intro event _
  cases event with
  | start thread task =>
    cases task with
    | request request => cases request <;> trivial
    | _ => trivial
  | _ => trivial

theorem reached_respected (policy : Policy setup) (admitted : Admitted policy run) :
    Sound.Respected (machine setup) (contract setup policy) (reached setup run) :=
  (sound setup policy).run_respected admitted (initial_respected setup policy)

theorem reached_concat (setup : Setup) (run : Run) (event : Event Thread Task Action Choice) :
    reached setup (run ++ [event]) = (machine setup).step event (reached setup run) :=
  Machine.run_append _ _ _ _

def stepsOf (setup : Setup) (run : Run) (thread : Thread) : List (Took Op Choice World) :=
  (machine setup).record run (Machine.idle initial) (fun _ => []) thread

theorem stepsOf_concat (setup : Setup) (run : Run) (event : Event Thread Task Action Choice)
    (thread : Thread) :
    stepsOf setup (run ++ [event]) thread =
      (reached setup run).observe event (stepsOf setup run) thread := by
  unfold stepsOf
  rw [Machine.record_append]
  rfl

theorem reached_start (free : (reached setup run).threads thread = .done ()) (task : Task) :
    reached setup (run ++ [.start thread task]) = { reached setup run with
      threads := Function.update (reached setup run).threads thread (program setup thread task) } := by
  rw [reached_concat, Machine.step, if_pos (by rw [free]; rfl)]
  rfl

theorem stepsOf_start (free : (reached setup run).threads thread = .done ()) (task : Task) :
    stepsOf setup (run ++ [.start thread task]) = Function.update (stepsOf setup run) thread [] := by
  funext other
  rw [stepsOf_concat, Config.observe, if_pos (by rw [free]; rfl)]

theorem reached_advance {op : Op}
    {next : op.Res → Prog Op Op.Res Unit} (waiting : (reached setup run).threads thread = .call op next)
    (choice : Choice) :
    reached setup (run ++ [.advance thread choice]) =
      { state := (exec op choice (reached setup run).state).2
        threads := Function.update (reached setup run).threads thread
          (next (exec op choice (reached setup run).state).1) } := by
  rw [reached_concat, Machine.step]
  simp only [waiting]
  rfl

theorem stepsOf_advance {op : Op}
    {next : op.Res → Prog Op Op.Res Unit} (waiting : (reached setup run).threads thread = .call op next)
    (choice : Choice) :
    stepsOf setup (run ++ [.advance thread choice]) = Function.update (stepsOf setup run) thread
      (⟨op, choice, (reached setup run).state⟩ :: stepsOf setup run thread) := by
  funext other
  rw [stepsOf_concat, Config.observe]
  simp only [waiting]

theorem reached_traced (policy : Policy setup) (admitted : Admitted policy run) (thread : Thread) :
    Sound.Traced (machine setup) (contract setup policy) (reached setup run) thread
      (stepsOf setup run thread) := by
  refine (sound setup policy).run_traced admitted (initial_respected setup policy) ?_ thread
  exact fun _ => ⟨⟨.done (), .inl rfl, .start⟩, trivial, fun _ member => nomatch member⟩

theorem mem_stepsOf {step : Took Op Choice World} (member : step ∈ stepsOf setup run thread) :
    ∃ earlier, earlier <+: run ∧ step.before = (reached setup earlier).state := by
  rcases Machine.mem_record _ member with before | found
  · cases before
  · exact found

theorem reached_inv (setup : Setup) (run : Run) :
    Inv setup (Policy.unrestricted setup) (reached setup run).state :=
  (reached_respected _ (admitted_unrestricted run)).1

end McServer.System
