import McServer.Library.Program
import Mathlib.Data.List.Basic

set_option autoImplicit false

namespace Interleaving

variable {T Arg Env Op Choice S A B E F : Type} {Res : Op → Type}

structure Machine (T Arg Env Op : Type) (Res : Op → Type) (Choice S : Type) where
  exec : (op : Op) → Choice → S → Res op × S
  program : T → Arg → Prog Op Res Unit
  environment : Env → S → S
  crash : S → S

structure Config (T Op : Type) (Res : Op → Type) (S : Type) where
  state : S
  threads : T → Prog Op Res Unit

inductive Event (T Arg Env Choice : Type) where
  | advance (thread : T) (choice : Choice)
  | start (thread : T) (argument : Arg)
  | environment (action : Env)
  | crash

namespace Machine

variable [DecidableEq T] (machine : Machine T Arg Env Op Res Choice S)

def step (event : Event T Arg Env Choice) (config : Config T Op Res S) : Config T Op Res S :=
  match event with
  | .advance thread choice =>
      match config.threads thread with
      | .done _ => config
      | .call op next =>
          let result := machine.exec op choice config.state
          { state := result.2
            threads := Function.update config.threads thread (next result.1) }
  | .start thread argument =>
      -- A thread serves one request at a time.
      if (config.threads thread).finished then
        { config with
          threads := Function.update config.threads thread (machine.program thread argument) }
      else config
  | .environment action => { config with state := machine.environment action config.state }
  | .crash => { state := machine.crash config.state, threads := fun _ => .done () }

def run (events : List (Event T Arg Env Choice)) (config : Config T Op Res S) : Config T Op Res S :=
  events.foldl (fun current event => machine.step event current) config

def idle (state : S) : Config T Op Res S := { state, threads := fun _ => .done () }

-- The condition holds of every event of the run, in the configuration it happens in.
def Along (condition : Event T Arg Env Choice → Config T Op Res S → Prop) :
    List (Event T Arg Env Choice) → Config T Op Res S → Prop
  | [], _ => True
  | event :: rest, config => condition event config ∧ Along condition rest (machine.step event config)

@[simp] theorem run_nil (config : Config T Op Res S) : machine.run [] config = config := rfl

@[simp] theorem run_cons (event : Event T Arg Env Choice) (events : List (Event T Arg Env Choice))
    (config : Config T Op Res S) :
    machine.run (event :: events) config = machine.run events (machine.step event config) := rfl

theorem along_of_forall {condition : Event T Arg Env Choice → Config T Op Res S → Prop}
    (always : ∀ event config, condition event config) (events : List (Event T Arg Env Choice))
    (config : Config T Op Res S) : machine.Along condition events config := by
  induction events generalizing config with
  | nil => trivial
  | cons event rest ih => exact ⟨always event config, ih (machine.step event config)⟩

instance decidableAlong (condition : Event T Arg Env Choice → Config T Op Res S → Prop)
    [∀ event config, Decidable (condition event config)] :
    ∀ events config, Decidable (machine.Along condition events config)
  | [], _ => .isTrue trivial
  | event :: rest, config =>
      have := decidableAlong condition rest (machine.step event config)
      inferInstanceAs (Decidable (_ ∧ _))

theorem run_threads (holds : T → Prog Op Res Unit → Prop) (ended : ∀ thread, holds thread (.done ()))
    (started : ∀ thread argument, holds thread (machine.program thread argument))
    (advanced : ∀ thread op next result, holds thread (.call op next) → holds thread (next result))
    (events : List (Event T Arg Env Choice)) {config : Config T Op Res S}
    (initial : ∀ thread, holds thread (config.threads thread)) :
    ∀ thread, holds thread ((machine.run events config).threads thread) := by
  induction events generalizing config with
  | nil => exact initial
  | cons event rest ih =>
    refine ih fun thread => ?_
    cases event with
    | advance other choice =>
      simp only [step]
      split
      · exact initial thread
      · rename_i op next waiting
        by_cases same : thread = other
        · subst same
          have held := initial thread
          rw [waiting] at held
          simpa using advanced thread op next _ held
        · simpa [Function.update_of_ne same] using initial thread
    | start other argument =>
      simp only [step]
      split
      · by_cases same : thread = other
        · subst same
          simpa using started thread argument
        · simpa [Function.update_of_ne same] using initial thread
      · exact initial thread
    | environment action => exact initial thread
    | crash => exact ended thread

theorem run_append (first second : List (Event T Arg Env Choice)) (config : Config T Op Res S) :
    machine.run (first ++ second) config = machine.run second (machine.run first config) := by
  simp [run, List.foldl_append]

end Machine

namespace Event

def Admitted (admits : T → Arg → Prop) : Event T Arg Env Choice → Prop
  | .start thread argument => admits thread argument
  | _ => True

def Granted (granted : Op → S → Prop) :
    Event T Arg Env Choice → Config T Op Res S → Prop
  | .advance thread _, config => ∀ op next, config.threads thread = .call op next → granted op config.state
  | _, _ => True

instance decidableGranted (granted : Op → S → Prop) [∀ op state, Decidable (granted op state)] :
    ∀ (event : Event T Arg Env Choice) (config : Config T Op Res S),
      Decidable (Event.Granted granted event config)
  | .advance thread _, config =>
      match waiting : config.threads thread with
      | .done _ => .isTrue fun op next called => by rw [waiting] at called; cases called
      | .call op next => decidable_of_iff (granted op config.state) (by
          constructor
          · intro holds other onward called
            rw [waiting] at called
            cases called
            exact holds
          · exact fun holds => holds op next waiting)
  | .start _ _, _ => .isTrue trivial
  | .environment _, _ => .isTrue trivial
  | .crash, _ => .isTrue trivial

end Event

-- What a thread may assume of the others and what it owes before each operation.
structure Contract (T Op S : Type) where
  Inv : S → Prop
  Guard : T → Op → S → Prop
  Rely : T → S → S → Prop

namespace Contract

variable (contract : Contract T Op S) (exec : (op : Op) → Choice → S → Res op × S) (thread : T)

def Safe : Prog Op Res A → (A → S → Prop) → S → Prop
  | .done value, post, state => post value state
  | .call op next, post, state =>
      ∀ later, contract.Rely thread state later → contract.Inv later →
        contract.Guard thread op later ∧
          ∀ choice, Safe (next (exec op choice later).1) post (exec op choice later).2

def Stable (assertion : S → Prop) : Prop :=
  ∀ state later, assertion state → contract.Rely thread state later → contract.Inv later →
    assertion later

def Triple (pre : S → Prop) (program : Prog Op Res A) (post : A → S → Prop) : Prop :=
  ∀ state, pre state → contract.Safe exec thread program post state

variable {contract exec thread}

theorem Stable.and {first second : S → Prop} (left : contract.Stable thread first)
    (right : contract.Stable thread second) :
    contract.Stable thread fun state => first state ∧ second state :=
  fun state later holds rely inv =>
    ⟨left state later holds.1 rely inv, right state later holds.2 rely inv⟩

theorem Stable.const (fact : Prop) : contract.Stable thread fun _ => fact :=
  fun _ _ holds _ _ => holds

variable {pre : S → Prop} {post : A → S → Prop} {program : Prog Op Res A}

theorem Safe.weaken {post post' : A → S → Prop} {state : S}
    (safe : contract.Safe exec thread program post state)
    (implies : ∀ value state, post value state → post' value state) :
    contract.Safe exec thread program post' state := by
  induction program generalizing state with
  | done value => exact implies value state safe
  | call op next ih =>
    intro later rely inv
    obtain ⟨guard, rest⟩ := safe later rely inv
    exact ⟨guard, fun choice => ih _ (rest choice)⟩

theorem Safe.bind {next : A → Prog Op Res B} {post : B → S → Prop} {state : S}
    (safe : contract.Safe exec thread program
      (fun value state => contract.Safe exec thread (next value) post state) state) :
    contract.Safe exec thread (program.bind next) post state := by
  induction program generalizing state with
  | done value => exact safe
  | call op rest ih =>
    intro later rely inv
    obtain ⟨guard, onward⟩ := safe later rely inv
    exact ⟨guard, fun choice => ih _ (onward choice)⟩

-- What no operation of the thread and nothing around it can undo still holds in the end.
theorem Safe.frame {assertion : S → Prop} {state : S} (stable : contract.Stable thread assertion)
    (kept : ∀ op choice state, contract.Inv state → contract.Guard thread op state →
      assertion state → assertion (exec op choice state).2)
    (safe : contract.Safe exec thread program post state) (holds : assertion state) :
    contract.Safe exec thread program (fun value state => post value state ∧ assertion state) state := by
  induction program generalizing state with
  | done value => exact ⟨safe, holds⟩
  | call op next ih =>
    intro later rely inv
    obtain ⟨guard, rest⟩ := safe later rely inv
    have now := stable state later holds rely inv
    exact ⟨guard, fun choice => ih _ (rest choice) (kept op choice later inv guard now)⟩

theorem Triple.done {value : A} (implies : ∀ state, pre state → post value state) :
    contract.Triple exec thread pre (.done value : Prog Op Res A) post := implies

theorem Triple.strengthen {pre pre' : S → Prop} (triple : contract.Triple exec thread pre program post)
    (implies : ∀ state, pre' state → pre state) :
    contract.Triple exec thread pre' program post :=
  fun state holds => triple state (implies state holds)

theorem Triple.weaken {post post' : A → S → Prop}
    (triple : contract.Triple exec thread pre program post)
    (implies : ∀ value state, post value state → post' value state) :
    contract.Triple exec thread pre program post' :=
  fun state holds => (triple state holds).weaken implies

theorem Triple.bind (middle : A → S → Prop) {next : A → Prog Op Res B} {post : B → S → Prop}
    (first : contract.Triple exec thread pre program middle)
    (second : ∀ value, contract.Triple exec thread (middle value) (next value) post) :
    contract.Triple exec thread pre (program.bind next) post :=
  fun state holds => ((first state holds).weaken fun value state middle => second value state middle).bind

theorem Triple.perform {op : Op} {post : Res op → S → Prop} (stable : contract.Stable thread pre)
    (effect : ∀ state, contract.Inv state → pre state → contract.Guard thread op state ∧
      ∀ choice, post (exec op choice state).1 (exec op choice state).2) :
    contract.Triple exec thread pre (Prog.perform op) post :=
  fun state holds later rely inv => effect later inv (stable state later holds rely inv)

theorem Triple.tryBind {program : Try Op Res E A} (middle : A → S → Prop)
    {next : A → Try Op Res E B} {post : Except E B → S → Prop}
    (first : contract.Triple exec thread pre program fun result state =>
      match result with
      | .ok value => middle value state
      | .error error => post (.error error) state)
    (second : ∀ value, contract.Triple exec thread (middle value) (next value) post) :
    contract.Triple exec thread pre (Try.bind program next) post := by
  refine Triple.bind _ first ?_
  intro result
  cases result with
  | ok value => exact second value
  | error error => exact Triple.done fun state holds => holds

theorem Triple.raising {into : E → F} {program : Prog Op Res (Except E A)}
    {post : Except F A → S → Prop}
    (triple : contract.Triple exec thread pre program
      fun result state => post (result.mapError into) state) :
    contract.Triple exec thread pre (Try.raising into program) post :=
  Triple.bind _ triple fun _ => Triple.done fun _ holds => holds

theorem Triple.lift {post : Except E A → S → Prop}
    (triple : contract.Triple exec thread pre program fun value state => post (.ok value) state) :
    contract.Triple exec thread pre (Try.lift program) post :=
  Triple.bind _ triple fun _ => Triple.done fun _ holds => holds

def Does (contract : Contract T Op S) (exec : (op : Op) → Choice → S → Res op × S) (thread : T)
    (pre : S → Prop) (program : Try Op Res E A) (post : A → S → Prop) : Prop :=
  contract.Triple exec thread pre program fun result state => ∀ value, result = .ok value → post value state

theorem Does.pure {value : A} (implies : ∀ state, pre state → post value state) :
    contract.Does exec thread pre (Pure.pure value : Try Op Res E A) post := by
  intro state holds other same
  injection same with same
  rw [← same]
  exact implies state holds

theorem Does.fail {error : E} :
    contract.Does exec thread pre (Try.fail error : Try Op Res E A) post :=
  nofun

theorem Does.ite {condition : Prop} [Decidable condition] {first second : Try Op Res E A}
    (yes : condition → contract.Does exec thread pre first post)
    (no : ¬condition → contract.Does exec thread pre second post) :
    contract.Does exec thread pre (if condition then first else second) post := by
  split_ifs with holds
  · exact yes holds
  · exact no holds

theorem Does.failIf {condition : Prop} [Decidable condition] {error : E}
    {post : Unit → S → Prop} (implies : ¬condition → ∀ state, pre state → post () state) :
    contract.Does exec thread pre (Try.failIf condition error : Try Op Res E Unit) post :=
  Does.ite (fun _ => Does.fail) fun passed => Does.pure (implies passed)

theorem Does.ofExcept {result : Except E A}
    (implies : ∀ value, result = .ok value → ∀ state, pre state → post value state) :
    contract.Does exec thread pre (Try.ofExcept result : Try Op Res E A) post :=
  fun state holds value same => implies value same state holds

theorem Does.strengthen {pre pre' : S → Prop} {program : Try Op Res E A}
    (does : contract.Does exec thread pre program post) (implies : ∀ state, pre' state → pre state) :
    contract.Does exec thread pre' program post :=
  Triple.strengthen does implies

theorem Does.weaken {program : Try Op Res E A} {post post' : A → S → Prop}
    (does : contract.Does exec thread pre program post)
    (implies : ∀ value state, post value state → post' value state) :
    contract.Does exec thread pre program post' :=
  Triple.weaken does fun _ state holds value same => implies value state (holds value same)

theorem Does.bind {program : Try Op Res E A} (middle : A → S → Prop)
    {next : A → Try Op Res E B} {post : B → S → Prop}
    (first : contract.Does exec thread pre program middle)
    (second : ∀ value, contract.Does exec thread (middle value) (next value) post) :
    contract.Does exec thread pre (Try.bind program next) post := by
  refine Triple.tryBind middle (Triple.weaken first ?_) second
  intro result state holds
  cases result with
  | ok value => exact holds value rfl
  | error error => exact nofun

theorem Does.require {condition : Prop} [Decidable condition] {error : E}
    {next : Unit → Try Op Res E B} {post : B → S → Prop}
    (rest : ¬condition → contract.Does exec thread pre (next ()) post) :
    contract.Does exec thread pre (Try.bind (Try.failIf condition error) next) post := by
  by_cases holds : condition
  · unfold Try.failIf
    rw [if_pos holds]
    exact Does.fail
  · unfold Try.failIf
    rw [if_neg holds]
    exact rest holds

theorem Does.given {fact : Prop} {program : Try Op Res E A}
    (onward : fact → contract.Does exec thread pre program post) :
    contract.Does exec thread (fun state => pre state ∧ fact) program post :=
  fun state holds => onward holds.2 state holds.1

theorem Does.frame {program : Try Op Res E A}
    {assertion : S → Prop} (stable : contract.Stable thread assertion)
    (kept : ∀ op choice state, contract.Inv state → contract.Guard thread op state →
      assertion state → assertion (exec op choice state).2)
    (does : contract.Does exec thread pre program post) :
    contract.Does exec thread (fun state => pre state ∧ assertion state) program
      fun value state => post value state ∧ assertion state :=
  fun state holds => ((does state holds.1).frame stable kept holds.2).weaken
    fun _ _ result value same => ⟨result.1 value same, result.2⟩

theorem Does.raising {into : E → F} {program : Prog Op Res (Except E A)}
    (does : contract.Does exec thread pre program post) :
    contract.Does exec thread pre (Try.raising into program) post := by
  refine Triple.raising (Triple.weaken does ?_)
  intro result state holds value same
  cases result with
  | ok other =>
    injection same with same
    exact holds value (by rw [same])
  | error error => exact nomatch same

theorem Does.lift (triple : contract.Triple exec thread pre program post) :
    contract.Does exec thread pre (Try.lift program : Try Op Res E A) post := by
  refine Triple.lift (Triple.weaken triple ?_)
  intro result state holds value same
  injection same with same
  rwa [← same]

def Attempts (contract : Contract T Op S) (exec : (op : Op) → Choice → S → Res op × S) (thread : T)
    (failed : E → S → Prop) (pre : S → Prop) (program : Try Op Res E A) (post : A → S → Prop) : Prop :=
  contract.Triple exec thread pre program fun result state =>
    match result with
    | .ok value => post value state
    | .error error => failed error state

section Attempts

variable {failed : E → S → Prop}

variable {pre : S → Prop} {post : A → S → Prop} {program : Try Op Res E A}

theorem Attempts.pure {value : A} (implies : ∀ state, pre state → post value state) :
    contract.Attempts exec thread failed pre (Pure.pure value : Try Op Res E A) post := implies

theorem Attempts.fail {error : E} (permitted : ∀ state, pre state → failed error state) :
    contract.Attempts exec thread failed pre (Try.fail error : Try Op Res E A) post := permitted

theorem Attempts.ite {condition : Prop} [Decidable condition] {first second : Try Op Res E A}
    (yes : condition → contract.Attempts exec thread failed pre first post)
    (no : ¬condition → contract.Attempts exec thread failed pre second post) :
    contract.Attempts exec thread failed pre (if condition then first else second) post := by
  split_ifs with holds
  · exact yes holds
  · exact no holds

theorem Attempts.ofExcept {result : Except E A}
    (permitted : ∀ error, result = .error error → ∀ state, pre state → failed error state)
    (implies : ∀ value, result = .ok value → ∀ state, pre state → post value state) :
    contract.Attempts exec thread failed pre (Try.ofExcept result : Try Op Res E A) post := by
  intro state holds
  cases result with
  | ok value => exact implies value rfl state holds
  | error error => exact permitted error rfl state holds

theorem Attempts.strengthen {pre pre' : S → Prop}
    (attempts : contract.Attempts exec thread failed pre program post)
    (implies : ∀ state, pre' state → pre state) :
    contract.Attempts exec thread failed pre' program post :=
  Triple.strengthen attempts implies

theorem Attempts.weaken {post post' : A → S → Prop}
    (attempts : contract.Attempts exec thread failed pre program post)
    (implies : ∀ value state, post value state → post' value state) :
    contract.Attempts exec thread failed pre program post' := by
  refine Triple.weaken attempts fun result state holds => ?_
  cases result with
  | ok value => exact implies value state holds
  | error error => exact holds

theorem Attempts.bind (middle : A → S → Prop) {next : A → Try Op Res E B} {post : B → S → Prop}
    (first : contract.Attempts exec thread failed pre program middle)
    (second : ∀ value, contract.Attempts exec thread failed (middle value) (next value) post) :
    contract.Attempts exec thread failed pre (Try.bind program next) post :=
  Triple.tryBind middle first second

theorem Attempts.given {fact : Prop}
    (onward : fact → contract.Attempts exec thread failed pre program post) :
    contract.Attempts exec thread failed (fun state => pre state ∧ fact) program post :=
  fun state holds => onward holds.2 state holds.1

-- An error that is always permitted need not be looked at.
theorem Does.attempts {into : F → E} {program : Prog Op Res (Except F A)}
    (permitted : ∀ error state, failed (into error) state)
    (does : contract.Does exec thread pre program post) :
    contract.Attempts exec thread failed pre (Try.raising into program) post := by
  refine Triple.raising (Triple.weaken does ?_)
  intro result state holds
  cases result with
  | ok value => exact holds value rfl
  | error error => exact permitted error state

theorem Attempts.raising {into : F → E} {program : Prog Op Res (Except F A)}
    (attempts : contract.Attempts exec thread (fun error state => failed (into error) state) pre program post) :
    contract.Attempts exec thread failed pre (Try.raising into program) post := by
  refine Triple.raising (Triple.weaken attempts ?_)
  intro result state holds
  cases result with
  | ok value => exact holds
  | error error => exact holds

theorem Attempts.lift {program : Prog Op Res A}
    (triple : contract.Triple exec thread pre program post) :
    contract.Attempts exec thread failed pre (Try.lift program : Try Op Res E A) post :=
  Triple.lift triple

end Attempts

def alone (inv : S → Prop) (guard : Op → S → Prop) : Contract Unit Op S where
  Inv := inv
  Guard _ := guard
  Rely _ before after := before = after

section Alone

variable {inv : S → Prop} {guard : Op → S → Prop}

theorem Stable.alone (assertion : S → Prop) : (Contract.alone inv guard).Stable () assertion := by
  intro state later holds same _
  rwa [← (same : state = later)]

theorem Safe.runPrefix {program : Prog Op Res A} {post : A → S → Prop} {state : S}
    (keeps : ∀ op choice state, inv state → guard op state → inv (exec op choice state).2)
    (initial : inv state) (safe : (Contract.alone inv guard).Safe exec () program post state)
    (choices : List Choice) :
    inv (runPrefix exec choices program state).2 ∧
      ∀ value, (runPrefix exec choices program state).1 = .done value →
        post value (runPrefix exec choices program state).2 := by
  induction program generalizing state choices with
  | done value =>
    cases choices <;>
    · refine ⟨initial, fun other same => ?_⟩
      injection same with same
      rwa [← same]
  | call op next ih =>
    cases choices with
    | nil => exact ⟨initial, nofun⟩
    | cons choice rest =>
      obtain ⟨allowed, onward⟩ := safe state rfl initial
      exact ih _ (keeps op choice state initial allowed) (onward choice) rest

theorem Safe.runAll {program : Prog Op Res A} {post : A → S → Prop} {state : S}
    (keeps : ∀ op choice state, inv state → guard op state → inv (exec op choice state).2)
    (initial : inv state) (safe : (Contract.alone inv guard).Safe exec () program post state)
    (choices : Nat → Choice) :
    inv (runAll exec choices program state).2 ∧
      post (runAll exec choices program state).1 (runAll exec choices program state).2 := by
  induction program generalizing state choices with
  | done value => exact ⟨initial, safe⟩
  | call op next ih =>
    obtain ⟨allowed, onward⟩ := safe state rfl initial
    exact ih _ (keeps op (choices 0) state initial allowed) (onward (choices 0)) _

-- What a program keeps by itself need not be asked of it again.
theorem Safe.under {inv' : S → Prop} {guard' : Op → S → Prop} {program : Prog Op Res A}
    {post : A → S → Prop} {state : S}
    (keeps : ∀ op choice state, inv state → guard op state → inv (exec op choice state).2)
    (implies : ∀ op state, inv state → guard op state → guard' op state) (initial : inv state)
    (safe : (Contract.alone inv guard).Safe exec () program post state) :
    (Contract.alone inv' guard').Safe exec () program (fun value state => inv state ∧ post value state)
      state := by
  induction program generalizing state with
  | done value => exact ⟨initial, safe⟩
  | call op next ih =>
    intro later same _
    rw [← (same : state = later)]
    obtain ⟨allowed, onward⟩ := safe state rfl initial
    exact ⟨implies op state initial allowed, fun choice =>
      ih _ (keeps op choice state initial allowed) (onward choice)⟩

end Alone

end Contract

structure Sound [DecidableEq T] (machine : Machine T Arg Env Op Res Choice S)
    (contract : Contract T Op S) (admits : T → Arg → Prop) : Prop where
  rely_refl : ∀ thread state, contract.Rely thread state state
  rely_trans : ∀ thread first second third, contract.Rely thread first second →
    contract.Rely thread second third → contract.Rely thread first third
  exec_keeps : ∀ thread op choice state, contract.Inv state → contract.Guard thread op state →
    contract.Inv (machine.exec op choice state).2
  exec_relies : ∀ thread other op choice state, other ≠ thread → contract.Inv state →
    contract.Guard thread op state → contract.Rely other state (machine.exec op choice state).2
  environment_keeps : ∀ action state, contract.Inv state →
    contract.Inv (machine.environment action state)
  environment_relies : ∀ thread action state, contract.Inv state →
    contract.Rely thread state (machine.environment action state)
  crash_keeps : ∀ state, contract.Inv state → contract.Inv (machine.crash state)
  program_safe : ∀ thread argument state, admits thread argument → contract.Inv state →
    contract.Safe machine.exec thread (machine.program thread argument) (fun _ _ => True) state

namespace Sound

variable [DecidableEq T] {machine : Machine T Arg Env Op Res Choice S} {contract : Contract T Op S}
variable {admits : T → Arg → Prop}

theorem safe_later (sound : Sound machine contract admits) {thread : T} {program : Prog Op Res Unit}
    {state later : S} (rely : contract.Rely thread state later)
    (safe : contract.Safe machine.exec thread program (fun _ _ => True) state) :
    contract.Safe machine.exec thread program (fun _ _ => True) later := by
  cases program with
  | done value => trivial
  | call op next =>
    intro beyond onward inv
    exact safe beyond (sound.rely_trans thread state later beyond rely onward) inv

def Respected (machine : Machine T Arg Env Op Res Choice S) (contract : Contract T Op S)
    (config : Config T Op Res S) : Prop :=
  contract.Inv config.state ∧
    ∀ thread, contract.Safe machine.exec thread (config.threads thread) (fun _ _ => True) config.state

omit [DecidableEq T] in
theorem idle_respected {state : S} (inv : contract.Inv state) :
    Respected machine contract (Machine.idle state) :=
  ⟨inv, fun _ => trivial⟩

variable {config : Config T Op Res S}

theorem respected_guard (sound : Sound machine contract admits)
    (respected : Respected machine contract config) {thread : T} {op : Op}
    {next : Res op → Prog Op Res Unit} (waiting : config.threads thread = .call op next) :
    contract.Guard thread op config.state := by
  have safe := respected.2 thread
  rw [waiting] at safe
  exact (safe config.state (sound.rely_refl thread config.state) respected.1).1

theorem step_respected (sound : Sound machine contract admits) {event : Event T Arg Env Choice}
    (admitted : event.Admitted admits)
    (respected : Respected machine contract config) :
    Respected machine contract (machine.step event config) := by
  obtain ⟨inv, safe⟩ := respected
  cases event with
  | advance thread choice =>
    simp only [Machine.step]
    split
    · exact ⟨inv, safe⟩
    · rename_i op next waiting
      have guard := sound.respected_guard ⟨inv, safe⟩ waiting
      refine ⟨sound.exec_keeps thread op choice config.state inv guard, fun other => ?_⟩
      by_cases same : other = thread
      · subst same
        have own := safe other
        rw [waiting] at own
        simpa using (own config.state (sound.rely_refl other config.state) inv).2 choice
      · simp only [Function.update_of_ne same]
        exact sound.safe_later
          (sound.exec_relies thread other op choice config.state same inv guard) (safe other)
  | start thread argument =>
    simp only [Machine.step]
    split
    · refine ⟨inv, fun other => ?_⟩
      by_cases same : other = thread
      · subst same
        simpa using sound.program_safe other argument config.state admitted inv
      · simpa only [Function.update_of_ne same] using safe other
    · exact ⟨inv, safe⟩
  | environment action =>
    exact ⟨sound.environment_keeps action config.state inv, fun thread =>
      sound.safe_later (sound.environment_relies thread action config.state inv) (safe thread)⟩
  | crash => exact ⟨sound.crash_keeps config.state inv, fun _ => trivial⟩

theorem run_respected (sound : Sound machine contract admits) {events : List (Event T Arg Env Choice)}
    (admitted : ∀ event ∈ events, event.Admitted admits)
    (respected : Respected machine contract config) :
    Respected machine contract (machine.run events config) := by
  induction events generalizing config with
  | nil => exact respected
  | cons event rest ih =>
    obtain ⟨first, others⟩ := List.forall_mem_cons.mp admitted
    exact ih others (sound.step_respected first respected)

theorem run_invariant (sound : Sound machine contract admits) (holds : S → Prop)
    (granted : Op → S → Prop)
    (exec : ∀ thread op choice state, contract.Inv state → contract.Guard thread op state →
      granted op state → holds state → holds (machine.exec op choice state).2)
    (environment : ∀ action state, contract.Inv state → holds state →
      holds (machine.environment action state))
    (crash : ∀ state, contract.Inv state → holds state → holds (machine.crash state))
    {events : List (Event T Arg Env Choice)} (admitted : ∀ event ∈ events, event.Admitted admits)
    (along : machine.Along (Event.Granted granted) events config)
    (respected : Respected machine contract config) (initial : holds config.state) :
    holds (machine.run events config).state := by
  induction events generalizing config with
  | nil => exact initial
  | cons event rest ih =>
    obtain ⟨first, others⟩ := List.forall_mem_cons.mp admitted
    refine ih others along.2 (sound.step_respected first respected) ?_
    cases event with
    | advance thread choice =>
      simp only [Machine.step]
      split
      · exact initial
      · rename_i op next waiting
        exact exec thread op choice config.state respected.1
          (sound.respected_guard respected waiting) (along.1 op next waiting) initial
    | start thread argument =>
      simp only [Machine.step]
      split <;> exact initial
    | environment action => exact environment action config.state respected.1 initial
    | crash => exact crash config.state respected.1 initial

end Sound

end Interleaving
