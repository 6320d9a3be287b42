import McServer.Library.Interleaving

set_option autoImplicit false

namespace Interleaving

variable {T Arg Env Op Choice S A B E F : Type} {Res : Op → Type}

theorem Machine.along_append [DecidableEq T] {machine : Machine T Arg Env Op Res Choice S}
    {condition : Event T Arg Env Choice → Config T Op Res S → Prop}
    {first second : List (Event T Arg Env Choice)} {config : Config T Op Res S} :
    machine.Along condition (first ++ second) config ↔
      machine.Along condition first config ∧ machine.Along condition second (machine.run first config) := by
  induction first generalizing config with
  | nil => simp [Along]
  | cons event rest ih => simp [Along, ih, and_assoc]

structure Watch (Op Choice S : Type) where
  base : S → Prop
  rest : S → Prop
  drift : Op → S → S → Prop
  admits : Op → Choice → S → Prop
  guard : Op → S → Prop

namespace Watch

variable (watch : Watch Op Choice S) (exec : (op : Op) → Choice → S → Res op × S)

def Safe : Prog Op Res A → (A → S → Prop) → S → Prop
  | .done value, post, state => post value state
  | .call op next, post, state =>
      ∀ later, watch.drift op state later → watch.base later →
        watch.guard op later ∧
          ∀ choice, watch.admits op choice later →
            Safe (next (exec op choice later).1) post (exec op choice later).2

-- The program respects the guards, and what held before still holds afterwards.
def Modest (held : S → Prop) (program : Prog Op Res A) : Prop :=
  ∀ state, held state → watch.Safe exec program (fun _ state => held state) state

def Permits (held : S → Prop) (op : Op) : Prop :=
  ∀ state later, held state → watch.drift op state later → watch.base later →
    watch.guard op later ∧ ∀ choice, watch.admits op choice later → held (exec op choice later).2

variable {watch exec}

theorem Safe.weaken {program : Prog Op Res A} {post post' : A → S → Prop} {state : S}
    (safe : watch.Safe exec program post state)
    (implies : ∀ value state, post value state → post' value state) :
    watch.Safe exec program post' state := by
  induction program generalizing state with
  | done value => exact implies value state safe
  | call op next ih =>
    intro later drift base
    obtain ⟨guard, onward⟩ := safe later drift base
    exact ⟨guard, fun choice admitted => ih _ (onward choice admitted)⟩

theorem Safe.bind {program : Prog Op Res A} {next : A → Prog Op Res B} {post : B → S → Prop}
    {state : S}
    (safe : watch.Safe exec program (fun value state => watch.Safe exec (next value) post state) state) :
    watch.Safe exec (program.bind next) post state := by
  induction program generalizing state with
  | done value => exact safe
  | call op rest ih =>
    intro later drift base
    obtain ⟨guard, onward⟩ := safe later drift base
    exact ⟨guard, fun choice admitted => ih _ (onward choice admitted)⟩

theorem Safe.tryBind {program : Try Op Res E A} {next : A → Try Op Res E B}
    {middle : Except E A → S → Prop} {post : Except E B → S → Prop} {state : S}
    (safe : watch.Safe exec program middle state)
    (failed : ∀ error state, middle (.error error) state → post (.error error) state)
    (onward : ∀ value state, middle (.ok value) state → watch.Safe exec (next value) post state) :
    watch.Safe exec (Try.bind program next) post state := by
  refine Safe.bind (safe.weaken fun result state reached => ?_)
  cases result with
  | ok value => exact onward value state reached
  | error error => exact failed error state reached

theorem Safe.require {condition : Prop} [Decidable condition] {error : E} {next : Unit → Try Op Res E B}
    {post : Except E B → S → Prop} {state : S} (failed : condition → post (.error error) state)
    (onward : ¬condition → watch.Safe exec (next ()) post state) :
    watch.Safe exec (Try.bind (Try.failIf condition error) next) post state := by
  unfold Try.failIf
  by_cases holds : condition
  · rw [if_pos holds]
    exact failed holds
  · rw [if_neg holds]
    exact onward holds

theorem Modest.perform {held : S → Prop} {op : Op} (permitted : watch.Permits exec held op) :
    watch.Modest exec held (Prog.perform op : Prog Op Res (Res op)) :=
  fun state holds later => permitted state later holds

theorem Modest.bind {held : S → Prop} {program : Prog Op Res A} {next : A → Prog Op Res B}
    (first : watch.Modest exec held program) (second : ∀ value, watch.Modest exec held (next value)) :
    watch.Modest exec held (program.bind next) :=
  fun state holds => ((first state holds).weaken second).bind

section Contracts

variable {contract : Contract T Op S} {thread : T} {held : S → Prop}

def ofContract (contract : Contract T Op S) (thread : T) : Watch Op Choice S where
  base := contract.Inv
  rest _ := True
  drift _ := contract.Rely thread
  admits _ _ _ := True
  guard := contract.Guard thread

theorem permits_of_triple {op : Op}
    (keeps : contract.Triple exec thread held (Prog.perform op) fun _ => held) :
    (ofContract contract thread).Permits exec held op := by
  intro state later holds rely inv
  obtain ⟨guard, onward⟩ := keeps state holds later rely inv
  exact ⟨guard, fun choice _ => onward choice⟩

theorem Safe.under {program : Prog Op Res A} {post : A → S → Prop} {state : S}
    (safe : (ofContract contract thread).Safe exec program post state) :
    contract.Safe exec thread program post state := by
  induction program generalizing state with
  | done value => exact safe
  | call op next ih =>
    intro later rely inv
    obtain ⟨guard, onward⟩ := safe later rely inv
    exact ⟨guard, fun choice => ih _ (onward choice trivial)⟩

theorem Modest.does {program : Try Op Res E A}
    (modest : (ofContract contract thread).Modest exec held program) :
    contract.Does exec thread held program fun _ => held :=
  fun state holds => ((modest state holds).weaken fun _ _ holds _ _ => holds).under

end Contracts

section Run

variable [DecidableEq T] {machine : Machine T Arg Env Op Res Choice S} {thread : T}

structure Around (watch : Watch Op Choice S) (machine : Machine T Arg Env Op Res Choice S) (thread : T)
    (event : Event T Arg Env Choice) (config : Config T Op Res S) : Prop where
  base : watch.base config.state
  answers : ∀ op next choice, config.threads thread = .call op next → event = .advance thread choice →
    watch.admits op choice config.state
  drifts : ∀ op next, config.threads thread = .call op next → (∀ choice, event ≠ .advance thread choice) →
    watch.drift op config.state (machine.step event config).state
  rests : config.threads thread = .done () → (∀ choice, event ≠ .advance thread choice) →
    watch.rest config.state → watch.rest (machine.step event config).state
  crash : event = .crash → watch.rest (machine.step event config).state

theorem Safe.later (composed : ∀ op first second third, watch.drift op first second →
      watch.drift op second third → watch.drift op first third)
    {op : Op} {next : Res op → Prog Op Res A} {post : A → S → Prop} {state later : S}
    (drift : watch.drift op state later) (safe : watch.Safe exec (.call op next) post state) :
    watch.Safe exec (.call op next) post later :=
  fun beyond onward base => safe beyond (composed op state later beyond drift onward) base

theorem step_safe (still : ∀ op state, watch.drift op state state)
    (composed : ∀ op first second third, watch.drift op first second →
      watch.drift op second third → watch.drift op first third)
    (started : ∀ task, watch.Modest machine.exec watch.rest (machine.program thread task))
    {event : Event T Arg Env Choice} {config : Config T Op Res S}
    (around : watch.Around machine thread event config)
    (safe : watch.Safe machine.exec (config.threads thread) (fun _ => watch.rest) config.state) :
    watch.Safe machine.exec ((machine.step event config).threads thread) (fun _ => watch.rest)
      (machine.step event config).state := by
  -- The thread goes on where it was, or it is the one that moves.
  have waits : (machine.step event config).threads thread = config.threads thread →
      (∀ choice, event ≠ .advance thread choice) →
      watch.Safe machine.exec ((machine.step event config).threads thread) (fun _ => watch.rest)
        (machine.step event config).state := by
    intro same other
    rw [same]
    cases waiting : config.threads thread with
    | done value =>
      rw [waiting] at safe
      exact around.rests waiting other safe
    | call op next =>
      rw [waiting] at safe
      exact safe.later composed (around.drifts op next waiting other)
  cases event with
  | advance actor choice =>
    by_cases own : actor = thread
    · subst own
      simp only [Machine.step]
      cases waiting : config.threads actor with
      | done value => simpa [waiting] using safe
      | call op next =>
        rw [waiting] at safe
        have admitted := around.answers op next choice waiting rfl
        simpa using (safe config.state (still op config.state) around.base).2 choice admitted
    · refine waits ?_ (by rintro choice' ⟨⟩; exact own rfl)
      simp only [Machine.step]
      split
      · rfl
      · simp [Function.update_of_ne (Ne.symm own)]
  | start actor task =>
    by_cases own : actor = thread
    · subst own
      simp only [Machine.step]
      split
      · rename_i free
        cases waiting : config.threads actor with
        | done value =>
          rw [waiting] at safe
          simpa using started task config.state safe
        | call op next => simp [waiting, Prog.finished] at free
      · exact safe
    · refine waits ?_ (by simp)
      simp only [Machine.step]
      split
      · simp [Function.update_of_ne (Ne.symm own)]
      · rfl
  | environment action => exact waits rfl (by simp)
  | crash => exact around.crash rfl

theorem run_safe (still : ∀ op state, watch.drift op state state)
    (composed : ∀ op first second third, watch.drift op first second →
      watch.drift op second third → watch.drift op first third)
    (started : ∀ task, watch.Modest machine.exec watch.rest (machine.program thread task))
    {events : List (Event T Arg Env Choice)} {config : Config T Op Res S}
    (around : machine.Along (watch.Around machine thread) events config)
    (safe : watch.Safe machine.exec (config.threads thread) (fun _ => watch.rest) config.state) :
    watch.Safe machine.exec ((machine.run events config).threads thread) (fun _ => watch.rest)
      (machine.run events config).state := by
  induction events generalizing config with
  | nil => exact safe
  | cons event rest ih => exact ih around.2 (step_safe still composed started around.1 safe)

end Run

end Watch

end Interleaving
