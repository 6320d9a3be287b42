import McServer.Library.Interleaving

set_option autoImplicit false

namespace Interleaving

variable {T Arg Env Op Choice S A B : Type} {Res : Op → Type}

structure Took (Op Choice S : Type) where
  op : Op
  choice : Choice
  before : S

section Following

variable (exec : (op : Op) → Choice → S → Res op × S)

def Took.after (took : Took Op Choice S) : S := (exec took.op took.choice took.before).2

inductive Followed (program : Prog Op Res A) : List (Took Op Choice S) → Prog Op Res A → Prop
  | start : Followed program [] program
  | step {steps : List (Took Op Choice S)} {op : Op} {next : Res op → Prog Op Res A}
      (followed : Followed program steps (.call op next)) (choice : Choice) (before : S) :
      Followed program (⟨op, choice, before⟩ :: steps) (next (exec op choice before).1)

-- A program that is looked at through its own steps only.
def retrace (op : Op) (given : Choice × S) (steps : List (Took Op Choice S)) :
    Res op × List (Took Op Choice S) :=
  ((exec op given.1 given.2).1, ⟨op, given.1, given.2⟩ :: steps)

variable {exec} {program rest : Prog Op Res A} {steps : List (Took Op Choice S)}
variable {known : List (Took Op Choice S) → Prop} {guard : Op → List (Took Op Choice S) → Prop}
variable {post : A → List (Took Op Choice S) → Prop}

theorem Followed.of_done {value : A} (followed : Followed exec (.done value) steps rest) :
    rest = .done value := by
  induction followed with
  | start => rfl
  | step followed choice before ih => cases ih

theorem Followed.safe (earlier : ∀ step steps, known (step :: steps) → known steps)
    (safe : (Contract.alone known guard).Safe (retrace exec) () program post [])
    (followed : Followed exec program steps rest) (holds : known steps) :
    (Contract.alone known guard).Safe (retrace exec) () rest post steps := by
  induction followed with
  | start => exact safe
  | @step steps op next followed choice before ih =>
    have passed := earlier _ _ holds
    exact (ih passed steps rfl passed).2 (choice, before)

theorem Followed.asks (earlier : ∀ step steps, known (step :: steps) → known steps)
    (safe : (Contract.alone known guard).Safe (retrace exec) () program post []) {op : Op}
    {next : Res op → Prog Op Res A} (followed : Followed exec program steps (.call op next))
    (holds : known steps) : guard op steps :=
  (Followed.safe earlier safe followed holds steps rfl holds).1

end Following

section Runs

variable [DecidableEq T]

def Config.observe (config : Config T Op Res S) (event : Event T Arg Env Choice)
    (record : T → List (Took Op Choice S)) : T → List (Took Op Choice S) :=
  match event with
  | .advance thread choice =>
      match config.threads thread with
      | .done _ => record
      | .call op _ => Function.update record thread (⟨op, choice, config.state⟩ :: record thread)
  | .start thread _ =>
      if (config.threads thread).finished then Function.update record thread [] else record
  | .environment _ => record
  | .crash => fun _ => []

def Machine.record (machine : Machine T Arg Env Op Res Choice S) :
    List (Event T Arg Env Choice) → Config T Op Res S → (T → List (Took Op Choice S)) →
      T → List (Took Op Choice S)
  | [], _, sofar => sofar
  | event :: rest, config, sofar =>
      machine.record rest (machine.step event config) (config.observe event sofar)

theorem Machine.record_append (machine : Machine T Arg Env Op Res Choice S)
    (first second : List (Event T Arg Env Choice)) (config : Config T Op Res S)
    (sofar : T → List (Took Op Choice S)) :
    machine.record (first ++ second) config sofar =
      machine.record second (machine.run first config) (machine.record first config sofar) := by
  induction first generalizing config sofar with
  | nil => rfl
  | cons event rest ih => exact ih (machine.step event config) (config.observe event sofar)

theorem Config.mem_observe {config : Config T Op Res S} {event : Event T Arg Env Choice}
    {record : T → List (Took Op Choice S)} {thread : T} {took : Took Op Choice S}
    (member : took ∈ config.observe event record thread) :
    took ∈ record thread ∨ took.before = config.state := by
  cases event with
  | advance other choice =>
    cases waiting : config.threads other with
    | done value =>
      simp only [Config.observe, waiting] at member
      exact .inl member
    | call op next =>
      simp only [Config.observe, waiting] at member
      by_cases same : thread = other
      · subst same
        rw [Function.update_self] at member
        rcases List.mem_cons.mp member with rfl | old
        · exact .inr rfl
        · exact .inl old
      · rw [Function.update_of_ne same] at member
        exact .inl member
  | start other argument =>
    by_cases free : (config.threads other).finished = true
    · simp only [Config.observe, free, if_true] at member
      by_cases same : thread = other
      · subst same
        rw [Function.update_self] at member
        cases member
      · rw [Function.update_of_ne same] at member
        exact .inl member
    · simp only [Config.observe, free] at member
      exact .inl member
  | environment action => exact .inl member
  | crash => cases member

theorem Machine.mem_record (machine : Machine T Arg Env Op Res Choice S)
    {events : List (Event T Arg Env Choice)} {config : Config T Op Res S}
    {sofar : T → List (Took Op Choice S)} {thread : T} {took : Took Op Choice S}
    (member : took ∈ machine.record events config sofar thread) :
    took ∈ sofar thread ∨
      ∃ earlier, earlier <+: events ∧ took.before = (machine.run earlier config).state := by
  induction events generalizing config sofar with
  | nil => exact .inl member
  | cons event rest ih =>
    rcases ih member with before | ⟨earlier, part, same⟩
    · rcases Config.mem_observe before with old | new
      · exact .inl old
      · exact .inr ⟨[], List.nil_prefix, new⟩
    · exact .inr ⟨event :: earlier, List.cons_prefix_cons.mpr ⟨rfl, part⟩, same⟩

end Runs

namespace Contract

variable (contract : Contract T Op S) (exec : (op : Op) → Choice → S → Res op × S) (thread : T)

def Since (steps : List (Took Op Choice S)) (state : S) : Prop :=
  ∀ last ∈ steps.head?, contract.Rely thread (last.after exec) state

def Recorded : List (Took Op Choice S) → Prop
  | [] => True
  | step :: earlier => contract.Inv step.before ∧ contract.Guard thread step.op step.before ∧
      contract.Since exec thread earlier step.before ∧ Recorded earlier

variable {contract exec thread}

theorem Recorded.mem {steps : List (Took Op Choice S)} (recorded : contract.Recorded exec thread steps) :
    ∀ step ∈ steps, contract.Inv step.before ∧ contract.Guard thread step.op step.before := by
  induction steps with
  | nil => exact nofun
  | cons last rest ih =>
    exact List.forall_mem_cons.mpr ⟨⟨recorded.1, recorded.2.1⟩, ih recorded.2.2.2⟩

end Contract

namespace Sound

variable [DecidableEq T] {machine : Machine T Arg Env Op Res Choice S} {contract : Contract T Op S}
variable {admits : T → Arg → Prop}

structure Traced (machine : Machine T Arg Env Op Res Choice S) (contract : Contract T Op S)
    (config : Config T Op Res S) (thread : T) (steps : List (Took Op Choice S)) : Prop where
  followed : ∃ program, (program = .done () ∨ ∃ argument, program = machine.program thread argument) ∧
    Followed machine.exec program steps (config.threads thread)
  recorded : contract.Recorded machine.exec thread steps
  since : contract.Since machine.exec thread steps config.state

omit [DecidableEq T] in
theorem Traced.later {config later : Config T Op Res S} {thread : T} {steps : List (Took Op Choice S)}
    (trans : ∀ first second third, contract.Rely thread first second →
      contract.Rely thread second third → contract.Rely thread first third)
    (traced : Traced machine contract config thread steps)
    (same : later.threads thread = config.threads thread)
    (rely : contract.Rely thread config.state later.state) :
    Traced machine contract later thread steps where
  followed := by rw [same]; exact traced.followed
  recorded := traced.recorded
  since last member := trans _ _ _ (traced.since last member) rely

theorem step_traced (sound : Sound machine contract admits) {event : Event T Arg Env Choice}
    {config : Config T Op Res S} (respected : Respected machine contract config)
    {record : T → List (Took Op Choice S)}
    (traced : ∀ thread, Traced machine contract config thread (record thread)) :
    ∀ thread, Traced machine contract (machine.step event config) thread
      (config.observe event record thread) := by
  intro thread
  have fresh : ∀ {program : Prog Op Res Unit} {config : Config T Op Res S},
      (program = .done () ∨ ∃ argument, program = machine.program thread argument) →
      config.threads thread = program → Traced machine contract config thread [] := by
    intro program config started same
    exact ⟨⟨program, started, by rw [same]; exact .start⟩, trivial, nofun⟩
  cases event with
  | advance other choice =>
    cases waiting : config.threads other with
    | done value =>
      simp only [Machine.step, Config.observe, waiting]
      exact traced thread
    | call op next =>
      simp only [Machine.step, Config.observe, waiting]
      have guard := sound.respected_guard respected waiting
      by_cases same : thread = other
      · subst same
        obtain ⟨program, started, followed⟩ := (traced thread).followed
        rw [waiting] at followed
        simp only [Function.update_self]
        refine ⟨⟨program, started, ?_⟩,
          ⟨respected.1, guard, (traced thread).since, (traced thread).recorded⟩, ?_⟩
        · simpa using followed.step choice config.state
        · intro last member
          obtain rfl := Option.some.inj member
          exact sound.rely_refl thread _
      · rw [Function.update_of_ne same]
        exact (traced thread).later (sound.rely_trans thread) (Function.update_of_ne same _ _)
          (sound.exec_relies other thread op choice config.state same respected.1 guard)
  | start other argument =>
    by_cases free : (config.threads other).finished = true
    · simp only [Machine.step, Config.observe, free, if_true]
      by_cases same : thread = other
      · subst same
        simp only [Function.update_self]
        exact fresh (.inr ⟨argument, rfl⟩) (by simp)
      · rw [Function.update_of_ne same]
        exact (traced thread).later (sound.rely_trans thread) (Function.update_of_ne same _ _)
          (sound.rely_refl thread _)
    · simp only [Machine.step, Config.observe, free]
      exact traced thread
  | environment action =>
    exact (traced thread).later (sound.rely_trans thread) rfl
      (sound.environment_relies thread action config.state respected.1)
  | crash => exact @fresh _ (machine.step .crash config) (.inl rfl) rfl

theorem run_traced (sound : Sound machine contract admits) {events : List (Event T Arg Env Choice)}
    (admitted : ∀ event ∈ events, event.Admitted admits) {config : Config T Op Res S}
    (respected : Respected machine contract config) {record : T → List (Took Op Choice S)}
    (traced : ∀ thread, Traced machine contract config thread (record thread)) :
    ∀ thread, Traced machine contract (machine.run events config) thread
      (machine.record events config record thread) := by
  induction events generalizing config record with
  | nil => exact traced
  | cons event rest ih =>
    obtain ⟨first, others⟩ := List.forall_mem_cons.mp admitted
    exact ih others (sound.step_respected first respected) (sound.step_traced respected traced)

end Sound

end Interleaving
