import McServer.System.Soundness

set_option autoImplicit false

namespace McServer.System

open Domain Store Agent ControlPlane Interleaving Interleaving.Contract

abbrev Step := Took Op Choice World

def replying : Prog Op Op.Res Unit → Option (ClientRequest × Except ApplicationError Server)
  | .call (.reply _ request result) _ => some (request, result)
  | _ => none

theorem of_replying {program : Prog Op Op.Res Unit} {request : ClientRequest}
    {result : Except ApplicationError Server} (replies : replying program = some (request, result)) :
    ∃ since next, program = .call (.reply since request result) next := by
  cases program with
  | done value => cases replies
  | call op next =>
    cases op with
    | reply since asked given =>
      injection replies with same
      injection same with sameRequest sameResult
      subst sameRequest sameResult
      exact ⟨since, next, rfl⟩
    | _ => cases replies

def Gives (statement : DbOp) (value : statement.Value) (step : Step) : Prop :=
  ∃ choice before, step = ⟨.db statement, choice, before⟩ ∧ (exec (.db statement) choice before).1 = .ok value

theorem Gives.query {statement : DbOp} {value : statement.Value} {step : Step}
    (answered : Gives statement value step) : (statement.query step.before.db).1 = .ok value ∧
      (step.after exec).db = (statement.query step.before.db).2 := by
  obtain ⟨choice, before, rfl, accepted⟩ := answered
  obtain ⟨answered, after⟩ := exec_db_value accepted
  exact ⟨answered, by rw [Took.after, after]; rfl⟩

def Fails (statement : DbOp) (error : RepositoryError) (step : Step) : Prop :=
  ∃ choice before, step = ⟨.db statement, choice, before⟩ ∧
    (exec (.db statement) choice before).1 = .error error

def Unclocked (error : TimestampError) (step : Step) : Prop :=
  step.op = .clock ∧ step.choice.now = .error error

def looks : Op → Bool
  | .db statement => isLookup statement
  | .clock | .newUuid | .begin => true
  | _ => false

inductive Lost (step : Step) : Prop
  | spec {server : Server} {previous : Nat} (answered : Gives (.updateSpec server previous) false step)
  | desiredState {server : Server} {previous : Nat}
      (answered : Gives (.updateDesiredState server previous) false step)
  | archive {server : Server} {previous : Nat}
      (answered : Gives (.archiveServer server previous) false step)

def Harmless (step : Step) : Prop := looks step.op = true ∨ Lost step

inductive Replaces (old server : Server) (step : Step) : Prop
  | spec {spec : ServerSpec} {now : UnixTimestampMillis}
      (changed : (old.updateSpec spec now).1 = .ok true) (drafted : server = (old.updateSpec spec now).2)
      (answered : Gives (.updateSpec server old.generation) true step)
  | desiredState {desired : DesiredState} {now : UnixTimestampMillis}
      (changed : (old.setDesiredState desired now).1 = .ok true)
      (drafted : server = (old.setDesiredState desired now).2)
      (answered : Gives (.updateDesiredState server old.generation) true step)
  | archive {now : UnixTimestampMillis} (changed : (old.archive now).1 = .ok true)
      (drafted : server = (old.archive now).2)
      (answered : Gives (.archiveServer server old.generation) true step)

inductive Did (request : ClientRequest) (steps : List Step) (server : Server) : Prop
  | kept {name : ServerName} {read : Step} (parsed : ServerName.new (requestedName request) = .ok name)
      (member : read ∈ steps) (answered : Gives (.getServerByName name) (some server) read)
      (harmless : ∀ step ∈ steps, Harmless step)
      (stated : ∀ generation, expectedGeneration request = some generation → generation = server.generation)
  | wrote {name : ServerName} {read write : Step} {earlier : List Step} {old : Server}
      (parsed : ServerName.new (requestedName request) = .ok name) (split : steps = write :: earlier)
      (member : read ∈ earlier) (answered : Gives (.getServerByName name) (some old) read)
      (replaced : Replaces old server write) (harmless : ∀ step ∈ earlier, Harmless step)
      (stated : ∀ generation, expectedGeneration request = some generation → generation = old.generation)
  | created {write : Step} {earlier : List Step} (split : steps = write :: earlier)
      (answered : Gives (.createServer server) () write) (harmless : ∀ step ∈ earlier, Harmless step)
      (named : server.name.asStr = requestedName request) (free : expectedGeneration request = none)

def SpecFor (setup : Setup) : ClientRequest → Server → Prop
  | .apply _ desired _, server => desired.resolve (some server.spec.data) none = .ok server.spec ∨
      desired.resolve none (ServerService.r2Repository setup.r2RepositoryBase server.name) = .ok server.spec
  | _, _ => True

def LostTimes (count : Nat) (steps : List Step) : Prop :=
  ∃ lost : List Step, lost.Sublist steps ∧ lost.length = count ∧ ∀ step ∈ lost, Lost step

inductive Invalid (setup : Setup) (name : String) (desired : DesiredServerSpec) (error : ValidationError)
    (steps : List Step) : Prop
  | name (refused : ServerName.new name = .error error)
  | spec {parsed : ServerName} {read : Step} {server : Server} (member : read ∈ steps)
      (named : parsed.asStr = name) (answered : Gives (.getServerByName parsed) (some server) read)
      (refused : desired.resolve (some server.spec.data) none = .error error)
  | update {parsed : ServerName} {read : Step} {server : Server} {spec : ServerSpec}
      {now : UnixTimestampMillis} (member : read ∈ steps) (named : parsed.asStr = name)
      (answered : Gives (.getServerByName parsed) (some server) read)
      (resolved : desired.resolve (some server.spec.data) none = .ok spec)
      (refused : (server.updateSpec spec now).1 = .error error)
  | resolve {parsed : ServerName} (named : parsed.asStr = name)
      (refused : desired.resolve none (ServerService.r2Repository setup.r2RepositoryBase parsed) = .error error)
  | create {parsed : ServerName} {id : ServerId} {spec : ServerSpec} {now : UnixTimestampMillis}
      (named : parsed.asStr = name)
      (resolved : desired.resolve none (ServerService.r2Repository setup.r2RepositoryBase parsed) = .ok spec)
      (refused : Server.new id parsed spec now = .error error)

def upserts : DbOp → Bool
  | .getServerByName _ | .createServer _ | .updateSpec _ _ => true
  | _ => false

def ApplyFails (setup : Setup) (name : String) (desired : DesiredServerSpec) (expected : Option Nat) :
    ApplicationError → List Step → Prop
  | .validation error, steps => Invalid setup name desired error steps
  | .repository error, steps => expected = none → ∃ step ∈ steps, ∃ statement,
      upserts statement = true ∧ Fails statement error step
  | .timestamp error, steps => ∃ step ∈ steps, Unclocked error step
  | .concurrentUpdate, steps => expected = none ∧ LostTimes 3 steps
  | .notFound, _ | .generationConflict _ _, _ => expected.isSome
  | .serverHasActiveInstance, _ => False

def Failed (setup : Setup) : ClientRequest → ApplicationError → List Step → Prop
  | .apply name desired expected => ApplyFails setup name desired expected
  | _ => fun _ _ => True

def Intends (setup : Setup) : ClientRequest → DbOp → List Step → Prop
  | .apply name desired _, .createServer server, _ => server.name.asStr = name ∧
      desired.resolve none (ServerService.r2Repository setup.r2RepositoryBase server.name) =
        .ok server.spec ∧ server.desiredState = .stopped ∧ server.archivedAt = none
  | .apply name desired _, .updateSpec _ _, steps => ∃ parsed : ServerName, parsed.asStr = name ∧
      ∃ read ∈ steps, ∃ server, Gives (.getServerByName parsed) (some server) read ∧
        ∃ spec, desired.resolve (some server.spec.data) none = .ok spec ∧ server.spec ≠ spec
  | .apply _ _ _, .updateDesiredState _ _, _ | .apply _ _ _, .archiveServer _ _, _ => False
  | _, _, _ => True

def Showing (setup : Setup) (request : ClientRequest) : Op → List Step → Prop
  | .reply _ answered result, steps => answered = request ∧
      match result with
      | .ok server => Did request steps server ∧ SpecFor setup request server
      | .error error => Failed setup request error steps
  | .db statement, steps => Intends setup request statement steps
  | _, _ => True

section Walk

variable {setup : Setup} {request : ClientRequest}

abbrev tracing (setup : Setup) (request : ClientRequest) : Contract Unit Op (List Step) :=
  Contract.alone (fun _ => True) (Showing setup request)

abbrev Traces (setup : Setup) (request : ClientRequest) {A : Type}
    (failed : ApplicationError → List Step → Prop) (pre : List Step → Prop) (program : Service A)
    (post : A → List Step → Prop) : Prop :=
  (tracing setup request).Attempts (retrace exec) () failed pre program post

structure Covers (asks : DbOp → Prop) (failed : ApplicationError → List Step → Prop) : Prop where
  repository : ∀ statement error step steps, asks statement → Fails statement error step →
    failed (.repository error) (step :: steps)
  timestamp : ∀ error step steps, Unclocked error step → failed (.timestamp error) (step :: steps)

def Pending (count : Nat) (steps : List Step) : Prop :=
  (∀ step ∈ steps, Harmless step) ∧ LostTimes count steps

def HasRead (name : ServerName) (server : Server) (steps : List Step) : Prop :=
  ∃ read ∈ steps, Gives (.getServerByName name) (some server) read

def Growing (assertion : List Step → Prop) : Prop :=
  ∀ step steps, looks step.op = true → assertion steps → assertion (step :: steps)

theorem Growing.and {first second : List Step → Prop} (left : Growing first) (right : Growing second) :
    Growing fun steps => first steps ∧ second steps :=
  fun step steps only held => ⟨left step steps only held.1, right step steps only held.2⟩

theorem Pending.growing (count : Nat) : Growing (Pending count) := by
  rintro step steps only ⟨harmless, lost, part, length, all⟩
  exact ⟨List.forall_mem_cons.mpr ⟨.inl only, harmless⟩, lost, part.cons step, length, all⟩

theorem Pending.lost {count : Nat} {step : Step} {steps : List Step} (pending : Pending count steps)
    (late : Lost step) : Pending (count + 1) (step :: steps) := by
  obtain ⟨harmless, lost, part, length, all⟩ := pending
  exact ⟨List.forall_mem_cons.mpr ⟨.inr late, harmless⟩, step :: lost, part.cons_cons step, by simp [length],
    List.forall_mem_cons.mpr ⟨late, all⟩⟩

theorem HasRead.growing (name : ServerName) (server : Server) : Growing (HasRead name server) := by
  rintro step steps - ⟨read, member, answered⟩
  exact ⟨read, List.mem_cons_of_mem step member, answered⟩

section Rules

variable {asks : DbOp → Prop} {failed : ApplicationError → List Step → Prop} (covers : Covers asks failed)
variable {pre : List Step → Prop}

theorem performed (op : Op) (shown : ∀ steps, pre steps → Showing setup request op steps) :
    (tracing setup request).Triple (retrace exec) () pre (Prog.perform op) fun result steps =>
      ∃ choice before earlier, steps = ⟨op, choice, before⟩ :: earlier ∧ pre earlier ∧
        result = (exec op choice before).1 :=
  Triple.perform (Contract.Stable.alone pre) fun steps _ held =>
    ⟨shown steps held, fun given => ⟨given.1, given.2, steps, rfl, held, rfl⟩⟩

include covers

theorem statement_traces (statement : DbOp) (asked : asks statement)
    (shown : ∀ steps, pre steps → Intends setup request statement steps) :
    Traces setup request failed pre (db .repository statement) fun value steps =>
      ∃ step earlier, steps = step :: earlier ∧ pre earlier ∧ Gives statement value step := by
  refine Triple.raising ((performed (.db statement) shown).weaken ?_)
  rintro result steps ⟨choice, before, earlier, rfl, held, same⟩
  cases result with
  | ok value => exact ⟨_, earlier, rfl, held, choice, before, rfl, same.symm⟩
  | error error => exact covers.repository statement error _ earlier asked ⟨choice, before, rfl, same.symm⟩

theorem clock_traces (growing : Growing pre) :
    Traces setup request failed pre (clock .timestamp) fun _ => pre := by
  refine Triple.raising ((performed .clock fun _ _ => trivial).weaken ?_)
  rintro result steps ⟨choice, before, earlier, rfl, held, same⟩
  cases result with
  | ok value => exact growing _ earlier rfl held
  | error error => exact covers.timestamp error _ earlier ⟨rfl, same.symm⟩

omit covers in
theorem newUuid_traces (growing : Growing pre) : Traces setup request failed pre newUuid fun _ => pre := by
  refine Attempts.lift ((performed .newUuid fun _ _ => trivial).weaken ?_)
  rintro result steps ⟨choice, before, earlier, rfl, held, -⟩
  exact growing _ earlier rfl held

omit covers in
theorem validated_traces {A : Type} (result : Except ValidationError A)
    (refused : ∀ error, result = .error error → ∀ steps, pre steps → failed (.validation error) steps) :
    Traces setup request failed pre (ServerService.validated result)
      fun value steps => pre steps ∧ result = .ok value := by
  cases result with
  | ok value => exact Triple.done fun steps held => ⟨held, rfl⟩
  | error error => exact Triple.done fun steps held => refused error rfl steps held

theorem getByName_traces (growing : Growing pre) (name : ServerName) (asked : asks (.getServerByName name)) :
    Traces setup request failed pre (ServerService.getByName name) fun found steps =>
      pre steps ∧ ∀ server, found = some server → HasRead name server steps := by
  refine (statement_traces covers (.getServerByName name) asked ?_).weaken ?_
  · intro steps _
    cases request <;> trivial
  · rintro found steps ⟨step, earlier, rfl, held, choice, before, rfl, answered⟩
    refine ⟨growing _ earlier rfl held, ?_⟩
    rintro server rfl
    exact ⟨_, List.mem_cons_self, choice, before, rfl, answered⟩

end Rules

section Mutations

variable {name : ServerName} (parsed : ServerName.new (requestedName request) = .ok name)
variable {failed : ApplicationError → List Step → Prop} {pre : List Step → Prop}

theorem conflict_traces {expected : Option Nat} (current : Option Server) {post : Server → List Step → Prop}
    (reported : ∀ steps, pre steps → failed .notFound steps ∧
      ∀ stated actual, failed (.generationConflict stated actual) steps) :
    Traces setup request failed pre (ServerService.conflict expected current) post := by
  cases current with
  | none => exact Triple.done fun steps held => (reported steps held).1
  | some server => exact Triple.done fun steps held => (reported steps held).2 _ _

theorem anything_covers : Covers (fun _ => True) fun _ _ => True :=
  ⟨fun _ _ _ _ _ _ => trivial, fun _ _ _ _ => trivial⟩

theorem requireGeneration_traces {expected : Option Nat} (server : Server)
    (reported : expected.isSome → ∀ steps, pre steps →
      ∀ stated actual, failed (.generationConflict stated actual) steps) :
    Traces setup request failed pre (Try.ofExcept (ServerService.requireGeneration expected server))
      fun _ steps => pre steps ∧ ∀ generation, expected = some generation → generation = server.generation := by
  refine Attempts.ofExcept (fun error refused steps held => ?_)
    fun _ accepted steps held => ⟨held, ServerService.requireGeneration_ok accepted⟩
  obtain ⟨rfl, -⟩ := ServerService.requireGeneration_error refused
  cases expected with
  | none => cases refused
  | some generation => exact reported rfl steps held _ _

theorem found_traces (found : Option Server) : Traces setup request (fun _ _ => True)
      (fun steps => pre steps ∧ ∀ server, found = some server → HasRead name server steps)
      (ServerService.found found) fun server steps => pre steps ∧ HasRead name server steps := by
  cases found with
  | none => exact Attempts.fail fun _ _ => trivial
  | some server => exact Attempts.pure fun _ held => ⟨held.1, held.2 server rfl⟩

-- The end of a turn: the write took effect, or it was lost.
theorem stored_traces {after : Bool → List Step → Prop} {post : Server → List Step → Prop} {updated : Server}
    {expected : Option Nat} {report retry : Service Server} (count : Nat)
    (done : ∀ steps, after true steps → post updated steps)
    (lost : ∀ steps, after false steps → Pending (count + 1) steps)
    (reported : expected.isSome → Traces setup request failed (Pending (count + 1)) report post)
    (retried : ¬expected.isSome → Traces setup request failed (Pending (count + 1)) retry post)
    (stored : Bool) :
    Traces setup request failed (after stored)
      (if stored then pure updated else if expected.isSome then report else retry) post := by
  refine Attempts.ite (fun written => Attempts.pure ?_) fun refused => ?_
  · obtain rfl : stored = true := written
    exact done
  · obtain rfl : stored = false := by simpa using refused
    exact (Attempts.ite reported retried).strengthen lost

theorem reread_traces {expected : Option Nat} {post : Server → List Step → Prop} (count : Nat) :
    Traces setup request (fun _ _ => True) (Pending count)
      (do ServerService.conflict expected (← ServerService.getByName name)) post :=
  Attempts.bind _ (getByName_traces anything_covers (Pending.growing count) name trivial) fun current =>
    conflict_traces current fun _ _ => ⟨trivial, fun _ _ => trivial⟩

include parsed

theorem setDesiredStateTurns_traces {desired : DesiredState} {expected : Option Nat}
    (asked : request = .setDesiredState (requestedName request) desired expected) (turns count : Nat) :
    Traces setup request (fun _ _ => True) (Pending count)
      (ServerService.setDesiredStateTurns name desired expected turns)
      fun server steps => Did request steps server := by
  have same : expectedGeneration request = expected := by rw [asked]; rfl
  have permitted : ∀ statement steps, Intends setup request statement steps := by
    intro statement steps
    rw [asked]
    trivial
  induction turns generalizing count with
  | zero => exact Attempts.fail fun _ _ => trivial
  | succ turns ih =>
    refine Attempts.bind _ (getByName_traces anything_covers (Pending.growing count) name trivial)
      fun found => ?_
    refine Attempts.bind _ (found_traces found) fun server => ?_
    have growing := (Pending.growing count).and (HasRead.growing name server)
    refine Attempts.bind _ (requireGeneration_traces server fun _ _ _ _ _ => trivial) fun _ => ?_
    refine Attempts.given fun stated => ?_
    rw [← same] at stated
    refine Attempts.bind _ (clock_traces anything_covers growing) fun now => ?_
    refine Attempts.bind _ (validated_traces (server.setDesiredState desired now).1
      fun _ _ _ _ => trivial) fun changed => ?_
    refine Attempts.given fun accepted => ?_
    refine Attempts.ite (fun unchanged => Attempts.pure fun steps held => ?_) fun moved => ?_
    · obtain ⟨-, same, -⟩ | ⟨rfl, -⟩ := Server.setDesiredState_ok accepted
      · obtain ⟨read, member, answered⟩ := held.2
        have kept : Did request steps (server.setDesiredState desired now).2 := by
          rw [same]
          exact .kept parsed member answered held.1.1 stated
        exact kept
      · cases unchanged
    · obtain rfl : changed = true := by simpa using moved
      refine Attempts.bind _ (statement_traces anything_covers
        (.updateDesiredState (server.setDesiredState desired now).2 server.generation) trivial
        fun steps _ => permitted _ steps)
        (stored_traces count ?_ ?_ (fun _ => reread_traces _) fun _ => ih _)
      · rintro steps ⟨write, earlier, rfl, held, answered⟩
        obtain ⟨read, member, gave⟩ := held.2
        exact .wrote parsed rfl member gave (.desiredState accepted rfl answered) held.1.1 stated
      · rintro steps ⟨write, earlier, rfl, held, answered⟩
        exact held.1.lost (.desiredState answered)

theorem archiveTurns_traces {expected : Option Nat}
    (asked : request = .archive (requestedName request) expected) (turns count : Nat) :
    Traces setup request (fun _ _ => True) (Pending count)
      (ServerService.archiveTurns name expected turns) fun server steps => Did request steps server := by
  have same : expectedGeneration request = expected := by rw [asked]; rfl
  have permitted : ∀ statement steps, Intends setup request statement steps := by
    intro statement steps
    rw [asked]
    trivial
  induction turns generalizing count with
  | zero => exact Attempts.fail fun _ _ => trivial
  | succ turns ih =>
    refine Attempts.bind _ (getByName_traces anything_covers (Pending.growing count) name trivial)
      fun found => ?_
    refine Attempts.bind _ (found_traces found) fun server => ?_
    have growing := (Pending.growing count).and (HasRead.growing name server)
    refine Attempts.bind _ (requireGeneration_traces server fun _ _ _ _ _ => trivial) fun _ => ?_
    refine Attempts.given fun stated => ?_
    rw [← same] at stated
    refine Attempts.ite (fun _ => Attempts.pure fun steps held => ?_) fun active => ?_
    · obtain ⟨read, member, answered⟩ := held.2
      exact .kept parsed member answered held.1.1 stated
    refine Attempts.bind (fun _ steps => Pending count steps ∧ HasRead name server steps) ?_
      fun (busy : Bool) => ?_
    · refine (statement_traces anything_covers (.hasActiveInstance server.id) trivial
        fun steps _ => permitted _ steps).weaken ?_
      rintro busy steps ⟨step, earlier, rfl, held, choice, before, rfl, -⟩
      exact growing _ earlier rfl held
    refine Attempts.bind (fun _ steps => Pending count steps ∧ HasRead name server steps)
      (Attempts.ite (fun _ => Attempts.fail fun _ _ => trivial) fun _ =>
        Attempts.pure fun _ held => held) fun _ => ?_
    refine Attempts.bind _ (clock_traces anything_covers growing) fun now => ?_
    refine Attempts.bind _ (validated_traces (server.archive now).1 fun _ _ _ _ => trivial) fun changed => ?_
    refine Attempts.given fun accepted => ?_
    refine Attempts.bind _ (statement_traces anything_covers
      (.archiveServer (server.archive now).2 server.generation) trivial
      fun steps _ => permitted _ steps)
      (stored_traces count ?_ ?_ (fun _ => reread_traces _) fun _ => ih _)
    · rintro steps ⟨write, earlier, rfl, held, answered⟩
      obtain ⟨read, member, gave⟩ := held.2
      obtain ⟨-, -, archived⟩ | ⟨rfl, -⟩ := Server.archive_ok accepted
      · exact absurd archived active
      · exact .wrote parsed rfl member gave (.archive accepted rfl answered) held.1.1 stated
    · rintro steps ⟨write, earlier, rfl, held, answered⟩
      exact held.1.lost (.archive answered)

end Mutations

section Upsert

variable {raw : String} {desired : DesiredServerSpec} {expected : Option Nat}

theorem apply_covers : Covers (fun statement => expected = none → upserts statement = true)
    (ApplyFails setup raw desired expected) :=
  ⟨fun statement _ step _ asked failed free => ⟨step, List.mem_cons_self, statement, asked free, failed⟩,
    fun _ step _ failed => ⟨step, List.mem_cons_self, failed⟩⟩

theorem create_traces {asks : DbOp → Prop} {failed : ApplicationError → List Step → Prop}
    (covers : Covers asks failed) (asked : ∀ server, asks (.createServer server))
    (value : String) (named : value = requestedName request) (free : expectedGeneration request = none)
    (refused : ∀ error steps, Invalid setup value desired error steps → failed (.validation error) steps)
    (intended : ∀ server steps, server.name.asStr = requestedName request →
      desired.resolve none (ServerService.r2Repository setup.r2RepositoryBase server.name) =
        .ok server.spec → server.desiredState = .stopped → server.archivedAt = none →
      Intends setup request (.createServer server) steps) (count : Nat) :
    Traces setup request failed (Pending count)
      (ServerService.create setup.r2RepositoryBase value desired) fun server steps =>
        Did request steps server ∧
          desired.resolve none (ServerService.r2Repository setup.r2RepositoryBase server.name) =
            .ok server.spec := by
  have growing := Pending.growing count
  refine Attempts.bind _ (clock_traces covers growing) fun now => ?_
  refine Attempts.bind _ (validated_traces (ServerName.new value)
    fun error invalid steps _ => refused error steps (.name invalid)) fun parsed => ?_
  refine Attempts.given fun accepted => ?_
  have sameName : parsed.asStr = value := ServerName.new_ok accepted
  refine Attempts.bind _ (newUuid_traces growing) fun uuid => ?_
  refine Attempts.bind _ (validated_traces _ fun error invalid steps _ =>
    refused error steps (.resolve sameName invalid)) fun spec => ?_
  refine Attempts.given fun resolved => ?_
  refine Attempts.bind _ (validated_traces _ fun error invalid steps _ =>
    refused error steps (.create sameName resolved invalid)) fun server => ?_
  refine Attempts.given fun made => ?_
  have fields := (Server.new_ok made).2
  have specified : desired.resolve none (ServerService.r2Repository setup.r2RepositoryBase server.name) =
      .ok server.spec := by rw [fields]; exact resolved
  have serverName : server.name.asStr = requestedName request := by
    rw [fields]
    exact sameName.trans named
  refine Attempts.bind _ (statement_traces covers (.createServer server) (asked server) fun steps _ =>
    intended server steps serverName specified (by rw [fields]) (by rw [fields])) fun _ => ?_
  refine Attempts.pure ?_
  rintro steps ⟨write, earlier, rfl, held, answered⟩
  exact ⟨.created rfl answered held.1 serverName free, specified⟩

theorem applyTurns_traces {name : ServerName} (parsed : ServerName.new raw = .ok name)
    (turns count : Nat) (total : turns + count = 3) :
    Traces setup (.apply raw desired expected) (ApplyFails setup raw desired expected)
      (fun steps => Pending count steps ∧ (expected.isSome → count = 0))
      (ServerService.applyTurns setup.r2RepositoryBase name desired expected turns) fun server steps =>
        Did (.apply raw desired expected) steps server ∧
          SpecFor setup (.apply raw desired expected) server := by
  have named := ServerName.new_ok parsed
  induction turns generalizing count with
  | zero =>
    obtain rfl : count = 3 := by omega
    refine Attempts.fail fun steps held => ⟨?_, held.1.2⟩
    cases expected with
    | none => rfl
    | some generation => exact absurd (held.2 rfl) (by decide)
  | succ turns ih =>
    refine Attempts.given fun single => ?_
    refine Attempts.bind _ (getByName_traces apply_covers (Pending.growing count) name fun _ => rfl)
      fun found => ?_
    match found with
    | none =>
      refine Attempts.ite (fun stated => Attempts.fail fun _ _ => stated) fun free => ?_
      obtain rfl : expected = none := by simpa using free
      refine ((@create_traces setup (.apply raw desired none) desired _ _ apply_covers (fun _ _ => rfl) name.asStr named rfl (fun _ _ invalid => ?_)
        (fun _ _ named resolved stopped active => ⟨named, resolved, stopped, active⟩) count).weaken
          fun _ _ held => ⟨held.1, .inr held.2⟩).strengthen fun _ held => held.1
      rw [named] at invalid
      exact invalid
    | some server =>
      refine Attempts.strengthen ?_ (fun steps held => ⟨held.1, held.2 server rfl⟩ :
        ∀ steps, _ → Pending count steps ∧ HasRead name server steps)
      have growing := (Pending.growing count).and (HasRead.growing name server)
      refine Attempts.bind _ (requireGeneration_traces server fun stated _ _ _ _ => stated) fun _ => ?_
      refine Attempts.given fun stated => ?_
      refine Attempts.bind _ (validated_traces _ fun error refused steps held => ?_) fun spec => ?_
      · obtain ⟨read, member, gave⟩ := held.2
        exact .spec member named gave refused
      refine Attempts.given fun resolved => ?_
      refine Attempts.bind _ (clock_traces apply_covers growing) fun now => ?_
      refine Attempts.bind _ (validated_traces (server.updateSpec spec now).1
        fun error refused steps held => ?_) fun changed => ?_
      · obtain ⟨read, member, gave⟩ := held.2
        exact .update member named gave resolved refused
      refine Attempts.given fun accepted => ?_
      have kept := DesiredServerSpec.resolve_existing resolved
      refine Attempts.ite (fun unchanged => Attempts.pure fun steps held => ?_) fun moved => ?_
      · obtain ⟨-, same, equal⟩ | ⟨rfl, -⟩ := Server.updateSpec_ok accepted
        · obtain ⟨read, member, gave⟩ := held.2
          have satisfied : Did (.apply raw desired expected) steps (server.updateSpec spec now).2 ∧
              SpecFor setup (.apply raw desired expected) (server.updateSpec spec now).2 := by
            rw [same]
            exact ⟨.kept parsed member gave held.1.1 stated, .inl (by rw [resolved, equal])⟩
          exact satisfied
        · cases unchanged
      · obtain rfl : changed = true := by simpa using moved
        obtain ⟨impossible, -⟩ | ⟨-, -, -, written⟩ := Server.updateSpec_ok accepted
        · cases impossible
        have satisfied : desired.resolve (some (server.updateSpec spec now).2.spec.data) none =
            .ok (server.updateSpec spec now).2.spec := by
          rw [written]
          change desired.resolve (some spec.data) none = .ok spec
          rw [kept, resolved]
        refine Attempts.bind _ (statement_traces apply_covers
          (.updateSpec (server.updateSpec spec now).2 server.generation) (fun _ => rfl) fun steps held => ?_)
          (stored_traces count ?_ ?_ (fun conditional => ?_) fun free => ?_)
        · obtain ⟨read, member, gave⟩ := held.2
          exact ⟨name, named, read, member, server, gave, spec, resolved,
            fun same => by simpa using (Server.updateSpec_checked accepted).2.2 same⟩
        · rintro steps ⟨write, earlier, rfl, held, answered⟩
          obtain ⟨read, member, gave⟩ := held.2
          exact ⟨.wrote parsed rfl member gave (.spec accepted rfl answered) held.1.1 stated, .inl satisfied⟩
        · rintro steps ⟨write, earlier, rfl, held, answered⟩
          exact held.1.lost (.spec answered)
        · refine Attempts.bind _ (statement_traces apply_covers (.getServer server.id)
            (fun free => by rw [free] at conditional; cases conditional) fun _ _ => trivial)
            fun (current : Option Server) => ?_
          exact conflict_traces current fun _ _ => ⟨conditional, fun _ _ => conditional⟩
        · exact (ih (count + 1) (by omega)).strengthen fun steps held => ⟨held, fun stated => absurd stated free⟩

end Upsert

theorem handle_traces (request : ClientRequest) : Traces setup request (Failed setup request) (Pending 0)
      (ServerService.handle setup.r2RepositoryBase request) fun server steps =>
        Did request steps server ∧ SpecFor setup request server := by
  cases request with
  | create raw desired =>
    exact (@create_traces setup (.create raw desired) desired _ _ anything_covers
      (fun _ => trivial) raw rfl rfl (fun _ _ _ => trivial)
      (fun _ _ _ _ _ _ => trivial) 0).weaken fun _ _ held => ⟨held.1, trivial⟩
  | apply raw desired expected =>
    refine Attempts.bind _ (validated_traces (ServerName.new raw)
      fun error refused _ _ => .name refused) fun name => ?_
    refine Attempts.given fun parsed => ?_
    exact (applyTurns_traces parsed 3 0 rfl).strengthen fun steps pending => ⟨pending, fun _ => rfl⟩
  | setDesiredState raw desired expected =>
    refine Attempts.bind _ (validated_traces (ServerName.new raw) fun _ _ _ _ => trivial) fun name => ?_
    refine Attempts.given fun parsed => ?_
    exact (@setDesiredStateTurns_traces setup (.setDesiredState raw desired expected) name parsed desired
      expected rfl 3 0).weaken fun server steps did => ⟨did, trivial⟩
  | archive raw expected =>
    refine Attempts.bind _ (validated_traces (ServerName.new raw) fun _ _ _ _ => trivial) fun name => ?_
    refine Attempts.given fun parsed => ?_
    exact (@archiveTurns_traces setup (.archive raw expected) name parsed expected rfl 3 0).weaken fun server steps did => ⟨did, trivial⟩

theorem serve_traces (request : ClientRequest) : (tracing setup request).Safe (retrace exec) ()
      (ServerService.serve setup.r2RepositoryBase request) (fun _ _ => True) [] := by
  have triple : (tracing setup request).Triple (retrace exec) () (fun steps => steps = [])
      (ServerService.serve setup.r2RepositoryBase request) fun _ _ => True := by
    refine Triple.bind (fun _ => Pending 0) ?_ fun (since : Nat) => ?_
    · refine (performed .begin fun _ _ => trivial).weaken ?_
      rintro result steps ⟨choice, before, earlier, rfl, rfl, -⟩
      refine ⟨?_, [], List.nil_sublist _, rfl, fun _ member => nomatch member⟩
      rintro step member
      obtain rfl := List.mem_singleton.mp member
      exact .inl rfl
    · refine Triple.bind _ (handle_traces request) fun result => ?_
      refine Triple.weaken (performed (.reply since request result) ?_) fun _ _ _ => trivial
      cases result with
      | ok server => exact fun steps held => ⟨rfl, held⟩
      | error error => exact fun steps held => ⟨rfl, held⟩
  exact triple [] rfl

end Walk

theorem reached_showing {setup : Setup} {run : Run} {number : Nat} {op : Op}
    {next : op.Res → Prog Op Op.Res Unit}
    (waiting : (reached setup run).threads (.client number) = .call op next) :
    ∃ request, Showing setup request op (stepsOf setup run (.client number)) := by
  obtain ⟨program, started, followed⟩ :=
    (reached_traced _ (admitted_unrestricted run) (.client number)).followed
  rw [waiting] at followed
  rcases started with rfl | ⟨task, rfl⟩
  · exact absurd followed.of_done (by simp)
  · cases task with
    | request request =>
      exact ⟨request, followed.asks (fun _ _ _ => trivial) (serve_traces request) trivial⟩
    | _ => exact absurd followed.of_done (by simp)

end McServer.System
