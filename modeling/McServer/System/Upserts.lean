import McServer.System.Updates
import McServer.System.Rows
import McServer.System.Publication

set_option autoImplicit false

namespace McServer.System

open Domain Store Agent ControlPlane Interleaving

-- The database and the clock work, a server that is about to be created is not there yet, and a
-- generation can be counted on.
def favourable (step : Step) : Bool :=
  step.choice.fault = .none && step.choice.now.isOk && match step.op with
    | .db (.createServer server) => step.before.db.servers.all fun row =>
        row.id ≠ server.id && row.name ≠ server.name
    | .db (.updateSpec _ previous) => previous < maximumI64
    | _ => true

section Answering

variable {setup : Setup} {policy : Policy setup} {world : World}

theorem createServer_answers {server : Server} (history : ReadableHistory world.db world.past)
    (issuable : Issuable setup policy world (.createServer server))
    (free : ∀ row ∈ world.db.servers, row.id ≠ server.id ∧ row.name ≠ server.name) :
    ∃ value, ((DbOp.createServer server).query world.db).1 = .ok value := by
  have written := (createServer_writes history.now issuable.2.2).2
  obtain ⟨id, name, spec, now, made⟩ := issuable.2.2
  have bound : positiveU64ToI64 server.generation = .ok server.generation := by
    rw [(Server.new_ok made).2]
    rfl
  simp only [DbOp.query, ServerRepository.create, binding, bound] at written ⊢
  cases outcome : insertRow ServerRow.check ServerRow.conflicts
      { toServer := server, nextFencingToken := 1 } world.db.servers with
  | stored servers => exact ⟨(), rfl⟩
  | uniqueViolation =>
    unfold insertRow at outcome
    split_ifs at outcome with refused taken
    obtain ⟨row, member, clash⟩ := List.any_eq_true.mp taken
    have apart := free row member
    simp only [ServerRow.conflicts, Bool.or_eq_true, decide_eq_true_eq] at clash
    rcases clash with sameId | sameName
    · exact absurd sameId.symm apart.1
    · exact absurd sameName.symm apart.2
  | checkViolation =>
    rw [outcome] at written
    exact (written rfl).elim

omit setup policy world in
theorem touched_answers {selects : ServerRow → Bool} {set : ServerRow → ServerRow} {db : Database}
    (accepted : (touchedOne (updateServers selects set) db).1 = .error .database → False) :
    ∃ touched, (touchedOne (updateServers selects set) db).1 = .ok touched := by
  unfold touchedOne at accepted ⊢
  rcases updateServers_cases selects set db with failed | ⟨done, -⟩
  · rw [failed] at accepted
    exact (accepted rfl).elim
  · rw [done]
    exact ⟨_, rfl⟩

theorem updateSpec_answers {server : Server} {previous : Nat} (history : ReadableHistory world.db world.past)
    (issuable : Issuable setup policy world (.updateSpec server previous))
    (room : previous < maximumI64) :
    ∃ value, ((DbOp.updateSpec server previous).query world.db).1 = .ok value := by
  have written := (updateSpec_writes history issuable.1 issuable.2.2).2
  obtain ⟨state, kept, row, member, same, -⟩ := issuable.2.2
  have positive : 0 < previous := by
    rw [← same]
    exact ((history.states state kept).servers row member).generation
  have bound : ∀ value, 0 < value → value ≤ maximumI64 → positiveU64ToI64 value = .ok value := by
    intro value above below
    rw [positiveU64ToI64, if_neg (by omega), if_neg (by omega)]
  have next : server.generation = previous + 1 := issuable.1
  simp only [DbOp.query, ServerRepository.updateSpec, binding, bound previous positive (by omega),
    bound server.generation (by omega) (by omega)] at written ⊢
  exact touched_answers written

theorem upsert_answers {statement : DbOp} (asked : upserts statement = true)
    (history : ReadableHistory world.db world.past) (issuable : Issuable setup policy world statement)
    {choice : Choice} (fair : favourable ⟨.db statement, choice, world⟩ = true) :
    ∃ value, (exec (.db statement) choice world).1 = .ok value := by
  simp only [favourable, Bool.and_eq_true, decide_eq_true_eq] at fair
  have working : (exec (.db statement) choice world).1 = (statement.query world.db).1 := by
    simp only [exec, execDb, fair.1.1]
    rfl
  rw [working]
  cases statement with
  | getServerByName name => exact mapM_find_answered history.now.decoded.1
  | createServer server =>
    refine createServer_answers history issuable fun row member => ?_
    have apart := List.all_eq_true.mp fair.2 row member
    simpa using apart
  | updateSpec server previous => exact updateSpec_answers history issuable (by simpa using fair.2)
  | _ => cases asked

end Answering

def Resolves (setup : Setup) (desired : DesiredServerSpec) (name : ServerName) (spec : ServerSpec) : Prop :=
  desired.resolve (some spec.data) none = .ok spec ∨
    desired.resolve none (ServerService.r2Repository setup.r2RepositoryBase name) = .ok spec

def Satisfied (setup : Setup) (name : String) (desired : DesiredServerSpec) (steps : List Step) : Prop :=
  ∃ step ∈ steps, ∃ state, (state = step.before.db ∨ state = (step.after exec).db) ∧
    ∃ row ∈ state.servers, row.name.asStr = name ∧ Resolves setup desired row.name row.spec

def OnlyOne (name : String) (db : Database) : Prop :=
  ∃ row ∈ db.servers, row.name.asStr = name ∧ ∀ other ∈ db.servers, other.name.asStr = name → other = row

inductive Upserted (setup : Setup) (name : String) (desired : DesiredServerSpec) (steps : List Step)
    (db : Database) : Except ApplicationError Server → Prop
  | done (server : Server) (satisfied : Satisfied setup name desired steps) (single : OnlyOne name db) :
      Upserted setup name desired steps db (.ok server)
  | invalid (error : ValidationError) : Upserted setup name desired steps db (.error (.validation error))
  | outrun (lost : LostTimes 3 steps) : Upserted setup name desired steps db (.error .concurrentUpdate)

section Calls

variable {setup : Setup} {policy : Policy setup}

theorem created_row {server : Server} {step : Step} (answered : Gives (.createServer server) () step) :
    ∃ row ∈ (step.after exec).db.servers, row.toServer = server := by
  obtain ⟨answered, after⟩ := answered.query
  rw [after]
  simp only [DbOp.query, ServerRepository.create, binding] at answered ⊢
  cases bound : positiveU64ToI64 server.generation with
  | error error =>
    rw [bound] at answered
    cases answered
  | ok generation =>
    simp only [bound] at answered ⊢
    cases outcome : insertRow ServerRow.check ServerRow.conflicts
        { toServer := server, nextFencingToken := 1 } step.before.db.servers with
    | stored servers =>
      obtain ⟨rfl, -⟩ := insertRow_stored outcome
      exact ⟨_, List.mem_append_right _ (List.mem_singleton_self _), rfl⟩
    | uniqueViolation =>
      rw [outcome] at answered
      cases answered
    | checkViolation =>
      rw [outcome] at answered
      cases answered

theorem Did.satisfied {number : Nat} {name : String} {desired : DesiredServerSpec}
    {expected : Option Nat} {steps : List Step} {server : Server}
    (did : Did (.apply name desired expected) steps server)
    (specified : SpecFor setup (.apply name desired expected) server)
    (recorded : (contract setup policy).Recorded exec (.client number) steps) :
    Satisfied setup name desired steps := by
  have invs := recorded_inv recorded
  cases did with
  | @kept parsed read known member answered harmless stated =>
    obtain ⟨row, stored, named, rfl⟩ := answered.row
    exact ⟨read, member, _, .inl rfl, row, stored, by rw [named]; exact ServerName.new_ok known, specified⟩
  | @wrote parsed read write earlier old known split member answered replaced harmless stated =>
    subst split
    obtain ⟨row, stored, named, rfl⟩ := answered.row
    obtain ⟨⟨-, sameName⟩, now, present, ⟨sameId, atRead⟩, new, written, ⟨-, newName⟩, -, drafted⟩ :=
      replaced.stored
    have inv := invs write List.mem_cons_self
    have kept := recorded_db recorded member
    have sameDefinition := drafted
      (determined_definition inv (current_mem inv) kept present stored sameId atRead)
    simp only [definition, Prod.mk.injEq] at sameDefinition
    obtain ⟨later, stored', evolved⟩ := (inv.history.since kept).servers row stored
    obtain rfl := inv.history.current.keyed.serverIds.eq_of_key stored' present (evolved.id.trans sameId.symm)
    refine ⟨write, List.mem_cons_self, _, .inr rfl, new, written, ?_, ?_⟩
    · rw [newName, evolved.name, named]
      exact ServerName.new_ok known
    · rw [sameDefinition.2.1, newName, evolved.name, ← sameName]
      exact specified
  | @created write earlier split answered harmless named free =>
    subst split
    obtain ⟨row, stored, rfl⟩ := created_row answered
    exact ⟨write, List.mem_cons_self, _, .inr rfl, row, stored, named, specified⟩

theorem Satisfied.onlyOne {number : Nat} {name : String} {desired : DesiredServerSpec}
    {steps : List Step} {world : World} (satisfied : Satisfied setup name desired steps)
    (recorded : (contract setup policy).Recorded exec (.client number) steps)
    (since : (contract setup policy).Since exec (.client number) steps world)
    (inv : Inv setup policy world) : OnlyOne name world.db := by
  obtain ⟨step, member, state, moment, row, stored, named, -⟩ := satisfied
  have kept : state ∈ world.past := by
    rcases moment with rfl | rfl
    · exact (recorded_moment recorded since member).1
    · exact (recorded_moment recorded since member).2
  obtain ⟨new, present, evolved⟩ := (inv.history.since kept).servers row stored
  have newName : new.name.asStr = name := by rw [evolved.name, named]
  refine ⟨new, present, newName, fun other present' otherName => ?_⟩
  exact inv.history.current.keyed.serverNames.eq_of_key present' present
    (ServerName.ext_asStr (otherName.trans newName.symm))

theorem ApplyFails.upserted {run : Run} {number : Nat} {name : String} {desired : DesiredServerSpec}
    {error : ApplicationError} {db : Database}
    (failed : ApplyFails setup name desired none error (stepsOf setup run (.client number)))
    (fair : ∀ step ∈ stepsOf setup run (.client number), favourable step = true) :
    Upserted setup name desired (stepsOf setup run (.client number)) db (.error error) := by
  have traced := reached_traced (Policy.unrestricted setup) (admitted_unrestricted run) (.client number)
  cases error with
  | validation error => exact .invalid error
  | concurrentUpdate => exact .outrun failed.2
  | timestamp error =>
    obtain ⟨step, member, -, refused⟩ := failed
    have working := fair step member
    simp [favourable, refused, Except.isOk, Except.toBool] at working
  | repository error =>
    obtain ⟨step, member, statement, asked, choice, before, rfl, refused⟩ := failed rfl
    obtain ⟨-, guard⟩ := traced.recorded.mem _ member
    obtain ⟨earlier, -, same⟩ := mem_stepsOf member
    have history := reached_readable setup earlier
    rw [← same] at history
    obtain ⟨value, answered⟩ := upsert_answers asked history (issuable_of_guard guard) (fair _ member)
    rw [answered] at refused
    cases refused
  | notFound => cases failed
  | generationConflict stated actual => cases failed
  | serverHasActiveInstance => cases failed

theorem replied_upserted {run : Run} {number : Nat} {name : String} {desired : DesiredServerSpec}
    {result : Except ApplicationError Server}
    (replies : replying ((reached setup run).threads (.client number)) =
      some (.apply name desired none, result))
    (fair : ∀ step ∈ stepsOf setup run (.client number), favourable step = true) :
    Upserted setup name desired (stepsOf setup run (.client number)) (reached setup run).state.db result := by
  have traced := reached_traced (Policy.unrestricted setup) (admitted_unrestricted run) (.client number)
  obtain ⟨since, next, waiting⟩ := of_replying replies
  obtain ⟨asked, rfl, told⟩ := reached_showing waiting
  cases result with
  | ok server =>
    have satisfied := told.1.satisfied told.2 traced.recorded
    exact .done server satisfied (satisfied.onlyOne traced.recorded traced.since (reached_inv setup run))
  | error error => exact ApplyFails.upserted told fair

end Calls

def Fresh (name : ServerName) (spec : ServerSpec) (db : Database) : Prop :=
  ∀ row ∈ db.servers, row.name = name → row.spec = spec ∧ row.archivedAt = none

section Race

variable {setup : Setup} {raw : String} {name : ServerName} {desired : DesiredServerSpec} {spec : ServerSpec}

structure Racing (setup : Setup) (raw : String) (name : ServerName) (desired : DesiredServerSpec)
    (spec : ServerSpec) (run : Run) (number : Nat) : Prop where
  serving : Followed exec (ServerService.serve setup.r2RepositoryBase (.apply raw desired none))
    (stepsOf setup run (.client number)) ((reached setup run).threads (.client number))
  seen : ∀ step ∈ stepsOf setup run (.client number), Fresh name spec step.before.db ∧ ¬ Lost step

variable (parsed : ServerName.new raw = .ok name)
variable (resolved : desired.resolve none (ServerService.r2Repository setup.r2RepositoryBase name) = .ok spec)

include parsed in
theorem same_name {other : ServerName} (named : other.asStr = raw) : other = name :=
  ServerName.ext_asStr (named.trans (ServerName.new_ok parsed).symm)

include parsed resolved

theorem Racing.no_update {run : Run} {number : Nat} (racing : Racing setup raw name desired spec run number)
    (server : Server) (previous : Nat) :
    ¬ Intends setup (.apply raw desired none) (.updateSpec server previous)
      (stepsOf setup run (.client number)) := by
  rintro ⟨other, named, read, member, found, answered, wanted, again, different⟩
  obtain rfl := same_name parsed named
  obtain ⟨row, stored, rowName, rfl⟩ := answered.row
  have same := ((racing.seen read member).1 row stored rowName).1
  rw [same, DesiredServerSpec.resolve_again resolved] at again
  injection again with equal
  exact different (same.trans equal)

theorem Racing.fresh {run : Run} {number : Nat} (racing : Racing setup raw name desired spec run number)
    (fresh : Fresh name spec (reached setup run).state.db) {op : Op} {next : op.Res → Prog Op Op.Res Unit}
    (waiting : (reached setup run).threads (.client number) = .call op next) (choice : Choice) :
    Fresh name spec (exec op choice (reached setup run).state).2.db := by
  have inv := reached_inv setup run
  have followed := racing.serving
  rw [waiting] at followed
  have shown := followed.asks (fun _ _ _ => trivial) (serve_traces (.apply raw desired none)) trivial
  have moved := exec_database op choice (reached setup run).state
  generalize (exec op choice (reached setup run).state).2.db = db at moved ⊢
  generalize (exec op choice (reached setup run).state).2.past = past at moved
  cases moved with
  | aside op => exact fresh
  | failed statement => exact fresh
  | done statement =>
    intro row stored named
    rcases (query_servers statement inv.history.current.keyed).origin row stored with
      ⟨old, member, change⟩ | created
    · have before := fresh old member (change.name.symm.trans named)
      cases change with
      | @respecified server previous issued =>
        subst issued
        exact (racing.no_update parsed resolved server previous shown).elim
      | archived issued =>
        subst issued
        exact shown.elim
      | _ => exact before
    · obtain rfl := created.issued
      obtain ⟨-, made, -, active⟩ := shown
      change desired.resolve none (ServerService.r2Repository setup.r2RepositoryBase row.name) =
        .ok row.spec at made
      rw [named, resolved] at made
      injection made with same
      exact ⟨same.symm, active⟩

theorem Racing.advance {run : Run} {number other : Nat}
    (racing : ∀ thread, thread = number ∨ thread = other → Racing setup raw name desired spec run thread)
    (fresh : Fresh name spec (reached setup run).state.db) (choice : Choice) :
    Fresh name spec (reached setup (run ++ [.advance (.client number) choice])).state.db ∧
      ∀ thread, thread = number ∨ thread = other →
        Racing setup raw name desired spec (run ++ [.advance (.client number) choice]) thread := by
  cases waiting : (reached setup run).threads (.client number) with
  | done value =>
    have same : reached setup (run ++ [.advance (.client number) choice]) = reached setup run := by
      rw [reached_concat, Machine.step]
      simp only [waiting]
    have sameSteps : ∀ thread, stepsOf setup (run ++ [.advance (.client number) choice]) thread =
        stepsOf setup run thread := by
      intro thread
      rw [stepsOf_concat, Config.observe]
      simp only [waiting]
    rw [same]
    refine ⟨fresh, fun thread either => ?_⟩
    obtain ⟨serving, seen⟩ := racing thread either
    constructor
    · rw [same, sameSteps]
      exact serving
    · rw [sameSteps]
      exact seen
  | call op next =>
    have own := racing number (.inl rfl)
    have followed := own.serving
    rw [waiting] at followed
    have shown := followed.asks (fun _ _ _ => trivial) (serve_traces (.apply raw desired none)) trivial
    have held : ¬ Lost ⟨op, choice, (reached setup run).state⟩ := by
      intro lost
      cases lost with
      | @spec server previous answered =>
        obtain ⟨_, _, same, -⟩ := answered
        injection same with sameOp
        subst sameOp
        exact own.no_update parsed resolved server previous shown
      | desiredState answered =>
        obtain ⟨_, _, same, -⟩ := answered
        injection same with sameOp
        subst sameOp
        exact shown
      | archive answered =>
        obtain ⟨_, _, same, -⟩ := answered
        injection same with sameOp
        subst sameOp
        exact shown
    refine ⟨?_, fun thread either => ?_⟩
    · rw [reached_advance waiting]
      exact own.fresh parsed resolved fresh waiting choice
    · by_cases same : thread = number
      · subst same
        constructor
        · rw [reached_advance waiting, stepsOf_advance waiting]
          simp only [Function.update_self]
          exact followed.step choice (reached setup run).state
        · rw [stepsOf_advance waiting, Function.update_self]
          exact List.forall_mem_cons.mpr ⟨⟨fresh, held⟩, own.seen⟩
      · have apart : Thread.client thread ≠ .client number := fun equal => same (Thread.client.inj equal)
        obtain ⟨serving, seen⟩ := racing thread either
        constructor
        · rw [reached_advance waiting, stepsOf_advance waiting]
          simp only [Function.update_of_ne apart]
          exact serving
        · rw [stepsOf_advance waiting, Function.update_of_ne apart]
          exact seen

def bothAsked (raw : String) (desired : DesiredServerSpec) (first second : Nat) (run : Run) : Run :=
  run ++ [.start (.client first) (.request (.apply raw desired none))] ++
    [.start (.client second) (.request (.apply raw desired none))]

omit parsed resolved in
theorem Racing.started {run : Run} {first second : Nat} (apart : first ≠ second)
    (free : (reached setup run).threads (.client first) = .done ())
    (free' : (reached setup run).threads (.client second) = .done ()) :
    (reached setup (bothAsked raw desired first second run)).state = (reached setup run).state ∧
      ∀ thread, thread = first ∨ thread = second →
        Racing setup raw name desired spec (bothAsked raw desired first second run) thread := by
  have apart' : Thread.client second ≠ .client first := fun same => apart (Thread.client.inj same).symm
  have ready : (reached setup (run ++ [.start (.client first)
      (.request (.apply raw desired none))])).threads (.client second) = .done () := by
    rw [reached_start free]
    simp only [Function.update_of_ne apart']
    exact free'
  refine ⟨?_, fun thread either => ?_⟩
  · rw [bothAsked, reached_start ready, reached_start free]
  · rw [bothAsked]
    have begun : stepsOf setup (run ++ [.start (.client first) (.request (.apply raw desired none))] ++
        [.start (.client second) (.request (.apply raw desired none))]) (.client thread) = [] ∧
      (reached setup (run ++ [.start (.client first) (.request (.apply raw desired none))] ++
        [.start (.client second) (.request (.apply raw desired none))])).threads (.client thread) =
          ServerService.serve setup.r2RepositoryBase (.apply raw desired none) := by
      rw [stepsOf_start ready, stepsOf_start free, reached_start ready, reached_start free]
      rcases either with rfl | rfl
      · simp only [Function.update_of_ne apart'.symm, Function.update_self]
        exact ⟨trivial, rfl⟩
      · simp only [Function.update_self]
        exact ⟨trivial, rfl⟩
    constructor
    · rw [begun.1, begun.2]
      exact .start
    · rw [begun.1]
      exact fun _ member => nomatch member

theorem race_kept {run : Run} {first second : Nat} (apart : first ≠ second)
    (free : (reached setup run).threads (.client first) = .done ())
    (free' : (reached setup run).threads (.client second) = .done ())
    (new : ∀ row ∈ (reached setup run).state.db.servers, row.name ≠ name) (events : Run)
    (only : ∀ event ∈ events, ∃ choice, event = .advance (.client first) choice ∨
      event = .advance (.client second) choice) :
    Fresh name spec (reached setup (bothAsked raw desired first second run ++ events)).state.db ∧
      ∀ thread, thread = first ∨ thread = second →
        Racing setup raw name desired spec (bothAsked raw desired first second run ++ events) thread := by
  induction events using List.reverseRecOn with
  | nil =>
    rw [List.append_nil]
    obtain ⟨same, racing⟩ := Racing.started apart free free'
    rw [same]
    exact ⟨fun row stored named => absurd named (new row stored), racing⟩
  | append_singleton events event ih =>
    obtain ⟨before, last⟩ := List.forall_mem_append.mp only
    obtain ⟨fresh, racing⟩ := ih before
    rw [← List.append_assoc]
    obtain ⟨choice, rfl | rfl⟩ := last event (List.mem_singleton_self event)
    · exact Racing.advance parsed resolved racing fresh choice
    · obtain ⟨fresh, racing⟩ := Racing.advance parsed resolved
        (fun thread either => racing thread either.symm) fresh choice
      exact ⟨fresh, fun thread either => racing thread either.symm⟩

theorem Racing.valid {run : Run} {number : Nat} (racing : Racing setup raw name desired spec run number)
    (error : ValidationError) :
    ¬ Invalid setup raw desired error (stepsOf setup run (.client number)) := by
  have valid := (DesiredServerSpec.resolve_iff.mp resolved).2.2.2
  intro invalid
  cases invalid with
  | name refused =>
    rw [parsed] at refused
    cases refused
  | spec member named answered refused =>
    obtain rfl := same_name parsed named
    obtain ⟨row, stored, rowName, rfl⟩ := answered.row
    rw [((racing.seen _ member).1 row stored rowName).1, DesiredServerSpec.resolve_again resolved] at refused
    cases refused
  | @update _ _ _ _ now member named answered wanted refused =>
    obtain rfl := same_name parsed named
    obtain ⟨row, stored, rowName, rfl⟩ := answered.row
    obtain ⟨same, active⟩ := (racing.seen _ member).1 row stored rowName
    rw [same, DesiredServerSpec.resolve_again resolved] at wanted
    injection wanted with equal
    subst equal
    simp [Server.updateSpec, valid, active, same] at refused
  | resolve named refused =>
    obtain rfl := same_name parsed named
    rw [resolved] at refused
    cases refused
  | create named wanted refused =>
    obtain rfl := same_name parsed named
    rw [resolved] at wanted
    injection wanted with equal
    subst equal
    simp only [Server.new, valid, bind, Except.bind] at refused
    cases refused

theorem Racing.succeeds {run : Run} {number : Nat} (racing : Racing setup raw name desired spec run number)
    (fair : ∀ step ∈ stepsOf setup run (.client number), favourable step = true)
    {request : ClientRequest} {result : Except ApplicationError Server}
    (replies : replying ((reached setup run).threads (.client number)) = some (request, result)) :
    (∃ server, result = .ok server) ∧ OnlyOne raw (reached setup run).state.db := by
  obtain ⟨since, next, waiting⟩ := of_replying replies
  have followed := racing.serving
  rw [waiting] at followed
  obtain ⟨rfl, told⟩ := followed.asks (fun _ _ _ => trivial) (serve_traces (.apply raw desired none)) trivial
  cases replied_upserted replies fair with
  | done server satisfied single => exact ⟨⟨server, rfl⟩, single⟩
  | invalid error => exact (racing.valid parsed resolved error told).elim
  | outrun lost =>
    obtain ⟨lost, part, length, all⟩ := lost
    cases lost with
    | nil => cases length
    | cons step rest =>
      have taken := part.subset List.mem_cons_self
      exact ((racing.seen step taken).2 (all step List.mem_cons_self)).elim

end Race

theorem apply_is_an_upsert (setup : Setup) : (∀ run number name desired result,
      replying ((reached setup run).threads (.client number)) = some (.apply name desired none, result) →
      (∀ step ∈ stepsOf setup run (.client number), favourable step = true) →
      Upserted setup name desired (stepsOf setup run (.client number)) (reached setup run).state.db result) ∧
    ∀ run raw name desired spec first second events, first ≠ second →
      (reached setup run).threads (.client first) = .done () →
      (reached setup run).threads (.client second) = .done () →
      ServerName.new raw = .ok name →
      desired.resolve none (ServerService.r2Repository setup.r2RepositoryBase name) = .ok spec →
      (∀ row ∈ (reached setup run).state.db.servers, row.name ≠ name) →
      (∀ event ∈ events, ∃ choice, event = .advance (.client first) choice ∨
        event = .advance (.client second) choice) →
      ∀ number, number = first ∨ number = second → ∀ request result,
        replying ((reached setup (bothAsked raw desired first second run ++ events)).threads
          (.client number)) = some (request, result) →
        (∀ step ∈ stepsOf setup (bothAsked raw desired first second run ++ events) (.client number),
          favourable step = true) →
        (∃ server, result = .ok server) ∧
          OnlyOne raw (reached setup (bothAsked raw desired first second run ++ events)).state.db := by
  refine ⟨fun run number name desired result replies fair => replied_upserted replies fair, ?_⟩
  intro run raw name desired spec first second events apart free free' parsed resolved new only number
    either request result replies fair
  exact ((race_kept parsed resolved apart free free' new events only).2 number either).succeeds parsed
    resolved fair replies

namespace Sample

def upsert : ClientRequest := .apply "world" (spec "1.21") none

def worldName : ServerName := ⟨"world", Server.world_valid⟩

def worldSpec : ServerSpec :=
  { compute := .local, process := (spec "1.21").process
    data := { backend := .localRestic, repository := "/srv/restic" } }

def inTurn : Run := advances (.client 0) 1 5 ++ advances (.client 1) 2 3

def atOnce : Run :=
  advances (.client 0) 1 2 ++ advances (.client 1) 2 2 ++ advances (.client 0) 1 3 ++ advances (.client 1) 2 3

end Sample

set_option maxRecDepth 100000 in
theorem apply_is_an_upsert_in_turn : (∃ request server, replying ((reached Sample.setup
        (bothAsked "world" (Sample.spec "1.21") 0 1 [] ++ Sample.inTurn)).threads (.client 1)) =
      some (request, .ok server)) ∧
    OnlyOne "world" (reached Sample.setup
      (bothAsked "world" (Sample.spec "1.21") 0 1 [] ++ Sample.inTurn)).state.db := by
  have replies : (replying ((reached Sample.setup
      (bothAsked "world" (Sample.spec "1.21") 0 1 [] ++ Sample.inTurn)).threads (.client 1))).isSome := by
    decide +kernel
  have only : ∀ event ∈ Sample.inTurn, ∃ choice, event = .advance (.client 0) choice ∨
      event = .advance (.client 1) choice := by
    intro event member
    rcases List.mem_append.mp member with first | second
    · exact ⟨Sample.choice 1, .inl (List.eq_of_mem_replicate first)⟩
    · exact ⟨Sample.choice 2, .inr (List.eq_of_mem_replicate second)⟩
  obtain ⟨⟨request, result⟩, replies⟩ := Option.isSome_iff_exists.mp replies
  obtain ⟨⟨server, rfl⟩, single⟩ := (apply_is_an_upsert Sample.setup).2 [] "world" Sample.worldName
    (Sample.spec "1.21") Sample.worldSpec 0 1 Sample.inTurn (by decide) rfl rfl rfl rfl
    nofun only 1 (.inr rfl) request result replies (by decide +kernel)
  exact ⟨⟨request, server, replies⟩, single⟩

set_option maxRecDepth 100000 in
theorem second_apply_fails : replying ((reached Sample.setup
      (bothAsked "world" (Sample.spec "1.21") 0 1 [] ++ Sample.atOnce)).threads (.client 1)) =
      some (Sample.upsert, .error (.repository (.conflict "server name already exists"))) := by
  decide +kernel

end McServer.System
