import McServer.System.Publication

set_option autoImplicit false

namespace McServer.System

open Domain Store Agent ControlPlane Interleaving Interleaving.Contract

structure Indexed (db : Database) : Prop where
  ids : Table.Unique (fun row : ServerRow => row.id) db.servers
  names : Table.Unique (fun row : ServerRow => row.name) db.servers

structure Holding (db : Database) (name : ServerName) (server : Server) : Prop where
  indexed : Indexed db
  stored : ∃ row ∈ db.servers, row.name = name ∧ row.toServer = server
  valid : server.Valid

theorem Holding.getByName {db : Database} {name : ServerName} {server : Server}
    (held : Holding db name server) :
    (DbOp.getServerByName name).query db = (.ok (some server), db) := by
  obtain ⟨row, member, rfl, rfl⟩ := held.stored
  have found := held.indexed.names.find_eq member
  have decoded : ServerRepository.decodeServer row = .ok row.toServer := by
    simp [ServerRepository.decodeServer, held.valid.rehydrate, Except.mapError]
  simp only [DbOp.query, ServerRepository.getByName, Store.read, found, Option.mapM_some, decoded]
  rfl

theorem holding_of_getByName {db : Database} {name : ServerName} {server : Server} (indexed : Indexed db)
    (found : ((DbOp.getServerByName name).query db).1 = .ok (some server)) : Holding db name server := by
  obtain ⟨row, member, chosen, decoded⟩ := find_decoded found
  obtain rfl := decodeServer_ok decoded
  exact ⟨indexed, ⟨row, member, by simpa using chosen, rfl⟩, Server.valid_of_rehydrate (mapError_ok decoded)⟩

section Replacing

variable {generation previous : Nat} {selects : Nat → ServerRow → Bool}
  {set : Nat → ServerRow → ServerRow} {db : Database} {name : ServerName} {old new : Server}

theorem Holding.replaced (held : Holding db name old)
    (chosen : ∀ row, selects previous row = true → row.id = old.id)
    (kept : ∀ row, (set generation row).id = row.id ∧ (set generation row).name = row.name)
    (becomes : ∀ row, row.toServer = old → (set generation row).toServer = new) (valid : new.Valid)
    (stored : ((binding generation fun bound => binding previous fun old =>
      touchedOne (updateServers (selects old) (set bound))) db).1 = .ok true) :
    Holding ((binding generation fun bound => binding previous fun old =>
      touchedOne (updateServers (selects old) (set bound))) db).2 name new := by
  obtain ⟨touched, listed, selected, written⟩ := guarded_stored stored
  obtain ⟨row, member, rfl, rfl⟩ := held.stored
  -- The statement names the row by its id, the call by its name.
  obtain rfl : touched = row := held.indexed.ids.eq_of_key listed member (chosen touched selected)
  rcases guarded_cases generation previous selects set db with ⟨error, failed⟩ | done
  · rw [failed] at stored
    cases stored
  · rw [done] at written ⊢
    exact ⟨⟨held.indexed.ids.update fun row _ _ => (kept row).1,
      held.indexed.names.update fun row _ _ => (kept row).2⟩,
      ⟨_, written, (kept touched).2, becomes touched rfl⟩, valid⟩

theorem Indexed.unmoved {other : Database} (indexed : Indexed db) (same : other.servers = db.servers) :
    Indexed other := by
  constructor
  · rw [same]
    exact indexed.ids
  · rw [same]
    exact indexed.names

theorem Holding.unmoved {other : Database} (held : Holding db name old)
    (same : other.servers = db.servers) : Holding other name old :=
  ⟨held.indexed.unmoved same, by rw [same]; exact held.stored, held.valid⟩

end Replacing

theorem holding_of_create {db : Database} {server : Server} (indexed : Indexed db) (valid : server.Valid)
    (created : ((DbOp.createServer server).query db).1 = .ok ()) :
    Holding ((DbOp.createServer server).query db).2 server.name server := by
  simp only [DbOp.query, ServerRepository.create, binding] at created ⊢
  cases bound : positiveU64ToI64 server.generation with
  | error error => simp only [bound] at created; cases created
  | ok value =>
    simp only [bound] at created ⊢
    cases outcome : insertRow ServerRow.check ServerRow.conflicts
        { toServer := server, nextFencingToken := 1 } db.servers with
    | uniqueViolation => simp only [outcome] at created; cases created
    | checkViolation => simp only [outcome] at created; cases created
    | stored servers =>
      obtain ⟨rfl, -, free⟩ := insertRow_stored outcome
      have apart : ∀ row ∈ db.servers, row.id ≠ server.id ∧ row.name ≠ server.name := by
        intro row member
        have clash := free row member
        simp only [ServerRow.conflicts, Bool.or_eq_false_iff, decide_eq_false_iff_not] at clash
        exact ⟨Ne.symm clash.1, Ne.symm clash.2⟩
      exact ⟨⟨indexed.ids.insert fun row member => (apart row member).1,
        indexed.names.insert fun row member => (apart row member).2⟩,
        ⟨_, List.mem_append_right _ (List.mem_singleton.mpr rfl), rfl, rfl⟩, valid⟩

structure Applied (db : Database) (name : ServerName) (desired : DesiredServerSpec) (server : Server) :
    Prop where
  holding : Holding db name server
  active : server.archivedAt = none
  resolved : desired.resolve (some server.spec.data) none = .ok server.spec

theorem applied_of_updateSpec {db : Database} {name : ServerName} {desired : DesiredServerSpec}
    {server : Server} {spec : ServerSpec} {now : UnixTimestampMillis} (held : Holding db name server)
    (resolved : desired.resolve (some server.spec.data) none = .ok spec)
    (accepted : (server.updateSpec spec now).1 = .ok true)
    (answered : ((DbOp.updateSpec (server.updateSpec spec now).2 server.generation).query db).1 = .ok true) :
    Applied ((DbOp.updateSpec (server.updateSpec spec now).2 server.generation).query db).2 name desired
      (server.updateSpec spec now).2 := by
  have valid := (Server.updateSpec_advances held.valid accepted).2.2
  obtain ⟨impossible, -⟩ | ⟨-, active, -, written⟩ := Server.updateSpec_ok accepted
  · cases impossible
  generalize (server.updateSpec spec now).2 = updated at written valid answered ⊢
  subst written
  refine ⟨held.replaced ?_ (fun _ => ⟨rfl, rfl⟩) ?_ valid answered, active,
    DesiredServerSpec.resolve_again resolved⟩
  · intro row chosen
    simp only [Bool.and_eq_true, decide_eq_true_eq] at chosen
    exact chosen.1.1.1
  · rintro row rfl
    rfl

theorem updateSpec_unmoved {db : Database} {server : Server} {previous : Nat} (indexed : Indexed db)
    (refused : ((DbOp.updateSpec server previous).query db).1 = .ok false) :
    ((DbOp.updateSpec server previous).query db).2.servers = db.servers := by
  refine @guarded_unmoved _ _ _ _ _ server.id indexed.ids ?_ refused
  intro row chosen
  simp only [Bool.and_eq_true, decide_eq_true_eq] at chosen
  exact chosen.1.1.1

theorem applied_of_setDesiredState {db : Database} {name : ServerName} {desired : DesiredServerSpec}
    {server : Server} {state : DesiredState} {now : UnixTimestampMillis}
    (applied : Applied db name desired server)
    (accepted : (server.setDesiredState state now).1 = .ok true)
    (answered : ((DbOp.updateDesiredState (server.setDesiredState state now).2 server.generation).query
      db).1 = .ok true) :
    Applied ((DbOp.updateDesiredState (server.setDesiredState state now).2 server.generation).query db).2
      name desired (server.setDesiredState state now).2 := by
  have valid := (Server.setDesiredState_advances applied.holding.valid accepted).2.2
  obtain ⟨impossible, -⟩ | ⟨-, active, -, written⟩ := Server.setDesiredState_ok accepted
  · cases impossible
  generalize (server.setDesiredState state now).2 = updated at written valid answered ⊢
  subst written
  refine ⟨applied.holding.replaced ?_ (fun _ => ⟨rfl, rfl⟩) ?_ valid answered, active, applied.resolved⟩
  · intro row chosen
    simp only [Bool.and_eq_true, decide_eq_true_eq] at chosen
    exact chosen.1.1
  · rintro row rfl
    rfl

theorem updateDesiredState_unmoved {db : Database} {server : Server} {previous : Nat} (indexed : Indexed db)
    (refused : ((DbOp.updateDesiredState server previous).query db).1 = .ok false) :
    ((DbOp.updateDesiredState server previous).query db).2.servers = db.servers := by
  refine @guarded_unmoved _ _ _ _ _ server.id indexed.ids ?_ refused
  intro row chosen
  simp only [Bool.and_eq_true, decide_eq_true_eq] at chosen
  exact chosen.1.1

theorem Applied.unmoved {db other : Database} {name : ServerName} {desired : DesiredServerSpec}
    {server : Server} (applied : Applied db name desired server) (same : other.servers = db.servers) :
    Applied other name desired server :=
  ⟨applied.holding.unmoved same, applied.active, applied.resolved⟩

abbrev secluded : Contract Unit Op World := Contract.alone (fun _ => True) fun _ _ => True

section Walk

variable (pre : Database → Prop)

theorem statement_secluded (statement : DbOp) :
    secluded.Does exec () (fun world => pre world.db) (db .repository statement : Service statement.Value)
      fun value world => ∃ earlier, pre earlier ∧ (statement.query earlier).1 = .ok value ∧
        world.db = (statement.query earlier).2 := by
  refine Does.raising (Triple.perform (Contract.Stable.alone _) fun world _ held =>
    ⟨trivial, fun choice value answered => ?_⟩)
  obtain ⟨accepted, after⟩ := exec_db_value answered
  refine ⟨world.db, held, accepted, ?_⟩
  rw [after]
  rfl

theorem clock_secluded :
    secluded.Does exec () (fun world => pre world.db) (clock .timestamp : Service UnixTimestampMillis)
      fun _ world => pre world.db :=
  Does.raising (Triple.perform (Contract.Stable.alone _) fun _ _ held => ⟨trivial, fun _ _ _ => held⟩)

theorem newUuid_secluded :
    secluded.Does exec () (fun world => pre world.db) (newUuid : Service Uuid) fun _ world => pre world.db :=
  Does.lift (Triple.perform (Contract.Stable.alone _) fun _ _ held => ⟨trivial, fun _ => held⟩)

theorem validated_secluded {A : Type} (result : Except ValidationError A) :
    secluded.Does exec () (fun world => pre world.db) (ServerService.validated result)
      fun value world => pre world.db ∧ result = .ok value :=
  Does.raising (Does.ofExcept fun _ accepted _ held => ⟨held, accepted⟩)

theorem requireGeneration_secluded {expected : Option Nat} (server : Server) :
    secluded.Does exec () (fun world => pre world.db)
      (Try.ofExcept (ServerService.requireGeneration expected server)) fun _ world => pre world.db :=
  Does.ofExcept fun _ _ _ held => held

theorem conflict_secluded {expected : Option Nat} (current : Option Server) {before : World → Prop}
    {post : Server → World → Prop} :
    secluded.Does exec () before (ServerService.conflict expected current) post := by
  cases current with
  | none => exact Does.fail
  | some server => exact Does.fail

variable {name : ServerName} {desired : DesiredServerSpec} {expected : Option Nat}

theorem create_secluded (base : Option String) (name : ServerName) :
    secluded.Does exec () (fun world => Indexed world.db) (ServerService.create base name.asStr desired)
      fun server world => Applied world.db name desired server := by
  refine Does.bind _ (clock_secluded Indexed) fun now => ?_
  refine Does.bind _ (validated_secluded Indexed _) fun parsed => Does.given fun accepted => ?_
  obtain rfl : parsed = name := ServerName.ext_asStr (ServerName.new_ok accepted)
  refine Does.bind _ (newUuid_secluded Indexed) fun uuid => ?_
  refine Does.bind _ (validated_secluded Indexed _) fun spec => Does.given fun resolved => ?_
  refine Does.bind _ (validated_secluded Indexed _) fun server => Does.given fun made => ?_
  obtain ⟨passes, rfl⟩ := Server.new_ok made
  refine Does.bind _ (statement_secluded Indexed _) fun _ => Does.pure ?_
  rintro world ⟨earlier, indexed, created, after⟩
  have valid : Server.Valid
      { id := ⟨uuid⟩, name := parsed, generation := 1, desiredState := .stopped, spec
        currentSnapshotId := none, archivedAt := none, createdAt := now, updatedAt := now } :=
    ⟨Nat.one_pos, le_refl now, nofun, nofun, passes⟩
  rw [after]
  exact ⟨holding_of_create indexed valid created, rfl, DesiredServerSpec.resolve_again resolved⟩

theorem applyTurns_secluded (base : Option String) (turns : Nat) :
    secluded.Does exec () (fun world => Indexed world.db)
      (ServerService.applyTurns base name desired expected turns)
      fun server world => Applied world.db name desired server := by
  induction turns with
  | zero => exact Does.fail
  | succ turns ih =>
    refine Does.bind _ (statement_secluded Indexed (.getServerByName name)) fun found => ?_
    match found with
    | none =>
      refine Does.ite (fun _ => Does.fail) fun _ => (create_secluded base name).strengthen ?_
      rintro world ⟨earlier, indexed, -, after⟩
      rw [after]
      exact indexed
    | some server =>
      let here := fun db => Holding db name server
      refine Does.strengthen ?_ (fun world held => ?_ : ∀ world, _ → here world.db)
      · refine Does.bind _ (requireGeneration_secluded here server) fun _ => ?_
        refine Does.bind _ (validated_secluded here _) fun spec => Does.given fun resolved => ?_
        refine Does.bind _ (clock_secluded here) fun now => ?_
        refine Does.bind _ (validated_secluded here _) fun changed => Does.given fun accepted => ?_
        have active := (Server.updateSpec_checked accepted).2.1
        refine Does.ite (fun unchanged => Does.pure fun world held => ?_) fun moved => ?_
        · obtain ⟨-, same, rfl⟩ | ⟨rfl, -⟩ := Server.updateSpec_ok accepted
          · have applied : Applied world.db name desired (server.updateSpec server.spec now).2 := by
              rw [same]
              exact ⟨held, active, resolved⟩
            exact applied
          · cases unchanged
        · obtain rfl : changed = true := by simpa using moved
          refine Does.bind _ (statement_secluded here
            (.updateSpec (server.updateSpec spec now).2 server.generation)) fun (stored : Bool) => ?_
          refine Does.ite (fun done => Does.pure ?_) fun refused => ?_
          · rintro world ⟨earlier, held, answered, after⟩
            obtain rfl : stored = true := done
            rw [after]
            exact applied_of_updateSpec held resolved accepted answered
          · obtain rfl : stored = false := by simpa using refused
            refine Does.ite (fun _ => ?_) fun _ => ih.strengthen ?_
            · refine Does.bind (fun _ _ => True) ?_ fun current => conflict_secluded current
              exact ((statement_secluded (fun _ => True) _).strengthen fun _ _ => trivial).weaken
                fun _ _ _ => trivial
            · rintro world ⟨earlier, held, answered, after⟩
              rw [after]
              exact held.indexed.unmoved (updateSpec_unmoved held.indexed answered)
      · obtain ⟨earlier, indexed, found, after⟩ := held
        rw [after]
        exact holding_of_getByName indexed found

theorem setDesiredStateTurns_secluded (spec : ServerSpec) (state : DesiredState) (turns : Nat) :
    secluded.Does exec () (fun world => ∃ server, Applied world.db name desired server ∧ server.spec = spec)
      (ServerService.setDesiredStateTurns name state expected turns)
      fun server world => Applied world.db name desired server ∧ server.spec = spec := by
  let before := fun db => ∃ server, Applied db name desired server ∧ server.spec = spec
  induction turns with
  | zero => exact Does.fail
  | succ turns ih =>
    refine Does.bind _ (statement_secluded before (.getServerByName name)) fun found => ?_
    match found with
    | none => exact Does.fail
    | some server =>
      let here := fun db => Applied db name desired server ∧ server.spec = spec
      refine Does.strengthen ?_ (fun world held => ?_ : ∀ world, _ → here world.db)
      · refine Does.bind (fun value world => here world.db ∧ server = value)
          (Does.pure fun _ held => ⟨held, rfl⟩) fun value => Does.given ?_
        rintro rfl
        refine Does.bind _ (requireGeneration_secluded here server) fun _ => ?_
        refine Does.bind _ (clock_secluded here) fun now => ?_
        refine Does.bind _ (validated_secluded here _) fun changed => Does.given fun accepted => ?_
        refine Does.ite (fun unchanged => Does.pure fun world held => ?_) fun moved => ?_
        · obtain ⟨-, same, -⟩ | ⟨rfl, -⟩ := Server.setDesiredState_ok accepted
          · have kept : here world.db → Applied world.db name desired (server.setDesiredState state now).2 ∧
                (server.setDesiredState state now).2.spec = spec := by
              rw [same]
              exact id
            exact kept held
          · cases unchanged
        · obtain rfl : changed = true := by simpa using moved
          have sameSpec : (server.setDesiredState state now).2.spec = server.spec := by
            obtain ⟨impossible, -⟩ | ⟨-, -, -, written⟩ := Server.setDesiredState_ok accepted
            · cases impossible
            · rw [written]
          refine Does.bind _ (statement_secluded here
            (.updateDesiredState (server.setDesiredState state now).2 server.generation))
            fun (stored : Bool) => ?_
          refine Does.ite (fun done => Does.pure ?_) fun refused => ?_
          · rintro world ⟨earlier, held, answered, after⟩
            obtain rfl : stored = true := done
            rw [after]
            exact ⟨applied_of_setDesiredState held.1 accepted answered, sameSpec.trans held.2⟩
          · obtain rfl : stored = false := by simpa using refused
            refine Does.ite (fun _ => ?_) fun _ => ih.strengthen ?_
            · refine Does.bind (fun _ _ => True) ?_ fun current => conflict_secluded current
              exact ((statement_secluded (fun _ => True) _).strengthen fun _ _ => trivial).weaken
                fun _ _ _ => trivial
            · rintro world ⟨earlier, held, answered, after⟩
              rw [after]
              exact ⟨server, held.1.unmoved
                (updateDesiredState_unmoved held.1.holding.indexed answered), held.2⟩
      · obtain ⟨earlier, ⟨known, applied, same⟩, found, after⟩ := held
        rw [applied.holding.getByName] at found after
        injection found with same'
        obtain rfl := Option.some.inj same'
        rw [after]
        exact ⟨applied, same⟩

end Walk

theorem Applied.again {world : World} {name : ServerName} {desired : DesiredServerSpec} {server : Server}
    (applied : Applied world.db name desired server) {raw : String}
    (parsed : ServerName.new raw = .ok name) (base : Option String) {expected : Option Nat}
    (compatible : expected = none ∨ expected = some server.generation) (lookup reading : Choice)
    (rest : List Choice) :
    ∃ result, runPrefix exec (lookup :: reading :: rest) (ServerService.apply base raw desired expected) world =
        (.done result, world.store world.db) ∧
      (lookup.fault = .none → reading.now.isOk → result = .ok server) := by
  have allowed : ServerService.requireGeneration expected server = .ok () := by
    rcases compatible with rfl | rfl <;> simp [ServerService.requireGeneration]
  have passes := (DesiredServerSpec.resolve_iff.mp applied.resolved).2.2.2
  have unchanged : ∀ now, server.updateSpec server.spec now = (.ok false, server) := by
    intro now
    simp [Server.updateSpec, passes, applied.active]
  have found := applied.holding.getByName
  have start : ServerService.apply base raw desired expected =
      ServerService.applyTurns base name desired expected 3 := by
    simp only [ServerService.apply, ServerService.validated, parsed]
    rfl
  rw [start]
  by_cases working : lookup.fault = .none
  · have answer : exec (.db (.getServerByName name)) lookup world =
        (.ok (some server), world.store world.db) := by
      simp only [exec, execDb, found, working]
      rfl
    simp only [ServerService.applyTurns, ServerService.getByName, ServerService.validated, bind, Try.bind, db, clock,
      Try.raising, Prog.perform, Prog.bind, runPrefix, answer, Try.ofExcept, allowed, Except.mapError,
      applied.resolved]
    have clocked : exec .clock reading (world.store world.db) = (reading.now, world.store world.db) := rfl
    cases now : reading.now with
    | error error =>
      refine ⟨.error (.timestamp error), ?_, by rintro _ ⟨⟩⟩
      simp only [clocked, now]
      cases rest <;> rfl
    | ok time =>
      refine ⟨.ok server, ?_, fun _ _ => rfl⟩
      simp only [clocked, now, unchanged time]
      cases rest <;> rfl
  · have answer : exec (.db (.getServerByName name)) lookup world =
        (.error .database, world.store world.db) := by
      simp only [exec, execDb, found]
      cases fault : lookup.fault with
      | none => exact absurd fault working
      | _ => rfl
    refine ⟨.error (.repository .database), ?_, fun sound => absurd sound working⟩
    change runPrefix exec (reading :: rest) _ (exec (.db (.getServerByName name)) lookup world).2 = _
    rw [answer]
    rfl

theorem Applied.of_apply {world after : World} (indexed : Indexed world.db) {base : Option String}
    {raw : String} {desired : DesiredServerSpec} {expected : Option Nat} {choices : List Choice}
    {server : Server}
    (returned : runPrefix exec choices (ServerService.apply base raw desired expected) world =
      (.done (.ok server), after)) :
    ∃ name, ServerName.new raw = .ok name ∧ Applied after.db name desired server := by
  cases parsed : ServerName.new raw with
  | error error =>
    simp only [ServerService.apply, ServerService.validated, parsed] at returned
    cases choices <;> cases returned
  | ok name =>
    have start : ServerService.apply base raw desired expected =
        ServerService.applyTurns base name desired expected 3 := by
      simp only [ServerService.apply, ServerService.validated, parsed]
      rfl
    have walked := (Contract.Safe.runPrefix (fun _ _ _ _ _ => trivial) trivial
      (@applyTurns_secluded name desired expected base 3 world indexed) choices).2 (.ok server)
    rw [← start, returned] at walked
    exact ⟨name, rfl, walked rfl server rfl⟩

theorem Applied.started {world after : World} {name : ServerName} {desired : DesiredServerSpec}
    {server started : Server} (applied : Applied world.db name desired server) {raw : String}
    (parsed : ServerName.new raw = .ok name) {expected : Option Nat} {state : DesiredState}
    {choices : List Choice}
    (returned : runPrefix exec choices (ServerService.setDesiredState raw state expected) world =
      (.done (.ok started), after)) :
    Applied after.db name desired started ∧ started.spec = server.spec := by
  have start : ServerService.setDesiredState raw state expected =
      ServerService.setDesiredStateTurns name state expected 3 := by
    simp only [ServerService.setDesiredState, ServerService.validated, parsed]
    rfl
  have walked := (Contract.Safe.runPrefix (fun _ _ _ _ _ => trivial) trivial
    (@setDesiredStateTurns_secluded name desired expected server.spec state 3 world
      ⟨server, applied, rfl⟩) choices).2 (.ok started)
  rw [← start, returned] at walked
  exact walked rfl started rfl

theorem reapplying_changes_nothing (world : World) (indexed : Indexed world.db) (base : Option String)
    (raw : String) (desired : DesiredServerSpec) (expected : Option Nat) (choices : List Choice)
    (server : Server) (after : World)
    (first : runPrefix exec choices (ServerService.apply base raw desired expected) world =
      (.done (.ok server), after)) :
    (∀ later, (later = after ∨ ∃ choices expected started, runPrefix exec choices
          (ServerService.setDesiredState raw .running expected) after = (.done (.ok started), later)) →
      ∃ name stored, ServerName.new raw = .ok name ∧
        ((DbOp.getServerByName name).query later.db).1 = .ok (some stored) ∧
        stored.spec = server.spec ∧ (later = after → stored = server) ∧
        ∀ otherBase expected, expected = none ∨ expected = some stored.generation →
          ∀ lookup reading rest, ∃ result, runPrefix exec (lookup :: reading :: rest)
              (ServerService.apply otherBase raw desired expected) later =
              (.done result, later.store later.db) ∧
            (lookup.fault = .none → reading.now.isOk → result = .ok stored)) ∧
    ∀ (existing : Option DataSpec) (r2Repository otherRepository : Option String) (spec : ServerSpec),
      desired.resolve existing r2Repository = .ok spec →
      desired.resolve (some spec.data) otherRepository = .ok spec := by
  refine ⟨?_, fun _ _ _ _ resolved => DesiredServerSpec.resolve_again resolved⟩
  obtain ⟨name, parsed, applied⟩ := Applied.of_apply indexed first
  intro later between
  rcases between with rfl | ⟨choices, expected, started, returned⟩
  · exact ⟨name, server, parsed, by rw [applied.holding.getByName], rfl, fun _ => rfl,
      fun otherBase _ compatible => applied.again parsed otherBase compatible⟩
  · obtain ⟨again, sameSpec⟩ := applied.started parsed returned
    refine ⟨name, started, parsed, by rw [again.holding.getByName], sameSpec, ?_,
      fun otherBase _ compatible => again.again parsed otherBase compatible⟩
    rintro rfl
    have held := applied.holding.getByName
    rw [again.holding.getByName] at held
    injection held with found
    injection found with same
    exact Option.some.inj same

namespace Sample

def worldServer : Server where
  id := serverId
  name := ⟨"world", Server.world_valid⟩
  generation := 1
  desiredState := .stopped
  spec :=
    { compute := .local, process := (spec "1.21").process
      data := { backend := .localRestic, repository := "/srv/restic" } }
  currentSnapshotId := none
  archivedAt := none
  createdAt := 1
  updatedAt := 1

def applied : World :=
  (runPrefix exec (List.replicate 4 (choice 1)) (ServerService.apply none "world" (spec "1.21") none) initial).2

end Sample

theorem reapplying_sample_changes_nothing : ∃ server, (runPrefix exec [Sample.choice 2, Sample.choice 2]
      (ServerService.apply (some "s3:other") "world" (Sample.spec "1.21") none) Sample.applied) =
        (.done (.ok server), Sample.applied.store Sample.applied.db) ∧ server.generation = 1 := by
  have first : runPrefix exec (List.replicate 4 (Sample.choice 1))
      (ServerService.apply none "world" (Sample.spec "1.21") none) initial =
      (.done (.ok Sample.worldServer), Sample.applied) := rfl
  obtain ⟨name, stored, -, -, -, same, again⟩ := (reapplying_changes_nothing initial
    ⟨List.nodup_nil, List.nodup_nil⟩ none "world" (Sample.spec "1.21") none _ Sample.worldServer
    Sample.applied first).1 Sample.applied (.inl rfl)
  obtain ⟨result, returned, ok⟩ := again (some "s3:other") none (.inl rfl) (Sample.choice 2) (Sample.choice 2) []
  rw [ok rfl rfl, same rfl] at returned
  exact ⟨_, returned, rfl⟩

end McServer.System
