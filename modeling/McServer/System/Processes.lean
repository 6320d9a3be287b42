import McServer.System.Walks
import McServer.System.Histories

set_option autoImplicit false

namespace McServer.System

open Domain Store Agent ControlPlane Interleaving

structure Tenant where
  id : ComputeInstanceId
  provider : ComputeProvider
  processId : Option Nat
  active : Bool

def tenant (row : ComputeRow) : Tenant :=
  { id := row.id, provider := row.provider, processId := row.processId, active := row.terminatedAt.isNone }

def tenants (db : Database) : List Tenant := db.computeInstances.map tenant

section Statements

variable {db : Database}

def SameTenants (db after : Database) : Prop := tenants after = tenants db

theorem SameTenants.of_same {after : Database} (same : after.computeInstances = db.computeInstances) :
    SameTenants db after := by
  simp only [SameTenants, tenants, same]

theorem computeUpdate_tenants {selects : ComputeRow → Bool} {set : ComputeRow → ComputeRow}
    (same : ∀ row, tenant (set row) = tenant row) :
    SameTenants db (touchedOne (updateComputes selects set) db).2 :=
  touchedOne_keeps (.of_same rfl) fun _ => Table.map_update fun row _ _ => same row

theorem query_tenants {op : DbOp} (plain : isPlain (.db op) = true) (db : Database) :
    SameTenants db (op.query db).2 := by
  cases op with
  | insertCompute | recordProcessId | terminateCompute => cases plain
  | recordProviderInstance | recordAgentCertificate | requestShutdown =>
    exact computeUpdate_tenants fun _ => rfl
  | authenticateAgent id provider token der now =>
    simp only [DbOp.query, ComputeInstanceRepository.authenticateAgent]
    cases provider with
    | localProcess => exact computeUpdate_tenants fun _ => rfl
    | akamai =>
      cases der with
      | none => exact .of_same rfl
      | some der => exact computeUpdate_tenants fun _ => rfl
  | _ => exact .of_same ((query_untouched _ db).computes rfl)

theorem insertCompute_tenants (id : ComputeInstanceId) (owner : ServerInstanceId) (provider : ComputeProvider)
    (token : String) (enrollment : Option String) (now : UnixTimestampMillis) (db : Database) :
    SameTenants db ((DbOp.insertCompute id owner provider token enrollment now).query db).2 ∧
        ((DbOp.insertCompute id owner provider token enrollment now).query db).1 ≠ .ok true ∨
      ∃ new, tenants ((DbOp.insertCompute id owner provider token enrollment now).query db).2 =
          tenants db ++ [new] ∧ (∀ old ∈ tenants db, old.id ≠ new.id) ∧
        new.id = id ∧ new.provider = provider ∧ new.active = true := by
  rcases insertForInstance_cases id owner provider token enrollment now db with ⟨result, failed, other⟩ |
    ⟨row, named, -, sort, -, running, -, -, -, free, -, -, done⟩
  · simp only [DbOp.query, failed]
    exact .inl ⟨.of_same rfl, other⟩
  · refine .inr ⟨tenant row, ?_, fun old member same => ?_, named, sort, Option.isNone_iff_eq_none.mpr running⟩
    · simp only [DbOp.query, done, tenants, List.map_append, List.map_singleton]
    · obtain ⟨other, present, rfl⟩ := List.mem_map.mp member
      have free := free other present
      simp only [ComputeRow.conflicts, Bool.or_eq_false_iff, decide_eq_false_iff_not] at free
      exact free.1 same.symm

theorem update_tenants {selects : ComputeRow → Bool} {set : ComputeRow → ComputeRow}
    {change : Tenant → Tenant}
    (changed : ∀ row, tenant (if selects row then set row else row) = change (tenant row)) :
    tenants { db with computeInstances := Table.update selects set db.computeInstances } =
      (tenants db).map change := by
  simp only [tenants, Table.update, List.map_map]
  exact List.map_congr_left fun row _ => changed row

-- The process of an active local compute is written down.
def Tenant.recorded (id : ComputeInstanceId) (processId : Nat) (old : Tenant) : Tenant :=
  if old.id = id && old.active && old.provider = .localProcess then { old with processId := some processId }
  else old

theorem recordProcessId_tenants (id : ComputeInstanceId) (processId : Nat) (now : UnixTimestampMillis)
    (db : Database) :
    SameTenants db ((DbOp.recordProcessId id processId now).query db).2 ∧
        ((DbOp.recordProcessId id processId now).query db).1 ≠ .ok true ∨
      tenants ((DbOp.recordProcessId id processId now).query db).2 =
        (tenants db).map (Tenant.recorded id processId) := by
  simp only [DbOp.query, ComputeInstanceRepository.recordProcessId]
  rcases touchedOne_cases _ _ db with failed | ⟨stored, -⟩
  · rw [failed]
    exact .inl ⟨.of_same rfl, by rintro ⟨⟩⟩
  · rw [stored]
    exact .inr (update_tenants fun row => apply_ite tenant _ _ _)

def Tenant.ended (id : ComputeInstanceId) (old : Tenant) : Tenant :=
  if old.id = id && old.active then { old with active := false } else old

theorem terminateCompute_tenants (id : ComputeInstanceId) (result : ComputeTerminalResult)
    (message : Option String) (now : UnixTimestampMillis) (db : Database) :
    SameTenants db ((DbOp.terminateCompute id result message now).query db).2 ∨
      tenants ((DbOp.terminateCompute id result message now).query db).2 =
        (tenants db).map (Tenant.ended id) := by
  simp only [DbOp.query, ComputeInstanceRepository.terminate]
  rcases touchedOne_cases _ _ db with failed | ⟨stored, -⟩
  · rw [failed]
    exact .inl (.of_same rfl)
  · rw [stored]
    exact .inr (update_tenants fun row => apply_ite tenant _ _ _)

end Statements

structure Tracked where
  world : World
  owner : Nat → Option ComputeInstanceId

def owners (op : Op) (choice : Choice) (owner : Nat → Option ComputeInstanceId) :
    Nat → Option ComputeInstanceId :=
  match op with
  | .machine (.spawnAgent compute _) =>
      if choice.fault = .before then owner else Function.update owner choice.processId (some compute)
  | _ => owner

def trackedExec (op : Op) (choice : Choice) (state : Tracked) : op.Res × Tracked :=
  ((exec op choice state.world).1,
    { world := (exec op choice state.world).2, owner := owners op choice state.owner })

def tracked (setup : Setup) : Machine Thread Task Action Op Op.Res Choice Tracked where
  exec := trackedExec
  program := program setup
  environment action state := { state with world := environment setup action state.world }
  crash state := { state with world := crash state.world }

def untracked : Tracked := { world := initial, owner := fun _ => none }

def followed (setup : Setup) (run : Run) : Config Thread Op Op.Res Tracked :=
  (tracked setup).run run (Machine.idle untracked)

def Tracked.forget (config : Config Thread Op Op.Res Tracked) : Config Thread Op Op.Res World :=
  { state := config.state.world, threads := config.threads }

theorem forget_step (setup : Setup) (event : Event Thread Task Action Choice)
    (config : Config Thread Op Op.Res Tracked) :
    Tracked.forget ((tracked setup).step event config) = (machine setup).step event (Tracked.forget config) := by
  cases event with
  | advance thread choice =>
    simp only [Machine.step, Tracked.forget]
    split <;> rfl
  | start thread task =>
    have same : ((Tracked.forget config).threads thread).finished = (config.threads thread).finished := rfl
    simp only [Machine.step, same]
    split <;> rfl
  | environment action => rfl
  | crash => rfl

theorem forget_run (setup : Setup) (run : Run) (config : Config Thread Op Op.Res Tracked) :
    Tracked.forget ((tracked setup).run run config) = (machine setup).run run (Tracked.forget config) := by
  induction run generalizing config with
  | nil => rfl
  | cons event rest ih => rw [Machine.run_cons, Machine.run_cons, ih, forget_step]

theorem followed_reached (setup : Setup) (run : Run) :
    Tracked.forget (followed setup run) = reached setup run :=
  forget_run setup run _

-- Processes only end, and nothing that says whose they are changes.
structure Beside (before after : Tracked) : Prop where
  owner : after.owner = before.owner
  rows : tenants after.world.db = tenants before.world.db
  files : after.world.machine.runtimeStates = before.world.machine.runtimeStates
  children : ∀ compute child, after.world.machine.children compute = some child →
    before.world.machine.children compute = some child
  processes : ∀ processId process, after.world.machine.processes processId = some process →
    before.world.machine.processes processId = some process ∧
      after.world.machine.bootId = before.world.machine.bootId

theorem Beside.refl (state : Tracked) : Beside state state :=
  ⟨rfl, rfl, rfl, fun _ _ same => same, fun _ _ same => ⟨same, rfl⟩⟩

theorem Beside.trans {first second third : Tracked} (left : Beside first second)
    (right : Beside second third) : Beside first third where
  owner := right.owner.trans left.owner
  rows := right.rows.trans left.rows
  files := right.files.trans left.files
  children compute child held := left.children compute child (right.children compute child held)
  processes processId process lives := by
    obtain ⟨before, same⟩ := right.processes processId process lives
    obtain ⟨earlier, same'⟩ := left.processes processId process before
    exact ⟨earlier, same.trans same'⟩

theorem Beside.of_same {before after : Tracked} (owner : after.owner = before.owner)
    (db : tenants after.world.db = tenants before.world.db)
    (machine : after.world.machine = before.world.machine) : Beside before after where
  owner := owner
  rows := db
  files := by rw [machine]
  children compute child held := by rwa [← machine]
  processes processId process lives := ⟨by rwa [← machine], by rw [machine]⟩

section Steps

theorem settleProvider_machine (op : ProviderOp) (provider : Provider) (world : World) :
    (settleProvider op provider world).machine = world.machine := by
  cases op with
  | deleteInstance id =>
    simp only [settleProvider]
    cases world.provider.find id with
    | none => rfl
    | some vm =>
      dsimp only [World.note, World.wipeVm]
      split <;> rfl
  | _ => rfl

theorem exec_machine {op : Op} (elsewhere : ∀ request, op ≠ .machine request) (choice : Choice)
    (world : World) : (exec op choice world).2.machine = world.machine := by
  cases op with
  | machine request => exact absurd rfl (elsewhere request)
  | db op =>
    simp only [exec, execDb]
    split <;> rfl
  | provider op =>
    simp only [exec, execProvider]
    split
    · rfl
    · split
      · exact settleProvider_machine op _ world
      · rfl
      · exact settleProvider_machine op _ world
  | link op =>
    cases op with
    | send compute command =>
      simp only [exec, execLink, execSend]
      split
      · rfl
      · split <;> rfl
    | await compute exchange =>
      simp only [exec, execLink, execAwait]
      split <;> rfl
    | _ => rfl
  | issueCredentials compute keyPrefix ttl =>
    simp only [exec]
    split <;> rfl
  | respond since request der response =>
    simp only [exec]
    split <;> rfl
  | clock | newUuid | readBounded | openssl | begin | reply => rfl

theorem endProcess_dead (machine : LocalMachine) (processId : Nat) :
    ¬(machine.endProcess processId).processMatches processId = true := by
  simp [LocalMachine.processMatches, LocalMachine.endProcess]

theorem endProcess_beside (state : Tracked) (processId : Nat) :
    Beside state { state with
      world := { state.world with machine := state.world.machine.endProcess processId } } where
  owner := rfl
  rows := rfl
  files := rfl
  children _ _ held := held
  processes other process lives := by
    refine ⟨?_, rfl⟩
    by_cases same : other = processId
    · subst same
      simp [LocalMachine.endProcess] at lives
    · simpa [LocalMachine.endProcess, Function.update_of_ne same] using lives

theorem dropChild_beside (state : Tracked) (compute : ComputeInstanceId) :
    Beside state { state with
      world := { state.world with machine := state.world.machine.setChild compute none } } where
  owner := rfl
  rows := rfl
  files := rfl
  children other child held := by
    by_cases same : other = compute
    · subst same
      simp [LocalMachine.setChild] at held
    · simpa [LocalMachine.setChild, Function.update_of_ne same] using held
  processes _ _ lives := ⟨lives, rfl⟩

theorem applyLocal_beside {op : LocalOp} (harmless : settles op = false) (choice : Choice) (state : Tracked) :
    Beside state { state with world := (applyLocal op choice state.world).2 } := by
  cases op with
  | insertChild | storeRuntimeState | spawnAgent | removeStateDirectory => cases harmless
  | tryWaitChild compute =>
    simp only [applyLocal]
    split
    · exact .refl state
    · split
      · exact .refl state
      · exact dropChild_beside state compute
  | takeChild compute => exact dropChild_beside state compute
  | waitChild processId | killChild processId => exact endProcess_beside state processId
  | signal processId name =>
    simp only [applyLocal]
    split
    · exact endProcess_beside state processId
    · exact .refl state
  | createStateDirectory compute => exact ⟨rfl, rfl, rfl, fun _ _ held => held, fun _ _ lives => ⟨lives, rfl⟩⟩
  | loadRuntimeState | readBootId | readProcessState | deadlinePassed | listContainers | removeContainer
  | listStateDirectories => exact .of_same rfl rfl rfl

theorem owners_same {op : Op} (unspawned : ∀ compute token, op ≠ .machine (.spawnAgent compute token))
    (choice : Choice) (owner : Nat → Option ComputeInstanceId) : owners op choice owner = owner := by
  unfold owners
  split
  · exact absurd rfl (unspawned _ _)
  · rfl

theorem unspawned {op : LocalOp} (harmless : settles op = false) (compute : ComputeInstanceId)
    (token : String) : Op.machine op ≠ .machine (.spawnAgent compute token) := by
  rintro ⟨⟩
  cases harmless

theorem machine_beside {op : LocalOp} (harmless : settles op = false) (choice : Choice) (state : Tracked) :
    Beside state (trackedExec (.machine op) choice state).2 := by
  simp only [trackedExec, owners_same (unspawned harmless), exec, execLocal]
  cases choice.fault with
  | none => exact applyLocal_beside harmless choice state
  | before => exact .refl state
  | after => exact applyLocal_beside harmless choice state

theorem execDb_written (op : DbOp) (choice : Choice) (world : World) :
    (execDb op choice world).2.db = world.db ∨ (execDb op choice world).2.db = (op.query world.db).2 := by
  simp only [execDb]
  cases choice.fault with
  | none => exact .inr rfl
  | before => exact .inl rfl
  | after => exact .inr rfl

theorem plain_beside {op : Op} (plain : isPlain op = true) (choice : Choice) (state : Tracked) :
    Beside state (trackedExec op choice state).2 := by
  have elsewhere : ∀ request, op ≠ .machine request := by
    rintro request rfl
    cases plain
  have unowned : owners op choice state.owner = state.owner :=
    owners_same (fun compute token => elsewhere (.spawnAgent compute token)) choice state.owner
  refine .of_same unowned ?_ (exec_machine elsewhere choice state.world)
  cases op with
  | provider | machine => cases plain
  | db op =>
    rcases execDb_written op choice state.world with same | written
    · exact congrArg tenants same
    · exact (congrArg tenants written).trans (query_tenants plain state.world.db)
  | link op => exact congrArg tenants (execLink_aside state.world choice op).db
  | issueCredentials compute keyPrefix ttl =>
    simp only [trackedExec, exec]
    split <;> rfl
  | respond since request der response =>
    simp only [trackedExec, exec]
    split <;> rfl
  | clock | newUuid | readBounded | openssl | begin | reply => rfl

theorem request_beside (op : ProviderOp) (choice : Choice) (state : Tracked) :
    Beside state (trackedExec (.provider op) choice state).2 := by
  have elsewhere : ∀ request, Op.provider op ≠ .machine request := nofun
  exact .of_same rfl (congrArg tenants (execProvider_aside state.world choice op).db)
    (exec_machine elsewhere choice state.world)

theorem environment_beside (setup : Setup) (action : Action) (state : Tracked) :
    Beside state { state with world := environment setup action state.world } := by
  cases action with
  | agentExecutes compute choices =>
    simp only [environment, agentExecutes]
    split <;> exact .of_same rfl rfl rfl
  | processEnds processId => exact endProcess_beside state processId
  | machineReboots bootId => exact ⟨rfl, rfl, rfl, fun _ _ held => held, by rintro _ _ ⟨⟩⟩
  | vmVanishes id =>
    simp only [environment, vmVanishes]
    split
    · exact .refl state
    · dsimp only [World.wipeVm]
      split <;> exact .of_same rfl rfl rfl
  | foreignVmAppears vm =>
    simp only [environment, foreignVmAppears]
    split <;> exact .of_same rfl rfl rfl
  | agentRestarts | containerExits | serverWrites => exact .of_same rfl rfl rfl

theorem crash_beside (state : Tracked) : Beside state { state with world := crash state.world } :=
  ⟨rfl, rfl, rfl, nofun, fun _ _ lives => ⟨lives, rfl⟩⟩

end Steps

def Live (state : Tracked) (compute : ComputeInstanceId) (processId : Nat) : Prop :=
  state.owner processId = some compute ∧ state.world.machine.processMatches processId = true

def Active (state : Tracked) (compute : ComputeInstanceId) : Prop :=
  ∃ tenant ∈ tenants state.world.db, tenant.id = compute ∧ tenant.active = true

-- The runtime state file names the process, and nothing but the process.
structure Vouched (manager : LocalManager) (state : Tracked) (compute : ComputeInstanceId) (processId : Nat)
    (file : LocalRuntimeState) : Prop where
  version : file.schemaVersion = localRuntimeStateSchemaVersion
  process : file.processId = processId
  owner : manager.belongsTo file compute = true
  boot : file.linuxBootId = state.world.machine.bootId
  ticks : ∀ process, state.world.machine.processes processId = some process →
    process.startTimeTicks = file.linuxProcessStartTimeTicks

structure Attested (manager : LocalManager) (state : Tracked) (compute : ComputeInstanceId)
    (processId : Nat) : Prop where
  column : ∃ tenant ∈ tenants state.world.db, tenant.id = compute ∧ tenant.processId = some processId
  file : ∃ file, state.world.machine.runtimeStates compute = some file ∧
    Vouched manager state compute processId file
  child : ∀ child, state.world.machine.children compute = some child → child = processId

structure Staffed (manager : LocalManager) (starting : Option ComputeInstanceId) (state : Tracked) :
    Prop where
  ids : Table.Unique Tenant.id (tenants state.world.db)
  known : ∀ compute processId, Live state compute processId →
    ∃ tenant ∈ tenants state.world.db, tenant.id = compute ∧ tenant.provider = .localProcess
  attested : ∀ compute processId, Live state compute processId → Active state compute →
    starting ≠ some compute → Attested manager state compute processId

section Facts

variable {manager : LocalManager} {starting : Option ComputeInstanceId} {before after : Tracked}
  {compute : ComputeInstanceId} {processId : Nat}

theorem Live.process (live : Live after compute processId) :
    ∃ process, after.world.machine.processes processId = some process := by
  have lives := live.2
  simp only [LocalMachine.processMatches] at lives
  cases found : after.world.machine.processes processId with
  | none => simp [found] at lives
  | some process => exact ⟨process, rfl⟩

theorem Beside.live (beside : Beside before after) (live : Live after compute processId) :
    Live before compute processId := by
  obtain ⟨process, lives⟩ := live.process
  obtain ⟨earlier, -⟩ := beside.processes processId process lives
  refine ⟨by rw [← beside.owner]; exact live.1, ?_⟩
  have matching := live.2
  simp only [LocalMachine.processMatches, lives, earlier] at matching ⊢
  exact matching

theorem Beside.active (beside : Beside before after) (active : Active after compute) :
    Active before compute := by
  rwa [Active, ← beside.rows]

theorem Beside.vouched (beside : Beside before after) (live : Live after compute processId)
    {file : LocalRuntimeState} (vouched : Vouched manager before compute processId file) :
    Vouched manager after compute processId file where
  version := vouched.version
  process := vouched.process
  owner := vouched.owner
  boot := by
    obtain ⟨process, lives⟩ := live.process
    rw [(beside.processes processId process lives).2]
    exact vouched.boot
  ticks process lives := vouched.ticks process (beside.processes processId process lives).1

theorem Beside.attested (beside : Beside before after) (live : Live after compute processId)
    (attested : Attested manager before compute processId) :
    Attested manager after compute processId where
  column := by
    rw [beside.rows]
    exact attested.column
  file := by
    obtain ⟨file, stored, vouched⟩ := attested.file
    exact ⟨file, by rw [beside.files]; exact stored, beside.vouched live vouched⟩
  child child held := attested.child child (beside.children compute child held)

theorem Beside.staffed (beside : Beside before after) (staffed : Staffed manager starting before) :
    Staffed manager starting after where
  ids := by
    rw [beside.rows]
    exact staffed.ids
  known compute processId live := by
    rw [beside.rows]
    exact staffed.known compute processId (beside.live live)
  attested compute processId live active other :=
    beside.attested live (staffed.attested compute processId (beside.live live) (beside.active active) other)

theorem Staffed.rewritten (staffed : Staffed manager starting before) (owner : after.owner = before.owner)
    (machine : after.world.machine = before.world.machine)
    (ids : Table.Unique Tenant.id (tenants after.world.db))
    (kept : ∀ old ∈ tenants before.world.db, ∃ new ∈ tenants after.world.db, new.id = old.id ∧
      new.provider = old.provider ∧ (starting ≠ some old.id → new.processId = old.processId))
    (active : ∀ compute, (∃ old ∈ tenants before.world.db, old.id = compute) → Active after compute →
      Active before compute) : Staffed manager starting after := by
  have live : ∀ compute processId, Live after compute processId → Live before compute processId := by
    intro compute processId live
    rwa [Live, ← owner, ← machine]
  refine ⟨ids, fun compute processId lives => ?_, fun compute processId lives running other => ?_⟩
  · obtain ⟨old, member, named, here⟩ := staffed.known compute processId (live _ _ lives)
    obtain ⟨new, present, same, provider, -⟩ := kept old member
    exact ⟨new, present, same.trans named, provider.trans here⟩
  · obtain ⟨old, member, named, -⟩ := staffed.known compute processId (live _ _ lives)
    obtain ⟨⟨row, stored, rfl, recorded⟩, ⟨file, written, vouched⟩, held⟩ :=
      staffed.attested compute processId (live _ _ lives) (active _ ⟨old, member, named⟩ running) other
    obtain ⟨new, present, same, -, process⟩ := kept row stored
    refine ⟨⟨new, present, same, (process other).trans recorded⟩, ⟨file, by rw [machine]; exact written, ?_⟩, ?_⟩
    · exact ⟨vouched.version, vouched.process, vouched.owner, by rw [machine]; exact vouched.boot,
        fun process lives => vouched.ticks process (by rw [← machine]; exact lives)⟩
    · exact fun child handle => held child (by rw [← machine]; exact handle)

end Facts

end McServer.System
