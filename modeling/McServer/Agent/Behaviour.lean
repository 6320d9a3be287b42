import McServer.Agent.Executor
import McServer.Library.Interleaving

set_option autoImplicit false

namespace McServer.Agent

open Domain Interleaving Interleaving.Contract

def AgentState.lastSnapshotId (state : AgentState) : Option String :=
  state.assigned.bind InstanceState.lastSnapshotId

def Host.lastSnapshotId (host : Host) : Option String := host.state.bind AgentState.lastSnapshotId

namespace Node

theorem foldl_remove_state (places : List Place) (host : Host) :
    (places.foldl Host.remove host).state = host.state := by
  induction places generalizing host with
  | nil => rfl
  | cons place rest ih =>
    rw [List.foldl_cons, ih]
    cases place <;> rfl

theorem cutShort_state (op : AgentOp) (removed : Nat) (host : Host) :
    (cutShort op removed host).state = host.state := by
  have damaged : ∀ (place : Place) (host : Host), (host.damage place).state = host.state := by
    intro place host
    cases place <;> rfl
  unfold cutShort
  split
  · rfl
  · exact damaged _ host
  · dsimp only
    split
    · rw [damaged, foldl_remove_state]
    · rw [foldl_remove_state]
  · rfl

def keepsRecords : AgentOp → Bool
  | .writeState _ | .removeStateFile | .startContainer _ | .resticBackup _ _ _ => false
  | _ => true

theorem apply_keepsRecords {op : AgentOp} (choice : AgentChoice) (node : Node)
    (keeps : keepsRecords op = true) :
    (node.apply op choice).2.host.state = node.host.state ∧ (node.apply op choice).2.events = node.events := by
  cases op with
  | writeState state | removeStateFile | startContainer id | resticBackup repository server id =>
    cases keeps
  | containerRunning id =>
    simp only [apply]
    split <;> exact ⟨rfl, rfl⟩
  | stopContainer id timeout =>
    simp only [apply, stop]
    split <;> exact ⟨rfl, rfl⟩
  | resticInit repository =>
    simp only [apply]
    split <;> exact ⟨rfl, rfl⟩
  | resticRestore repository snapshotId =>
    simp only [apply, restore]
    split <;> exact ⟨rfl, rfl⟩
  | movePath source destination =>
    simp only [apply, move]
    split
    · exact ⟨rfl, rfl⟩
    · cases source <;> cases destination <;> exact ⟨rfl, rfl⟩
  | createDirectory place =>
    simp only [apply, create]
    split
    · exact ⟨rfl, rfl⟩
    · cases place <;> exact ⟨rfl, rfl⟩
  | removePath place => cases place <;> exact ⟨rfl, rfl⟩
  | removePaths places => exact ⟨foldl_remove_state places node.host, rfl⟩
  | readState | stateFileExists | ensureStateDirectory | containerExists id | removeContainer id
  | createContainer id arguments | resticConfig repository | pathExists place => exact ⟨rfl, rfl⟩

theorem exec_cases (op : AgentOp) (choice : AgentChoice) (node : Node) :
    exec op choice node = node.apply op choice ∨ ∃ error, (exec op choice node).1 = .error error ∧
        ((exec op choice node).2 = node ∨ (exec op choice node).2 = (node.apply op choice).2 ∨
          ∃ removed, (exec op choice node).2 = node.mapHost (cutShort op removed)) := by
  unfold exec
  cases choice.fault with
  | none => exact .inl rfl
  | before => exact .inr ⟨_, rfl, .inl rfl⟩
  | partway removed => exact .inr ⟨_, rfl, .inr (.inr ⟨removed, rfl⟩)⟩
  | after => exact .inr ⟨_, rfl, .inr (.inl rfl)⟩

theorem exec_keeps {inv : Node → Prop} {op : AgentOp} {choice : AgentChoice} {node : Node}
    (initial : inv node) (applied : inv (node.apply op choice).2)
    (stuck : ∀ host : Host, host.state = node.host.state → inv { node with host }) :
    inv (exec op choice node).2 := by
  rcases exec_cases op choice node with done | ⟨error, -, untouched | after | ⟨removed, partly⟩⟩
  · rwa [done]
  · rwa [untouched]
  · rwa [after]
  · rw [partly]
    exact stuck _ (cutShort_state op removed node.host)

end Node

def Known (before after : Option String) : Prop :=
  ∀ snapshotId, after = some snapshotId → before = some snapshotId

section Quiet

variable (good : AgentState → Prop) (backups : Bool)

def quiet : Contract Unit AgentOp Node :=
  Contract.alone (fun node => (∀ state, node.host.state = some state → good state) ∧
      (backups = false → ∀ event ∈ node.events, ∃ id, event = .containerStarted id))
    (fun op _ =>
      match op with
      | .writeState state => good state
      | .resticBackup _ _ _ => backups = true
      | _ => True)

theorem apply_quiet {op : AgentOp} {choice : AgentChoice} {node : Node}
    (inv : (quiet good backups).Inv node) (allowed : (quiet good backups).Guard () op node) :
    (quiet good backups).Inv (node.apply op choice).2 := by
  obtain ⟨stored, started⟩ := inv
  by_cases keeps : Node.keepsRecords op = true
  · obtain ⟨state, events⟩ := Node.apply_keepsRecords choice node keeps
    refine ⟨?_, by rw [events]; exact started⟩
    rw [state]
    exact stored
  · cases op with
    | writeState state =>
      refine ⟨?_, started⟩
      rintro other ⟨⟩
      exact allowed
    | removeStateFile => exact ⟨nofun, started⟩
    | resticBackup repository server id =>
      have allowed : backups = true := allowed
      simp only [Node.apply, Node.backup]
      split
      · exact ⟨stored, fun never => by simp [allowed] at never⟩
      · exact ⟨stored, started⟩
    | startContainer id =>
      simp only [Node.apply, Node.start]
      split
      · exact ⟨stored, started⟩
      · refine ⟨stored, fun never event member => ?_⟩
        rcases List.mem_cons.mp member with rfl | old
        · exact ⟨id, rfl⟩
        · exact started never event old
    | _ => exact absurd rfl keeps

theorem exec_quiet (op : AgentOp) (choice : AgentChoice) (node : Node)
    (inv : (quiet good backups).Inv node) (allowed : (quiet good backups).Guard () op node) :
    (quiet good backups).Inv (Node.exec op choice node).2 := by
  refine Node.exec_keeps inv (apply_quiet good backups inv allowed) fun host same => ⟨?_, inv.2⟩
  rw [same]
  exact inv.1

abbrev Quietly {A : Type} (program : AgentM A) (post : A → Prop) : Prop :=
  (quiet good backups).Does Node.exec () (fun _ => True) program fun value _ => post value

variable {good backups}

theorem ask_quiet {op : AgentOp} (allowed : ∀ node, (quiet good backups).Guard () op node) :
    Quietly good backups (ask op) fun _ => True :=
  Triple.perform (Contract.Stable.alone _) fun node _ _ => ⟨allowed node, fun _ _ _ => trivial⟩

theorem loadState_quiet :
    Quietly good backups AgentExecutor.loadState fun state => state = .default ∨ good state := by
  unfold AgentExecutor.loadState
  refine Does.bind (fun stored _ => ∀ state, stored = some state → good state) ?_ ?_
  · refine Triple.perform (Contract.Stable.alone _) fun node inv _ => ⟨trivial, fun choice state found => ?_⟩
    rcases Node.exec_cases .readState choice node with done | ⟨error, failed, -⟩
    · rw [done] at found
      injection found with same
      rw [← same]
      exact inv.1
    · rw [failed] at found
      cases found
  · intro state
    split
    · exact Does.pure fun _ _ => .inl rfl
    · split
      · exact Does.fail
      · exact Does.pure fun _ stored => .inr (stored _ rfl)

theorem bind_quiet {A B : Type} {program : AgentM A} (middle : A → Prop) {next : A → AgentM B}
    {post : B → Prop} (first : Quietly good backups program middle)
    (second : ∀ value, middle value → Quietly good backups (next value) post) :
    Quietly good backups (Try.bind program next) post := by
  refine Does.bind (fun value _ => middle value) first fun value node holds => ?_
  exact second value holds node trivial

theorem then_quiet {A B : Type} {program : AgentM A} {next : A → AgentM B} {post : B → Prop}
    (first : Quietly good backups program fun _ => True) (second : ∀ value, Quietly good backups (next value) post) :
    Quietly good backups (Try.bind program next) post :=
  bind_quiet (fun _ => True) first fun value _ => second value

theorem pure_quiet {A : Type} {value : A} {post : A → Prop} (holds : post value) :
    Quietly good backups (pure value) post :=
  Does.pure fun _ _ => holds

theorem fail_quiet {A : Type} {error : ExecutorError} {post : A → Prop} :
    Quietly good backups (Try.fail error : AgentM A) post :=
  Does.fail

theorem ite_quiet {A : Type} {condition : Prop} [Decidable condition] {first second : AgentM A}
    {post : A → Prop} (yes : Quietly good backups first post) (no : Quietly good backups second post) :
    Quietly good backups (if condition then first else second) post :=
  Does.ite (fun _ => yes) fun _ => no

theorem failIf_quiet {condition : Prop} [Decidable condition] {error : ExecutorError} :
    Quietly good backups (Try.failIf condition error) fun _ => True :=
  Does.failIf fun _ _ _ => trivial

theorem containerRunning_quiet (id : Uuid) :
    Quietly good backups (AgentExecutor.containerRunning id) fun _ => True :=
  then_quiet (ask_quiet fun _ => trivial) fun _ => ite_quiet (ask_quiet fun _ => trivial) (pure_quiet trivial)

theorem removePaths_quiet (config : AgentConfig) (places : List Place) :
    Quietly good backups (AgentExecutor.removePaths config places) fun _ => True := by
  unfold AgentExecutor.removePaths
  cases config.dataAccessMode with
  | podmanUserNamespace => exact ask_quiet fun _ => trivial
  | host =>
    induction places with
    | nil => exact pure_quiet trivial
    | cons place rest ih => exact then_quiet (ask_quiet fun _ => trivial) fun _ => ih

theorem ensureResticRepository_quiet (repository : String) :
    Quietly good backups (AgentExecutor.ensureResticRepository repository) fun _ => True := by
  refine then_quiet (ask_quiet fun _ => trivial) fun _ => ite_quiet (pure_quiet trivial) ?_
  refine then_quiet (ask_quiet fun _ => trivial) fun _ => ite_quiet (pure_quiet trivial) ?_
  exact then_quiet (ask_quiet fun _ => trivial) fun _ => ite_quiet (pure_quiet trivial) fail_quiet

theorem look_quiet {A : Type} (op : AgentOp) (allowed : ∀ node, (quiet good backups).Guard () op node)
    {next : op.Res → AgentM A} {post : A → Prop} (onward : ∀ result, Quietly good backups (next result) post) :
    Quietly good backups (Prog.bind (ask op) next) post :=
  Triple.bind (fun _ _ => True) (Triple.perform (Contract.Stable.alone _) fun node _ _ =>
      ⟨allowed node, fun _ => trivial⟩) onward

theorem recoverSwap_quiet (error : ExecutorError) :
    Quietly good backups (AgentExecutor.recoverSwap error) fun _ => True := by
  refine look_quiet (.pathExists .previous) (fun _ => trivial) fun previous => ?_
  rcases previous with _ | _ | _
  · exact fail_quiet
  · exact fail_quiet
  · refine look_quiet (.pathExists .data) (fun _ => trivial) fun data => ?_
    rcases data with _ | _ | _
    · exact fail_quiet
    · exact look_quiet (.movePath .previous .data) (fun _ => trivial) fun _ => fail_quiet
    · exact fail_quiet

theorem restoreSnapshot_quiet (config : AgentConfig) (repository snapshotId : String) :
    Quietly good backups (AgentExecutor.restoreSnapshot config repository snapshotId) fun _ => True := by
  have recovered : Quietly good backups AgentExecutor.recoverInterruptedSwap fun _ => True :=
    then_quiet (ask_quiet fun _ => trivial) fun _ => ite_quiet (pure_quiet trivial)
      (then_quiet (ask_quiet fun _ => trivial) fun _ =>
        ite_quiet (ask_quiet fun _ => trivial) (pure_quiet trivial))
  have aside : Quietly good backups AgentExecutor.setDataAside fun _ => True :=
    then_quiet (ask_quiet fun _ => trivial) fun _ => ite_quiet (ask_quiet fun _ => trivial) (pure_quiet trivial)
  have swapped : Quietly good backups (AgentExecutor.swapIn config) fun _ => True := by
    refine look_quiet (.movePath .restored .data) (fun _ => trivial) fun moved => ?_
    cases moved with
    | error error => exact recoverSwap_quiet error
    | ok _ => exact removePaths_quiet config _
  refine then_quiet recovered fun _ => then_quiet (removePaths_quiet config _) fun _ => ?_
  refine then_quiet (ask_quiet fun _ => trivial) fun _ => then_quiet (ask_quiet fun _ => trivial) fun _ => ?_
  refine then_quiet (ask_quiet fun _ => trivial) fun _ => then_quiet failIf_quiet fun _ => ?_
  exact then_quiet aside fun _ => swapped

theorem storeState_quiet {state : AgentState} (fine : good state) :
    Quietly good backups (AgentExecutor.storeState state) fun _ => True :=
  then_quiet (ask_quiet fun _ => trivial) fun _ => ask_quiet fun _ => fine

theorem ofExcept_quiet {A : Type} {result : Except ExecutorError A} {post : A → Prop}
    (implies : ∀ value, result = .ok value → post value) :
    Quietly good backups (Try.ofExcept result) post :=
  Does.ofExcept fun value same _ _ => implies value same

theorem restoreData_quiet (config : AgentConfig) (params : RestoreDataParams)
    (closed : ∀ state assigned, state = .default ∨ good state →
      ensureInstanceState state params.identity params.serverId params.repository
        params.sourceSnapshotId = .ok assigned →
      good { state with assigned := some { assigned with dataPrepared := true } }) :
    Quietly good backups (AgentExecutor.restoreData config params) fun _ => True := by
  refine bind_quiet _ loadState_quiet fun state loaded => ?_
  refine bind_quiet (fun assigned =>
      good { state with assigned := some { assigned with dataPrepared := true } })
    (ofExcept_quiet fun assigned accepted => closed state assigned loaded accepted)
    fun assigned fine => ite_quiet (pure_quiet trivial) ?_
  have prepared : Quietly good backups (AgentExecutor.prepareData config params) fun _ => True := by
    unfold AgentExecutor.prepareData
    cases params.sourceSnapshotId with
    | some snapshotId => exact restoreSnapshot_quiet config params.repository snapshotId
    | none => exact then_quiet (removePaths_quiet config _) fun _ => ask_quiet fun _ => trivial
  refine then_quiet (ask_quiet fun _ => trivial) fun _ =>
    then_quiet (ensureResticRepository_quiet params.repository) fun _ => then_quiet prepared fun _ => ?_
  exact then_quiet (storeState_quiet fine) fun _ => pure_quiet trivial

theorem startServer_quiet (config : AgentConfig) (params : StartServerParams) :
    Quietly good backups (AgentExecutor.startServer config params) fun _ => True := by
  refine bind_quiet _ loadState_quiet fun state _ => ?_
  rcases state.assigned with _ | assigned
  · exact fail_quiet
  have created : Quietly good backups (AgentExecutor.createContainer config
      params.identity.serverInstanceId assigned.serverId params.process) fun _ => True :=
    ite_quiet fail_quiet (ask_quiet fun _ => trivial)
  refine then_quiet (ofExcept_quiet fun _ _ => trivial) fun _ => then_quiet failIf_quiet fun _ => ?_
  refine then_quiet (containerRunning_quiet _) fun _ => ite_quiet (pure_quiet trivial) ?_
  refine then_quiet (ask_quiet fun _ => trivial) fun _ => then_quiet created fun _ => ?_
  exact then_quiet (ask_quiet fun _ => trivial) fun _ => pure_quiet trivial

theorem stopServer_quiet (params : StopServerParams) :
    Quietly good backups (AgentExecutor.stopServer params) fun _ => True := by
  refine bind_quiet _ loadState_quiet fun state _ => ?_
  rcases state.assigned with _ | assigned
  · exact fail_quiet
  refine then_quiet (ofExcept_quiet fun _ _ => trivial) fun _ =>
    then_quiet (containerRunning_quiet _) fun _ => ite_quiet (pure_quiet trivial) ?_
  exact then_quiet (ask_quiet fun _ => trivial) fun _ => pure_quiet trivial

theorem cleanupInstance_quiet (config : AgentConfig) (identity : InstanceIdentity) :
    Quietly good backups (AgentExecutor.cleanupInstance config identity) fun _ => True := by
  have looked : ∀ places, Quietly good backups (AgentExecutor.anyPathExists places) fun _ => True := by
    intro places
    induction places with
    | nil => exact ask_quiet fun _ => trivial
    | cons place rest ih =>
      exact then_quiet (ask_quiet fun _ => trivial) fun _ => ite_quiet (pure_quiet trivial) ih
  refine bind_quiet _ loadState_quiet fun state _ => then_quiet (ofExcept_quiet fun _ _ => trivial)
    fun _ => then_quiet (ask_quiet fun _ => trivial) fun _ => ?_
  refine then_quiet (ask_quiet fun _ => trivial) fun _ => then_quiet (looked _) fun _ => ?_
  refine then_quiet ?_ fun _ => pure_quiet trivial
  exact then_quiet (removePaths_quiet config _) fun _ => ask_quiet fun _ => trivial

theorem inspect_quiet (identity : InstanceIdentity) :
    Quietly good backups (AgentExecutor.inspect identity) fun result =>
      ∃ state, (state = .default ∨ good state) ∧ result.lastSnapshotId = state.lastSnapshotId := by
  refine bind_quiet _ loadState_quiet fun state loaded => then_quiet (ofExcept_quiet fun _ _ => trivial)
    fun _ => then_quiet (containerRunning_quiet _) fun _ => pure_quiet ⟨state, loaded, rfl⟩

end Quiet

section Snapshot

variable (id : Uuid) (before : Option String)

def BackedUp (events : List AgentEvent) (last : Option String) : Prop :=
  (events = [] ∧ Known before last) ∨
    ∃ messages, events = [.backedUp id messages false] ∧ ∀ snapshotId, last = some snapshotId →
      before = some snapshotId ∨ parseBackupSnapshotId messages = .ok snapshotId

def snapshotting : Contract Unit AgentOp Node :=
  Contract.alone (fun node => BackedUp id before node.events node.host.lastSnapshotId) (fun op node =>
      match op with
      | .writeState state => BackedUp id before node.events state.lastSnapshotId
      | .resticBackup _ _ other => node.events = [] ∧ other = id ∧ node.host.isRunning id = false
      | .startContainer _ => False
      | .removeStateFile => False
      | _ => True)

theorem apply_snapshotting {op : AgentOp} {choice : AgentChoice} {node : Node}
    (inv : (snapshotting id before).Inv node) (allowed : (snapshotting id before).Guard () op node) :
    (snapshotting id before).Inv (node.apply op choice).2 := by
  by_cases keeps : Node.keepsRecords op = true
  · obtain ⟨state, events⟩ := Node.apply_keepsRecords choice node keeps
    have known : BackedUp id before node.events node.host.lastSnapshotId := inv
    show BackedUp id before _ (Host.lastSnapshotId _)
    rwa [Host.lastSnapshotId, state, events]
  · cases op with
    | writeState state => exact allowed
    | removeStateFile => exact allowed.elim
    | startContainer _ => exact allowed.elim
    | resticBackup repository server other =>
      obtain ⟨none_yet, rfl, stopped⟩ := allowed
      simp only [Node.apply, Node.backup]
      split
      · refine .inr ⟨choice.messages, by simp [none_yet, stopped], fun snapshotId last => .inl ?_⟩
        rcases inv with ⟨-, known⟩ | ⟨messages, some_event, -⟩
        · exact known snapshotId last
        · rw [none_yet] at some_event
          cases some_event
      · exact inv
    | _ => exact absurd rfl keeps

theorem exec_snapshotting (op : AgentOp) (choice : AgentChoice) (node : Node)
    (inv : (snapshotting id before).Inv node) (allowed : (snapshotting id before).Guard () op node) :
    (snapshotting id before).Inv (Node.exec op choice node).2 := by
  refine Node.exec_keeps inv (apply_snapshotting id before inv allowed) fun host same => ?_
  have known : BackedUp id before node.events node.host.lastSnapshotId := inv
  show BackedUp id before node.events host.lastSnapshotId
  rwa [Host.lastSnapshotId, same]

abbrev Snapshotting {A : Type} (pre : Node → Prop) (program : AgentM A) (post : A → Node → Prop) : Prop :=
  (snapshotting id before).Does Node.exec () pre program post

variable {id before}

def leavesHost : AgentOp → Bool
  | .readState | .containerExists _ | .containerRunning _ | .resticConfig _ | .resticInit _
  | .ensureStateDirectory => true
  | _ => false

theorem exec_leavesHost {op : AgentOp} (choice : AgentChoice) (node : Node) (leaves : leavesHost op = true) :
    (Node.exec op choice node).2.host = node.host ∧ (Node.exec op choice node).2.events = node.events := by
  have applied : (node.apply op choice).2.host = node.host ∧ (node.apply op choice).2.events = node.events := by
    cases op with
    | readState | containerExists _ | resticConfig _ | ensureStateDirectory => exact ⟨rfl, rfl⟩
    | containerRunning _ | resticInit _ =>
      simp only [Node.apply]
      split <;> exact ⟨rfl, rfl⟩
    | _ => cases leaves
  have stuck : ∀ removed, Node.cutShort op removed node.host = node.host := by
    intro removed
    cases op <;> first | rfl | cases leaves
  rcases Node.exec_cases op choice node with done | ⟨error, -, untouched | after | ⟨removed, partly⟩⟩
  · rwa [done]
  · rw [untouched]
    exact ⟨rfl, rfl⟩
  · rwa [after]
  · rw [partly]
    exact ⟨stuck removed, rfl⟩

theorem look_snapshotting (op : AgentOp) (leaves : leavesHost op = true)
    (holds : Host → List AgentEvent → Prop) (shown : op.Value → Host → Prop)
    (result : ∀ node choice found, (snapshotting id before).Inv node → holds node.host node.events →
      (node.apply op choice).1 = .ok found → shown found node.host) :
    Snapshotting id before (fun node => holds node.host node.events) (ask op)
      fun found node => holds node.host node.events ∧ shown found node.host := by
  refine Triple.perform (Contract.Stable.alone _) fun node inv known =>
    ⟨?_, fun choice found same => ?_⟩
  · cases op <;> trivial
  · obtain ⟨host, events⟩ := exec_leavesHost choice node leaves
    rw [host, events]
    refine ⟨known, ?_⟩
    rcases Node.exec_cases op choice node with done | ⟨error, failed, -⟩
    · rw [done] at same
      exact result node choice found inv known same
    · rw [failed] at same
      cases same

theorem loadState_snapshotting : Snapshotting id before (fun node => node.events = []) AgentExecutor.loadState
      fun state node => node.events = [] ∧ Known before state.lastSnapshotId := by
  refine Does.bind _ (look_snapshotting .readState rfl (fun _ events => events = [])
    (fun state _ => Known before (Option.bind state AgentState.lastSnapshotId)) ?_) fun state => ?_
  · intro node choice state inv none_yet same
    injection same with same
    rw [← same]
    rcases inv with ⟨-, known⟩ | ⟨messages, some_event, -⟩
    · exact known
    · rw [none_yet] at some_event
      cases some_event
  · rcases state with _ | state
    · exact Does.pure fun node holds => ⟨holds.1, nofun⟩
    · exact Does.ite (fun _ => Does.fail) fun _ => Does.pure fun _ holds => holds

theorem containerRunning_snapshotting :
    Snapshotting id before (fun node => node.events = []) (AgentExecutor.containerRunning id)
      fun running node => node.events = [] ∧ (running = false → node.host.isRunning id = false) := by
  -- Without a container nothing runs; with one the second look decides.
  refine Does.bind _ (look_snapshotting (.containerExists id) rfl
    (fun _ events => events = []) (fun found host => found = false → host.isRunning id = false) ?_)
    fun found => Does.ite (fun _ => ?_) fun missing => ?_
  · intro node choice found _ _ same missing
    injection same with same
    have none_there : node.host.containers id = none := by
      simpa only [missing, Option.isSome_eq_false_iff, Option.isNone_iff_eq_none] using same
    simp [Host.isRunning, none_there]
  · refine (look_snapshotting (.containerRunning id) rfl (fun _ events => events = [])
      (fun running host => running = false → host.isRunning id = false) ?_).strengthen
      fun node holds => holds.1
    intro node choice (running : Bool) _ _ same (stopped : running = false)
    simp only [Node.apply] at same
    split at same
    · rename_i container present
      injection same with same
      simpa [Host.isRunning, present, same] using stopped
    · cases same
  · have absent : found = false := Bool.eq_false_iff.mpr missing
    exact Does.pure fun node holds => ⟨holds.1, fun _ => holds.2 absent⟩

theorem ensureResticRepository_snapshotting (repository : String) :
    Snapshotting id before (fun node => node.host.isRunning id = false ∧ node.events = [])
      (AgentExecutor.ensureResticRepository repository)
      fun _ node => node.host.isRunning id = false ∧ node.events = [] := by
  have looked : ∀ op : AgentOp, leavesHost op = true →
      Snapshotting id before (fun node => node.host.isRunning id = false ∧ node.events = []) (ask op)
        fun _ node => node.host.isRunning id = false ∧ node.events = [] := fun op leaves =>
    (look_snapshotting op leaves (fun host events => host.isRunning id = false ∧ events = [])
      (fun _ _ => True) fun _ _ _ _ _ _ => trivial).weaken fun _ _ holds => holds.1
  refine Does.bind _ (looked (.resticConfig repository) rfl) fun _ =>
    Does.ite (fun _ => Does.pure fun _ holds => holds) fun _ => ?_
  refine Does.bind _ (looked (.resticInit repository) rfl) fun _ =>
    Does.ite (fun _ => Does.pure fun _ holds => holds) fun _ => ?_
  exact Does.bind _ (looked (.resticConfig repository) rfl) fun _ =>
    Does.ite (fun _ => Does.pure fun _ holds => holds) fun _ => Does.fail

theorem backup_snapshotting (repository : String) (serverId : Uuid) :
    Snapshotting id before (fun node => node.host.isRunning id = false ∧ node.events = [])
      (ask (.resticBackup repository serverId id))
      fun messages node => node.events = [.backedUp id messages false] := by
  refine Triple.perform (Contract.Stable.alone _) fun node inv holds =>
    ⟨⟨holds.2, rfl, holds.1⟩, fun choice messages same => ?_⟩
  rcases Node.exec_cases (.resticBackup repository serverId id) choice node with done | ⟨error, failed, -⟩
  · rw [done] at same ⊢
    simp only [Node.apply, Node.backup] at same ⊢
    split at same
    · injection same with same
      simp only [holds.1, holds.2, same]
    · cases same
  · rw [failed] at same
    cases same

theorem storeState_snapshotting {state : AgentState} {messages : List ResticMessage}
    (announced : ∀ snapshotId, state.lastSnapshotId = some snapshotId →
      before = some snapshotId ∨ parseBackupSnapshotId messages = .ok snapshotId) :
    Snapshotting id before (fun node => node.events = [.backedUp id messages false])
      (AgentExecutor.storeState state) fun _ node => node.events = [.backedUp id messages false] := by
  refine Does.bind _ (look_snapshotting .ensureStateDirectory rfl
    (fun _ events => events = [.backedUp id messages false]) (fun _ _ => True)
    fun _ _ _ _ _ _ => trivial) fun _ => ?_
  refine Triple.perform (Contract.Stable.alone _) fun node inv holds =>
    ⟨.inr ⟨messages, holds.1, announced⟩, fun choice _ same => ?_⟩
  rcases Node.exec_cases (.writeState state) choice node with done | ⟨error, failed, -⟩
  · rw [done]
    exact holds.1
  · rw [failed] at same
    cases same

theorem snapshotData_snapshotting (params : SnapshotDataParams)
    (named : params.identity.serverInstanceId = id) :
    Snapshotting id before (fun node => node.events = []) (AgentExecutor.snapshotData params)
      fun snapshotId node => ∃ messages, node.events = [.backedUp id messages false] ∧
        parseBackupSnapshotId messages = .ok snapshotId := by
  subst named
  refine Does.bind _ loadState_snapshotting fun state => Does.given fun known => ?_
  rcases found : state.assigned with _ | assigned
  · exact Does.fail
  replace known : Known before assigned.lastSnapshotId := by
    simpa [AgentState.lastSnapshotId, found] using known
  refine Does.bind (fun _ node => node.events = []) (Does.ofExcept fun _ _ _ holds => holds) fun _ => ?_
  refine Does.bind (fun _ node => node.events = []) (Does.failIf fun _ _ holds => holds) fun _ => ?_
  refine Does.bind _ containerRunning_snapshotting fun running => ?_
  refine Does.bind (fun _ node => node.host.isRunning params.identity.serverInstanceId = false ∧
    node.events = []) (Does.failIf fun stopped _ holds => ?_) fun _ => ?_
  · exact ⟨holds.2 (Bool.eq_false_iff.mpr stopped), holds.1⟩
  refine Does.bind _ (ensureResticRepository_snapshotting params.repository) fun _ => ?_
  refine Does.bind (fun messages node =>
    node.events = [.backedUp params.identity.serverInstanceId messages false])
    (backup_snapshotting params.repository params.serverId) fun messages => ?_
  refine Does.bind (fun snapshotId node => node.events =
      [.backedUp params.identity.serverInstanceId messages false] ∧
      parseBackupSnapshotId messages = .ok snapshotId)
    (Does.ofExcept fun snapshotId parsed node holds => ⟨holds, parsed⟩)
    fun snapshotId => Does.given fun parsed => ?_
  refine Does.bind (fun _ node => node.events = [.backedUp params.identity.serverInstanceId messages false])
    (storeState_snapshotting fun other stored => ?_) fun _ =>
    Does.pure fun node holds => ⟨messages, holds, parsed⟩
  injection stored with same
  rw [← same]
  exact .inr parsed

end Snapshot

structure Outcome (command : Command) (before : Option String) (progress : AgentM CommandResult)
    (node : Node) : Prop where
  records : ((∀ event ∈ node.events, ∃ id, event = .containerStarted id) ∧
      Known before node.host.lastSnapshotId) ∨
    ∃ params messages, command = .snapshotData params ∧
      node.events = [.backedUp params.identity.serverInstanceId messages false] ∧
      ∀ snapshotId, node.host.lastSnapshotId = some snapshotId →
        before = some snapshotId ∨ parseBackupSnapshotId messages = .ok snapshotId
  inspected : ∀ result, progress = .done (.ok (.inspected result)) → Known before result.lastSnapshotId
  snapshot : ∀ snapshotId, progress = .done (.ok (.snapshot snapshotId)) →
    ∃ params messages, command = .snapshotData params ∧
      node.events = [.backedUp params.identity.serverInstanceId messages false] ∧
      parseBackupSnapshotId messages = .ok snapshotId

def knows (before : Option String) (state : AgentState) : Prop := Known before state.lastSnapshotId

theorem knows_loaded {before : Option String} {state : AgentState}
    (loaded : state = .default ∨ knows before state) : Known before state.lastSnapshotId := by
  rcases loaded with rfl | known
  · exact nofun
  · exact known

theorem ensureInstanceState_known {before : Option String} {state : AgentState}
    {identity : InstanceIdentity} {serverId : Uuid} {repository : String} {source : Option String}
    {assigned : InstanceState} (known : Known before state.lastSnapshotId)
    (accepted : ensureInstanceState state identity serverId repository source = .ok assigned) :
    Known before assigned.lastSnapshotId := by
  unfold ensureInstanceState at accepted
  dsimp only at accepted
  split at accepted
  · cases accepted
  · split at accepted
    · cases accepted
    · injection accepted with same
      rw [← same]
      rcases found : state.assigned with _ | existing
      · exact nofun
      · simpa [AgentState.lastSnapshotId, found] using known

theorem quiet_outcome {before : Option String} {command : Command} {program : AgentM CommandResult}
    (quietly : Quietly (knows before) false program fun result =>
      (∀ snapshotId, result ≠ .snapshot snapshotId) ∧
      ∀ inspected, result = .inspected inspected → Known before inspected.lastSnapshotId)
    {node : Node} (known : node.host.lastSnapshotId = before) (none_yet : node.events = [])
    (choices : List AgentChoice) :
    Outcome command before (runPrefix Node.exec choices program node).1
      (runPrefix Node.exec choices program node).2 := by
  have initial : (quiet (knows before) false).Inv node := by
    refine ⟨fun state stored snapshotId same => ?_, fun _ => ?_⟩
    · rw [← known, Host.lastSnapshotId, stored]
      exact same
    · rw [none_yet]
      exact nofun
  obtain ⟨inv, done⟩ := Contract.Safe.runPrefix (exec_quiet (knows before) false) initial
    (quietly node trivial) choices
  refine ⟨.inl ⟨inv.2 rfl, fun snapshotId same => ?_⟩, fun result finished => ?_, fun snapshotId finished => ?_⟩
  · obtain ⟨state, stored, last⟩ := Option.bind_eq_some_iff.mp same
    exact inv.1 state stored snapshotId last
  · exact (done _ finished _ rfl).2 result rfl
  · exact absurd rfl ((done _ finished _ rfl).1 snapshotId)

theorem changed_quiet {before : Option String} {program : AgentM Bool}
    (quietly : Quietly (knows before) false program fun _ => True) :
    Quietly (knows before) false (do return CommandResult.changed (← program)) fun result =>
      (∀ snapshotId, result ≠ .snapshot snapshotId) ∧
      ∀ inspected, result = .inspected inspected → Known before inspected.lastSnapshotId :=
  then_quiet quietly fun _ => pure_quiet ⟨by simp, by simp⟩

theorem dispatch_outcome (config : AgentConfig) (command : Command) {node : Node}
    (none_yet : node.events = []) (choices : List AgentChoice) :
    Outcome command node.host.lastSnapshotId
      (runPrefix Node.exec choices (AgentExecutor.dispatchMethod config command) node).1
      (runPrefix Node.exec choices (AgentExecutor.dispatchMethod config command) node).2 := by
  cases command with
  | inspect identity =>
    refine quiet_outcome (bind_quiet _ (inspect_quiet identity) fun result known =>
      pure_quiet ⟨by simp, fun inspected same => ?_⟩) rfl none_yet choices
    obtain ⟨state, loaded, last⟩ := known
    injection same with same
    rw [← same, last]
    exact knows_loaded loaded
  | restoreData params =>
    refine quiet_outcome (changed_quiet (restoreData_quiet config params ?_)) rfl none_yet choices
    intro state assigned loaded accepted
    have known := ensureInstanceState_known (knows_loaded loaded) accepted
    exact known
  | startServer params =>
    exact quiet_outcome (changed_quiet (startServer_quiet config params)) rfl none_yet choices
  | stopServer params =>
    exact quiet_outcome (changed_quiet (stopServer_quiet params)) rfl none_yet choices
  | cleanupInstance identity =>
    exact quiet_outcome (changed_quiet (cleanupInstance_quiet config identity)) rfl none_yet choices
  | shutdown =>
    exact quiet_outcome (pure_quiet ⟨by simp, by simp⟩) rfl none_yet choices
  | snapshotData params =>
    have initial : (snapshotting params.identity.serverInstanceId node.host.lastSnapshotId).Inv node :=
      .inl ⟨none_yet, fun _ same => same⟩
    have snapshotted : Snapshotting params.identity.serverInstanceId node.host.lastSnapshotId
        (fun node => node.events = []) (AgentExecutor.dispatchMethod config (.snapshotData params))
        fun result node => ∃ snapshotId messages, result = .snapshot snapshotId ∧
          node.events = [.backedUp params.identity.serverInstanceId messages false] ∧
          parseBackupSnapshotId messages = .ok snapshotId := by
      refine Does.bind _ (snapshotData_snapshotting params rfl) fun snapshotId => Does.pure fun node holds => ?_
      obtain ⟨messages, events, parsed⟩ := holds
      exact ⟨snapshotId, messages, rfl, events, parsed⟩
    obtain ⟨inv, done⟩ := Contract.Safe.runPrefix
      (exec_snapshotting params.identity.serverInstanceId node.host.lastSnapshotId) initial
      (snapshotted node none_yet) choices
    refine ⟨?_, fun result finished => ?_, fun snapshotId finished => ?_⟩
    · rcases inv with ⟨events, known⟩ | ⟨messages, events, announced⟩
      · exact .inl ⟨by simp [events], known⟩
      · exact .inr ⟨params, messages, rfl, events, announced⟩
    · obtain ⟨_, _, other, -⟩ := done _ finished _ rfl
      cases other
    · obtain ⟨other, messages, same, events, parsed⟩ := done _ finished _ rfl
      injection same with same
      rw [← same] at parsed
      exact ⟨params, messages, rfl, events, parsed⟩

end McServer.Agent
