import McServer.Agent.Behaviour

set_option autoImplicit false

namespace McServer.Agent

open Domain Interleaving

def InstanceState.identity (state : InstanceState) : InstanceIdentity :=
  { serverInstanceId := state.serverInstanceId, fencingToken := state.fencingToken }

def Stale (assigned : InstanceState) : Command → Prop
  | .inspect identity => identity ≠ assigned.identity
  | .restoreData params => params.identity ≠ assigned.identity ∨ params.serverId ≠ assigned.serverId ∨
      params.repository ≠ assigned.repository ∨ params.sourceSnapshotId ≠ assigned.sourceSnapshotId
  | .startServer params => params.identity ≠ assigned.identity
  | .stopServer params => params.identity ≠ assigned.identity
  | .snapshotData params => params.identity ≠ assigned.identity ∨ params.serverId ≠ assigned.serverId ∨
      params.repository ≠ assigned.repository
  | .cleanupInstance identity => identity ≠ assigned.identity
  | .shutdown => False

section Refusing

variable {A B : Type} {state : AgentState} {assigned : InstanceState}

def Refuses (state : AgentState) (program : AgentM A) : Prop :=
  ∃ next, program = .call .readState next ∧ (∀ error, next (.error error) = .done (.error error)) ∧
    ∃ error, next (.ok (some state)) = .done (.error error)

theorem Refuses.bind {program : AgentM A} (refuses : Refuses state program) (next : A → AgentM B) :
    Refuses state (Try.bind program next) := by
  obtain ⟨rest, rfl, failed, error, refused⟩ := refuses
  refine ⟨_, rfl, fun error => ?_, error, ?_⟩
  · rw [failed]
    rfl
  · rw [refused]
    rfl

theorem loadState_refuses {next : AgentState → AgentM A} (error : ExecutorError)
    (refused : next state = Try.fail error) : Refuses state (Try.bind AgentExecutor.loadState next) := by
  refine ⟨_, rfl, fun _ => rfl, ?_⟩
  by_cases supported : state.schemaVersion = agentStateSchemaVersion
  · refine ⟨error, ?_⟩
    simp only [Prog.bind_done, supported, ne_eq, not_true, if_false]
    exact refused
  · refine ⟨.unsupportedStateSchemaVersion state.schemaVersion, ?_⟩
    simp only [Prog.bind_done, supported, ne_eq, not_false_eq_true, if_true]
    rfl

theorem Refuses.run {program : AgentM A} (refuses : Refuses state program) {node : Node}
    (stored : node.host.state = some state) (choice : AgentChoice) (choices : List AgentChoice) :
    ∃ error, runPrefix Node.exec (choice :: choices) program node = (.done (.error error), node) := by
  obtain ⟨next, rfl, failed, error, refused⟩ := refuses
  have looked : Node.exec .readState choice node = (.ok (some state), node) ∨
      Node.exec .readState choice node = (.error choice.error, node) := by
    unfold Node.exec
    cases choice.fault with
    | none => exact .inl (by rw [Node.apply, stored])
    | before => exact .inr rfl
    | partway removed => exact .inr rfl
    | after => exact .inr rfl
  rcases looked with found | unread
  · refine ⟨error, ?_⟩
    simp only [runPrefix, found, refused]
  · refine ⟨choice.error, ?_⟩
    simp only [runPrefix, unread, failed]

theorem validateIdentity_stale {identity : InstanceIdentity} (other : identity ≠ assigned.identity) :
    validateIdentity assigned identity = .error .staleInstance := by
  unfold validateIdentity
  by_cases differs : assigned.serverInstanceId ≠ identity.serverInstanceId ∨
      assigned.fencingToken ≠ identity.fencingToken
  · rw [if_pos differs]
  · push Not at differs
    exact absurd (by cases identity; simp [InstanceState.identity, differs]) other

theorem validateAssigned_stale {identity : InstanceIdentity} (given : state.assigned = some assigned)
    (other : identity ≠ assigned.identity) :
    validateAssigned state identity = .error .staleInstance := by
  simp only [validateAssigned, given, validateIdentity_stale other]

theorem ensureInstanceState_stale {params : RestoreDataParams} (given : state.assigned = some assigned)
    (stale : Stale assigned (.restoreData params)) :
    ∃ error, ensureInstanceState state params.identity params.serverId params.repository
      params.sourceSnapshotId = .error error := by
  simp only [ensureInstanceState, given, Option.getD_some]
  by_cases same : params.identity = assigned.identity
  · have differs : assigned.serverId ≠ params.serverId ∨ assigned.repository ≠ params.repository ∨
        assigned.sourceSnapshotId ≠ params.sourceSnapshotId := by
      rcases stale with other | server | repository | source
      · exact absurd same other
      · exact .inl server.symm
      · exact .inr (.inl repository.symm)
      · exact .inr (.inr source.symm)
    split
    · exact ⟨_, rfl⟩
    · rw [if_pos differs]
      exact ⟨_, rfl⟩
  · rw [validateIdentity_stale same]
    exact ⟨_, rfl⟩

theorem dispatchMethod_refuses (config : AgentConfig) {command : Command}
    (given : state.assigned = some assigned) (stale : Stale assigned command) :
    Refuses state (AgentExecutor.dispatchMethod config command) := by
  cases command with
  | inspect identity | cleanupInstance identity =>
    refine Refuses.bind (loadState_refuses .staleInstance ?_) _
    rw [validateAssigned_stale given stale]
    rfl
  | restoreData params =>
    obtain ⟨error, rejected⟩ := ensureInstanceState_stale given stale
    refine Refuses.bind (loadState_refuses error ?_) _
    rw [rejected]
    rfl
  | startServer params | stopServer params =>
    refine Refuses.bind (loadState_refuses .staleInstance ?_) _
    rw [given]
    dsimp only
    rw [validateIdentity_stale stale]
    rfl
  | snapshotData params =>
    by_cases same : params.identity = assigned.identity
    · have differs : assigned.serverId ≠ params.serverId ∨ assigned.repository ≠ params.repository := by
        rcases stale with other | server | repository
        · exact absurd same other
        · exact .inl server.symm
        · exact .inr repository.symm
      refine Refuses.bind (loadState_refuses .immutableInstanceConfigurationChanged ?_) _
      have accepted : validateIdentity assigned params.identity = .ok () := by
        simp [validateIdentity, same, InstanceState.identity]
      rw [given]
      dsimp only
      rw [accepted, Try.failIf, if_pos differs]
      rfl
    · refine Refuses.bind (loadState_refuses .staleInstance ?_) _
      rw [given]
      dsimp only
      rw [validateIdentity_stale same]
      rfl
  | shutdown => exact stale.elim

end Refusing

def Prepared (state : AgentState) : Prop :=
  ∀ assigned, state.assigned = some assigned → assigned.dataPrepared = true

section Storing

theorem prepared_loaded {state : AgentState} (loaded : state = .default ∨ Prepared state) : Prepared state := by
  rcases loaded with rfl | prepared
  · exact nofun
  · exact prepared

theorem restoreData_prepares (config : AgentConfig) (params : RestoreDataParams) :
    Quietly Prepared true (AgentExecutor.restoreData config params) fun _ => True := by
  refine restoreData_quiet config params fun state assigned _ _ => ?_
  rintro other ⟨⟩
  rfl

theorem snapshotData_prepared (params : SnapshotDataParams) :
    Quietly Prepared true (AgentExecutor.snapshotData params) fun _ => True := by
  refine bind_quiet _ loadState_quiet fun state loaded => ?_
  rcases found : state.assigned with _ | assigned
  · exact fail_quiet
  refine then_quiet (ofExcept_quiet fun _ _ => trivial) fun _ => then_quiet failIf_quiet fun _ => ?_
  refine then_quiet (containerRunning_quiet _) fun _ => then_quiet failIf_quiet fun _ => ?_
  refine then_quiet (ensureResticRepository_quiet _) fun _ => ?_
  refine then_quiet (ask_quiet fun _ => rfl) fun _ => then_quiet (ofExcept_quiet fun _ _ => trivial)
    fun _ => then_quiet (storeState_quiet ?_) fun _ => pure_quiet trivial
  rintro other ⟨⟩
  exact prepared_loaded loaded assigned found

theorem dispatchMethod_prepared (config : AgentConfig) (command : Command) :
    Quietly Prepared true (AgentExecutor.dispatchMethod config command) fun _ => True := by
  cases command with
  | inspect identity => exact bind_quiet _ (inspect_quiet identity) fun _ _ => pure_quiet trivial
  | restoreData params => exact then_quiet (restoreData_prepares config params) fun _ => pure_quiet trivial
  | startServer params => exact then_quiet (startServer_quiet config params) fun _ => pure_quiet trivial
  | stopServer params => exact then_quiet (stopServer_quiet params) fun _ => pure_quiet trivial
  | snapshotData params => exact then_quiet (snapshotData_prepared params) fun _ => pure_quiet trivial
  | cleanupInstance identity =>
    exact then_quiet (cleanupInstance_quiet config identity) fun _ => pure_quiet trivial
  | shutdown => exact pure_quiet trivial

end Storing

inductive Occurrence where
  | command (config : AgentConfig) (command : Command) (choices : List AgentChoice)
  | elsewhere (after : Node)

def occur (node : Node) : Occurrence → Node
  | .command config command choices =>
      (runPrefix Node.exec choices (AgentExecutor.dispatchMethod config command) node).2
  | .elsewhere after => { after with host := { after.host with state := node.host.state } }

def StoresPrepared (node : Node) : Prop := ∀ state, node.host.state = some state → Prepared state

theorem occur_storesPrepared {node : Node} (stores : StoresPrepared node) (occurrence : Occurrence) :
    StoresPrepared (occur node occurrence) := by
  cases occurrence with
  | elsewhere after => exact stores
  | command config command choices =>
    have quietly := dispatchMethod_prepared config command node trivial
    exact (Contract.Safe.runPrefix (exec_quiet Prepared true) ⟨stores, nofun⟩ quietly choices).1.1

theorem occurrences_storePrepared {node : Node} (stores : StoresPrepared node)
    (occurrences : List Occurrence) : StoresPrepared (occurrences.foldl occur node) := by
  induction occurrences generalizing node with
  | nil => exact stores
  | cons occurrence rest ih => exact ih (occur_storesPrepared stores occurrence)

theorem stale_commands_change_nothing :
    (∀ (config : AgentConfig) (command : Command) (node : Node) (state : AgentState)
      (assigned : InstanceState), node.host.state = some state → state.assigned = some assigned →
      Stale assigned command → ∀ choice choices, ∃ error,
        runPrefix Node.exec (choice :: choices) (AgentExecutor.dispatchMethod config command) node =
          (.done (.error error), node)) ∧
    ∀ (node : Node) (occurrences : List Occurrence), node.host.state = none →
      ∀ state assigned, (occurrences.foldl occur node).host.state = some state →
        state.assigned = some assigned → assigned.dataPrepared = true := by
  refine ⟨fun config command node state assigned stored given stale choice choices => ?_,
    fun node occurrences unassigned state assigned stored given => ?_⟩
  · exact (dispatchMethod_refuses config given stale).run stored choice choices
  · have initially : StoresPrepared node := by
      intro state stored
      rw [unassigned] at stored
      cases stored
    exact occurrences_storePrepared initially occurrences state stored assigned given

end McServer.Agent
