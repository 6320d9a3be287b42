import McServer.Agent.Restoring

set_option autoImplicit false

namespace McServer.Agent

open Domain Interleaving Interleaving.Contract

def startGoal (config : AgentConfig) (params : StartServerParams) (node : Node) : Option Host :=
  match node.host.loaded with
  | .error _ => none
  | .ok state =>
      match state.assigned with
      | none => none
      | some assigned =>
          if validateIdentity assigned params.identity ≠ .ok () ∨ !assigned.dataPrepared then none
          else if node.host.isRunning params.identity.serverInstanceId then some node.host
          else if !params.process.acceptEula then none
          else some { node.host with
            containers := Function.update node.host.containers params.identity.serverInstanceId
              (some { running := true
                      arguments := createArguments config params.identity.serverInstanceId
                        assigned.serverId params.process }) }

def stopGoal (params : StopServerParams) (node : Node) : Option Host :=
  match node.host.loaded with
  | .error _ => none
  | .ok state =>
      match state.assigned with
      | none => none
      | some assigned =>
          if validateIdentity assigned params.identity ≠ .ok () then none
          else some { node.host with
            containers := Function.update node.host.containers params.identity.serverInstanceId
              ((node.host.containers params.identity.serverInstanceId).map fun container =>
                { container with running := false }) }

def cleanupGoal (identity : InstanceIdentity) (node : Node) : Option Host :=
  match node.host.loaded with
  | .error _ => none
  | .ok state =>
      if validateAssigned state identity ≠ .ok () then none
      else some { Host.fresh with
        containers := Function.update node.host.containers identity.serverInstanceId none }

def goalOf (config : AgentConfig) : Command → Node → Option Host
  | .restoreData params => restoreGoal params
  | .startServer params => startGoal config params
  | .stopServer params => stopGoal params
  | .cleanupInstance identity => cleanupGoal identity
  | _ => fun node => some node.host

def redelivered : Command → Bool
  | .restoreData _ | .startServer _ | .stopServer _ | .cleanupInstance _ => true
  | _ => false

section Commands

variable {Pick : Type} {pick : Pick → AgentChoice} {excused : Prop}
variable (calm : ∀ choice, (pick choice).Calm ∨ excused)

def Idle (id : Uuid) (origin node : Node) : Prop :=
  ∃ container : Option Container, container.all (fun held => !held.running) ∧
    node.host = { origin.host with containers := Function.update origin.host.containers id container }

structure Starts (params : StartServerParams) (host : Host) (assigned : InstanceState) : Prop where
  loaded : ∃ state, host.loaded = .ok state ∧ state.assigned = some assigned
  valid : validateIdentity assigned params.identity = .ok ()
  dataPrepared : assigned.dataPrepared = true

theorem startGoal_eq {config : AgentConfig} {params : StartServerParams} {node : Node}
    {assigned : InstanceState} (starts : Starts params node.host assigned) :
    startGoal config params node = if node.host.isRunning params.identity.serverInstanceId then some node.host
      else if !params.process.acceptEula then none
      else some { node.host with
        containers := Function.update node.host.containers params.identity.serverInstanceId
          (some { running := true
                  arguments := createArguments config params.identity.serverInstanceId
                    assigned.serverId params.process }) } := by
  obtain ⟨state, loaded, same⟩ := starts.loaded
  simp only [startGoal, loaded, same, starts.valid, starts.dataPrepared]
  simp

theorem Starts.ofState {params : StartServerParams} {host host' : Host} {assigned : InstanceState}
    (starts : Starts params host assigned) (same : host'.state = host.state) :
    Starts params host' assigned := by
  obtain ⟨state, loaded, known⟩ := starts.loaded
  exact ⟨⟨state, by rw [← loaded, Host.loaded, Host.loaded, same], known⟩, starts.valid, starts.dataPrepared⟩

theorem Idle.isRunning {id : Uuid} {origin node : Node} (idle : Idle id origin node) :
    node.host.isRunning id = false := by
  obtain ⟨container, still, same⟩ := idle
  rw [same]
  cases container with
  | none => simp [Host.isRunning]
  | some held => simpa [Host.isRunning] using still

theorem Idle.onCourse {config : AgentConfig} {params : StartServerParams} {origin node : Node}
    {assigned : InstanceState} (starts : Starts params origin.host assigned)
    (stopped : origin.host.isRunning params.identity.serverInstanceId = false)
    (idle : Idle params.identity.serverInstanceId origin node) :
    OnCourse (startGoal config params) origin node := by
  have resting := idle.isRunning
  obtain ⟨container, still, same⟩ := idle
  have recorded : node.host.state = origin.host.state := by rw [same]
  refine ⟨?_, .inl recorded⟩
  rw [startGoal_eq starts, startGoal_eq (starts.ofState recorded), stopped, resting]
  simp [same]

theorem Idle.ofOrigin {id : Uuid} {origin : Node} (stopped : origin.host.isRunning id = false) :
    Idle id origin origin := by
  refine ⟨origin.host.containers id, ?_, by simp⟩
  simp only [Host.isRunning] at stopped
  cases held : origin.host.containers id with
  | none => rfl
  | some container => simpa [held] using stopped

theorem Idle.replace {id : Uuid} {origin node : Node} (idle : Idle id origin node)
    (container : Option Container) :
    (node.setContainer id container).host =
      { origin.host with containers := Function.update origin.host.containers id container } := by
  obtain ⟨held, -, same⟩ := idle
  simp [Node.setContainer, Node.mapHost, same]

theorem exec_container {op : AgentOp} {choice : AgentChoice} {node : Node} {holds : Node → Prop}
    (before : holds node) (after : holds (node.apply op choice).2)
    (whole : ∀ removed, Node.cutShort op removed = fun host => host) :
    holds (Node.exec op choice node).2 := by
  rcases exec_node op choice node with same | same | ⟨removed, same⟩
  · rwa [same]
  · rwa [same]
  · rw [same, whole]
    exact before

include calm

theorem launch_heads {config : AgentConfig} {params : StartServerParams} {origin : Node}
    {assigned : InstanceState} (starts : Starts params origin.host assigned)
    (stopped : origin.host.isRunning params.identity.serverInstanceId = false)
    (refused : startGoal config params origin = none → excused) :
    Heads pick excused (OnCourse (startGoal config params) origin) (fun node => node = origin) (do
        AgentExecutor.removeContainer params.identity.serverInstanceId
        AgentExecutor.createContainer config params.identity.serverInstanceId assigned.serverId params.process
        ask (.startContainer params.identity.serverInstanceId)
        return true)
      fun _ node => startGoal config params node = some node.host ∧
        startGoal config params origin ≠ some origin.host := by
  let id := params.identity.serverInstanceId
  let arguments := createArguments config id assigned.serverId params.process
  refine Attempts.bind (fun _ node => Idle id origin node) ?_ fun _ => ?_
  · have removed : (origin.setContainer id none).host =
        { origin.host with containers := Function.update origin.host.containers id none } := rfl
    refine ask_heads calm (.removeContainer id) (fun _ _ => trivial) ?_ ?_
    · rintro node choice rfl -
      exact exec_container ((Idle.ofOrigin stopped).onCourse starts stopped)
        (Idle.onCourse starts stopped ⟨none, rfl, removed⟩) fun _ => rfl
    · rintro node choice rfl -
      exact ⟨none, rfl, removed⟩
  refine Attempts.bind (fun _ node =>
    node.host = { origin.host with
      containers := Function.update origin.host.containers id (some { running := false, arguments }) } ∧
      params.process.acceptEula = true) ?_ fun _ => ?_
  · refine Attempts.ite (fun unaccepted => ?_) fun accepted => ?_
    · refine Attempts.fail fun node idle => refused ?_
      rw [startGoal_eq starts, stopped, if_neg Bool.false_ne_true, if_pos unaccepted]
    · refine ask_heads calm (.createContainer id arguments) (fun _ _ => trivial) ?_ ?_
      · intro node choice idle _
        exact exec_container (idle.onCourse starts stopped)
          (Idle.onCourse starts stopped ⟨_, rfl, idle.replace _⟩) fun _ => rfl
      · intro node choice idle _
        exact ⟨idle.replace _, by simpa using accepted⟩
  refine Attempts.given fun accepted => ?_
  have goal : startGoal config params origin = some { origin.host with
      containers := Function.update origin.host.containers id (some { running := true, arguments }) } := by
    rw [startGoal_eq starts, stopped, accepted]
    rfl
  have started : ∀ (node : Node) (choice : AgentChoice), node.host = { origin.host with
      containers := Function.update origin.host.containers id (some { running := false, arguments }) } →
      (node.apply (.startContainer id) choice).1 = .ok () ∧
        (node.apply (.startContainer id) choice).2.host = { origin.host with
          containers := Function.update origin.host.containers id (some { running := true, arguments }) } := by
    intro node choice same
    simp only [Node.apply, Node.start, Node.setContainer, Node.mapHost, same, Function.update_self]
    exact ⟨rfl, by simp⟩
  have reached : ∀ node : Node, node.host = { origin.host with
      containers := Function.update origin.host.containers id (some { running := true, arguments }) } →
      startGoal config params node = some node.host := by
    intro node same
    rw [startGoal_eq (starts.ofState (by rw [same])), if_pos (by simp [same, Host.isRunning, id])]
  refine Attempts.bind (fun _ node => startGoal config params node = some node.host) ?_ fun _ => ?_
  · refine ask_heads calm (.startContainer id) (fun _ _ => trivial) ?_ ?_
    · intro node choice same _
      have after := (started node choice same).2
      refine exec_container (Idle.onCourse starts stopped ⟨_, rfl, same⟩) ⟨?_, .inr ?_⟩ fun _ => rfl
      · rw [reached _ after, after, goal]
      · rw [after, goal]
    · intro node choice same _
      obtain ⟨ended, after⟩ := started node choice same
      rw [ended]
      exact reached _ after
  refine Attempts.pure fun node settled => ⟨settled, fun same => ?_⟩
  -- The goal runs the container, which did not run at first.
  rw [goal] at same
  rw [← Option.some.inj same] at stopped
  simp [Host.isRunning, id] at stopped

theorem startServer_heads (config : AgentConfig) (params : StartServerParams) (origin : Node)
    (refused : startGoal config params origin = none → excused) :
    Heads pick excused (OnCourse (startGoal config params) origin) (fun node => node = origin)
      (AgentExecutor.startServer config params)
      fun changed node => startGoal config params node = some node.host ∧
        (startGoal config params origin = some origin.host → changed = false ∧ node = origin) := by
  unfold AgentExecutor.startServer
  refine Attempts.bind _ (loadState_heads calm ?_) fun state => ?_
  · rintro node error rfl unreadable
    exact refused (by simp only [startGoal, unreadable])
  cases known : state.assigned with
  | none =>
    refine Attempts.fail ?_
    rintro node ⟨rfl, loaded⟩
    exact refused (by simp only [startGoal, loaded, known])
  | some assigned =>
    refine Attempts.bind (fun _ node => (node = origin ∧ origin.host.loaded = .ok state) ∧
      validateIdentity assigned params.identity = .ok ()) (Attempts.ofExcept ?_ ?_) fun _ => ?_
    · rintro error stale node ⟨rfl, loaded⟩
      exact refused (by simp [startGoal, loaded, known, stale])
    · rintro ⟨⟩ valid node ⟨rfl, loaded⟩
      exact ⟨⟨rfl, loaded⟩, valid⟩
    refine Attempts.bind (fun _ node => node = origin ∧ Starts params origin.host assigned) ?_ fun _ => ?_
    · refine Attempts.ite (fun unprepared => ?_) fun prepared => ?_
      · refine Attempts.fail ?_
        rintro node ⟨⟨rfl, loaded⟩, valid⟩
        exact refused (by simp [startGoal, loaded, known, valid, unprepared])
      · refine Attempts.pure ?_
        rintro node ⟨⟨rfl, loaded⟩, valid⟩
        exact ⟨rfl, ⟨state, loaded, known⟩, valid, by simpa using prepared⟩
    refine Attempts.given fun starts => ?_
    refine Attempts.bind _ (containerRunning_heads calm params.identity.serverInstanceId) fun running => ?_
    refine Attempts.ite (fun yes => ?_) fun no => ?_
    · refine Attempts.pure ?_
      rintro node ⟨rfl, runs⟩
      rw [yes] at runs
      rw [startGoal_eq starts, if_pos runs]
      exact ⟨rfl, fun _ => ⟨rfl, rfl⟩⟩
    refine Attempts.strengthen (Attempts.given fun stopped => Attempts.weaken
      (launch_heads calm starts stopped refused) fun _ node holds => ⟨holds.1, fun same => absurd same holds.2⟩) ?_
    rintro node ⟨rfl, rests⟩
    exact ⟨rfl, by simpa [no] using rests⟩

omit calm in
theorem stopGoal_eq {params : StopServerParams} {node : Node} {state : AgentState}
    {assigned : InstanceState} (loaded : node.host.loaded = .ok state)
    (known : state.assigned = some assigned) (valid : validateIdentity assigned params.identity = .ok ()) :
    stopGoal params node = some { node.host with
      containers := Function.update node.host.containers params.identity.serverInstanceId
        ((node.host.containers params.identity.serverInstanceId).map fun container =>
          { container with running := false }) } := by
  simp [stopGoal, loaded, known, valid]

omit calm in
theorem stopGoal_resting {params : StopServerParams} {node : Node} {state : AgentState}
    {assigned : InstanceState} (loaded : node.host.loaded = .ok state)
    (known : state.assigned = some assigned) (valid : validateIdentity assigned params.identity = .ok ())
    (rests : node.host.isRunning params.identity.serverInstanceId = false) :
    stopGoal params node = some node.host := by
  rw [stopGoal_eq loaded known valid]
  have same : (node.host.containers params.identity.serverInstanceId).map
      (fun container => { container with running := false }) =
        node.host.containers params.identity.serverInstanceId := by
    simp only [Host.isRunning] at rests
    cases held : node.host.containers params.identity.serverInstanceId with
    | none => rfl
    | some container =>
      have still : container.running = false := by simpa [held] using rests
      rw [Option.map_some, ← still]
  rw [same, Function.update_eq_self]

omit calm in
theorem stop_reaches {params : StopServerParams} {node : Node} {state : AgentState}
    {assigned : InstanceState} (loaded : node.host.loaded = .ok state)
    (known : state.assigned = some assigned) (valid : validateIdentity assigned params.identity = .ok ())
    (choice : AgentChoice) (runs : node.host.isRunning params.identity.serverInstanceId = true) :
    (node.apply (.stopContainer params.identity.serverInstanceId params.stopTimeoutSeconds) choice).1 = .ok () ∧
      stopGoal params node = some (node.apply
        (.stopContainer params.identity.serverInstanceId params.stopTimeoutSeconds) choice).2.host ∧
      stopGoal params (node.apply
        (.stopContainer params.identity.serverInstanceId params.stopTimeoutSeconds) choice).2 =
          stopGoal params node := by
  cases held : node.host.containers params.identity.serverInstanceId with
  | none => simp [Host.isRunning, held] at runs
  | some container =>
    have goal := stopGoal_eq loaded known valid
    rw [held, Option.map_some] at goal
    simp only [Node.apply, Node.stop, held]
    refine ⟨rfl, goal, ?_⟩
    rw [goal]
    refine @stopGoal_resting params (node.setContainer _ _) state assigned loaded known valid ?_
    simp [Node.setContainer, Node.mapHost, Host.isRunning]

theorem stopServer_heads (params : StopServerParams) (origin : Node)
    (refused : stopGoal params origin = none → excused) :
    Heads pick excused (OnCourse (stopGoal params) origin) (fun node => node = origin)
      (AgentExecutor.stopServer params)
      fun changed node => stopGoal params node = some node.host ∧
        (stopGoal params origin = some origin.host → changed = false ∧ node = origin) := by
  unfold AgentExecutor.stopServer
  refine Attempts.bind _ (loadState_heads calm ?_) fun state => ?_
  · rintro node error rfl unreadable
    exact refused (by simp only [stopGoal, unreadable])
  cases known : state.assigned with
  | none =>
    refine Attempts.fail ?_
    rintro node ⟨rfl, loaded⟩
    exact refused (by simp only [stopGoal, loaded, known])
  | some assigned =>
    refine Attempts.bind (fun _ node => (node = origin ∧ origin.host.loaded = .ok state) ∧
      validateIdentity assigned params.identity = .ok ()) (Attempts.ofExcept ?_ ?_) fun _ => ?_
    · rintro error stale node ⟨rfl, loaded⟩
      exact refused (by simp [stopGoal, loaded, known, stale])
    · rintro ⟨⟩ valid node ⟨rfl, loaded⟩
      exact ⟨⟨rfl, loaded⟩, valid⟩
    refine Attempts.given fun valid => Attempts.given fun loaded => ?_
    refine Attempts.bind _ (containerRunning_heads calm params.identity.serverInstanceId) fun running => ?_
    refine Attempts.ite (fun no => ?_) fun yes => ?_
    · refine Attempts.pure ?_
      rintro node ⟨rfl, rests⟩
      exact ⟨stopGoal_resting loaded known valid (rests.trans (by simpa using no)), fun _ => ⟨rfl, rfl⟩⟩
    have yes : running = true := by simpa using yes
    subst yes
    refine Attempts.bind (fun _ node => stopGoal params node = some node.host ∧
      origin.host.isRunning params.identity.serverInstanceId = true) ?_ fun _ => ?_
    · have stopped := @stop_reaches params origin state assigned loaded known valid
      refine ask_heads calm (.stopContainer params.identity.serverInstanceId params.stopTimeoutSeconds)
        (fun _ _ => trivial) ?_ ?_
      · rintro node choice ⟨rfl, runs⟩ inv
        obtain ⟨-, reached, same⟩ := stopped choice runs
        exact exec_container inv ⟨same, .inr reached⟩ fun _ => rfl
      · rintro node choice ⟨rfl, runs⟩ -
        obtain ⟨ended, reached, same⟩ := stopped choice runs
        rw [ended]
        exact ⟨same.trans reached, runs⟩
    refine Attempts.pure ?_
    rintro node ⟨settled, runs⟩
    refine ⟨settled, fun same => ?_⟩
    rw [stopGoal_eq loaded known valid] at same
    rw [← Option.some.inj same] at runs
    cases held : origin.host.containers params.identity.serverInstanceId <;> simp [Host.isRunning, held] at runs

structure Clearing (id : Uuid) (origin node : Node) : Prop where
  state : node.host.state = origin.host.state
  containers : node.host.containers = Function.update origin.host.containers id none
  repositories : node.repositories = origin.repositories
  events : node.events = origin.events

omit calm in
theorem cleanupGoal_eq {identity : InstanceIdentity} {node : Node} {state : AgentState}
    (loaded : node.host.loaded = .ok state) (valid : validateAssigned state identity = .ok ()) :
    cleanupGoal identity node = some { Host.fresh with
      containers := Function.update node.host.containers identity.serverInstanceId none } := by
  simp [cleanupGoal, loaded, valid]

omit calm in
theorem Clearing.onCourse {identity : InstanceIdentity} {origin node : Node} {state : AgentState}
    (loaded : origin.host.loaded = .ok state) (valid : validateAssigned state identity = .ok ())
    (clearing : Clearing identity.serverInstanceId origin node) :
    OnCourse (cleanupGoal identity) origin node := by
  have again : node.host.loaded = .ok state := by
    rw [← loaded, Host.loaded, Host.loaded, clearing.state]
  refine ⟨?_, .inl clearing.state⟩
  rw [cleanupGoal_eq loaded valid, cleanupGoal_eq again valid, clearing.containers, Function.update_idem]

omit calm in
theorem Clearing.survives (id : Uuid) (origin : Node) (places : List Place) :
    Survives places (Clearing id origin) := by
  intro node clearing place _
  exact ⟨⟨(remove_frame place node.host).1.trans clearing.state,
      (remove_frame place node.host).2.trans clearing.containers, clearing.repositories, clearing.events⟩,
    (damage_frame place node.host).1.trans clearing.state,
      (damage_frame place node.host).2.trans clearing.containers, clearing.repositories, clearing.events⟩

theorem anyPathExists_heads {inv pre : Node → Prop} (places : List Place) :
    Heads pick excused inv pre (AgentExecutor.anyPathExists places) fun found node => pre node ∧
        ((∀ place ∈ places, node.host.exists place = false) → node.host.state = none → found = false) := by
  induction places with
  | nil =>
    refine look_heads calm .stateFileExists rfl fun node _ holds _ => ⟨holds, fun _ absent => ?_⟩
    rw [absent]
    rfl
  | cons place rest ih =>
    refine Attempts.bind _ (pathExists_heads calm place) fun present => ?_
    refine Attempts.ite (fun yes => ?_) fun no => ?_
    · refine Attempts.pure fun node holds => ⟨holds.1, fun gone => ?_⟩
      have never := gone place (List.mem_cons_self ..)
      rw [holds.2, yes] at never
      cases never
    · refine Attempts.weaken (Attempts.strengthen ih fun node holds => holds.1) ?_
      exact fun found node holds => ⟨holds.1, fun gone =>
        holds.2 fun other member => gone other (List.mem_cons_of_mem _ member)⟩

theorem removeInstanceStorage_heads (config : AgentConfig) {identity : InstanceIdentity} {origin : Node}
    {state : AgentState} (loaded : origin.host.loaded = .ok state)
    (valid : validateAssigned state identity = .ok ()) :
    Heads pick excused (OnCourse (cleanupGoal identity) origin)
      (Clearing identity.serverInstanceId origin) (AgentExecutor.removeInstanceStorage config)
      fun _ node => node = { origin with host := { Host.fresh with
        containers := Function.update origin.host.containers identity.serverInstanceId none } } := by
  unfold AgentExecutor.removeInstanceStorage
  refine Attempts.bind _ (removePaths_heads calm config (Clearing.survives identity.serverInstanceId origin _)
    fun node clearing => clearing.onCourse loaded valid) fun _ => ?_
  have cleared : ∀ node : Node, Clearing identity.serverInstanceId origin node →
      (∀ place ∈ [Place.data, Place.staging, Place.previous], node.host.exists place = false) →
      (node.mapHost fun host => { host with state := none }) = { origin with host := { Host.fresh with
        containers := Function.update origin.host.containers identity.serverInstanceId none } } := by
    intro node clearing gone
    have data := gone .data (by simp)
    have staging := gone .staging (by simp)
    have previous := gone .previous (by simp)
    simp only [Host.exists, Option.isSome_eq_false_iff, Option.isNone_iff_eq_none] at data staging previous
    simp only [Node.mapHost, Host.fresh, data, staging, previous, clearing.containers,
      clearing.repositories, clearing.events]
  refine ask_heads calm .removeStateFile (fun _ _ => trivial) ?_ ?_
  · rintro node choice ⟨clearing, gone⟩ -
    refine exec_container (clearing.onCourse loaded valid) ?_ fun _ => rfl
    have after : (node.apply .removeStateFile choice).2 = _ := cleared node clearing gone
    rw [after]
    have goal := cleanupGoal_eq loaded valid
    refine ⟨?_, .inr goal⟩
    rw [goal, @cleanupGoal_eq identity _ .default rfl rfl]
    simp
  · rintro node choice ⟨clearing, gone⟩ -
    exact cleared node clearing gone

theorem cleanupInstance_heads (config : AgentConfig) (identity : InstanceIdentity) (origin : Node)
    (refused : cleanupGoal identity origin = none → excused) :
    Heads pick excused (OnCourse (cleanupGoal identity) origin) (fun node => node = origin)
      (AgentExecutor.cleanupInstance config identity)
      fun changed node => cleanupGoal identity node = some node.host ∧
        (cleanupGoal identity origin = some origin.host → changed = false ∧ node = origin) := by
  unfold AgentExecutor.cleanupInstance
  refine Attempts.bind _ (loadState_heads calm ?_) fun state => ?_
  · rintro node error rfl unreadable
    exact refused (by simp only [cleanupGoal, unreadable])
  refine Attempts.bind (fun _ node => (node = origin ∧ origin.host.loaded = .ok state) ∧
    validateAssigned state identity = .ok ()) (Attempts.ofExcept ?_ ?_) fun _ => ?_
  · rintro error stale node ⟨rfl, loaded⟩
    exact refused (by simp [cleanupGoal, loaded, stale])
  · rintro ⟨⟩ valid node ⟨rfl, loaded⟩
    exact ⟨⟨rfl, loaded⟩, valid⟩
  refine Attempts.given fun valid => Attempts.given fun loaded => ?_
  refine Attempts.bind _ (containerExists_heads calm identity.serverInstanceId) fun existed => ?_
  refine Attempts.bind (fun _ node => node = origin.setContainer identity.serverInstanceId none ∧
    (origin.host.containers identity.serverInstanceId).isSome = existed) ?_ fun _ => ?_
  · refine ask_heads calm (.removeContainer identity.serverInstanceId) (fun _ _ => trivial) ?_ ?_
    · rintro node choice ⟨rfl, -⟩ inv
      exact exec_container inv (Clearing.onCourse loaded valid ⟨rfl, rfl, rfl, rfl⟩) fun _ => rfl
    · rintro node choice ⟨rfl, seen⟩ -
      exact ⟨rfl, seen⟩
  refine Attempts.given fun seen => ?_
  -- On a machine that is clean already there is nothing to find.
  have clean : cleanupGoal identity origin = some origin.host → origin.host = { Host.fresh with
      containers := Function.update origin.host.containers identity.serverInstanceId none } := by
    intro settled
    rw [cleanupGoal_eq loaded valid] at settled
    exact (Option.some.inj settled).symm
  refine Attempts.bind (fun stored node =>
    node = origin.setContainer identity.serverInstanceId none ∧
      (cleanupGoal identity origin = some origin.host → stored = false))
    (Attempts.weaken (anyPathExists_heads calm _) ?_) fun stored => ?_
  · rintro stored node ⟨rfl, absent⟩
    refine ⟨rfl, fun settled => absent ?_ ?_⟩
    · intro place member
      have absent : origin.host.exists place = false := by
        rw [clean settled]
        cases place <;> rfl
      simp only [List.mem_cons, List.not_mem_nil, or_false] at member
      rcases member with rfl | rfl | rfl <;> exact absent
    · have absent : origin.host.state = none := by
        rw [clean settled]
        rfl
      exact absent
  refine Attempts.given fun found => ?_
  refine Attempts.bind _ (Attempts.strengthen
    (removeInstanceStorage_heads calm config loaded valid) ?_) fun _ => ?_
  · rintro node rfl
    exact ⟨rfl, rfl, rfl, rfl⟩
  refine Attempts.pure ?_
  rintro node rfl
  refine ⟨?_, fun settled => ⟨?_, ?_⟩⟩
  · rw [@cleanupGoal_eq identity _ .default rfl rfl]
    simp
  · have absent : origin.host.containers identity.serverInstanceId = none := by
      rw [clean settled]
      simp
    simp [found settled, ← seen, absent]
  · rw [← clean settled]

theorem restoreData_onCourse (config : AgentConfig) (params : RestoreDataParams) (origin : Node)
    (refused : restoreGoal params origin = none → excused) :
    Heads pick excused (OnCourse (restoreGoal params) origin) (fun node => node = origin)
      (AgentExecutor.restoreData config params)
      fun changed node => restoreGoal params node = some node.host ∧
        (restoreGoal params origin = some origin.host → changed = false ∧ node = origin) := by
  rintro node rfl
  refine ((restoreData_heads calm config params node refused node rfl).under
    (fun op choice node _ guard => guard.2 (pick choice))
    (fun op node _ guard => ⟨guard.1, fun choice => (guard.2 choice).course⟩)
    (.ofSame params rfl (.refl node))).weaken ?_
  exact fun result node holds => holds.2

omit calm in
theorem changed_heads {goal : Node → Option Host} {origin : Node} {program : AgentM Bool}
    (heads : Heads pick excused (OnCourse goal origin) (fun node => node = origin) program
      fun changed node => goal node = some node.host ∧
        (goal origin = some origin.host → changed = false ∧ node = origin)) :
    Heads pick excused (OnCourse goal origin) (fun node => node = origin)
      (do return CommandResult.changed (← program))
      fun result node => goal node = some node.host ∧
        (goal origin = some origin.host → result = .changed false ∧ node = origin) := by
  refine Attempts.bind _ heads fun changed => ?_
  refine Attempts.pure fun node holds => ⟨holds.1, fun settled => ?_⟩
  obtain ⟨same, unchanged⟩ := holds.2 settled
  exact ⟨congrArg CommandResult.changed same, unchanged⟩

theorem dispatchMethod_heads (config : AgentConfig) {command : Command}
    (sent : redelivered command = true) (origin : Node)
    (refused : goalOf config command origin = none → excused) :
    Heads pick excused (OnCourse (goalOf config command) origin) (fun node => node = origin)
      (AgentExecutor.dispatchMethod config command)
      fun result node => goalOf config command node = some node.host ∧
        (goalOf config command origin = some origin.host → result = .changed false ∧ node = origin) := by
  cases command with
  | restoreData params => exact changed_heads (restoreData_onCourse calm config params origin refused)
  | startServer params => exact changed_heads (startServer_heads calm config params origin refused)
  | stopServer params => exact changed_heads (stopServer_heads calm params origin refused)
  | cleanupInstance identity =>
    exact changed_heads (cleanupInstance_heads calm config identity origin refused)
  | inspect | snapshotData | shutdown => cases sent

end Commands

def deliver (config : AgentConfig) (command : Command) (node : Node) (choices : List AgentChoice) : Node :=
  (runPrefix Node.exec choices (AgentExecutor.dispatchMethod config command) node).2

theorem deliver_goal (config : AgentConfig) {command : Command} (sent : redelivered command = true)
    (node : Node) (choices : List AgentChoice) :
    goalOf config command (deliver config command node choices) = goalOf config command node ∧
      ∀ result, (runPrefix Node.exec choices (AgentExecutor.dispatchMethod config command) node).1 =
          .done (.ok result) →
        goalOf config command node = some (deliver config command node choices).host ∧
          (goalOf config command node = some node.host →
            result = .changed false ∧ deliver config command node choices = node) := by
  obtain ⟨course, ended⟩ := prefix_of_heads
    (dispatchMethod_heads (fun _ => .inr trivial) config sent node fun _ => trivial)
    ⟨rfl, .inl rfl⟩ choices
  refine ⟨course.steady, fun result finished => ?_⟩
  obtain ⟨settled, rests⟩ := ended result finished
  exact ⟨course.steady.symm.trans settled, rests⟩

theorem deliver_calm (config : AgentConfig) {command : Command} (sent : redelivered command = true)
    {node : Node} {host : Host} (goal : goalOf config command node = some host)
    {choices : Nat → AgentChoice} (calm : ∀ count, (choices count).Calm) :
    ∃ result after,
      runAll Node.exec choices (AgentExecutor.dispatchMethod config command) node = (.ok result, after) ∧
        after.host = host ∧ (host = node.host → result = .changed false ∧ after = node) := by
  have heads := @dispatchMethod_heads { choice : AgentChoice // choice.Calm } Subtype.val False
    (fun choice => .inl choice.property) config command sent node
    (by rw [goal]; exact nofun)
  obtain ⟨result, ended, course, settled, rests⟩ := calm_of_heads heads ⟨rfl, .inl rfl⟩ choices calm
  rw [course.steady, goal] at settled
  refine ⟨result, _, Prod.ext ended rfl, (Option.some.inj settled).symm, ?_⟩
  rintro rfl
  exact rests goal

theorem attempts_goal (config : AgentConfig) {command : Command} (sent : redelivered command = true)
    (node : Node) (attempts : List (List AgentChoice)) :
    goalOf config command (attempts.foldl (deliver config command) node) = goalOf config command node := by
  induction attempts generalizing node with
  | nil => rfl
  | cons first rest ih =>
    exact (ih (deliver config command node first)).trans (deliver_goal config sent node first).1

theorem commands_are_redeliverable (config : AgentConfig) {command : Command}
    (sent : redelivered command = true) (node : Node) (attempts : List (List AgentChoice))
    (last : List AgentChoice) {result : CommandResult}
    (succeeded : (runPrefix Node.exec last (AgentExecutor.dispatchMethod config command)
      (attempts.foldl (deliver config command) node)).1 = .done (.ok result)) :
    let final := deliver config command (attempts.foldl (deliver config command) node) last
    (∀ choices : Nat → AgentChoice, (∀ count, (choices count).Calm) → ∃ single after,
        runAll Node.exec choices (AgentExecutor.dispatchMethod config command) node = (.ok single, after) ∧
          after.host = final.host) ∧
      (∀ (choices : List AgentChoice) (single : CommandResult),
        (runPrefix Node.exec choices (AgentExecutor.dispatchMethod config command) node).1 =
            .done (.ok single) →
          (deliver config command node choices).host = final.host) ∧
      (∀ choices : Nat → AgentChoice, (∀ count, (choices count).Calm) →
        runAll Node.exec choices (AgentExecutor.dispatchMethod config command) final =
          (.ok (.changed false), final)) ∧
      ∀ (choices : List AgentChoice) (again : CommandResult),
        (runPrefix Node.exec choices (AgentExecutor.dispatchMethod config command) final).1 =
            .done (.ok again) →
          again = .changed false ∧ deliver config command final choices = final := by
  intro final
  have goal : goalOf config command node = some final.host := by
    rw [← attempts_goal config sent node attempts]
    exact ((deliver_goal config sent _ last).2 result succeeded).1
  have settled : goalOf config command final = some final.host := by
    rw [← goal, ← attempts_goal config sent node attempts]
    exact (deliver_goal config sent _ last).1
  refine ⟨?_, ?_, ?_, ?_⟩
  · intro choices calm
    obtain ⟨single, after, ran, same, -⟩ := deliver_calm config sent goal calm
    exact ⟨single, after, ran, same⟩
  · intro choices single finished
    have reached := ((deliver_goal config sent node choices).2 single finished).1
    rw [goal] at reached
    exact (Option.some.inj reached).symm
  · intro choices calm
    obtain ⟨again, after, ran, -, rests⟩ := deliver_calm config sent settled calm
    obtain ⟨rfl, rfl⟩ := rests rfl
    exact ran
  · intro choices again finished
    exact ((deliver_goal config sent final choices).2 again finished).2 settled

namespace Sample

def interrupted : List AgentChoice := List.replicate 11 calm

def delivered : Node :=
  deliver config (.restoreData restoring)
    ([interrupted].foldl (deliver config (.restoreData restoring)) node) (List.replicate 24 calm)

end Sample

theorem sample_restore_is_redeliverable :
    (([Sample.interrupted].foldl (deliver Sample.config (.restoreData Sample.restoring))
        Sample.node).host.data = none) ∧
      runAll Node.exec (fun _ => Sample.calm)
        (AgentExecutor.dispatchMethod Sample.config (.restoreData Sample.restoring)) Sample.delivered =
          (.ok (.changed false), Sample.delivered) :=
  ⟨rfl, (@commands_are_redeliverable Sample.config (.restoreData Sample.restoring) rfl Sample.node
    [Sample.interrupted] (List.replicate 24 Sample.calm) (.changed true) rfl).2.2.1
      (fun _ => Sample.calm) fun _ => ⟨rfl, rfl⟩⟩

end McServer.Agent
