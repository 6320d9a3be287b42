import McServer.System.MachineSteps

set_option autoImplicit false

namespace McServer.System

open Domain Store Agent ControlPlane

-- The world when the agent has got as far as `progress` with its first command.
def worked (world : World) (compute : ComputeInstanceId) (exchange : Exchange) (rest : List Exchange)
    (progress : AgentM CommandResult) (node : Node) : World :=
  { (world.setHost compute node.host).setLink compute
      (settle (world.links compute) exchange rest progress) with
    repositories := node.repositories
    log := node.events.map (.happened compute) ++ .executed compute exchange.command :: world.log }

section Worked

variable {setup : Setup} {policy : Policy setup} {world : World} {compute : ComputeInstanceId}
variable {exchange : Exchange} {rest : List Exchange} {progress : AgentM CommandResult} {node : Node}

theorem settle_queue (link : Link) : (settle link exchange rest progress).queue = rest ∨
      (settle link exchange rest progress).queue = [] := by
  unfold settle
  split
  · exact .inl rfl
  · exact .inl rfl
  · exact .inr rfl

theorem settle_answers {link : Link} {answered : Exchange} {result : CommandResult}
    (member : (answered, .ok result) ∈ (settle link exchange rest progress).answers) :
    (answered, .ok result) ∈ link.answers ∨ progress = .done (.ok result) := by
  unfold settle at member
  split at member
  · rcases List.mem_cons.mp member with same | old
    · injection same with _ same
      injection same with same
      exact .inr (by rw [same])
    · exact .inl old
  · rcases List.mem_cons.mp member with same | old
    · injection same with _ same
      cases same
    · exact .inl old
  · exact .inl member

theorem worked_links_self : (worked world compute exchange rest progress node).links compute =
      settle (world.links compute) exchange rest progress := by
  simp [worked, World.setLink, World.setHost]

theorem worked_links_of_ne {other : ComputeInstanceId} (different : other ≠ compute) :
    (worked world compute exchange rest progress node).links other = world.links other := by
  simp [worked, World.setLink, World.setHost, Function.update_of_ne different]

variable (queue : (world.links compute).queue = exchange :: rest)
include queue

theorem worked_queue (other : ComputeInstanceId) :
    (((worked world compute exchange rest progress node).links other).queue).Sublist
      (world.links other).queue := by
  by_cases same : other = compute
  · subst same
    rw [worked_links_self, queue]
    rcases @settle_queue exchange rest progress (world.links other) with shorter | empty
    · rw [shorter]
      exact List.sublist_cons_self _ _
    · rw [empty]
      exact List.nil_sublist _
  · rw [worked_links_of_ne same]

theorem worked_persists : Persists world (worked world compute exchange rest progress node) := by
  refine ⟨Evolved.refl _, ⟨node.events.map (.happened compute) ++
    [.executed compute exchange.command], by simp [worked], fun id _ started => ?_⟩, ?_⟩
  · obtain ⟨entry, member, starts⟩ := started
    rcases List.mem_append.mp member with happened | executed
    · obtain ⟨event, -, rfl⟩ := List.mem_map.mp happened
      cases starts
    · rw [List.mem_singleton.mp executed] at starts
      exact ⟨compute, exchange, by simp [queue], starts⟩
  · rintro id - ⟨other, waiting, member, starts⟩
    exact ⟨other, waiting, (worked_queue queue other).subset member, starts⟩

omit queue in
theorem split_news {events : List AgentEvent} {recent older : List Entry} {entry : Entry}
    (split : events.map (.happened compute) ++ [.executed compute exchange.command] =
      recent ++ entry :: older) :
    (∃ event, entry = .happened compute event) ∨ entry = .executed compute exchange.command ∧ older = [] := by
  rcases List.append_eq_append_iff.mp split with ⟨middle, -, tail⟩ | ⟨middle, front, tail⟩
  · cases middle with
    | nil =>
      injection tail with same rest
      exact .inr ⟨same.symm, rest.symm⟩
    | cons head others => simp at tail
  · cases middle with
    | nil =>
      injection tail with same rest
      exact .inr ⟨same, rest⟩
    | cons head others =>
      injection tail with same _
      have member : head ∈ events.map (Entry.happened compute) := by
        rw [front]
        exact List.mem_append_right _ List.mem_cons_self
      obtain ⟨event, -, rfl⟩ := List.mem_map.mp member
      exact .inl ⟨event, same⟩

theorem worked_log (inv : Inv setup policy world) :
    ExplainedLog policy.issuers (worked world compute exchange rest progress node) := by
  have persists : Persists world (worked world compute exchange rest progress node) := worked_persists queue
  have permitted := inv.agents.queued compute exchange (by simp [queue])
  refine inv.log.extend persists (node.events.map (.happened compute) ++
    [.executed compute exchange.command]) (by simp [worked]) fun recent entry older split => ?_
  rcases split_news split with ⟨event, rfl⟩ | ⟨rfl, rfl⟩
  · trivial
  · refine ⟨permitted.persists persists, fun params cleanup => ?_⟩
    obtain ⟨row, member, allocated, fit, isReady⟩ := permitted
    rw [cleanup] at fit isReady
    refine ⟨row.id, ?_, Spared.accounted isReady persists⟩
    rw [(fit : params = identity row)]
    rfl

theorem worked_provenance (inv : Inv setup policy world) {params : SnapshotDataParams}
    {messages : List ResticMessage} {snapshotId : String}
    (snapshot : exchange.command = .snapshotData params)
    (events : node.events = [.backedUp params.identity.serverInstanceId messages false])
    (parsed : parseBackupSnapshotId messages = .ok snapshotId) :
    Made (worked world compute exchange rest progress node) compute snapshotId := by
  have persists : Persists world (worked world compute exchange rest progress node) := worked_persists queue
  have permitted := inv.agents.queued compute exchange (by simp [queue])
  obtain ⟨row, member, allocated, fit, isReady⟩ := permitted
  rw [snapshot] at fit isReady
  have named : params.identity.serverInstanceId = row.id.uuid := by
    rw [(fit : params = _)]
    rfl
  have stop : StopRequested world.db row.id := ⟨row, member, rfl, isReady⟩
  refine ⟨row.id, allocated.evolved persists.evolved, stop.evolved persists.evolved, ?_, ?_⟩
  · rintro ⟨other, waiting, present, starts⟩
    -- A start that waits is for the same compute, hence behind the snapshot in its queue.
    have queued := (worked_queue queue other).subset present
    obtain ⟨allocated', -⟩ := (inv.agents.queued other waiting queued).start starts
    obtain rfl : other = compute := allocated'.single inv.history.current.allocation allocated
    have ordered := inv.agents.ordered other
    rw [queue] at ordered
    have behind : waiting ∈ rest := by
      rw [worked_links_self] at present
      rcases @settle_queue exchange rest progress (world.links other) with shorter | empty
      · rwa [shorter] at present
      · rw [empty] at present
        cases present
    have apart := (List.pairwise_cons.mp ordered).1 waiting behind row.id
      (by simp [snapshot, snapshotsInstance, named])
    rw [apart] at starts
    cases starts
  · exact ⟨[], compute, messages, params, world.log, by simp [worked, events, snapshot, named], named,
      parsed, by simp [Started]⟩

theorem worked_agents (inv : Inv setup policy world)
    (outcome : Outcome exchange.command (world.hosts compute).lastSnapshotId progress node) :
    Agents (worked world compute exchange rest progress node) := by
  have persists : Persists world (worked world compute exchange rest progress node) := worked_persists queue
  have known : ∀ snapshotId, (world.hosts compute).lastSnapshotId = some snapshotId →
      Made (worked world compute exchange rest progress node) compute snapshotId :=
    fun snapshotId last => (inv.agents.known compute snapshotId last).persists persists
  refine ⟨fun other waiting member => ?_, fun other => ?_, fun other snapshotId last => ?_,
    fun other answered result snapshotId member last => ?_, fun other answered snapshotId member => ?_⟩
  · exact (inv.agents.queued other waiting ((worked_queue queue other).subset member)).persists persists
  · exact (inv.agents.ordered other).sublist (worked_queue queue other)
  · by_cases same : other = compute
    · subst same
      have host : (worked world other exchange rest progress node).hosts other = node.host := by
        simp [worked, World.setLink, World.setHost]
      rw [host] at last
      rcases outcome.records with ⟨-, kept⟩ | ⟨params, messages, snapshot, events, recorded⟩
      · exact known snapshotId (kept snapshotId last)
      · rcases recorded snapshotId last with before | parsed
        · exact known snapshotId before
        · exact worked_provenance queue inv snapshot events parsed
    · have host : (worked world compute exchange rest progress node).hosts other = world.hosts other := by
        simp [worked, World.setLink, World.setHost, Function.update_of_ne same]
      rw [host] at last
      exact (inv.agents.known other snapshotId last).persists persists
  · by_cases same : other = compute
    · subst same
      rw [worked_links_self] at member
      rcases settle_answers member with old | done
      · exact (inv.agents.inspected other answered result snapshotId old last).persists persists
      · exact known snapshotId (outcome.inspected result done snapshotId last)
    · rw [worked_links_of_ne same] at member
      exact (inv.agents.inspected other answered result snapshotId member last).persists persists
  · by_cases same : other = compute
    · subst same
      rw [worked_links_self] at member
      rcases settle_answers member with old | done
      · exact (inv.agents.published other answered snapshotId old).persists persists
      · obtain ⟨params, messages, snapshot, events, parsed⟩ := outcome.snapshot snapshotId done
        exact worked_provenance queue inv snapshot events parsed
    · rw [worked_links_of_ne same] at member
      exact (inv.agents.published other answered snapshotId member).persists persists

end Worked

section Environment

variable {setup : Setup} {policy : Policy setup} {world : World}

theorem agentExecutes_cases (compute : ComputeInstanceId) (choices : List AgentChoice) (world : World) :
    agentExecutes setup compute choices world = world ∨
    ∃ exchange rest progress node, (world.links compute).queue = exchange :: rest ∧
      Outcome exchange.command (world.hosts compute).lastSnapshotId progress node ∧
      agentExecutes setup compute choices world = worked world compute exchange rest progress node := by
  cases waiting : (world.links compute).queue with
  | nil => exact .inl (by simp only [agentExecutes, waiting])
  | cons exchange rest =>
    have none_yet : (⟨world.hosts compute, world.repositories, []⟩ : Node).events = [] := rfl
    refine .inr ⟨exchange, rest, _, _, rfl, dispatch_outcome (setup.agentConfig compute)
      exchange.command none_yet choices, ?_⟩
    simp only [agentExecutes, waiting]
    rfl

theorem agentExecutes_keeps (inv : Inv setup policy world) (compute : ComputeInstanceId)
    (choices : List AgentChoice) : Inv setup policy (agentExecutes setup compute choices world) := by
  rcases agentExecutes_cases compute choices world with
    idle | ⟨exchange, rest, progress, node, queue, outcome, done⟩
  · rw [idle]
    exact inv
  · rw [done]
    have persists : Persists world (worked world compute exchange rest progress node) := worked_persists queue
    exact inv.move rfl rfl persists (worked_log queue inv) (worked_agents queue inv outcome) inv.fleet
      inv.tenancy inv.directories

theorem Inv.setHost (inv : Inv setup policy world) {compute : ComputeInstanceId} {host : Host}
    (known : Known (world.hosts compute).lastSnapshotId host.lastSnapshotId) :
    Inv setup policy (world.setHost compute host) :=
  inv.quiet (quiet_setHost known) rfl rfl rfl rfl rfl

theorem vanished_persists (world : World) (vm : ProviderInstance) (id : Nat) :
    Quiet world { world.wipeVm vm with provider := world.provider.delete id } ∧
      Persists world { world.wipeVm vm with provider := world.provider.delete id } := by
  obtain ⟨queues, answers, hosts⟩ := quiet_wipeVm world vm
  have quiet : Quiet world { world.wipeVm vm with provider := world.provider.delete id } :=
    ⟨queues, answers, hosts⟩
  exact ⟨quiet, quiet.persists (by simpa using Evolved.refl world.db) [] (by simp) (by simp [Started])⟩

theorem vmVanishes_keeps (inv : Inv setup policy world) (id : Nat) :
    Inv setup policy (vmVanishes id world) := by
  unfold vmVanishes
  split
  · exact inv
  · rename_i vm found
    obtain ⟨quiet, persists⟩ := vanished_persists world vm id
    exact inv.move (by simp) (by simp) persists (inv.log.same persists (by simp))
      (inv.agents.quiet persists quiet) (inv.fleet.delete id) (inv.tenancy.delete id)
      (by simpa using inv.directories)

theorem foreignVmAppears_keeps (inv : Inv setup policy world) (vm : ProviderInstance) :
    Inv setup policy (foreignVmAppears vm world) := by
  unfold foreignVmAppears
  split
  · rename_i appears
    simp only [Bool.and_eq_true, decide_eq_true_eq] at appears
    have foreign : ∀ compute, vm.label ≠ providerLabel compute := ne_providerLabel appears.1
    have quiet : Quiet world { world with provider :=
        { instances := world.provider.instances ++
            [{ vm with id := world.provider.nextId, userData := none }]
          nextId := world.provider.nextId + 1 } } := Quiet.same rfl rfl
    have persists := quiet.persists (Evolved.refl world.db) [] rfl (by simp [Started])
    refine inv.move rfl rfl persists (inv.log.same persists rfl) (inv.agents.quiet persists quiet)
      (inv.fleet.add rfl appears.2 ?_ ?_ ?_) (inv.tenancy.add ?_ ?_) inv.directories
    · rintro data ⟨⟩
    · exact fun compute labelled => absurd labelled (foreign compute)
    · exact fun compute labelled => absurd labelled (foreign compute)
    · exact fun compute labelled => absurd labelled (foreign compute)
    · exact fun row _ labelled => absurd labelled (foreign row.id)
  · exact inv

theorem environment_keeps (inv : Inv setup policy world) (action : Action) :
    Inv setup policy (environment setup action world) := by
  cases action with
  | agentExecutes compute choices => exact agentExecutes_keeps inv compute choices
  | agentRestarts compute => exact inv.setLink (List.nil_sublist _) (List.Subset.refl _)
  | containerExits compute id => exact inv.setHost fun _ known => known
  | serverWrites compute content => exact inv.setHost fun _ known => known
  | processEnds processId => exact inv.machine rfl
  | machineReboots bootId => exact inv.machine rfl
  | vmVanishes id => exact vmVanishes_keeps inv id
  | foreignVmAppears vm => exact foreignVmAppears_keeps inv vm

theorem crash_keeps (inv : Inv setup policy world) : Inv setup policy (crash world) :=
  inv.quiet ⟨fun _ => List.Sublist.refl _, fun _ => List.Subset.refl _, fun _ _ known => known⟩
    rfl rfl rfl rfl rfl

end Environment

end McServer.System
