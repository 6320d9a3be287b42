import McServer.System.Keeping

set_option autoImplicit false

namespace McServer.System

open Domain Store Agent ControlPlane

theorem providerLabel_injective {first second : ComputeInstanceId}
    (same : providerLabel first = providerLabel second) : first = second := by
  have strip : ∀ compute : ComputeInstanceId,
      Text.stripStart "mcserver-" (providerLabel compute) = some compute.uuid.hyphenated :=
    fun compute => Text.stripStart_append _ _
  have hyphenated : first.uuid.hyphenated = second.uuid.hyphenated := by
    have stripped := strip first
    rw [same, strip second] at stripped
    exact (Option.some.inj stripped).symm
  cases first
  cases second
  exact congrArg ComputeInstanceId.mk (Uuid.hyphenated_injective hyphenated)

theorem parse_providerLabel (compute : ComputeInstanceId) :
    (Text.stripStart "mcserver-" (providerLabel compute)).bind Uuid.parse = some compute.uuid := by
  simp only [providerLabel, Text.stripStart_append, Option.bind_some, Uuid.parse_hyphenated]

theorem ne_providerLabel {label : String} (foreign : isForeignLabel label = true)
    (compute : ComputeInstanceId) : label ≠ providerLabel compute := by
  rintro rfl
  simp [isForeignLabel, parse_providerLabel] at foreign

section Provider

variable {provider : Provider} {db : Database}

theorem mem_delete {id : Nat} {vm : ProviderInstance} (member : vm ∈ (provider.delete id).instances) :
    vm ∈ provider.instances :=
  List.mem_of_mem_filter member

theorem Fleet.delete (fleet : Fleet provider) (id : Nat) : Fleet (provider.delete id) where
  below vm member := fleet.below vm (mem_delete member)
  within vm member := fleet.within vm (mem_delete member)
  numbered := List.Nodup.sublist (List.Sublist.map _ List.filter_sublist) fleet.numbered
  tenant vm member := fleet.tenant vm (mem_delete member)
  managed vm member := fleet.managed vm (mem_delete member)
  single first member second member' := fleet.single first (mem_delete member) second (mem_delete member')

theorem Tenancy.delete (tenancy : Tenancy db provider) (id : Nat) : Tenancy db (provider.delete id) where
  row vm member := tenancy.row vm (mem_delete member)
  recorded vm member := tenancy.recorded vm (mem_delete member)

theorem Fleet.add (fleet : Fleet provider) {vm : ProviderInstance} (id : vm.id = provider.nextId)
    (bound : provider.nextId ≤ maximumU64)
    (tenant : ∀ data, vm.userData = some data → vm.label = providerLabel data.computeInstanceId)
    (managed : ∀ compute, vm.label = providerLabel compute →
      ∃ data, vm.userData = some data ∧ data.computeInstanceId = compute)
    (alone : ∀ compute, vm.label = providerLabel compute →
      ∀ other ∈ provider.instances, other.label ≠ providerLabel compute) :
    Fleet { instances := provider.instances ++ [vm], nextId := provider.nextId + 1 } := by
  have split : ∀ {other}, other ∈ provider.instances ++ [vm] → other ∈ provider.instances ∨ other = vm := by
    simp
  refine ⟨fun other member => ?_, fun other member => ?_, ?_, fun other member => ?_,
    fun other member => ?_, fun first member second member' compute labelled labelled' => ?_⟩
  · rcases split member with old | rfl
    · exact Nat.lt_succ_of_lt (fleet.below other old)
    · simp [id]
  · rcases split member with old | rfl
    · exact fleet.within other old
    · omega
  · exact fleet.numbered.insert fun other member => by
      have below := fleet.below other member
      omega
  · rcases split member with old | rfl
    · exact fleet.tenant other old
    · exact tenant
  · rcases split member with old | rfl
    · exact fleet.managed other old
    · exact managed
  · rcases split member with old | rfl
    · rcases split member' with old' | rfl
      · exact fleet.single first old second old' compute labelled labelled'
      · exact absurd labelled (alone compute labelled' first old)
    · rcases split member' with old' | rfl
      · exact absurd labelled' (alone compute labelled second old')
      · rfl

theorem Tenancy.add (tenancy : Tenancy db provider) {vm : ProviderInstance} {nextId : Nat}
    (row : ∀ compute, vm.label = providerLabel compute →
      ∃ row ∈ db.computeInstances, row.id = compute ∧ row.provider = .akamai)
    (unprepared : ∀ row ∈ db.computeInstances, vm.label = providerLabel row.id →
      ∀ found ∈ db.serverInstances, found.id = row.serverInstanceId → found.dataPreparedAt = none) :
    Tenancy db { instances := provider.instances ++ [vm], nextId } := by
  constructor
  · intro other member
    rcases List.mem_append.mp member with old | single
    · exact tenancy.row other old
    · rw [List.mem_singleton.mp single]
      exact row
  · intro other member compute stored labelled found present owned prepared
    rcases List.mem_append.mp member with old | single
    · exact tenancy.recorded other old compute stored labelled found present owned prepared
    · rw [List.mem_singleton.mp single] at labelled
      rw [unprepared compute stored labelled found present owned] at prepared
      cases prepared

end Provider

section Frame

variable (world : World) (vm : ProviderInstance)

@[simp] theorem wipeVm_db : (world.wipeVm vm).db = world.db := by
  unfold World.wipeVm
  split <;> rfl

@[simp] theorem wipeVm_past : (world.wipeVm vm).past = world.past := by
  unfold World.wipeVm
  split <;> rfl

@[simp] theorem wipeVm_log : (world.wipeVm vm).log = world.log := by
  unfold World.wipeVm
  split <;> rfl

@[simp] theorem wipeVm_provider : (world.wipeVm vm).provider = world.provider := by
  unfold World.wipeVm
  split <;> rfl

@[simp] theorem wipeVm_machine : (world.wipeVm vm).machine = world.machine := by
  unfold World.wipeVm
  split <;> rfl

end Frame

section Requests

variable {setup : Setup} {policy : Policy setup} {world : World}

theorem find_vm {provider : Provider} {id : Nat} {vm : ProviderInstance}
    (found : provider.find id = some vm) : vm ∈ provider.instances ∧ vm.id = id :=
  find_id_mem found

theorem deleteInstance_keeps (inv : Inv setup policy world) {id : Nat}
    (request : workerRequest world (.deleteInstance id)) :
    Inv setup policy (settleProvider (.deleteInstance id) (world.provider.delete id) world) := by
  unfold settleProvider
  dsimp only
  split
  · rename_i vm found
    obtain ⟨member, named⟩ := find_vm found
    have forgotten : Quiet world ({ world with provider := world.provider.delete id } : World) :=
      Quiet.same rfl rfl
    have quiet : Quiet world ((({ world with provider := world.provider.delete id } : World).wipeVm
        vm).note [.vmDeleted vm world.db]) := by
      obtain ⟨queues, answers, hosts⟩ := forgotten.trans (quiet_wipeVm _ vm)
      exact ⟨queues, answers, hosts⟩
    have persists := quiet.persists (by simpa [World.note] using Evolved.refl world.db)
      [.vmDeleted vm world.db] (by simp [World.note]) (by simp [Started, isStartOf])
    refine inv.move (by simp [World.note]) (by simp [World.note]) persists
      (inv.log.one persists (.vmDeleted vm world.db) (by simp [World.note]) ?_) (inv.agents.quiet persists quiet)
      (by simpa [World.note] using inv.fleet.delete id)
      (by simpa [World.note] using inv.tenancy.delete id)
      (by simpa [World.note] using inv.directories)
    intro data provisioned
    rcases request vm member named data provisioned with expendable | ⟨replaced, owner, owned, fresh⟩
    · obtain ⟨owner, owned, accounted⟩ := expendable.accounted persists
      exact ⟨owner, owned, .inl accounted⟩
    · exact ⟨owner, owned.evolved persists.evolved, .inr ⟨replaced, fresh⟩⟩
  · have quiet : Quiet world { world with provider := world.provider.delete id } := Quiet.same rfl rfl
    have persists := quiet.persists (Evolved.refl world.db) [] rfl (by simp [Started])
    exact inv.move rfl rfl persists (inv.log.same persists rfl) (inv.agents.quiet persists quiet)
      (inv.fleet.delete id) (inv.tenancy.delete id) inv.directories

theorem createInstance_keeps (inv : Inv setup policy world) {request : CreateInstanceRequest}
    (allowed : workerRequest world (.createInstance request))
    (bound : world.provider.nextId ≤ maximumU64) (ipv4 : List String) :
    Inv setup policy
      (settleProvider (.createInstance request) (world.provider.create request ipv4).2 world) := by
  obtain ⟨compute, labelled, user, vacant, row, member, named, remote, unprepared⟩ := allowed
  have own : ∀ other, request.label = providerLabel other → other = compute := fun other same =>
    providerLabel_injective (same.symm.trans labelled)
  have rented : Quiet world
      ({ world with provider := (world.provider.create request ipv4).2 } : World) := Quiet.same rfl rfl
  have quiet : Quiet world
      (settleProvider (.createInstance request) (world.provider.create request ipv4).2 world) :=
    rented.trans (quiet_wipe _ request.userData.computeInstanceId)
  have persists := quiet.persists (Evolved.refl world.db) [] rfl (by simp [Started])
  refine inv.move rfl rfl persists (inv.log.same persists rfl) (inv.agents.quiet persists quiet)
    (inv.fleet.add rfl bound ?_ ?_ ?_) (inv.tenancy.add ?_ ?_) inv.directories
  · intro data provisioned
    rw [← Option.some.inj provisioned, user]
    exact labelled
  · intro other same
    exact ⟨request.userData, rfl, by rw [user, own other same]⟩
  · intro other same
    rw [own other same]
    exact vacant
  · intro other same
    rw [own other same]
    exact ⟨row, member, named, remote⟩
  · intro other present same found stored owned
    have sameRow := inv.history.current.keyed.computeIds.eq_of_key present member
      ((own other.id same).trans named.symm)
    exact unprepared found stored (by rw [owned, sameRow])

theorem execProvider_keeps (inv : Inv setup policy world) {op : ProviderOp}
    (request : workerRequest world op) (choice : Choice) :
    Inv setup policy (execProvider op choice world).2 := by
  unfold execProvider
  dsimp only
  split
  · exact inv
  · rename_i room
    have settled : Inv setup policy (settleProvider op (world.provider.apply op choice.answers).2 world) := by
      cases op with
      | deleteInstance id => exact deleteInstance_keeps inv request
      | createInstance body =>
        exact createInstance_keeps inv request (by simpa [Provider.exhausted] using room) _
      | _ => exact inv
    cases choice.fault with
    | none => exact settled
    | before => exact inv
    | after => exact settled

end Requests

section Local

variable {setup : Setup} {policy : Policy setup} {world : World}

theorem Inv.machine (inv : Inv setup policy world) {machine : LocalMachine}
    (directories : machine.directories = world.machine.directories) :
    Inv setup policy { world with machine } :=
  inv.quiet (Quiet.same rfl rfl) rfl rfl rfl rfl directories

theorem createStateDirectory_keeps (inv : Inv setup policy world) {compute : ComputeInstanceId}
    (here : localGuard world (.createStateDirectory compute)) (choice : Choice) :
    Inv setup policy (applyLocal (.createStateDirectory compute) choice world).2 := by
  have quiet : Quiet world (applyLocal (.createStateDirectory compute) choice world).2 := Quiet.same rfl rfl
  have persists := quiet.persists (Evolved.refl world.db) [] rfl (by simp [Started])
  refine inv.move rfl rfl persists (inv.log.same persists rfl) (inv.agents.quiet persists quiet)
    inv.fleet inv.tenancy fun other member => ?_
  rcases List.mem_insert_iff.mp member with rfl | old
  · exact here
  · exact inv.directories other old

theorem removeStateDirectory_keeps (inv : Inv setup policy world) {compute : ComputeInstanceId}
    (expendable : localGuard world (.removeStateDirectory compute)) (choice : Choice) :
    Inv setup policy (applyLocal (.removeStateDirectory compute) choice world).2 := by
  have cleared : Quiet world ((world.cutOff compute).setHost compute (world.hosts compute).withoutDirectory) :=
    (quiet_cutOff world compute).trans (quiet_setHost nofun)
  have quiet : Quiet world (applyLocal (.removeStateDirectory compute) choice world).2 := by
    obtain ⟨queues, answers, hosts⟩ := cleared
    exact ⟨queues, answers, hosts⟩
  have persists := quiet.persists (Evolved.refl world.db) [.stateDirectoryRemoved compute] rfl
    (by simp [Started, isStartOf])
  refine inv.move rfl rfl persists (inv.log.one persists _ rfl (Expendable.accounted expendable persists))
    (inv.agents.quiet persists quiet) inv.fleet inv.tenancy fun other member => ?_
  exact inv.directories other (List.mem_of_mem_filter member)

theorem removeContainer_keeps (inv : Inv setup policy world) (name : String) (choice : Choice) :
    Inv setup policy (applyLocal (.removeContainer name) choice world).2 := by
  refine inv.quiet ⟨fun _ => List.Sublist.refl _, fun _ => List.Subset.refl _, fun compute => ?_⟩
    rfl rfl rfl rfl rfl
  simp only [applyLocal]
  split
  · exact fun _ known => known
  · exact fun _ known => known

theorem applyLocal_keeps (inv : Inv setup policy world) {op : LocalOp} (guard : localGuard world op)
    (choice : Choice) : Inv setup policy (applyLocal op choice world).2 := by
  cases op with
  | createStateDirectory compute => exact createStateDirectory_keeps inv guard choice
  | removeStateDirectory compute => exact removeStateDirectory_keeps inv guard choice
  | removeContainer name => exact removeContainer_keeps inv name choice
  | tryWaitChild compute =>
    simp only [applyLocal]
    split
    · exact inv
    · split
      · exact inv
      · exact inv.machine rfl
  | signal processId name =>
    simp only [applyLocal]
    split
    · exact inv.machine rfl
    · exact inv
  | takeChild | insertChild | waitChild | killChild | storeRuntimeState | spawnAgent =>
    exact inv.machine rfl
  | _ => exact inv

theorem execLocal_keeps (inv : Inv setup policy world) {op : LocalOp} (guard : localGuard world op)
    (choice : Choice) : Inv setup policy (execLocal op choice world).2 := by
  have applied := applyLocal_keeps inv guard choice
  unfold execLocal
  cases choice.fault with
  | none => exact applied
  | before => exact inv
  | after => exact applied

end Local

section Links

variable {setup : Setup} {policy : Policy setup} {world : World}

theorem Inv.setLink (inv : Inv setup policy world) {compute : ComputeInstanceId} {link : Link}
    (queue : link.queue.Sublist (world.links compute).queue)
    (answers : link.answers ⊆ (world.links compute).answers) :
    Inv setup policy (world.setLink compute link) :=
  inv.quiet (quiet_setLink queue answers) rfl rfl rfl rfl rfl

-- A start and a snapshot of one instance are never both to come.
theorem snapshot_stops {compute : ComputeInstanceId} {command : Command} {id : ServerInstanceId}
    (permitted : Permitted world compute command) (snapshots : snapshotsInstance id command = true) :
    StopRequested world.db id := by
  obtain ⟨row, member, -, fit, isReady⟩ := permitted
  cases command with
  | snapshotData params =>
    simp only [snapshotsInstance, decide_eq_true_eq] at snapshots
    rw [(fit : params = _)] at snapshots
    exact ⟨row, member, instanceId_of_uuid snapshots, isReady⟩
  | _ => cases snapshots

-- The world in which one more command waits for the agent.
def pushed (world : World) (compute : ComputeInstanceId) (exchange : Exchange) : World :=
  { world.setLink compute { world.links compute with
      queue := (world.links compute).queue ++ [exchange] } with nextTag := world.nextTag + 1 }

theorem pushed_queue_self (compute : ComputeInstanceId) (exchange : Exchange) :
    ((pushed world compute exchange).links compute).queue = (world.links compute).queue ++ [exchange] := by
  simp [pushed, World.setLink]

theorem pushed_links_of_ne {compute other : ComputeInstanceId} {exchange : Exchange}
    (different : other ≠ compute) :
    (pushed world compute exchange).links other = world.links other := by
  simp [pushed, World.setLink, Function.update_of_ne different]

theorem pushed_answers (compute other : ComputeInstanceId) (exchange : Exchange) :
    ((pushed world compute exchange).links other).answers = (world.links other).answers := by
  by_cases same : other = compute
  · subst same
    simp [pushed, World.setLink]
  · rw [pushed_links_of_ne same]

theorem mem_pushed_queue {compute other : ComputeInstanceId} {exchange waiting : Exchange}
    (member : waiting ∈ ((pushed world compute exchange).links other).queue) :
    waiting ∈ (world.links other).queue ∨ other = compute ∧ waiting = exchange := by
  by_cases same : other = compute
  · subst same
    rw [pushed_queue_self] at member
    rcases List.mem_append.mp member with old | single
    · exact .inl old
    · exact .inr ⟨rfl, List.mem_singleton.mp single⟩
  · rw [pushed_links_of_ne same] at member
    exact .inl member

theorem pushed_persists {compute : ComputeInstanceId} {exchange : Exchange}
    (running : ∀ id, startsInstance id exchange.command = true → ¬ StopRequested world.db id) :
    Persists world (pushed world compute exchange) := by
  refine ⟨Evolved.refl _, ⟨[], rfl, fun _ _ started => by simp [Started] at started⟩, ?_⟩
  rintro id stop ⟨other, waiting, member, starts⟩
  rcases mem_pushed_queue member with old | ⟨-, rfl⟩
  · exact ⟨other, waiting, old, starts⟩
  · exact absurd stop (running id starts)

theorem pushed_agents (agents : Agents world) {compute : ComputeInstanceId} {exchange : Exchange}
    (permitted : Permitted world compute exchange.command)
    (running : ∀ id, startsInstance id exchange.command = true → ¬ StopRequested world.db id) :
    Agents (pushed world compute exchange) := by
  have persists : Persists world (pushed world compute exchange) := pushed_persists running
  refine ⟨fun other waiting member => ?_, fun other => ?_,
    fun other snapshotId known => (agents.known other snapshotId known).persists persists,
    fun other answered result snapshotId member last => ?_, fun other answered snapshotId member => ?_⟩
  · rcases mem_pushed_queue member with old | ⟨rfl, rfl⟩
    · exact (agents.queued other waiting old).persists persists
    · exact permitted.persists persists
  · by_cases same : other = compute
    · subst same
      rw [pushed_queue_self]
      refine List.pairwise_append.mpr ⟨agents.ordered other, List.pairwise_singleton _ _, ?_⟩
      intro first member second single id snapshots
      rw [List.mem_singleton.mp single]
      have stop := snapshot_stops (agents.queued other first member) snapshots
      exact Bool.eq_false_iff.mpr fun starts => running id starts stop
    · rw [pushed_links_of_ne same]
      exact agents.ordered other
  · rw [pushed_answers] at member
    exact (agents.inspected other answered result snapshotId member last).persists persists
  · rw [pushed_answers] at member
    exact (agents.published other answered snapshotId member).persists persists

theorem execSend_cases (compute : ComputeInstanceId) (command : Command) (world : World) :
    (∃ error, execSend compute command world = (.error error, world)) ∨
    execSend compute command world = (.ok world.nextTag, { world.setLink compute (world.links compute) with
        nextTag := world.nextTag + 1 }) ∨
    execSend compute command world =
      (.ok world.nextTag, pushed world compute { tag := world.nextTag, command }) := by
  unfold execSend
  dsimp only
  split
  · exact .inl ⟨_, rfl⟩
  · split
    · exact .inl ⟨_, rfl⟩
    · split
      · exact .inr (.inr rfl)
      · exact .inr (.inl rfl)

theorem execSend_keeps (inv : Inv setup policy world) {compute : ComputeInstanceId} {command : Command}
    (permitted : Permitted world compute command)
    (running : ∀ id, startsInstance id command = true → ¬ StopRequested world.db id) :
    Inv setup policy (execSend compute command world).2 := by
  rcases execSend_cases compute command world with ⟨error, failed⟩ | unread | sent
  · rw [failed]
    exact inv
  · rw [unread]
    obtain ⟨queues, answers, hosts⟩ := quiet_setLink (List.Sublist.refl (world.links compute).queue)
      (List.Subset.refl (world.links compute).answers)
    exact inv.quiet ⟨queues, answers, hosts⟩ rfl rfl rfl rfl rfl
  · rw [sent]
    have persists : Persists world (pushed world compute { tag := world.nextTag, command }) :=
      pushed_persists running
    exact inv.move rfl rfl persists (inv.log.same persists rfl)
      (pushed_agents inv.agents permitted running) inv.fleet inv.tenancy inv.directories

theorem fail_queue (link : Link) (error : AgentCallError) : (link.fail error).queue = link.queue := by
  unfold Link.fail
  split <;> rfl

theorem fail_answers (link : Link) (error : AgentCallError) : (link.fail error).answers = link.answers := by
  unfold Link.fail
  split <;> rfl

-- An await reads an answer that was given, or gives up; at worst the session ends.
theorem execAwait_cases (compute : ComputeInstanceId) (exchange : Exchange) (choice : Choice) (world : World) :
    (∃ result, execAwait compute exchange choice world = (.ok result, world) ∧
      (exchange, .ok result) ∈ (world.links compute).answers) ∨
    ∃ error given, execAwait compute exchange choice world =
      (.error error, world.setLink compute ((world.links compute).fail given)) := by
  unfold execAwait
  dsimp only
  split
  · rename_i result unfailed given
    obtain ⟨earlier, later, answers, -⟩ := List.lookup_eq_some_iff.mp given
    refine .inl ⟨result, rfl, ?_⟩
    rw [answers]
    exact List.mem_append_right _ List.mem_cons_self
  · exact .inr ⟨_, _, rfl⟩
  · exact .inr ⟨_, _, rfl⟩
  · exact .inr ⟨_, _, rfl⟩
  · exact .inr ⟨_, _, rfl⟩

theorem execAwait_keeps (inv : Inv setup policy world) (compute : ComputeInstanceId)
    (exchange : Exchange) (choice : Choice) :
    Inv setup policy (execAwait compute exchange choice world).2 := by
  rcases execAwait_cases compute exchange choice world with ⟨result, done, -⟩ | ⟨error, given, failed⟩
  · rw [done]
    exact inv
  · rw [failed]
    exact inv.setLink (by rw [fail_queue]) (by rw [fail_answers]; exact List.Subset.refl _)

theorem register_keeps (inv : Inv setup policy world) (compute : ComputeInstanceId)
    (connection : Nat) (choice : Choice) :
    Inv setup policy (execLink (.register compute connection) choice world).2 := by
  simp only [execLink]
  split
  · exact inv.setLink (List.nil_sublist _) (List.Subset.refl _)
  · exact inv.setLink (List.Sublist.refl _) (List.Subset.refl _)

end Links

end McServer.System
