import McServer.System.Invariant

set_option autoImplicit false

namespace McServer.System

open Domain Store Agent ControlPlane

section Facts

variable {before after : World}

theorem AgentTold.evolved {db db' : Database} {earlier : List Entry} {request : AgentRequest}
    {der : Option (List UInt8)} {window : List Database} {response : AgentResponse}
    (told : AgentTold db earlier request der window response) (evolved : Evolved db db') :
    AgentTold db' earlier request der window response := by
  cases response with
  | enrolled result =>
    obtain ⟨params, method, ⟨row, member, named, csr, chain, token⟩, open_⟩ := told
    obtain ⟨new, stored, same⟩ := evolved.computes row member
    obtain ⟨csr', chain', -, -⟩ := same.certificate (by simp [csr])
    exact ⟨params, method, ⟨new, stored, same.id.trans named, csr'.trans csr, chain'.trans chain,
      same.connectionToken.trans token⟩, open_⟩
  | _ => exact told

theorem Authentic.evolved {db db' : Database} {compute : ComputeInstanceId}
    {provider : ComputeProvider} {token : String} {der : Option (List UInt8)}
    {now : UnixTimestampMillis} (authentic : Authentic db compute provider token der now)
    (evolved : Evolved db db') : Authentic db' compute provider token der now := by
  obtain ⟨row, member, named, sameProvider, sameToken, certified⟩ := authentic
  obtain ⟨new, stored, same⟩ := evolved.computes row member
  refine ⟨new, stored, same.id.trans named, same.provider.trans sameProvider,
    same.connectionToken.trans sameToken, fun remote => ?_⟩
  obtain ⟨spent, csr, presented, leaf, expires, stamped, unexpired⟩ := certified remote
  obtain ⟨csr', -, leaf', expires'⟩ := same.certificate csr
  refine ⟨?_, by rwa [csr'], presented, leaf'.trans leaf, expires, expires'.trans stamped, unexpired⟩
  rcases same.enrollmentToken with kept | cleared
  · exact kept.trans spent
  · exact cleared

theorem Scoped.evolved {issuers : R2TemporaryCredentialManager → Prop} {db db' : Database} {compute : ComputeInstanceId}
    {keyPrefix : String} (issued : Scoped issuers db compute keyPrefix) (evolved : Evolved db db') :
    Scoped issuers db' compute keyPrefix := by
  obtain ⟨manager, configured, row, member, named, remote, found, present, owned, extracted⟩ := issued
  obtain ⟨row', stored, same⟩ := evolved.computes row member
  obtain ⟨found', stored', same'⟩ := evolved.instances found present
  refine ⟨manager, configured, row', stored, same.id.trans named, same.provider.trans remote,
    found', stored', ?_, ?_⟩
  · rw [same'.id, owned, same.owner]
  · rw [same'.spec]
    exact extracted

theorem Accounted.persists {earlier : List Entry} {id : ServerInstanceId}
    (accounted : Accounted before earlier id) (persists : Persists before after) :
    Accounted after earlier id :=
  accounted.imp_right fun idle => idle.persists persists

theorem Spared.accounted {id : ServerInstanceId} (spared : Spared before id)
    (persists : Persists before after) : Accounted after before.log id :=
  spared.imp_right fun idle => idle.persists persists

theorem Expendable.accounted {compute : ComputeInstanceId} (expendable : Expendable before compute)
    (persists : Persists before after) :
    ∃ id, Allocated after.db compute id ∧ Accounted after before.log id := by
  obtain ⟨id, allocated, spared⟩ := expendable
  exact ⟨id, allocated.evolved persists.evolved, spared.accounted persists⟩

theorem Made.persists {compute : ComputeInstanceId} {snapshotId : String}
    (made : Made before compute snapshotId) (persists : Persists before after) :
    Made after compute snapshotId := by
  obtain ⟨id, allocated, provenance⟩ := made
  exact ⟨id, allocated.evolved persists.evolved, provenance.persists persists⟩

theorem Explained.persists {issuers : R2TemporaryCredentialManager → Prop} {earlier : List Entry}
    {entry : Entry}
    (explained : Explained issuers before earlier entry) (persists : Persists before after) :
    Explained issuers after earlier entry := by
  have allocated : ∀ {compute id}, Allocated before.db compute id → Allocated after.db compute id :=
    fun holds => holds.evolved persists.evolved
  cases entry with
  | replied request result window => exact explained
  | answered request der response window => exact AgentTold.evolved explained persists.evolved
  | executed compute command =>
    refine ⟨explained.1.persists persists, fun params cleanup => ?_⟩
    obtain ⟨id, named, accounted⟩ := explained.2 params cleanup
    exact ⟨id, named, accounted.persists persists⟩
  | happened compute event => trivial
  | committed id snapshotId => exact Provenance.persists explained persists
  | completed id => exact Accounted.persists explained persists
  | terminated compute | stateDirectoryRemoved compute =>
    obtain ⟨id, owned, accounted⟩ := explained
    exact ⟨id, allocated owned, accounted.persists persists⟩
  | vmDeleted vm db =>
    intro data provisioned
    obtain ⟨id, owned, settled⟩ := explained data provisioned
    exact ⟨id, allocated owned, settled.imp_left fun accounted => accounted.persists persists⟩
  | authenticated compute provider token der now =>
    exact Authentic.evolved explained persists.evolved
  | credentialsIssued compute keyPrefix => exact Scoped.evolved explained persists.evolved

end Facts

section Log

variable {issuers : R2TemporaryCredentialManager → Prop} {before after : World}

theorem ExplainedLog.extend (explained : ExplainedLog issuers before) (persists : Persists before after)
    (news : List Entry) (log : after.log = news ++ before.log)
    (fresh : ∀ recent entry older, news = recent ++ entry :: older →
      Explained issuers after (older ++ before.log) entry) : ExplainedLog issuers after := by
  intro entry earlier suffix
  rw [log] at suffix
  obtain ⟨recent, split⟩ := suffix
  rcases List.append_eq_append_iff.mp split with ⟨middle, rfl, tail⟩ | ⟨middle, rfl, tail⟩
  · cases middle with
    | nil => exact (explained entry earlier ⟨[], tail⟩).persists persists
    | cons head rest =>
      injection tail with same tail
      subst same tail
      exact fresh recent entry rest rfl
  · exact (explained entry earlier ⟨middle, tail.symm⟩).persists persists

theorem ExplainedLog.same (explained : ExplainedLog issuers before) (persists : Persists before after)
    (log : after.log = before.log) : ExplainedLog issuers after :=
  explained.extend persists [] log fun recent entry older split => by simp at split

theorem ExplainedLog.one (explained : ExplainedLog issuers before) (persists : Persists before after)
    (entry : Entry) (log : after.log = entry :: before.log)
    (fresh : Explained issuers after before.log entry) : ExplainedLog issuers after := by
  refine explained.extend persists [entry] log fun recent other older split => ?_
  rw [eq_comm, List.append_eq_cons_iff] at split
  rcases split with ⟨rfl, same⟩ | ⟨rest, rfl, overlong⟩
  · injection same with same rest
    subst same rest
    exact fresh
  · simp at overlong

end Log

structure Quiet (before after : World) : Prop where
  queues : ∀ compute, ((after.links compute).queue).Sublist (before.links compute).queue
  answers : ∀ compute, (after.links compute).answers ⊆ (before.links compute).answers
  hosts : ∀ compute, Known (before.hosts compute).lastSnapshotId (after.hosts compute).lastSnapshotId

section Quiet

variable {before after : World}

theorem Quiet.same (links : after.links = before.links) (hosts : after.hosts = before.hosts) :
    Quiet before after := by
  refine ⟨fun compute => ?_, fun compute => ?_, fun compute snapshotId known => ?_⟩
  · rw [links]
  · rw [links]
    exact fun _ member => member
  · rwa [hosts] at known

theorem Quiet.trans {first second third : World} (left : Quiet first second)
    (right : Quiet second third) : Quiet first third where
  queues compute := (right.queues compute).trans (left.queues compute)
  answers compute := List.Subset.trans (right.answers compute) (left.answers compute)
  hosts compute snapshotId known := left.hosts compute snapshotId (right.hosts compute snapshotId known)

theorem Quiet.persists (quiet : Quiet before after) (evolved : Evolved before.db after.db)
    (news : List Entry) (log : after.log = news ++ before.log)
    (noStart : ∀ id, ¬ Started news id) : Persists before after := by
  refine ⟨evolved, ⟨news, log, fun id _ started => absurd started (noStart id)⟩, ?_⟩
  rintro id - ⟨compute, exchange, member, starts⟩
  exact ⟨compute, exchange, (quiet.queues compute).subset member, starts⟩

theorem Agents.quiet (agents : Agents before) (persists : Persists before after)
    (quiet : Quiet before after) : Agents after where
  queued compute exchange member :=
    (agents.queued compute exchange ((quiet.queues compute).subset member)).persists persists
  ordered compute := (agents.ordered compute).sublist (quiet.queues compute)
  known compute snapshotId known :=
    (agents.known compute snapshotId (quiet.hosts compute snapshotId known)).persists persists
  inspected compute exchange result snapshotId member last :=
    (agents.inspected compute exchange result snapshotId (quiet.answers compute member) last).persists persists
  published compute exchange snapshotId member :=
    (agents.published compute exchange snapshotId (quiet.answers compute member)).persists persists

theorem quiet_setLink {world : World} {compute : ComputeInstanceId} {link : Link}
    (queue : link.queue.Sublist (world.links compute).queue)
    (answers : link.answers ⊆ (world.links compute).answers) :
    Quiet world (world.setLink compute link) := by
  refine ⟨fun other => ?_, fun other => ?_, fun other snapshotId known => known⟩
  · by_cases same : other = compute
    · subst same
      simpa [World.setLink] using queue
    · simp [World.setLink, Function.update_of_ne same]
  · by_cases same : other = compute
    · subst same
      simpa [World.setLink] using answers
    · simp [World.setLink, Function.update_of_ne same]

theorem quiet_setHost {world : World} {compute : ComputeInstanceId} {host : Host}
    (known : Known (world.hosts compute).lastSnapshotId host.lastSnapshotId) :
    Quiet world (world.setHost compute host) := by
  refine ⟨fun other => List.Sublist.refl _, fun other => List.Subset.refl _, fun other => ?_⟩
  by_cases same : other = compute
  · subst same
    simpa [World.setHost] using known
  · simp only [World.setHost, Function.update_of_ne same]
    exact fun _ holds => holds

theorem quiet_cutOff (world : World) (compute : ComputeInstanceId) : Quiet world (world.cutOff compute) :=
  quiet_setLink (List.nil_sublist _) (List.Subset.refl _)

theorem quiet_wipe (world : World) (compute : ComputeInstanceId) : Quiet world (world.wipe compute) :=
  (quiet_cutOff world compute).trans (quiet_setHost nofun)

theorem quiet_wipeVm (world : World) (vm : ProviderInstance) : Quiet world (world.wipeVm vm) := by
  unfold World.wipeVm
  split
  · exact quiet_wipe world _
  · exact Quiet.same rfl rfl

end Quiet

section Inv

variable {setup : Setup} {policy : Policy setup} {before after : World}

theorem Inv.move (inv : Inv setup policy before) (db : after.db = before.db)
    (past : after.past = before.past) (persists : Persists before after)
    (log : ExplainedLog policy.issuers after) (agents : Agents after) (fleet : Fleet after.provider)
    (tenancy : Tenancy before.db after.provider)
    (directories : ∀ compute ∈ after.machine.directories,
      ∃ row ∈ before.db.computeInstances, row.id = compute ∧ row.provider = .localProcess) :
    Inv setup policy after where
  history := by
    rw [db, past]
    exact inv.history
  log := log
  agents := agents
  fleet := fleet
  tenancy := by rwa [db]
  specified := by
    rw [db]
    exact inv.specified
  results := by
    rw [db]
    exact fun row member snapshotId result => persists.suffix.subset (inv.results row member snapshotId result)
  terminated := by
    rw [db]
    exact fun row member gone => (inv.terminated row member gone).persists persists
  directories := by rwa [db]

theorem Inv.quiet (inv : Inv setup policy before) (quiet : Quiet before after)
    (db : after.db = before.db) (past : after.past = before.past) (log : after.log = before.log)
    (provider : after.provider = before.provider)
    (directories : after.machine.directories = before.machine.directories) :
    Inv setup policy after := by
  have persists : Persists before after :=
    quiet.persists (by rw [db]; exact Evolved.refl _) [] log (by simp [Started])
  refine inv.move db past persists (inv.log.same persists log) (inv.agents.quiet persists quiet) ?_ ?_ ?_
  · rw [provider]
    exact inv.fleet
  · rw [provider]
    exact inv.tenancy
  · rw [directories]
    exact inv.directories

theorem Inv.note (inv : Inv setup policy before) {entry : Entry}
    (explained : Explained policy.issuers before before.log entry)
    (noStart : ∀ id, isStartOf id entry = false) :
    Inv setup policy (before.note [entry]) := by
  have persists : Persists before (before.note [entry]) :=
    Quiet.persists (Quiet.same rfl rfl) (Evolved.refl before.db) [entry] rfl (by simp [Started, noStart])
  exact inv.move rfl rfl persists (inv.log.one persists entry rfl (explained.persists persists))
    (inv.agents.quiet persists (Quiet.same rfl rfl)) inv.fleet inv.tenancy inv.directories

end Inv

end McServer.System
