import McServer.Store.Readable

set_option autoImplicit false

namespace McServer.Store

open Domain

section Updates

variable {Row : Type} {check : Row → Bool} {rows : Database → List Row}
  {replace : Database → List Row → Database} {selects : Row → Bool} {set : Row → Row} {db : Database}

theorem updateTable_accepted
    (checked : ∀ row ∈ rows db, selects row = true → check (set row) = true) :
    updateTable check rows replace selects set db =
      (.ok (Table.affected selects (rows db)), replace db (Table.update selects set (rows db))) := by
  have all : (rows db).all (fun row => !selects row || check (set row)) = true := by
    refine List.all_eq_true.mpr fun row member => ?_
    cases chosen : selects row with
    | false => rfl
    | true => simp [checked row member chosen]
  simp [updateTable, updateRows, all]

theorem touchedOne_accepted
    (checked : ∀ row ∈ rows db, selects row = true → check (set row) = true) :
    touchedOne (updateTable check rows replace selects set) db =
      (.ok (Table.affected selects (rows db) == 1), replace db (Table.update selects set (rows db))) := by
  unfold touchedOne
  rw [updateTable_accepted checked]
  rfl

end Updates

section Instances

variable {row : ServerInstance}

-- A write to a running instance: its times are raised, never lowered, and the others stay within.
theorem Between.raise {low high higher : UnixTimestampMillis} {value : Option UnixTimestampMillis}
    (held : Between low high value) (raised : high ≤ higher) : Between low higher value := by
  intro time given
  obtain ⟨above, below⟩ := held time given
  exact ⟨above, le_trans below raised⟩

theorem Between.single {low high time : UnixTimestampMillis} (above : low ≤ time) (below : time ≤ high) :
    Between low high (some time) := by
  rintro other ⟨⟩
  exact ⟨above, below⟩

theorem Between.getD_le {low high : UnixTimestampMillis} {value : Option UnixTimestampMillis}
    (held : Between low high value) : value.getD 0 ≤ high := by
  cases value with
  | none => exact Nat.zero_le _
  | some time => exact (held time rfl).2

theorem seen_le {seen updated : Nat} (before : seen ≤ updated) (created now : Nat) :
    max (max seen now) (max updated created) ≤ max now (max updated created) := by
  omega

theorem ended_eq {stopped updated : Nat} (before : stopped ≤ updated) (created now : Nat) :
    max (max now updated) (max created stopped) = max now (max updated created) := by
  omega

-- `max(coalesce(seen, 0), now, updated_at_ms, created_at_ms)`
theorem Between.seen {created updated : Nat} {seen : Option UnixTimestampMillis}
    (held : Between created updated seen) (now : Nat) :
    Between created (max now (max updated created))
      (some (max (max (seen.getD 0) now) (max updated created))) := by
  exact Between.single (by simp) (seen_le held.getD_le created now)

-- `coalesce(requested, max(now, created_at_ms))`
theorem Between.first {created updated : Nat} {requested : Option UnixTimestampMillis}
    (held : Between created updated requested) (now : Nat) :
    Between created (max now (max updated created)) (some (requested.getD (max now created))) := by
  cases given : requested with
  | none => exact Between.single (le_max_right _ _) (max_le_max (le_refl _) (le_max_right _ _))
  | some time =>
    obtain ⟨above, below⟩ := held time given
    exact Between.single above (le_trans below (by simp))

structure Progress (row new : ServerInstance) : Prop where
  same : new.serverGeneration = row.serverGeneration ∧ new.fencingToken = row.fencingToken ∧
    new.resolvedSpec = row.resolvedSpec ∧ new.sourceSnapshotId = row.sourceSnapshotId ∧
    new.createdAt = row.createdAt ∧ new.terminatedAt = row.terminatedAt ∧
    new.terminalResult = row.terminalResult
  later : row.updatedAt ≤ new.updatedAt
  result : ∀ id, new.resultSnapshotId = some id → row.resultSnapshotId = some id ∨
    Legible maxSnapshotIdChars id
  error : ∀ message, new.lastError = some message → row.lastError = some message ∨
    Legible maxErrorChars message
  observation : new.processRunning = true → new.processObservedAt.isSome
  prepared : Between row.createdAt new.updatedAt new.dataPreparedAt
  observed : Between row.createdAt new.updatedAt new.processObservedAt
  stopped : Between row.createdAt new.updatedAt new.stopRequestedAt

theorem InstanceSound.advance {new : ServerInstance} (sound : InstanceSound row)
    (running : row.terminatedAt = none) (progress : Progress row new) : InstanceSound new := by
  obtain ⟨generation, token, spec, source, created, terminated, terminal⟩ := progress.same
  have going : new.terminatedAt = none := terminated.trans running
  constructor
  · rw [generation]; exact sound.generation
  · rw [token]; exact sound.token
  · rw [spec]; exact sound.spec
  · rw [source]; exact sound.source
  · intro id given
    rcases progress.result id given with old | legible
    · exact sound.result id old
    · exact legible
  · intro message given
    rcases progress.error message given with old | legible
    · exact sound.error message old
    · exact legible
  · rw [created]; exact le_trans sound.order progress.later
  · rw [terminated, terminal]; exact sound.terminal
  · exact progress.observation
  · simp [going]
  · rw [created]; exact progress.prepared
  · rw [created]; exact progress.observed
  · rw [created]; exact progress.stopped
  · simp [Between, going]
  · simp [going]

theorem InstanceSound.requestStop (sound : InstanceSound row) (running : row.terminatedAt = none)
    (now : UnixTimestampMillis) :
    InstanceSound { row with
      stopRequestedAt := some (max now (max row.createdAt row.updatedAt))
      updatedAt := max now (max row.createdAt row.updatedAt) } := by
  have later : row.updatedAt ≤ max now (max row.createdAt row.updatedAt) := by simp
  refine sound.advance running ⟨⟨rfl, rfl, rfl, rfl, rfl, rfl, rfl⟩, later, fun _ given => .inl given,
    fun _ given => .inl given, sound.observation, sound.prepared.raise later, sound.observed.raise later,
    ?_⟩
  exact Between.single (by simp) (le_refl _)

theorem InstanceSound.markDataPrepared (sound : InstanceSound row) (running : row.terminatedAt = none)
    (now : UnixTimestampMillis) :
    InstanceSound { row with
      dataPreparedAt := some (row.dataPreparedAt.getD (max now row.createdAt))
      lastError := none
      updatedAt := max now (max row.updatedAt row.createdAt) } := by
  have later : row.updatedAt ≤ max now (max row.updatedAt row.createdAt) := by simp
  exact sound.advance running ⟨⟨rfl, rfl, rfl, rfl, rfl, rfl, rfl⟩, later, fun _ given => .inl given,
    nofun, sound.observation, sound.prepared.first now,
    sound.observed.raise later, sound.stopped.raise later⟩

theorem InstanceSound.observeProcess (sound : InstanceSound row) (running : row.terminatedAt = none)
    (alive : Bool) (now : UnixTimestampMillis) :
    InstanceSound { row with
      processRunning := alive
      processObservedAt := some (max (max (row.processObservedAt.getD 0) now)
        (max row.updatedAt row.createdAt))
      lastError := none
      updatedAt := max now (max row.updatedAt row.createdAt) } := by
  have later : row.updatedAt ≤ max now (max row.updatedAt row.createdAt) := by simp
  exact sound.advance running ⟨⟨rfl, rfl, rfl, rfl, rfl, rfl, rfl⟩, later, fun _ given => .inl given,
    nofun, fun _ => rfl, sound.prepared.raise later, sound.observed.seen now,
    sound.stopped.raise later⟩

theorem InstanceSound.recordError (sound : InstanceSound row) (running : row.terminatedAt = none)
    {message : String} (legible : Legible maxErrorChars message) (now : UnixTimestampMillis) :
    InstanceSound { row with
      lastError := some message, updatedAt := max now (max row.updatedAt row.createdAt) } := by
  have later : row.updatedAt ≤ max now (max row.updatedAt row.createdAt) := by simp
  refine sound.advance running ⟨⟨rfl, rfl, rfl, rfl, rfl, rfl, rfl⟩, later, fun _ given => .inl given,
    ?_, sound.observation, sound.prepared.raise later, sound.observed.raise later,
    sound.stopped.raise later⟩
  rintro other ⟨⟩
  exact .inr legible

theorem InstanceSound.markPublished (sound : InstanceSound row) (running : row.terminatedAt = none)
    {snapshotId : String} (legible : Legible maxSnapshotIdChars snapshotId)
    (committedAt : UnixTimestampMillis) :
    InstanceSound (SnapshotRepository.markPublished snapshotId committedAt row) := by
  have later : row.updatedAt ≤ max committedAt (max row.updatedAt row.createdAt) := by simp
  refine sound.advance running ⟨⟨rfl, rfl, rfl, rfl, rfl, rfl, rfl⟩, later, ?_,
    fun _ given => .inl given, sound.observation, sound.prepared.raise later, sound.observed.raise later,
    sound.stopped.raise later⟩
  rintro other ⟨⟩
  exact .inr legible

theorem InstanceSound.complete (sound : InstanceSound row) (result : TerminalResult)
    (now : UnixTimestampMillis) :
    InstanceSound { row with
      processRunning := false
      processObservedAt := some (max (max (row.processObservedAt.getD 0) now)
        (max row.updatedAt row.createdAt))
      terminatedAt := some (max (max now row.updatedAt)
        (max row.createdAt (row.stopRequestedAt.getD 0)))
      terminalResult := some result
      updatedAt := max now (max row.updatedAt row.createdAt) } := by
  have later : row.updatedAt ≤ max now (max row.updatedAt row.createdAt) := by simp
  have seen : (row.processObservedAt.getD 0 : Nat) ≤ row.updatedAt := sound.observed.getD_le
  have requested : (row.stopRequestedAt.getD 0 : Nat) ≤ row.updatedAt := sound.stopped.getD_le
  have prepared : (row.dataPreparedAt.getD 0 : Nat) ≤ row.updatedAt := sound.prepared.getD_le
  have ended := ended_eq requested row.createdAt now
  refine { generation := sound.generation, token := sound.token, spec := sound.spec
           source := sound.source, result := sound.result, error := sound.error
           order := le_trans sound.order later, terminal := rfl
           observation := fun _ => rfl, halted := fun _ => rfl
           prepared := sound.prepared.raise later, observed := sound.observed.seen now
           stopped := sound.stopped.raise later, ended := ?_, last := ?_ }
  · rw [ended]
    exact Between.single (by simp) (le_refl _)
  · rintro time ⟨⟩
    rw [ended]
    exact ⟨le_trans prepared later, seen_le seen row.createdAt now, le_trans requested later⟩

end Instances

section Computes

variable {row : ComputeRow}

structure ComputeProgress (row new : ComputeRow) : Prop where
  connection : new.connectionToken = row.connectionToken
  enrollment : new.enrollmentToken = row.enrollmentToken ∨ new.enrollmentToken = none
  providerId : ∀ id, new.providerInstanceId = some id → row.providerInstanceId = some id ∨
    Legible maxProviderInstanceIdChars id
  address : ∀ address, new.publicIpv4 = some address → row.publicIpv4 = some address ∨
    ComputeInstance.isIpv4 address = true
  failure : new.failureMessage = row.failureMessage ∨ new.failureMessage = none
  certificates : new.agentCsrPem = row.agentCsrPem ∧
    new.agentCertificateChainPem = row.agentCertificateChainPem ∧
    new.agentCertificateDer = row.agentCertificateDer ∧
    new.agentCertificateExpiresAt = row.agentCertificateExpiresAt
  process : new.processId.all (0 < ·) = true
  columns : new.providerColumns = true
  created : new.createdAt = row.createdAt
  later : row.updatedAt ≤ new.updatedAt
  terminated : new.terminatedAt = row.terminatedAt ∧ new.terminalResult = row.terminalResult
  connected : Between row.createdAt new.updatedAt new.agentConnectedAt
  shutdown : Between row.createdAt new.updatedAt new.shutdownRequestedAt

theorem ComputeSound.advance {new : ComputeRow} (sound : ComputeSound row)
    (running : row.terminatedAt = none) (progress : ComputeProgress row new) : ComputeSound new := by
  obtain ⟨csr, chain, der, expires⟩ := progress.certificates
  obtain ⟨terminated, terminal⟩ := progress.terminated
  have going : new.terminatedAt = none := terminated.trans running
  constructor
  · rw [progress.connection]; exact sound.connection
  · intro token given
    rcases progress.enrollment with same | cleared
    · exact sound.enrollment token (same.symm.trans given)
    · rw [cleared] at given
      cases given
  · intro id given
    rcases progress.providerId id given with old | legible
    · exact sound.providerId id old
    · exact legible
  · intro address given
    rcases progress.address address given with old | valid
    · exact sound.address address old
    · exact valid
  · intro message given
    rcases progress.failure with same | cleared
    · exact sound.failure message (same.symm.trans given)
    · rw [cleared] at given
      cases given
  · rw [csr]; exact sound.csr
  · rw [chain]; exact sound.chain
  · rw [der]; exact sound.der
  · unfold ComputeRow.certificateColumns
    rw [csr, chain, der, expires]
    exact sound.certificate
  · rw [expires, progress.created]; exact sound.expires
  · exact progress.process
  · exact progress.columns
  · rw [progress.created]; exact le_trans sound.order progress.later
  · rw [terminated, terminal]; exact sound.terminal
  · rw [progress.created]; exact progress.connected
  · rw [progress.created]; exact progress.shutdown
  · simp [Between, going]
  · simp [going]

theorem ComputeSound.recordProcessId (sound : ComputeSound row) (running : row.terminatedAt = none)
    (here : row.provider = .localProcess) {processId : Nat} (positive : 0 < processId)
    (now : UnixTimestampMillis) :
    ComputeSound { row with
      processId := some processId
      failureMessage := none
      updatedAt := max now (max row.updatedAt row.createdAt) } := by
  have later : row.updatedAt ≤ max now (max row.updatedAt row.createdAt) := by simp
  have columns := sound.columns
  simp only [ComputeRow.providerColumns, here] at columns
  refine sound.advance running ⟨rfl, .inl rfl, fun _ given => .inl given,
    fun _ given => .inl given, .inr rfl, ⟨rfl, rfl, rfl, rfl⟩, by simpa using positive, ?_, rfl, later,
    ⟨rfl, rfl⟩, sound.connected.raise later, sound.shutdown.raise later⟩
  simpa only [ComputeRow.providerColumns, here] using columns

theorem ComputeSound.recordProviderInstance (sound : ComputeSound row) (running : row.terminatedAt = none)
    (remote : row.provider = .akamai) {id : String} (legible : Legible maxProviderInstanceIdChars id)
    {publicIpv4 : Option String}
    (addressed : ∀ address, publicIpv4 = some address → ComputeInstance.isIpv4 address = true)
    (now : UnixTimestampMillis) :
    ComputeSound { row with
      providerInstanceId := some id
      publicIpv4
      failureMessage := none
      updatedAt := max now (max row.updatedAt row.createdAt) } := by
  have later : row.updatedAt ≤ max now (max row.updatedAt row.createdAt) := by simp
  have columns := sound.columns
  simp only [ComputeRow.providerColumns, remote] at columns
  refine sound.advance running ⟨rfl, .inl rfl, ?_, fun address given => .inr (addressed address given),
    .inr rfl, ⟨rfl, rfl, rfl, rfl⟩, sound.process, ?_, rfl, later, ⟨rfl, rfl⟩,
    sound.connected.raise later, sound.shutdown.raise later⟩
  · rintro other ⟨⟩
    exact .inr legible
  · simpa only [ComputeRow.providerColumns, remote] using columns

theorem providerColumns_cleared {row new : ComputeRow} (columns : row.providerColumns = true)
    (provider : new.provider = row.provider) (id : new.providerInstanceId = row.providerInstanceId)
    (address : new.publicIpv4 = row.publicIpv4)
    (enrollment : new.enrollmentToken = row.enrollmentToken ∨ new.enrollmentToken = none)
    (csr : new.agentCsrPem = row.agentCsrPem)
    (chain : new.agentCertificateChainPem = row.agentCertificateChainPem)
    (der : new.agentCertificateDer = row.agentCertificateDer)
    (expires : new.agentCertificateExpiresAt = row.agentCertificateExpiresAt)
    (process : new.processId = row.processId) : new.providerColumns = true := by
  unfold ComputeRow.providerColumns at columns ⊢
  rw [provider]
  cases kind : row.provider with
  | localProcess =>
    simp only [kind, Bool.and_eq_true] at columns
    rw [id, address, csr, chain, der, expires]
    rcases enrollment with same | cleared
    · rw [same]
      simpa only [Bool.and_eq_true] using columns
    · rw [cleared]
      simp only [Option.isNone_none, Bool.and_eq_true, and_true]
      exact ⟨⟨⟨⟨columns.1.1.1.1.1, columns.1.1.1.2⟩, columns.1.1.2⟩, columns.1.2⟩, columns.2⟩
  | akamai =>
    simp only [kind] at columns
    rw [process]
    exact columns

theorem ComputeSound.authenticate (sound : ComputeSound row) (running : row.terminatedAt = none)
    {enrollmentToken : Option String}
    (cleared : enrollmentToken = row.enrollmentToken ∨ enrollmentToken = none)
    (now : UnixTimestampMillis) :
    ComputeSound { row with
      enrollmentToken
      agentConnectedAt := some (ComputeInstanceRepository.connectedAt row now)
      failureMessage := none
      updatedAt := max now (max row.updatedAt row.createdAt) } := by
  have later : row.updatedAt ≤ max now (max row.updatedAt row.createdAt) := by simp
  exact sound.advance running ⟨rfl, cleared, fun _ given => .inl given,
    fun _ given => .inl given, .inr rfl, ⟨rfl, rfl, rfl, rfl⟩, sound.process,
    providerColumns_cleared sound.columns rfl rfl rfl cleared rfl rfl rfl rfl rfl, rfl, later, ⟨rfl, rfl⟩,
    sound.connected.seen now, sound.shutdown.raise later⟩

theorem ComputeSound.recordAgentCertificate (sound : ComputeSound row) (running : row.terminatedAt = none)
    (remote : row.provider = .akamai) {certificate : AgentCertificateRecord}
    (csr : bytesWithin 32768 certificate.certificateSigningRequestPem = true)
    (chain : bytesWithin 65536 certificate.certificateChainPem = true)
    (der : 1 ≤ certificate.certificateDer.length ∧ certificate.certificateDer.length ≤ 65536)
    (expires : row.createdAt ≤ certificate.certificateExpiresAt) :
    ComputeSound { row with
      agentCsrPem := some certificate.certificateSigningRequestPem
      agentCertificateChainPem := some certificate.certificateChainPem
      agentCertificateDer := some certificate.certificateDer
      agentCertificateExpiresAt := some certificate.certificateExpiresAt
      failureMessage := none
      updatedAt := max certificate.recordedAt (max row.updatedAt row.createdAt) } := by
  have later : row.updatedAt ≤ max certificate.recordedAt (max row.updatedAt row.createdAt) := by simp
  have columns := sound.columns
  simp only [ComputeRow.providerColumns, remote] at columns
  refine { sound with
           csr, chain, der := by simpa using der, certificate := rfl, expires := by simpa using expires
           columns := by simpa only [ComputeRow.providerColumns, remote] using columns
           failure := by simp, order := le_trans sound.order later
           connected := sound.connected.raise later, shutdown := sound.shutdown.raise later
           ended := by simp [Between, running] }

theorem ComputeSound.requestShutdown (sound : ComputeSound row) (running : row.terminatedAt = none)
    (now : UnixTimestampMillis) :
    ComputeSound { row with
      shutdownRequestedAt := some (row.shutdownRequestedAt.getD (max now row.createdAt))
      updatedAt := max now (max row.updatedAt row.createdAt) } := by
  have later : row.updatedAt ≤ max now (max row.updatedAt row.createdAt) := by simp
  exact sound.advance running ⟨rfl, .inl rfl, fun _ given => .inl given,
    fun _ given => .inl given, .inl rfl, ⟨rfl, rfl, rfl, rfl⟩, sound.process, sound.columns, rfl, later,
    ⟨rfl, rfl⟩, sound.connected.raise later, sound.shutdown.first now⟩

theorem ComputeSound.terminate (sound : ComputeSound row) (result : ComputeTerminalResult)
    (now : UnixTimestampMillis) :
    ComputeSound { row with
      terminatedAt := some (max now (max row.updatedAt row.createdAt))
      terminalResult := some result
      failureMessage := none
      updatedAt := max now (max row.updatedAt row.createdAt) } := by
  have later : row.updatedAt ≤ max now (max row.updatedAt row.createdAt) := by simp
  refine { connection := sound.connection, enrollment := sound.enrollment
           providerId := sound.providerId, address := sound.address
           failure := nofun
           csr := sound.csr, chain := sound.chain, der := sound.der, certificate := sound.certificate
           expires := sound.expires, process := sound.process, columns := sound.columns
           order := le_trans sound.order later, terminal := rfl
           connected := sound.connected.raise later, shutdown := sound.shutdown.raise later
           ended := Between.single (by simp) (le_refl _), last := ?_ }
  rintro time ⟨⟩
  exact ⟨le_trans sound.connected.getD_le later, le_trans sound.shutdown.getD_le later⟩

end Computes

structure Readable (db : Database) : Prop where
  servers : ∀ row ∈ db.servers, row.Sound
  instances : ∀ row ∈ db.serverInstances, InstanceSound row
  computes : ∀ row ∈ db.computeInstances, ComputeSound row

section Statements

variable {db : Database}

theorem Readable.decoded (readable : Readable db) :
    (∀ row ∈ db.servers, ServerRepository.decodeServer row = .ok row.toServer) ∧
    (∀ row ∈ db.serverInstances, ServerInstanceRepository.decodeInstance row = .ok row) ∧
    ∀ row ∈ db.computeInstances,
      ComputeInstanceRepository.decodeComputeInstance row = .ok row.toComputeInstance := by
  refine ⟨fun row member => ?_, fun row member => ?_, fun row member => ?_⟩
  · rw [ServerRepository.decodeServer, (readable.servers row member).rehydrate]
    rfl
  · rw [ServerInstanceRepository.decodeInstance, (readable.instances row member).rehydrate]
    rfl
  · rw [ComputeInstanceRepository.decodeComputeInstance, (readable.computes row member).rehydrate]
    rfl

theorem Readable.updateServers {selects : ServerRow → Bool} {set : ServerRow → ServerRow}
    (readable : Readable db) (written : ∀ row ∈ db.servers, selects row = true → (set row).Sound) :
    Readable (touchedOne (updateServers selects set) db).2 ∧
      (touchedOne (Store.updateServers selects set) db).1 ≠ .error .database := by
  rw [touchedOne_accepted fun row member chosen => (written row member chosen).check]
  exact ⟨⟨Table.forall_update readable.servers fun row member chosen _ => written row member chosen,
    readable.instances, readable.computes⟩, nofun⟩

theorem Readable.updateInstances {selects : ServerInstance → Bool}
    {set : ServerInstance → ServerInstance} (readable : Readable db)
    (written : ∀ row ∈ db.serverInstances, selects row = true → InstanceSound (set row)) :
    Readable (touchedOne (updateInstances selects set) db).2 ∧
      (touchedOne (Store.updateInstances selects set) db).1 ≠ .error .database := by
  rw [touchedOne_accepted fun row member chosen => (written row member chosen).check]
  exact ⟨⟨readable.servers,
    Table.forall_update readable.instances fun row member chosen _ => written row member chosen,
    readable.computes⟩, nofun⟩

theorem Readable.updateComputes {selects : ComputeRow → Bool} {set : ComputeRow → ComputeRow}
    (readable : Readable db)
    (written : ∀ row ∈ db.computeInstances, selects row = true → ComputeSound (set row)) :
    Readable (touchedOne (updateComputes selects set) db).2 ∧
      (touchedOne (Store.updateComputes selects set) db).1 ≠ .error .database := by
  rw [touchedOne_accepted fun row member chosen => (written row member chosen).check]
  exact ⟨⟨readable.servers, readable.instances,
    Table.forall_update readable.computes fun row member chosen _ => written row member chosen⟩,
    nofun⟩

def instanceRow (db : Database) (server : ServerRow) (id : ServerInstanceId)
    (now : UnixTimestampMillis) : ServerInstance :=
  { id, serverId := server.id, serverGeneration := server.generation, resolvedSpec := server.spec
    fencingToken := server.nextFencingToken, sourceSnapshotId := server.currentSnapshotId
    dataPreparedAt := none, processRunning := false, processObservedAt := none
    resultSnapshotId := none, stopRequestedAt := none, terminatedAt := none, terminalResult := none
    lastError := none, createdAt := ServerInstanceRepository.instanceTime db server now
    updatedAt := ServerInstanceRepository.instanceTime db server now }

theorem insertForRunningServer_outcome (serverId : ServerId) (id : ServerInstanceId)
    (now : UnixTimestampMillis) (db : Database) :
    ServerInstanceRepository.insertForRunningServer serverId id now db = (.ok false, db) ∨
    ∃ server ∈ db.servers, server.id = serverId ∧ server.desiredState = .running ∧
      db.hasActiveInstance server.id = false ∧
      (ServerInstanceRepository.insertForRunningServer serverId id now db = (.error .database, db) ∧
          (maximumI64 < server.nextFencingToken + 1 ∨
            instanceCheck (instanceRow db server id now) = false ∨
            ∃ other ∈ db.serverInstances, instanceConflicts (instanceRow db server id now) other = true) ∨
        ServerInstanceRepository.insertForRunningServer serverId id now db = (.ok true,
          { db with
            serverInstances := db.serverInstances ++ [instanceRow db server id now]
            servers := Table.update (fun row => row.id = serverId)
              (fun row => { row with nextFencingToken := row.nextFencingToken + 1 }) db.servers })) := by
  unfold ServerInstanceRepository.insertForRunningServer
  split
  · exact .inl rfl
  · rename_i server found
    obtain ⟨member, named⟩ := find_id_mem found
    split
    · rename_i eligible
      simp only [Bool.and_eq_true, decide_eq_true_eq, Bool.not_eq_true'] at eligible
      refine .inr ⟨server, member, named, eligible.1, eligible.2, ?_⟩
      dsimp only
      split
      · rename_i exhausted
        exact .inl ⟨rfl, .inl exhausted⟩
      · split
        · rename_i stored inserted
          obtain ⟨rfl, -, -⟩ := insertRow_stored inserted
          exact .inr rfl
        · rename_i inserted
          refine .inl ⟨rfl, .inr (.inr ?_)⟩
          unfold insertRow at inserted
          split_ifs at inserted with invalid taken
          exact List.any_eq_true.mp taken
        · rename_i inserted
          refine .inl ⟨rfl, .inr (.inl ?_)⟩
          unfold insertRow at inserted
          split_ifs at inserted with invalid taken
          exact Bool.not_eq_true' _ |>.mp invalid
    · exact .inl rfl

theorem Readable.instanceRow_sound (readable : Readable db) {server : ServerRow}
    (member : server ∈ db.servers) (id : ServerInstanceId) (now : UnixTimestampMillis) :
    InstanceSound (instanceRow db server id now) := by
  have sound := readable.servers server member
  exact { generation := sound.generation, token := sound.token, spec := sound.spec
          source := sound.snapshot
          result := nofun
          error := nofun
          order := le_refl _, terminal := rfl
          observation := nofun
          halted := nofun
          prepared := nofun
          observed := nofun
          stopped := nofun
          ended := nofun
          last := nofun }

-- Only a repeated id or an exhausted counter keeps the instance from being inserted.
theorem Readable.insertInstance (readable : Readable db) (consistent : Consistent db)
    (serverId : ServerId) (id : ServerInstanceId) (now : UnixTimestampMillis) :
    Readable (ServerInstanceRepository.insertForRunningServer serverId id now db).2 ∧
      ((ServerInstanceRepository.insertForRunningServer serverId id now db).1 = .error .database →
        (∃ row ∈ db.serverInstances, row.id = id) ∨
        ∃ row ∈ db.servers, row.id = serverId ∧ maximumI64 < row.nextFencingToken + 1) := by
  rcases insertForRunningServer_outcome serverId id now db with
    refused | ⟨server, member, named, wanted, idle, ⟨failed, reason⟩ | inserted⟩
  · rw [refused]
    exact ⟨readable, by rintro ⟨⟩⟩
  · rw [failed]
    refine ⟨readable, fun _ => ?_⟩
    rcases reason with exhausted | invalid | ⟨other, present, clash⟩
    · exact .inr ⟨server, member, named, exhausted⟩
    · rw [(readable.instanceRow_sound member id now).check] at invalid
      cases invalid
    · simp only [instanceConflicts, ServerInstance.isActive, Bool.or_eq_true, Bool.and_eq_true,
        decide_eq_true_eq, Option.isNone_iff_eq_none] at clash
      rcases clash with (sameId | ⟨sameServer, sameToken⟩) | ⟨⟨sameServer, -⟩, active⟩
      · exact .inl ⟨other, present, sameId.symm⟩
      · -- Tokens already given are below the next one.
        obtain ⟨owner, stored, ownerId, below⟩ := consistent.lineage.numbered other present
        rw [consistent.keyed.serverIds.eq_of_key stored member (ownerId.trans sameServer.symm),
          ← sameToken] at below
        exact (lt_irrefl _ below).elim
      · have gone := hasActiveInstance_false idle other present sameServer.symm
        simp [active] at gone
  · rw [inserted]
    refine ⟨⟨?_, ?_, readable.computes⟩, by rintro ⟨⟩⟩
    · refine Table.forall_update readable.servers fun row present _ sound => ?_
      exact { sound with token := Nat.succ_pos _ }
    · intro row present
      rcases List.mem_append.mp present with old | new
      · exact readable.instances row old
      · rw [List.mem_singleton.mp new]
        exact readable.instanceRow_sound member id now

open SnapshotRepository in
theorem ServerRow.Sound.markCurrent {row : ServerRow} (sound : row.Sound) {snapshotId : String}
    (legible : Legible maxSnapshotIdChars snapshotId) (committedAt : UnixTimestampMillis) :
    (markCurrent snapshotId committedAt row).Sound where
  generation := sound.generation
  token := sound.token
  spec := sound.spec
  snapshot := by
    rintro id ⟨⟩
    exact legible
  order := le_trans sound.order (by simp [SnapshotRepository.markCurrent])
  archived time given := by
    obtain ⟨above, below, stopped⟩ := sound.archived time given
    exact ⟨above, le_trans below (by simp [SnapshotRepository.markCurrent]), stopped⟩

theorem positiveU64ToI64_pos {value bound : Nat} (accepted : positiveU64ToI64 value = .ok bound) :
    0 < bound := by
  have same := positiveU64ToI64_ok accepted
  unfold positiveU64ToI64 at accepted
  split_ifs at accepted with zero
  omega

section Snapshots

open SnapshotRepository

variable {found : ServerInstance} {token : Nat} {snapshotId : String}
  {committedAt : UnixTimestampMillis}

theorem Readable.publish_accepted (readable : Readable db)
    (legible : Legible maxSnapshotIdChars snapshotId) :
    (publish found token snapshotId committedAt db).1 ≠ .error .database := by
  have instances : ∀ row ∈ db.serverInstances, isPublisher found.id token row = true →
      instanceCheck (markPublished snapshotId committedAt row) = true := by
    intro row member chosen
    simp only [isPublisher, Bool.and_eq_true, Option.isNone_iff_eq_none] at chosen
    exact ((readable.instances row member).markPublished chosen.1.2 legible committedAt).check
  have servers : ∀ (instances : List ServerInstance) (selects : ServerRow → Bool),
      Store.updateServers selects (markCurrent snapshotId committedAt)
        { db with serverInstances := instances } = (.ok (Table.affected selects db.servers),
          { db with
            serverInstances := instances
            servers := Table.update selects (markCurrent snapshotId committedAt) db.servers }) :=
    fun _ _ => updateTable_accepted fun row member _ =>
      ((readable.servers row member).markCurrent legible committedAt).check
  unfold publish
  rw [show Store.updateInstances (isPublisher found.id token) (markPublished snapshotId committedAt) db = _ from
    updateTable_accepted instances]
  dsimp only
  split
  · simp
  · rw [servers]
    dsimp only
    split <;> simp

theorem Readable.commit_readable (readable : Readable db) (id : ServerInstanceId)
    (now : UnixTimestampMillis) : Readable (commit id token snapshotId now db).2 := by
  rcases commit_cases id token snapshotId now db with ⟨result, failed, -⟩ |
    ⟨found, committedAt, instances, -, publishing, done⟩
  · rw [failed]
    exact readable
  · rw [done]
    have legible := legible_of_isPublishable publishing.publishable
    refine ⟨Table.forall_update readable.servers fun row _ _ sound => sound.markCurrent legible _, ?_,
      readable.computes⟩
    simp only [publishedDatabase, publishing.updated]
    refine Table.forall_update readable.instances fun row member chosen sound => ?_
    simp only [isPublisher, Bool.and_eq_true, Option.isNone_iff_eq_none] at chosen
    exact sound.markPublished chosen.1.2 legible _

-- Only a snapshot id that the server already has keeps a snapshot from being committed.
theorem Readable.commit_accepted (readable : Readable db) (consistent : Consistent db)
    {id : ServerInstanceId} {now : UnixTimestampMillis}
    (failed : (commit id token snapshotId now db).1 = .error .database) :
    ∃ row ∈ db.serverInstances, row.id = id ∧
      ∃ snapshot ∈ db.snapshots, snapshot.serverId = row.serverId ∧ snapshot.id = snapshotId := by
  unfold commit at failed
  split at failed
  · cases failed
  rename_i publishable
  simp only [Bool.not_eq_true, Bool.not_eq_false'] at publishable
  have legible := legible_of_isPublishable publishable
  dsimp only at failed
  split at failed
  · cases failed
  rename_i row server joined
  obtain ⟨member, named⟩ := joined_mem joined
  split at failed
  · rename_i error rejected
    unfold positiveU64ToI64 at rejected
    split_ifs at rejected
    all_goals
      cases rejected
      cases failed
  rename_i bound accepted
  split at failed
  · cases failed
  rename_i valid
  simp only [ne_eq, decide_not, Bool.or_eq_true, Bool.not_eq_true', decide_eq_false_iff_not,
    not_or, Decidable.not_not] at valid
  split at failed
  · split at failed <;> cases failed
  rename_i unpublished
  split at failed
  · split at failed
    · cases failed
    · rename_i snapshots _ _ error _ reported
      injection failed with same
      have never : (publish row bound snapshotId (max (max now row.updatedAt) server.updatedAt)
          { db with snapshots }).1 ≠ .error .database :=
        Readable.publish_accepted ⟨readable.servers, readable.instances, readable.computes⟩ legible
      rw [reported, same] at never
      exact (never rfl).elim
  · rename_i clash
    unfold insertRow at clash
    split_ifs at clash with invalid taken
    obtain ⟨snapshot, present, conflict⟩ := List.any_eq_true.mp taken
    simp only [SnapshotRow.conflicts, Bool.and_eq_true, Bool.or_eq_true, decide_eq_true_eq] at conflict
    obtain ⟨sameServer, sameId | sameToken⟩ := conflict
    · exact ⟨row, member, named, snapshot, present, sameServer.symm, sameId.symm⟩
    · -- A snapshot of this token was made by this instance, which has published nothing.
      obtain ⟨other, stored, -, server', token', result⟩ :=
        consistent.lineage.snapshotInstance snapshot present
      have same : other = row := consistent.lineage.tokens.eq_of_key stored member (by
        rw [server', token', ← sameServer, ← sameToken, valid.1])
      rw [same, unpublished] at result
      cases result
  · rename_i invalid
    unfold insertRow at invalid
    split_ifs at invalid with broken
    have text : textWithin 256 snapshotId = true := legible.textWithin
    simp [SnapshotRow.check, text, positiveU64ToI64_pos accepted] at broken

end Snapshots

end Statements

end McServer.Store
