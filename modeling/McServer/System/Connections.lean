import McServer.System.Clients

set_option autoImplicit false

namespace McServer.System

open Domain Store Agent ControlPlane Interleaving Interleaving.Contract

section Connections

variable {setup : Setup} {policy : Policy setup} {number : Nat}

abbrev Answers (setup : Setup) (policy : Policy setup) (number : Nat) {E A : Type}
    (pre : World → Prop) (program : Flow E A) (post : A → World → Prop) : Prop :=
  (contract setup policy).Does exec (.connection number) pre program post

abbrev Lasting (setup : Setup) (policy : Policy setup) (number : Nat) (assertion : World → Prop) : Prop :=
  (contract setup policy).Stable (.connection number) assertion

theorem lasting {assertion : World → Prop}
    (kept : ∀ before after, Extends before after → assertion before → assertion after) :
    Lasting setup policy number assertion :=
  steady_of_extends (by simp) kept

section Rules

variable {E : Type} {frame : World → Prop} (steady : Lasting setup policy number frame)

include steady

theorem connection_step (op : Op)
    (guard : ∀ world, Inv setup policy world → frame world → connectionGuard setup policy world op)
    (told : op.Res → World → Prop)
    (answer : ∀ world choice, Inv setup policy world → frame world →
      told (exec op choice world).1 (exec op choice world).2) :
    (contract setup policy).Triple exec (.connection number) frame (Prog.perform op)
      fun result world => frame world ∧ told result world :=
  bystander_step (by simp) steady op guard told answer

theorem clock_answers (into : TimestampError → E) :
    Answers setup policy number frame (clock into) fun _ => frame :=
  Does.raising ((connection_step steady .clock (fun _ _ _ => trivial)
    (fun _ _ => True) fun _ _ _ _ => trivial).weaken fun _ _ held _ _ => held.1)

theorem link_answers (op : LinkOp) (guard : ∀ world, connectionGuard setup policy world (.link op)) :
    Answers setup policy number frame (link op : Flow E op.Value) fun _ => frame :=
  Does.lift ((connection_step steady (.link op) (fun world _ _ => guard world)
    (fun _ _ => True) fun _ _ _ _ => trivial).weaken fun _ _ held => held.1)

theorem statement_answers (into : RepositoryError → E) (op : DbOp)
    (guard : ∀ world, Issuable setup policy world op ∧ connectionStatement op = true)
    (told : op.Value → World → Prop)
    (answer : ∀ world value, Inv setup policy world → frame world →
      (op.query world.db).1 = .ok value → told value (applied op world)) :
    Answers setup policy number frame (db into op) fun value world => frame world ∧ told value world := by
  refine Does.raising ((connection_step steady (.db op) (fun world _ _ => guard world)
    (fun result world => ∀ value, result = .ok value → told value world) ?_).weaken
    fun _ _ held value accepted => ⟨held.1, held.2 value accepted⟩)
  intro world choice inv held value accepted
  obtain ⟨answered, after⟩ := exec_db_value accepted
  rw [after]
  exact answer world value inv held answered

theorem respond_answers (connection : Connection) (response : AgentResponse)
    (allowed : ∀ world, Inv setup policy world → frame world →
      AgentTold world.db world.log connection.request connection.peerCertificateDer
        (world.window connection.since) response) :
    Answers setup policy number frame (connection.respond response) fun _ => frame :=
  Does.raising ((connection_step steady (.respond connection.since connection.request
    connection.peerCertificateDer response) allowed (fun _ _ => True)
    fun _ _ _ _ => trivial).weaken fun _ _ held _ _ => held.1)

end Rules

theorem reject_answers {frame : World → Prop} (connection : Connection) (message : String) :
    Answers setup policy number frame (connection.reject message) fun _ _ => True :=
  (respond_answers (Contract.Stable.const True) connection (.rejected message)
    fun _ _ _ => trivial).strengthen fun _ _ => trivial

def Looked (since : Nat) (params : EnrollParams) (world : World) : Prop :=
  Begun since world ∧ ∃ state ∈ world.window since, ∃ row ∈ state.computeInstances,
    row.id = params.computeInstanceId ∧ row.provider = .akamai ∧
      row.enrollmentToken = some params.enrollmentToken ∧ row.terminatedAt = none

def OnFile (compute : ComputeInstanceId) (holds : ComputeRow → Prop) (world : World) : Prop :=
  ∃ state ∈ world.past, ∃ row ∈ state.computeInstances, row.id = compute ∧ holds row

def Signed (params : EnrollParams) (chain connectionToken : String) : World → Prop :=
  OnFile params.computeInstanceId fun row =>
    row.agentCsrPem = some params.certificateSigningRequestPem ∧
      row.agentCertificateChainPem = some chain ∧ row.connectionToken = connectionToken

theorem Looked.extended {since : Nat} {params : EnrollParams} {before after : World}
    (extended : Extends before after) (looked : Looked since params before) :
    Looked since params after := by
  obtain ⟨begun, state, member, found⟩ := looked
  obtain ⟨news, longer⟩ := window_extends extended begun
  exact ⟨begun.extended extended, state, by rw [longer]; exact List.mem_append_right _ member, found⟩

theorem OnFile.extended {compute : ComputeInstanceId} {holds : ComputeRow → Prop}
    {before after : World} (extended : Extends before after) (onFile : OnFile compute holds before) :
    OnFile compute holds after := by
  obtain ⟨state, member, found⟩ := onFile
  exact ⟨state, extended.past.subset member, found⟩

theorem OnFile.row {compute : ComputeInstanceId} {holds : ComputeRow → Prop} {world : World}
    (inv : Inv setup policy world) (onFile : OnFile compute holds world) :
    ∃ old, holds old ∧ ∃ row ∈ world.db.computeInstances, row.id = compute ∧ ComputeEvolved old row := by
  obtain ⟨state, kept, old, member, named, held⟩ := onFile
  obtain ⟨row, stored, evolved⟩ := (inv.history.since kept).computes old member
  exact ⟨old, held, row, stored, evolved.id.trans named, evolved⟩

variable {connection : Connection} {params : EnrollParams}

theorem accept_answers (method : connection.request.method = .enroll (some params))
    (chain connectionToken : String) :
    Answers setup policy number (fun world => Looked connection.since params world ∧
        Signed params chain connectionToken world) (connection.accept chain connectionToken)
      fun _ _ => True := by
  have steady : Lasting setup policy number fun world => Looked connection.since params world ∧
      Signed params chain connectionToken world :=
    lasting fun _ _ extended held => ⟨held.1.extended extended, held.2.extended extended⟩
  refine (respond_answers steady connection _ fun world inv held => ?_).weaken fun _ _ _ => trivial
  obtain ⟨old, ⟨csr, chained, token⟩, row, stored, named, evolved⟩ := held.2.row inv
  obtain ⟨sameCsr, sameChain, -⟩ := evolved.certificate (by simp [csr])
  exact ⟨params, method, ⟨row, stored, named, sameCsr.trans csr, sameChain.trans chained,
    evolved.connectionToken.trans token⟩, held.1.2⟩

def Retrieved (since : Nat) (params : EnrollParams) (enrollment : AgentEnrollment) (world : World) : Prop :=
  Looked since params world ∧ OnFile params.computeInstanceId (fun row =>
    row.connectionToken = enrollment.connectionToken ∧
      row.agentCsrPem = enrollment.certificateSigningRequestPem ∧
      row.agentCertificateChainPem = enrollment.certificateChainPem) world

theorem getAgentEnrollment_answers {frame : World → Prop} (steady : Lasting setup policy number frame)
    {since : Nat} (begun : ∀ world, frame world → Begun since world) :
    Answers setup policy number frame (db AgentServerError.repository
        (.getAgentEnrollment params.computeInstanceId params.enrollmentToken))
      fun (found : Option AgentEnrollment) world => frame world ∧ ∀ enrollment,
        found = some enrollment → Retrieved since params enrollment world := by
  refine statement_answers steady _ (.getAgentEnrollment params.computeInstanceId params.enrollmentToken)
    (fun world => ⟨lookup_issuable rfl world, rfl⟩)
    (fun (found : Option AgentEnrollment) world => ∀ enrollment, found = some enrollment →
      Retrieved since params enrollment world) ?_
  rintro world found inv held answered enrollment rfl
  obtain ⟨row, member, chosen, rfl⟩ := getAgentEnrollment_some answered
  have start := begun world held
  have window := @applied_window since
    (.getAgentEnrollment params.computeInstanceId params.enrollmentToken) world start
  refine ⟨⟨?_, world.db, by rw [window]; exact List.mem_cons_self, row, member, chosen⟩,
    world.db, List.mem_cons_of_mem _ (current_mem inv), row, member, chosen.1, rfl, rfl, rfl⟩
  have bound : since ≤ world.past.length := start
  simp only [Begun, applied, World.store, World.note, List.length_cons]
  omega

theorem acceptRecorded_answers (method : connection.request.method = .enroll (some params)) :
    Answers setup policy number (Looked connection.since params) (connection.acceptRecorded params)
      fun _ _ => True := by
  have steady : Lasting setup policy number (Looked connection.since params) :=
    lasting fun _ _ extended held => held.extended extended
  refine Does.bind _ (getAgentEnrollment_answers steady fun _ held => held.1)
    fun (existing : Option AgentEnrollment) => ?_
  match existing with
  | none => exact reject_answers connection _
  | some enrollment =>
    refine Does.ite (fun _ => reject_answers connection _) fun same => ?_
    cases chained : enrollment.certificateChainPem with
    | none => exact Does.fail
    | some chain =>
      refine (accept_answers method chain enrollment.connectionToken).strengthen fun world held => ?_
      obtain ⟨looked, state, kept, row, member, named, token, csr, recorded⟩ := held.2 enrollment rfl
      exact ⟨looked, state, kept, row, member, named, csr.trans (not_ne_iff.mp same),
        recorded.trans chained, token⟩

theorem sign_answers {frame : World → Prop} (steady : Lasting setup policy number frame)
    (validity : Nat) (compute : ComputeInstanceId) (csr : String) (issuedAt : UnixTimestampMillis) :
    Answers setup policy number frame
      (AgentCertificateAuthority.sign validity compute csr issuedAt) fun _ => frame := by
  refine Does.bind _ (Does.ofExcept fun _ _ _ held => held) fun _ => ?_
  refine Does.bind _ ((connection_step steady (.openssl compute csr) (fun _ _ _ => trivial)
    (fun _ _ => True) fun _ _ _ _ => trivial).weaken fun _ _ held _ _ => held.1) fun files => ?_
  exact Does.ofExcept fun _ _ _ held => held

theorem signAndRecord_answers (method : connection.request.method = .enroll (some params))
    (context : ConnectionContext) (enrollment : AgentEnrollment) :
    Answers setup policy number (Retrieved connection.since params enrollment)
      (connection.signAndRecord context params enrollment) fun _ _ => True := by
  have steady : Lasting setup policy number (Retrieved connection.since params enrollment) :=
    lasting fun _ _ extended held => ⟨held.1.extended extended, held.2.extended extended⟩
  unfold Connection.signAndRecord
  split
  · exact Does.fail
  · refine Does.bind _ (clock_answers steady _) fun issuedAt => ?_
    refine Does.bind _ (Does.raising (sign_answers steady _ _ _ issuedAt)) fun signed => ?_
    refine Does.bind _ (statement_answers steady _ (.recordAgentCertificate _ _ _)
      (fun world => ⟨⟨trivial, trivial, trivial⟩, rfl⟩) (fun (recorded : Bool) world => recorded = true →
        Signed params signed.certificateChainPem enrollment.connectionToken world) ?_)
      fun (recorded : Bool) => ?_
    · rintro world recorded inv held answered rfl
      obtain ⟨row, member, chosen, stored⟩ := mem_updateComputes answered
      simp only [Bool.and_eq_true, decide_eq_true_eq] at chosen
      obtain ⟨old, ⟨token, -⟩, other, present, named, evolved⟩ := held.2.row inv
      obtain rfl := inv.history.current.keyed.computeIds.eq_of_key member present
        (chosen.1.1.1.1.trans named.symm)
      exact ⟨_, List.mem_cons_self, _, stored, named, rfl, rfl, evolved.connectionToken.trans token⟩
    · refine Does.ite (fun done => ?_) fun _ => ?_
      · exact (accept_answers method _ _).strengthen fun world held => ⟨held.1.1, held.2 done⟩
      · exact (acceptRecorded_answers method).strengthen fun world held => held.1.1

theorem enroll_answers (method : connection.request.method = .enroll (some params))
    (context : ConnectionContext) :
    Answers setup policy number (Begun connection.since) (connection.enroll context params)
      fun _ _ => True := by
  have steady : Lasting setup policy number (Begun connection.since) :=
    lasting fun _ _ extended held => held.extended extended
  refine Does.bind _ (getAgentEnrollment_answers steady fun _ held => held)
    fun (found : Option AgentEnrollment) => ?_
  match found with
  | none => exact reject_answers connection _
  | some enrollment =>
    refine Does.strengthen ?_ fun world held => held.2 enrollment rfl
    dsimp only
    split
    · rename_i chain recorded
      refine (accept_answers method chain enrollment.connectionToken).strengthen fun world held => ?_
      obtain ⟨looked, state, kept, row, member, named, token, csr, chained⟩ := held
      refine ⟨looked, state, kept, row, member, named, ?_⟩
      unfold Connection.recordedChain at recorded
      split at recorded
      · rename_i request known leaf expires
        split at recorded
        · rename_i same
          rw [csr, chained, request, known, same]
          exact ⟨rfl, recorded, token⟩
        · cases recorded
      · cases recorded
    · exact Does.ite (fun _ => signAndRecord_answers method context enrollment)
        fun _ => reject_answers connection _

def InstanceOnFile (found : ServerInstance) (world : World) : Prop :=
  ∃ state ∈ world.past, found ∈ state.serverInstances

def Registering (compute : ComputeInstance) : World → Prop :=
  OnFile compute.id fun row => row.serverInstanceId = compute.serverInstanceId ∧ row.provider = compute.provider

theorem Registering.lasting (compute : ComputeInstance) : Lasting setup policy number (Registering compute) :=
  System.lasting fun _ _ extended held => held.extended extended

theorem scoped_of_registering {manager : R2TemporaryCredentialManager}
    (configured : setup.r2Credentials = some manager) {compute : ComputeInstance}
    (remote : compute.provider = .akamai) {found : ServerInstance}
    (owner : found.id = compute.serverInstanceId) {keyPrefix : String}
    (accepted : repositoryPrefix manager.parseUrl found.resolvedSpec.data.repository
      manager.config.accountId manager.config.bucket = .ok keyPrefix) {world : World}
    (inv : Inv setup policy world) (registering : Registering compute world)
    (stored : InstanceOnFile found world) : Scoped policy.issuers world.db compute.id keyPrefix := by
  obtain ⟨old, ⟨owned, provider⟩, row, member, named, evolved⟩ := registering.row inv
  obtain ⟨state, kept, present⟩ := stored
  obtain ⟨new, current, same⟩ := (inv.history.since kept).instances found present
  refine ⟨manager, policy.configured manager configured, row, member, named, evolved.provider.trans (provider.trans remote),
    new, current, ?_, ?_⟩
  · rw [same.id, owner, evolved.owner, owned]
  · rw [same.spec]
    exact accepted

theorem runtimeEnvironmentForRegistration_answers {listener : ComputeProvider}
    {compute : ComputeInstance} (sameProvider : compute.provider = listener) :
    Answers setup policy number (Registering compute)
      (Connection.runtimeEnvironmentForRegistration (setup.context listener) compute)
      fun _ _ => True := by
  cases listener with
  | localProcess => exact Does.pure fun _ _ => trivial
  | akamai =>
    have steady : Lasting setup policy number (Registering compute) := Registering.lasting compute
    refine Does.ite (fun _ => Does.pure fun _ _ => trivial) fun _ => ?_
    refine Does.bind _ (statement_answers steady _ (.getInstance compute.serverInstanceId)
      (fun world => ⟨lookup_issuable rfl world, rfl⟩) (fun (found : Option ServerInstance) world =>
        ∀ current, found = some current → InstanceOnFile current world ∧
          current.id = compute.serverInstanceId) ?_) fun (found : Option ServerInstance) => ?_
    · rintro world found inv - answered current rfl
      obtain ⟨member, named⟩ := getInstance_some answered
      exact ⟨⟨world.db, List.mem_cons_of_mem _ (current_mem inv), member⟩, named⟩
    · cases configured : setup.r2Credentials with
      | none =>
        simp only [Setup.context, configured]
        cases found <;> exact Does.fail
      | some manager =>
        match found with
        | none => exact Does.fail
        | some current =>
          simp only [Setup.context, configured]
          refine Does.strengthen (Does.given fun (owner : current.id = compute.serverInstanceId) => ?_)
            fun world held => (⟨⟨held.1, (held.2 current rfl).1⟩, (held.2 current rfl).2⟩ :
              (Registering compute world ∧ InstanceOnFile current world) ∧ _)
          have known : Lasting setup policy number fun world =>
              Registering compute world ∧ InstanceOnFile current world :=
            System.lasting fun _ _ extended held => ⟨held.1.extended extended,
              held.2.elim fun state kept => ⟨state, extended.past.subset kept.1, kept.2⟩⟩
          refine Does.raising ?_
          refine Does.bind (fun keyPrefix world =>
            (Registering compute world ∧ InstanceOnFile current world) ∧
              repositoryPrefix manager.parseUrl current.resolvedSpec.data.repository
                manager.config.accountId manager.config.bucket = .ok keyPrefix)
            (Does.ofExcept fun _ accepted _ held => ⟨held, accepted⟩) fun keyPrefix => ?_
          refine Does.given fun accepted => ?_
          refine Does.bind (fun _ _ => True) ?_ fun credentials => Does.ofExcept fun _ _ _ _ => trivial
          refine Does.bind _ (Does.ofExcept fun _ _ _ held => held) fun _ => ?_
          exact (connection_step known (.issueCredentials compute.id keyPrefix _)
            (fun world inv held => scoped_of_registering configured sameProvider owner accepted inv
              held.1 held.2) (fun _ _ => True) fun _ _ _ _ => trivial).weaken fun _ _ _ _ _ => trivial

def Authenticated (connection : Connection) (params : RegisterParams) (world : World) : Prop :=
  ∃ provider now, .authenticated params.computeInstanceId provider params.connectionToken
    connection.peerCertificateDer now ∈ world.log

theorem runSession_answers {params : RegisterParams}
    (method : connection.request.method = .register (some params)) (compute : ComputeInstanceId)
    (environment : List (String × String)) :
    Answers setup policy number (Authenticated connection params)
      (connection.runSession compute environment) fun _ _ => True := by
  have steady : Lasting setup policy number (Authenticated connection params) :=
    lasting fun _ _ extended ⟨provider, now, member⟩ => ⟨provider, now, extended.log.subset member⟩
  refine Does.bind _ (respond_answers steady connection _ fun world _ held => ?_) fun _ => ?_
  · obtain ⟨provider, now, member⟩ := held
    exact ⟨params, provider, now, method, member⟩
  · refine Does.bind _ (link_answers steady (.register compute connection.number) fun _ => trivial) fun _ => ?_
    refine Does.bind _ (link_answers steady (.endSession compute connection.number)
      fun _ => trivial) fun _ => ?_
    exact (link_answers steady (.unregister compute connection.number) fun _ => trivial).weaken
      fun _ _ _ => trivial

theorem authenticate_answers {params : RegisterParams} {listener : ComputeProvider}
    {compute : ComputeInstance} (method : connection.request.method = .register (some params))
    (sameProvider : compute.provider = listener) :
    Answers setup policy number (Registering compute)
      (connection.authenticate (setup.context listener) params compute) fun _ _ => True := by
  have steady : Lasting setup policy number (Registering compute) := Registering.lasting compute
  refine Does.bind _ (clock_answers steady _) fun connectedAt => ?_
  refine Does.bind _ (statement_answers steady _ (.authenticateAgent params.computeInstanceId
    (setup.context listener).expectedProvider params.connectionToken connection.peerCertificateDer
    connectedAt) (fun world => ⟨⟨trivial, trivial, trivial⟩, rfl⟩) (fun (verdict : AgentAuthentication) world =>
      verdict = .accepted → Authenticated connection params world) ?_)
    fun (verdict : AgentAuthentication) => ?_
  · rintro world verdict inv - answered rfl
    refine ⟨(setup.context listener).expectedProvider, connectedAt, ?_⟩
    simp only [applied, World.note, answered, dbEntries]
    exact List.mem_cons_self
  · cases verdict with
    | rejected => exact reject_answers connection _
    | accepted =>
      have authenticated : Lasting setup policy number (Authenticated connection params) :=
        lasting fun _ _ extended held => held.imp fun _ => Exists.imp fun _ => fun member => extended.log.subset member
      have environment := Does.frame authenticated
        (fun op choice world inv guard held => authenticated world _ held (exec_extends world choice op)
          (connection_keeps inv guard choice))
        (@runtimeEnvironmentForRegistration_answers setup policy number listener compute sameProvider)
      refine Does.bind _ ((Does.lift environment).strengthen fun world held =>
        ⟨held.1, held.2 rfl⟩) fun (result : Except AgentServerError (List (String × String))) => ?_
      cases result with
      | ok given =>
        exact (runSession_answers method params.computeInstanceId given).strengthen fun world held =>
          (held given rfl).2
      | error error =>
        exact Does.bind _ (reject_answers connection _) fun _ => Does.fail

theorem handleRegistration_answers {listener : ComputeProvider} {params : Option RegisterParams}
    (method : connection.request.method = .register params) :
    Answers setup policy number (fun _ => True)
      (connection.handleRegistration (setup.context listener) params) fun _ _ => True := by
  have steady : Lasting setup policy number fun _ => True := Contract.Stable.const True
  cases params with
  | none => exact respond_answers steady connection .invalidParams fun _ _ _ => trivial
  | some params =>
    refine Does.ite (fun _ => respond_answers steady connection .protocolMismatch
      fun _ _ _ => trivial) fun _ => ?_
    refine Does.ite (fun _ => reject_answers connection _) fun _ => ?_
    refine Does.bind _ (statement_answers steady _ (.getCompute params.computeInstanceId)
      (fun world => ⟨lookup_issuable rfl world, rfl⟩) (fun (stored : Option ComputeInstance) world =>
        ∀ compute, stored = some compute → Registering compute world) ?_)
      fun (stored : Option ComputeInstance) => ?_
    · rintro world stored inv - answered compute rfl
      obtain ⟨row, member, named, rfl⟩ := getCompute_some answered
      exact ⟨world.db, List.mem_cons_of_mem _ (current_mem inv), row, member, rfl, rfl, rfl⟩
    · match stored with
      | none => exact reject_answers connection _
      | some compute =>
        refine Does.ite (fun _ => reject_answers connection _) fun admitted => ?_
        refine (authenticate_answers method ?_).strengthen fun world held => held.2 compute rfl
        simp only [Bool.or_eq_true, decide_eq_true_eq, not_or, not_not] at admitted
        rw [admitted.2]
        cases listener <;> rfl

theorem handleEnrollment_answers {context : ConnectionContext} {params : Option EnrollParams}
    (method : connection.request.method = .enroll params) :
    Answers setup policy number (Begun connection.since)
      (connection.handleEnrollment context params) fun _ _ => True := by
  have steady : Lasting setup policy number fun _ => True := Contract.Stable.const True
  refine Does.ite (fun _ => reject_answers connection _) fun _ => ?_
  cases params with
  | none =>
    exact (respond_answers steady connection .invalidParams fun _ _ _ => trivial).strengthen fun _ _ => trivial
  | some params =>
    refine Does.ite (fun _ => ?_) fun _ => enroll_answers method context
    exact (respond_answers steady connection .protocolMismatch fun _ _ _ => trivial).strengthen
      fun _ _ => trivial

theorem handle_answers {listener : ComputeProvider} : Answers setup policy number (Begun connection.since)
      (connection.handle (setup.context listener)) fun _ _ => True := by
  have steady : Lasting setup policy number fun _ => True := Contract.Stable.const True
  unfold Connection.handle
  cases connection.request.id with
  | invalid =>
    exact Does.bind _ ((respond_answers steady connection .invalidRequest
      fun _ _ _ => trivial).strengthen fun _ _ => trivial) fun _ => Does.fail
  | missing => exact Does.fail
  | present =>
    refine Does.ite (fun _ => reject_answers connection _) fun _ => ?_
    cases method : connection.request.method with
    | enroll params => exact handleEnrollment_answers method
    | register params => exact (handleRegistration_answers method).strengthen fun _ _ => trivial
    | other => exact Does.bind _ (reject_answers connection _) fun _ => Does.fail

theorem handleConnection_works {listener : ComputeProvider} {request : AgentRequest}
    {peerCertificateDer : Option (List UInt8)} :
    (contract setup policy).Triple exec (.connection number) (fun _ => True)
      (handleConnection (setup.context listener) request peerCertificateDer) fun _ _ => True := by
  refine Triple.bind (fun (since : Nat) world => Begun since world) ?_ fun since => ?_
  · exact (connection_step (Contract.Stable.const True) .begin (fun _ _ _ => trivial)
      (fun (since : Nat) world => Begun since world) fun world _ _ _ => le_refl _).weaken
      fun _ _ held => held.2
  · have steady : Lasting setup policy number (Begun since) :=
      lasting fun _ _ extended held => held.extended extended
    refine Triple.bind (fun _ => Begun since) ((connection_step steady (.link .accept)
      (fun _ _ _ => trivial) (fun _ _ => True) fun _ _ _ _ => trivial).weaken fun _ _ held => held.1)
      fun (accepted : Nat) => ?_
    exact Triple.bind (fun _ _ => True) (Triple.weaken
      (@handle_answers setup policy number { request, peerCertificateDer, since, number := accepted }
        listener) fun _ _ _ => trivial) fun _ => Triple.done fun _ _ => trivial

end Connections

end McServer.System
