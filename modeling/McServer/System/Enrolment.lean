import McServer.System.Histories

set_option autoImplicit false

namespace McServer.System

open Domain Store Agent ControlPlane Interleaving

-- The request is refused: the agent is told so, or the connection is closed without an answer.
def Refused {A : Type} : Prog Op Op.Res A → Prop
  | .done _ => True
  | .call op next => (∃ since request der message, op = .respond since request der (.rejected message)) ∧
      ∀ result, (next result).finished = true

-- Whoever looks up an enrolment and finds none refuses the request.
def refusesUnknown {A : Type} : (op : Op) → (op.Res → Prog Op Op.Res A) → Prop
  | .db (.getAgentEnrollment _ _), next => Refused (next (.ok none)) ∧ ∀ error, Refused (next (.error error))
  | _, _ => True

abbrev Careful {A : Type} (program : Prog Op Op.Res A) : Prop := program.Everywhere refusesUnknown

section Walk

variable {connection : Connection} {context : ConnectionContext} {E A B : Type}

theorem Refused.map {program : Prog Op Op.Res A} (refused : Refused program) (value : B) :
    Refused (program.bind fun _ => .done value) := by
  cases program with
  | done _ => trivial
  | call op next =>
    refine ⟨refused.1, fun result => ?_⟩
    have ended := refused.2 result
    dsimp only
    cases onward : next result with
    | done _ => rfl
    | call _ _ => simp [onward, Prog.finished] at ended

theorem Careful.map {program : Prog Op Op.Res A} (careful : Careful program) (value : B) :
    Careful (program.bind fun _ => .done value) := by
  refine Prog.Everywhere.bind (fun op rest held => ?_) careful fun _ => trivial
  cases op with
  | db statement =>
    cases statement with
    | getAgentEnrollment id token => exact ⟨held.1.map value, fun error => (held.2 error).map value⟩
    | _ => trivial
  | _ => trivial

theorem careful_respond (response : AgentResponse) : Careful (connection.respond response) :=
  ⟨trivial, fun _ => trivial⟩

theorem careful_fail (error : E) : Careful (Try.fail error : Flow E A) := trivial

def looksUp : Op → Bool
  | .db (.getAgentEnrollment _ _) => true
  | _ => false

abbrev Blind (program : Prog Op Op.Res A) : Prop := program.Everywhere fun op _ => looksUp op = false

theorem careful_bind {program : Prog Op Op.Res A} {next : A → Prog Op Op.Res B} (blind : Blind program)
    (onward : ∀ value, Careful (next value)) : Careful (program.bind next) := by
  refine Prog.Everywhere.bind (fun op rest held => ?_) blind onward
  cases op with
  | db statement =>
    cases statement with
    | getAgentEnrollment id token => cases held
    | _ => trivial
  | _ => trivial

theorem careful_then {program : Flow E A} {next : A → Flow E B} (blind : Blind program)
    (onward : ∀ value, Careful (next value)) : Careful (Try.bind program next) := by
  refine careful_bind blind fun result => ?_
  cases result with
  | error _ => trivial
  | ok value => exact onward value

theorem blind_bind {program : Prog Op Op.Res A} {next : A → Prog Op Op.Res B} (first : Blind program)
    (second : ∀ value, Blind (next value)) : Blind (program.bind next) :=
  Prog.Everywhere.bind (fun _ _ held => held) first second

theorem blind_raising {F : Type} {into : F → E} {program : Prog Op Op.Res (Except F A)}
    (blind : Blind program) : Blind (Try.raising into program) :=
  blind_bind blind fun _ => trivial

theorem blind_sign (validity : Nat) (compute : ComputeInstanceId) (csr : String)
    (issuedAt : UnixTimestampMillis) : Blind (AgentCertificateAuthority.sign validity compute csr issuedAt) := by
  refine blind_bind (trivial : Blind (Try.ofExcept _)) fun valid => ?_
  cases valid with
  | error _ => trivial
  | ok _ =>
    refine ⟨rfl, fun files => ?_⟩
    cases files <;> trivial

theorem careful_ite {condition : Prop} [Decidable condition] {first second : Prog Op Op.Res A}
    (yes : Careful first) (no : Careful second) : Careful (if condition then first else second) := by
  by_cases holds : condition
  · rwa [if_pos holds]
  · rwa [if_neg holds]

theorem careful_acceptRecorded (params : EnrollParams) : Careful (connection.acceptRecorded params) := by
  refine ⟨⟨⟨⟨_, _, _, _, rfl⟩, fun _ => rfl⟩, fun _ => trivial⟩, fun existing => ?_⟩
  match existing with
  | .error _ => trivial
  | .ok none => exact careful_respond _
  | .ok (some existing) =>
    refine careful_ite (careful_respond _) ?_
    cases existing.certificateChainPem with
    | none => exact careful_fail _
    | some chain => exact careful_respond _

theorem careful_signAndRecord (params : EnrollParams) (enrollment : AgentEnrollment) :
    Careful (connection.signAndRecord context params enrollment) := by
  unfold Connection.signAndRecord
  cases context.certificateValidityMillis with
  | none => exact careful_fail _
  | some validity =>
    refine careful_then ⟨rfl, fun _ => trivial⟩ fun issuedAt => ?_
    refine careful_then (blind_raising (blind_sign _ _ _ _)) fun signed => ?_
    refine careful_then ⟨rfl, fun _ => trivial⟩ fun (recorded : Bool) => ?_
    exact careful_ite (careful_respond _) (careful_acceptRecorded params)

theorem careful_enroll (params : EnrollParams) : Careful (connection.enroll context params) := by
  refine ⟨⟨⟨⟨_, _, _, _, rfl⟩, fun _ => rfl⟩, fun _ => trivial⟩, fun found => ?_⟩
  match found with
  | .error _ => trivial
  | .ok none => exact careful_respond _
  | .ok (some enrollment) =>
    dsimp only [Except.mapError, Prog.bind]
    cases Connection.recordedChain enrollment params.certificateSigningRequestPem with
    | some chain => exact careful_respond _
    | none => exact careful_ite (careful_signAndRecord params enrollment) (careful_respond _)

theorem careful_handleEnrollment (params : Option EnrollParams) :
    Careful (connection.handleEnrollment context params) := by
  refine careful_ite (careful_respond _) ?_
  cases params with
  | none => exact careful_respond _
  | some params => exact careful_ite (careful_respond _) (careful_enroll params)

theorem blind_credentials (manager : R2TemporaryCredentialManager) (compute : ComputeInstanceId)
    (repository : String) : Blind (manager.runtimeEnvironmentForRepository compute repository) := by
  refine blind_bind (trivial : Blind (Try.ofExcept _)) fun keyPrefix => ?_
  cases keyPrefix with
  | error _ => trivial
  | ok keyPrefix =>
    refine blind_bind (blind_bind (trivial : Blind (Try.ofExcept _)) fun valid => ?_) fun issued => ?_
    · cases valid with
      | error _ => trivial
      | ok _ => exact ⟨rfl, fun _ => trivial⟩
    · cases issued <;> trivial

theorem blind_environment (compute : ComputeInstance) :
    Blind (Connection.runtimeEnvironmentForRegistration context compute).run := by
  unfold Connection.runtimeEnvironmentForRegistration
  by_cases here : context.expectedProvider = .localProcess
  · rw [if_pos here]
    trivial
  rw [if_neg here]
  refine ⟨rfl, fun stored => ?_⟩
  match stored, context.r2Credentials with
  | .error _, _ => trivial
  | .ok none, _ => trivial
  | .ok (some found), none => trivial
  | .ok (some found), some manager => exact blind_raising (blind_credentials manager _ _)

theorem careful_authenticate (params : RegisterParams) (compute : ComputeInstance) :
    Careful (connection.authenticate context params compute) := by
  refine careful_then ⟨rfl, fun _ => trivial⟩ fun connectedAt => ?_
  refine careful_then ⟨rfl, fun _ => trivial⟩ fun (verdict : AgentAuthentication) => ?_
  cases verdict with
  | rejected => exact careful_respond _
  | accepted =>
    refine careful_then (blind_bind (blind_environment compute) fun _ => trivial) fun environment => ?_
    cases environment with
    | error error => exact careful_then ⟨rfl, fun _ => trivial⟩ fun _ => careful_fail _
    | ok environment =>
      refine careful_then ⟨rfl, fun _ => trivial⟩ fun _ => ?_
      refine careful_then ⟨rfl, fun _ => trivial⟩ fun _ => ?_
      exact careful_then ⟨rfl, fun _ => trivial⟩ fun _ => ⟨trivial, fun _ => trivial⟩

theorem careful_handleRegistration (params : Option RegisterParams) :
    Careful (connection.handleRegistration context params) := by
  unfold Connection.handleRegistration
  cases params with
  | none => exact careful_respond _
  | some params =>
    refine careful_ite (careful_respond _) (careful_ite (careful_respond _) ?_)
    refine careful_then ⟨rfl, fun _ => trivial⟩ fun (stored : Option ComputeInstance) => ?_
    cases stored with
    | none => exact careful_respond _
    | some compute => exact careful_ite (careful_respond _) (careful_authenticate params compute)

theorem careful_handle : Careful (connection.handle context) := by
  unfold Connection.handle
  cases connection.request.id with
  | invalid => exact careful_then ⟨rfl, fun _ => trivial⟩ fun _ => careful_fail _
  | missing => exact careful_fail _
  | present =>
    refine careful_ite (careful_respond _) ?_
    cases connection.request.method with
    | enroll params => exact careful_handleEnrollment params
    | register params => exact careful_handleRegistration params
    | other => exact careful_then ⟨rfl, fun _ => trivial⟩ fun _ => careful_fail _

theorem careful_handleConnection (request : AgentRequest) (der : Option (List UInt8)) :
    Careful (handleConnection context request der) :=
  ⟨trivial, fun _ => ⟨trivial, fun _ => careful_handle.map ()⟩⟩

end Walk

theorem connections_careful (setup : Setup) (run : Run) (number : Nat) :
    Careful ((reached setup run).threads (.connection number)) := by
  refine (machine setup).run_threads
    (fun thread program => ∀ number, thread = .connection number → Careful program)
    (fun _ _ _ => trivial) ?_ ?_ run ?_ (.connection number) number rfl
  · rintro thread task number rfl
    cases task with
    | connect listener request certificate => exact careful_handleConnection request certificate
    | _ => trivial
  · exact fun thread op next result held number same => (held number same).2 result
  · exact fun _ _ _ => trivial

def certificateRecord (row : ComputeRow) :
    Option String × Option String × Option (List UInt8) × Option UnixTimestampMillis :=
  (row.agentCsrPem, row.agentCertificateChainPem, row.agentCertificateDer,
    row.agentCertificateExpiresAt)

theorem certificate_kept {before after : Database} (evolved : Evolved before after) {old : ComputeRow}
    (member : old ∈ before.computeInstances) (recorded : old.agentCsrPem.isSome) :
    ∃ new ∈ after.computeInstances, new.id = old.id ∧ certificateRecord new = certificateRecord old := by
  obtain ⟨new, present, kept⟩ := evolved.computes old member
  obtain ⟨csr, chain, der, expires⟩ := kept.certificate recorded
  exact ⟨new, present, kept.id, by simp only [certificateRecord, csr, chain, der, expires]⟩

theorem same_certificate {db : Database} {past : List Database} (history : History db past)
    {state : Database} (kept : state ∈ past) {old row : ComputeRow}
    (member : old ∈ state.computeInstances) (stored : row ∈ db.computeInstances)
    (same : row.id = old.id) (recorded : old.agentCsrPem.isSome) :
    certificateRecord row = certificateRecord old := by
  obtain ⟨new, present, sameId, unchanged⟩ := certificate_kept (history.since kept) member recorded
  obtain rfl := history.current.keyed.computeIds.eq_of_key present stored (sameId.trans same.symm)
  exact unchanged

theorem Authentic.unknown {db : Database} (keyed : Keyed db) {compute : ComputeInstanceId}
    {token : String} {der : Option (List UInt8)} {now : UnixTimestampMillis}
    (authentic : Authentic db compute .akamai token der now) (enrollmentToken : String) :
    ((DbOp.getAgentEnrollment compute enrollmentToken).query db).1 = .ok none := by
  obtain ⟨row, member, named, -, -, enrolled⟩ := authentic
  have none_there : (db.computeInstances.find? fun row => row.id = compute && row.provider = .akamai &&
      row.enrollmentToken = some enrollmentToken && row.terminatedAt.isNone) = none := by
    refine List.find?_eq_none.mpr fun other present chosen => ?_
    simp only [Bool.and_eq_true, decide_eq_true_eq] at chosen
    rw [keyed.computeIds.eq_of_key present member (chosen.1.1.1.trans named.symm),
      (enrolled rfl).1] at chosen
    cases chosen.1.2
  simp only [DbOp.query, ComputeInstanceRepository.getAgentEnrollment, Store.read, none_there]
  rfl

theorem enrolment_agrees (setup : Setup) (run : Run) :
    (∀ first ∈ (reached setup run).state.past, ∀ second ∈ (reached setup run).state.past,
      ∀ old ∈ first.computeInstances, ∀ new ∈ second.computeInstances, new.id = old.id →
      old.agentCsrPem.isSome → new.agentCsrPem.isSome → certificateRecord new = certificateRecord old) ∧
    ((reached setup run).state.past.Pairwise fun newer older =>
      ∀ old ∈ older.computeInstances, old.agentCsrPem.isSome →
        ∃ new ∈ newer.computeInstances, new.id = old.id ∧ certificateRecord new = certificateRecord old) ∧
    (∀ request der result window,
      .answered request der (.enrolled result) window ∈ (reached setup run).state.log →
      ∃ params, request.method = .enroll (some params) ∧
        ∃ row ∈ (reached setup run).state.db.computeInstances, row.id = params.computeInstanceId ∧
          row.agentCsrPem = some params.certificateSigningRequestPem ∧
          row.agentCertificateChainPem = some result.clientCertificateChainPem ∧
          row.connectionToken = result.connectionToken) ∧
    (∀ request der environment window,
      .answered request der (.registered environment) window ∈ (reached setup run).state.log →
      ∃ params now, request.method = .register (some params) ∧
        ∃ row ∈ (reached setup run).state.db.computeInstances, row.id = params.computeInstanceId ∧
          row.connectionToken = params.connectionToken ∧
          .authenticated params.computeInstanceId row.provider params.connectionToken der now ∈
            (reached setup run).state.log ∧
          (row.provider = .akamai → der.isSome ∧ row.agentCertificateDer = der ∧
            ∃ expires, row.agentCertificateExpiresAt = some expires ∧ now < expires)) ∧
    ∀ compute token der now,
      .authenticated compute .akamai token der now ∈ (reached setup run).state.log →
      (∃ row ∈ (reached setup run).state.db.computeInstances, row.id = compute ∧
        row.provider = .akamai ∧ row.connectionToken = token ∧ der.isSome ∧
        row.agentCertificateDer = der ∧
        ∃ expires, row.agentCertificateExpiresAt = some expires ∧ now < expires) ∧
      ∀ number enrollmentToken next, (reached setup run).threads (.connection number) =
          .call (.db (.getAgentEnrollment compute enrollmentToken)) next →
        ∀ choice, Refused ((reached setup (run ++ [.advance (.connection number) choice])).threads
          (.connection number)) := by
  have inv := reached_inv setup run
  refine ⟨fun first left second right old member new present same recorded recorded' => ?_,
    inv.history.evolved.imp fun evolved old member recorded => certificate_kept evolved member recorded,
    fun request der result window logged => ?_, fun request der environment window logged => ?_,
    fun compute token der now logged => ?_⟩
  · obtain ⟨row, stored, evolved⟩ := (inv.history.since left).computes old member
    rw [← same_certificate inv.history left member stored evolved.id recorded,
      ← same_certificate inv.history right present stored (evolved.id.trans same.symm) recorded']
  · obtain ⟨earlier, told⟩ := inv.log.of_mem logged
    obtain ⟨params, method, row, -⟩ := told
    exact ⟨params, method, row⟩
  · obtain ⟨later, earlier, split⟩ := List.append_of_mem logged
    obtain ⟨params, provider, now, method, before⟩ := inv.log _ earlier ⟨later, split.symm⟩
    have present : .authenticated params.computeInstanceId provider params.connectionToken der now ∈
        (reached setup run).state.log := by simp [split, before]
    obtain ⟨-, row, member, named, rfl, sameToken, enrolled⟩ := inv.log.of_mem present
    refine ⟨params, now, method, row, member, named, sameToken, present, fun remote => ?_⟩
    obtain ⟨-, -, presented, sameDer, valid⟩ := enrolled remote
    exact ⟨presented, sameDer, valid⟩
  · obtain ⟨earlier, authentic⟩ := inv.log.of_mem logged
    have unknown := Authentic.unknown inv.history.current.keyed authentic
    obtain ⟨row, member, named, remote, sameToken, enrolled⟩ := authentic
    obtain ⟨-, -, presented, sameDer, valid⟩ := enrolled rfl
    refine ⟨⟨row, member, named, remote, sameToken, presented, sameDer, valid⟩, ?_⟩
    intro number enrollmentToken next waiting choice
    have careful := connections_careful setup run number
    rw [waiting] at careful
    rw [reached_concat]
    simp only [Machine.step, waiting, Function.update_self]
    -- The lookup finds nothing, or it fails.
    have answer : (exec (.db (.getAgentEnrollment compute enrollmentToken)) choice
        (reached setup run).state).1 = .ok none ∨ ∃ error,
        (exec (.db (.getAgentEnrollment compute enrollmentToken)) choice
          (reached setup run).state).1 = .error error := by
      simp only [exec, execDb]
      cases choice.fault with
      | none => exact .inl (unknown enrollmentToken)
      | before => exact .inr ⟨_, rfl⟩
      | after => exact .inr ⟨_, rfl⟩
    change Refused (next (exec _ choice (reached setup run).state).1)
    rcases answer with nothing | ⟨error, failed⟩
    · rw [nothing]
      exact careful.1.1
    · rw [failed]
      exact careful.1.2 error

end McServer.System
