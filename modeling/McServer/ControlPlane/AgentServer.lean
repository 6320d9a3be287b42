import McServer.ControlPlane.Credentials

set_option autoImplicit false

namespace McServer.ControlPlane

open Domain Store Agent Interleaving

def protocolVersion : Nat := 3

structure SignedAgentCertificate where
  certificateChainPem : String
  leafDer : List UInt8
  expiresAt : UnixTimestampMillis
  deriving DecidableEq

namespace AgentCertificateAuthority

def maxCsrBytes : Nat := 32 * 1024
def maxCertificateBytes : Nat := 64 * 1024

def validateCsr (value : String) : Except AgentCertificateError Unit :=
  if maxCsrBytes < value.utf8ByteSize then .error .csrTooLarge
  else if Text.containsNul value ||
      !Text.containsText "-----BEGIN CERTIFICATE REQUEST-----" value ||
      !Text.containsText "-----END CERTIFICATE REQUEST-----" value then .error .invalidCsr
  else .ok ()

def endLine (text : String) : String :=
  if text.toList.getLast? = some '\n' then text else text ++ "\n"

def certificate (validityMillis : Nat) (files : SignedFiles) (issuedAt : UnixTimestampMillis) :
    Except AgentCertificateError SignedAgentCertificate :=
  if maxCertificateBytes < files.leafPem.utf8ByteSize ∨ maxCertificateBytes < files.caPem.utf8ByteSize ∨
      maxCertificateBytes < files.leafDer.length then .error (.fileTooLarge maxCertificateBytes)
  else
    let certificateChainPem := endLine files.leafPem ++ files.caPem
    if maxCertificateBytes < certificateChainPem.utf8ByteSize then .error .certificateTooLarge
    else if maximumI64 < validityMillis ∨ maximumI64 < issuedAt + validityMillis then
      .error .timestampOutOfRange
    else .ok { certificateChainPem, leafDer := files.leafDer, expiresAt := issuedAt + validityMillis }

def sign (validityMillis : Nat) (compute : ComputeInstanceId) (csr : String)
    (issuedAt : UnixTimestampMillis) : Flow AgentCertificateError SignedAgentCertificate := do
  Try.ofExcept (validateCsr csr)
  let files ← (Prog.perform (Op.openssl compute csr) : Flow AgentCertificateError SignedFiles)
  Try.ofExcept (certificate validityMillis files issuedAt)

end AgentCertificateAuthority

inductive AgentServerError where
  | protocol (detail : String)
  | repository (source : RepositoryError)
  | timestamp (source : TimestampError)
  | certificate (source : AgentCertificateError)
  | credentials (source : R2TemporaryCredentialError)
  | io

structure ConnectionContext where
  expectedProvider : ComputeProvider
  certificateValidityMillis : Option Nat
  r2Credentials : Option R2TemporaryCredentialManager

-- One accepted connection: its first request and the certificate the peer presented.
structure Connection where
  request : AgentRequest
  peerCertificateDer : Option (List UInt8)
  -- The length of the database's history when the request arrived.
  since : Nat
  number : Nat

namespace Connection

abbrev Handler (A : Type) := Flow AgentServerError A

variable (connection : Connection) (context : ConnectionContext)

def respond (response : AgentResponse) : Handler Unit :=
  Try.raising (fun _ => .io) (Prog.perform
    (Op.respond connection.since connection.request connection.peerCertificateDer response))

def reject (message : String) : Handler Unit := connection.respond (.rejected message)

def isUnrecorded (enrollment : AgentEnrollment) : Bool :=
  enrollment.certificateSigningRequestPem.isNone && enrollment.certificateChainPem.isNone &&
    enrollment.certificateDer.isNone && enrollment.certificateExpiresAt.isNone

-- The recorded chain, when the whole record is there and the request is the recorded one.
def recordedChain (enrollment : AgentEnrollment) (csr : String) : Option String :=
  match enrollment.certificateSigningRequestPem, enrollment.certificateChainPem,
      enrollment.certificateDer, enrollment.certificateExpiresAt with
  | some recorded, some chain, some _, some _ => if recorded = csr then some chain else none
  | _, _, _, _ => none

def accept (chain connectionToken : String) : Handler Unit :=
  connection.respond (.enrolled { clientCertificateChainPem := chain, connectionToken })

def acceptRecorded (params : EnrollParams) : Handler Unit := do
  let existing : Option AgentEnrollment ← db .repository
    (.getAgentEnrollment params.computeInstanceId params.enrollmentToken)
  match existing with
  | none => connection.reject "Enrollment rejected"
  | some existing =>
      if existing.certificateSigningRequestPem ≠ some params.certificateSigningRequestPem then
        connection.reject "Enrollment CSR changed"
      else
        match existing.certificateChainPem with
        | none => Try.fail (.protocol "incomplete enrollment state")
        | some chain => connection.accept chain existing.connectionToken

def signAndRecord (params : EnrollParams) (enrollment : AgentEnrollment) : Handler Unit := do
  match context.certificateValidityMillis with
  | none => Try.fail (.protocol "certificate authority unavailable")
  | some validity =>
      let issuedAt ← clock .timestamp
      let signed ← Try.raising .certificate (AgentCertificateAuthority.sign validity
        params.computeInstanceId params.certificateSigningRequestPem issuedAt)
      let recorded : Bool ← db .repository
        (.recordAgentCertificate params.computeInstanceId params.enrollmentToken
          { certificateSigningRequestPem := params.certificateSigningRequestPem
            certificateChainPem := signed.certificateChainPem
            certificateDer := signed.leafDer
            certificateExpiresAt := signed.expiresAt
            recordedAt := issuedAt })
      if recorded then connection.accept signed.certificateChainPem enrollment.connectionToken
      else connection.acceptRecorded params

def enroll (params : EnrollParams) : Handler Unit := do
  let found : Option AgentEnrollment ← db .repository
    (.getAgentEnrollment params.computeInstanceId params.enrollmentToken)
  match found with
  | none => connection.reject "Enrollment rejected"
  | some enrollment =>
      match recordedChain enrollment params.certificateSigningRequestPem with
      | some chain => connection.accept chain enrollment.connectionToken
      | none =>
          if isUnrecorded enrollment then connection.signAndRecord context params enrollment
          else connection.reject "Enrollment CSR changed"

def handleEnrollment (params : Option EnrollParams) : Handler Unit := do
  if context.expectedProvider ≠ .akamai ∨ connection.peerCertificateDer.isSome then
    connection.reject "Enrollment rejected"
  else
    match params with
    | none => connection.respond .invalidParams
    | some params =>
        if params.protocolVersion ≠ protocolVersion then connection.respond .protocolMismatch
        else connection.enroll context params

def runtimeEnvironmentForRegistration (compute : ComputeInstance) :
    Handler (List (String × String)) := do
  if context.expectedProvider = .localProcess then return []
  let found : Option ServerInstance ← db .repository (.getInstance compute.serverInstanceId)
  match found, context.r2Credentials with
  | none, _ => Try.fail (.protocol "server instance not found")
  | some _, none => Try.fail (.protocol "R2 temporary credential manager unavailable")
  | some found, some manager =>
      Try.raising .credentials
        (manager.runtimeEnvironmentForRepository compute.id found.resolvedSpec.data.repository)

-- The agent is answered before its session is registered.
def runSession (compute : ComputeInstanceId) (environment : List (String × String)) :
    Handler Unit := do
  connection.respond (.registered environment)
  let _ : Unit ← link (.register compute connection.number)
  let _ : Unit ← link (.endSession compute connection.number)
  link (.unregister compute connection.number)

def authenticate (params : RegisterParams) (compute : ComputeInstance) : Handler Unit := do
  let connectedAt ← clock .timestamp
  let verdict : AgentAuthentication ← db .repository
    (.authenticateAgent params.computeInstanceId context.expectedProvider params.connectionToken
      connection.peerCertificateDer connectedAt)
  match verdict with
  | .rejected => connection.reject "Registration rejected"
  | .accepted =>
      let environment ← Try.lift (runtimeEnvironmentForRegistration context compute).run
      match environment with
      | .ok environment => connection.runSession params.computeInstanceId environment
      | .error error => do
          connection.reject "Temporary storage credentials unavailable"
          Try.fail error

def handleRegistration (params : Option RegisterParams) : Handler Unit := do
  match params with
  | none => connection.respond .invalidParams
  | some params =>
      if params.protocolVersion ≠ protocolVersion then connection.respond .protocolMismatch
      else if context.expectedProvider = .akamai ∧ connection.peerCertificateDer.isNone then
        connection.reject "Client certificate required"
      else do
        let stored : Option ComputeInstance ← db .repository (.getCompute params.computeInstanceId)
        match stored with
        | none => connection.reject "Unknown compute instance"
        | some compute =>
            if !compute.isActive || compute.provider ≠ context.expectedProvider then
              connection.reject "Registration rejected"
            else connection.authenticate context params compute

def handle : Handler Unit := do
  match connection.request.id with
  | .invalid => do
      connection.respond .invalidRequest
      Try.fail (.protocol "registration request id is invalid")
  | .missing => Try.fail (.protocol "registration must be a request")
  | .present =>
      if !connection.request.validVersion then connection.reject "Invalid JSON-RPC version"
      else
        match connection.request.method with
        | .enroll params => connection.handleEnrollment context params
        | .register params => connection.handleRegistration context params
        | .other => do
            connection.reject "Invalid registration"
            Try.fail (.protocol "first node-agent request must be agent.enroll or agent.register")

end Connection

def handleConnection (context : ConnectionContext) (request : AgentRequest)
    (peerCertificateDer : Option (List UInt8)) : Prog Op Op.Res Unit := do
  let since : Nat ← Prog.perform Op.begin
  let number : Nat ← Prog.perform (Op.link .accept)
  let _ ← (Connection.handle { request, peerCertificateDer, since, number } context).run
  return ()

end McServer.ControlPlane
