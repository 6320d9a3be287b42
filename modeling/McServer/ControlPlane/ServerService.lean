import McServer.ControlPlane.Reconciliation

set_option autoImplicit false

namespace McServer.ControlPlane

open Domain Store Agent Interleaving

abbrev Service (A : Type) := Flow ApplicationError A

namespace ServerService

-- The base is fixed by the configuration; without R2 there is none.
variable (r2RepositoryBase : Option String)

def r2Repository (name : ServerName) : Option String :=
  r2RepositoryBase.map fun base => base ++ "/servers/" ++ name.asStr ++ "/restic"

def validated {A : Type} (result : Except ValidationError A) : Service A :=
  Try.raising .validation (Try.ofExcept result)

def getByName (name : ServerName) : Service (Option Server) := db .repository (.getServerByName name)

def found (server : Option Server) : Service Server :=
  match server with
  | some server => return server
  | none => Try.fail .notFound

def create (name : String) (desiredSpec : DesiredServerSpec) : Service Server := do
  let now ← clock .timestamp
  let name ← validated (ServerName.new name)
  let uuid ← newUuid
  let spec ← validated (desiredSpec.resolve none (r2Repository r2RepositoryBase name))
  let server ← validated (Server.new ⟨uuid⟩ name spec now)
  let _ : Unit ← db .repository (.createServer server)
  return server

def requireGeneration (expectedGeneration : Option Nat) (server : Server) : Except ApplicationError Unit :=
  match expectedGeneration with
  | some expected =>
      if expected ≠ server.generation then
        .error (.generationConflict expectedGeneration server.generation)
      else .ok ()
  | none => .ok ()

theorem requireGeneration_ok {expected : Option Nat} {server : Server}
    (accepted : requireGeneration expected server = .ok ()) :
    ∀ generation, expected = some generation → generation = server.generation := by
  rintro generation rfl
  simp only [requireGeneration] at accepted
  split at accepted
  · cases accepted
  · rename_i same
    exact not_ne_iff.mp same

theorem requireGeneration_error {expected : Option Nat} {server : Server} {error : ApplicationError}
    (reported : requireGeneration expected server = .error error) :
    error = .generationConflict expected server.generation ∧ expected ≠ some server.generation := by
  cases expected with
  | none => cases reported
  | some generation =>
    simp only [requireGeneration] at reported
    split at reported
    · rename_i different
      injection reported with same
      exact ⟨same.symm, fun equal => different (Option.some.inj equal)⟩
    · cases reported

-- The stored generation moved between the read and the guarded write.
def conflict (expectedGeneration : Option Nat) (current : Option Server) : Service Server := do
  let server ← found current
  Try.fail (.generationConflict expectedGeneration server.generation)

def applyTurns (name : ServerName) (desiredSpec : DesiredServerSpec) (expectedGeneration : Option Nat) :
    Nat → Service Server
  | 0 => Try.fail .concurrentUpdate
  | turns + 1 => do
      match ← getByName name with
      | none =>
          if expectedGeneration.isSome then Try.fail .notFound
          else create r2RepositoryBase name.asStr desiredSpec
      | some server =>
          Try.ofExcept (requireGeneration expectedGeneration server)
          let spec ← validated (desiredSpec.resolve (some server.spec.data) none)
          let now ← clock .timestamp
          let (changed, updated) := server.updateSpec spec now
          if !(← validated changed) then return updated
          let stored : Bool ← db .repository (.updateSpec updated server.generation)
          if stored then return updated
          if expectedGeneration.isSome then
            let current : Option Server ← db .repository (.getServer server.id)
            return ← conflict expectedGeneration current
          applyTurns name desiredSpec expectedGeneration turns

def apply (name : String) (desiredSpec : DesiredServerSpec) (expectedGeneration : Option Nat) :
    Service Server := do
  let name ← validated (ServerName.new name)
  applyTurns r2RepositoryBase name desiredSpec expectedGeneration 3

def setDesiredStateTurns (name : ServerName) (desiredState : DesiredState)
    (expectedGeneration : Option Nat) : Nat → Service Server
  | 0 => Try.fail .concurrentUpdate
  | turns + 1 => do
      let server ← found (← getByName name)
      Try.ofExcept (requireGeneration expectedGeneration server)
      let now ← clock .timestamp
      let (changed, updated) := server.setDesiredState desiredState now
      if !(← validated changed) then return updated
      let stored : Bool ← db .repository (.updateDesiredState updated server.generation)
      if stored then return updated
      if expectedGeneration.isSome then
        return ← conflict expectedGeneration (← getByName name)
      setDesiredStateTurns name desiredState expectedGeneration turns

def setDesiredState (name : String) (desiredState : DesiredState) (expectedGeneration : Option Nat) :
    Service Server := do
  let name ← validated (ServerName.new name)
  setDesiredStateTurns name desiredState expectedGeneration 3

def archiveTurns (name : ServerName) (expectedGeneration : Option Nat) : Nat → Service Server
  | 0 => Try.fail .concurrentUpdate
  | turns + 1 => do
      let server ← found (← getByName name)
      Try.ofExcept (requireGeneration expectedGeneration server)
      if server.archivedAt.isSome then return server
      let active : Bool ← db .repository (.hasActiveInstance server.id)
      Try.failIf active .serverHasActiveInstance
      let now ← clock .timestamp
      let (changed, archived) := server.archive now
      let _ ← validated changed
      let stored : Bool ← db .repository (.archiveServer archived server.generation)
      if stored then return archived
      if expectedGeneration.isSome then
        return ← conflict expectedGeneration (← getByName name)
      archiveTurns name expectedGeneration turns

def archive (name : String) (expectedGeneration : Option Nat) : Service Server := do
  let name ← validated (ServerName.new name)
  archiveTurns name expectedGeneration 3

def handle : ClientRequest → Service Server
  | .create name spec => create r2RepositoryBase name spec
  | .apply name spec expected => apply r2RepositoryBase name spec expected
  | .setDesiredState name state expected => setDesiredState name state expected
  | .archive name expected => archive name expected

def serve (request : ClientRequest) : Prog Op Op.Res Unit := do
  let since : Nat ← Prog.perform Op.begin
  let result ← (handle r2RepositoryBase request).run
  Prog.perform (Op.reply since request result)

end ServerService

end McServer.ControlPlane
