import McServer.Deploy.Document
import McServer.Library.Program

set_option autoImplicit false

namespace McServer.Deploy

open Domain ControlPlane.Config Interleaving

inductive Stage where
  | host
  | disabled
  | live
  | rollback
  deriving DecidableEq

inductive Temporary where
  | environment (text : String)
  | trustAnchor

inductive Source where
  | temporary (file : Temporary)
  | input (path : String)

inductive Action where
  | geteuid
  | isFile (path : String)
  | readText (path : String)
  | which (name : String)
  | sha256 (path : String)
  | run (command : List String)
  -- The one command that may write an environment file of its own
  | runInstaller (command : List String)
  | waitForPing
  | sameFile (source : Source) (destination : String)
  | makeTemporary (file : Temporary)
  | extractServerTrustAnchor (fullchain caBundle : String)
  | install (source : Source) (destination mode group : String)

-- The command `install` may fail when it has already touched its destination: its answer tells what is
-- there afterwards.
def Action.Res : Action → Type
  | .geteuid => Nat
  | .isFile _ | .which _ | .sameFile _ _ => Bool
  | .readText _ | .sha256 _ | .run _ | .runInstaller _ | .waitForPing => Except DeployError String
  | .makeTemporary _ | .extractServerTrustAnchor _ _ => Except DeployError Unit
  | .install _ _ _ _ => Except DeployError Unit × Option InputFile

abbrev Step := Stage × Action

def Step.Res (step : Step) : Type := step.2.Res

abbrev Script (A : Type) := Try Step Step.Res DeployError A

def geteuid : Script Nat := Try.lift (Prog.perform (Stage.host, Action.geteuid))

def isFile (path : String) : Script Bool := Try.lift (Prog.perform (Stage.host, Action.isFile path))

def readText (path : String) : Script String := Prog.perform (Stage.host, Action.readText path)

def which (name : String) : Script Bool := Try.lift (Prog.perform (Stage.host, Action.which name))

def sha256 (path : String) : Script String := Prog.perform (Stage.host, Action.sha256 path)

def run (stage : Stage) (command : List String) : Script String := Prog.perform (stage, Action.run command)

def runInstaller (command : List String) : Script String :=
  Prog.perform (Stage.host, Action.runInstaller command)

def waitForPing : Script String := Prog.perform (Stage.host, Action.waitForPing)

def makeTemporary (stage : Stage) (file : Temporary) : Script Unit :=
  Prog.perform (stage, Action.makeTemporary file)

def extractServerTrustAnchor (stage : Stage) (fullchain caBundle : String) : Script Unit :=
  Prog.perform (stage, Action.extractServerTrustAnchor fullchain caBundle)

def sameFile (stage : Stage) (source : Source) (destination : String) : Script Bool :=
  Try.lift (Prog.perform (stage, Action.sameFile source destination))

def install (stage : Stage) (source : Source) (destination mode group : String) : Script Unit :=
  Prog.bind (Prog.perform (stage, Action.install source destination mode group)) fun answer => .done answer.1

-- `except BaseException` around a part of the script
def onError {A : Type} (body : Script A) (handler : DeployError → Script A) : Script A :=
  Prog.bind body fun
    | .ok value => .done (.ok value)
    | .error error => handler error

def environmentPath : String := "/etc/mcserver/control-plane.env"

def installFile (stage : Stage) (source : Source) (destination mode group : String) : Script Unit := do
  if ← sameFile stage source destination then
    let _ ← run stage ["chown", s!"root:{group}", "--", destination]
    let _ ← run stage ["chmod", mode, "--", destination]
    return ()
  else install stage source destination mode group

def installEnvironment (stage : Stage) (environment : String) : Script Unit := do
  makeTemporary stage (.environment environment)
  installFile stage (.temporary (.environment environment)) environmentPath "0640" "mcserver"

def secretDestinations (files : InputFiles String) : List (String × String) :=
  [(files.akamaiApiToken, "akamai-api-token"), (files.r2ApiToken, "r2-api-token"),
    (files.remoteTlsPrivateKey, "remote-tls-private-key.pem"),
    (files.agentClientCaPrivateKey, "agent-client-ca-private-key.pem"),
    (files.r2RuntimeEnvironment, "r2-runtime.env")]

def credentialPath (name : String) : String := "/etc/mcserver/credentials/" ++ name

def installSecrets (stage : Stage) : List (String × String) → Script Unit
  | [] => return ()
  | (source, name) :: rest => do
      installFile stage (.input source) (credentialPath name) "0600" "root"
      installSecrets stage rest

def installInputs (stage : Stage) (files : InputFiles String) : Script Unit := do
  installSecrets stage (secretDestinations files)
  installFile stage (.input files.remoteTlsFullchain) "/etc/mcserver/pki/remote-tls-fullchain.pem" "0644" "mcserver"
  makeTemporary stage .trustAnchor
  extractServerTrustAnchor stage files.remoteTlsFullchain files.remoteTlsRootCa
  installFile stage (.temporary .trustAnchor) "/etc/mcserver/pki/remote-tls-root-ca.pem" "0644" "mcserver"
  installFile stage (.input files.agentClientCaCertificate) "/etc/mcserver/pki/agent-client-ca.pem" "0644" "mcserver"
  installFile stage (.input files.authorizedKeys) "/etc/mcserver/authorized_keys" "0640" "mcserver"

def installConfiguration (stage : Stage) (config : Config) (environment : String) : Script Unit := do
  installEnvironment stage environment
  installInputs stage config.files

def existingLiveCreationEnabled : Script Bool := do
  if ← isFile environmentPath then
    Prog.bind (readText environmentPath) fun
      | .error _ => .done (.ok false)
      | .ok text =>
          match parseEnvironmentLines environmentPath [] 1 (splitLines (translateNewlines text.toList)) with
          | .error _ => .done (.ok false)
          | .ok values => .done (.ok (values.lookup Variable.akamaiLiveEnabled.name == some "true"))
  else return false

-- `strip("\"'")`
def stripQuotes (value : String) : String :=
  let isQuote (char : Char) := char == '"' || char == '\''
  String.ofList ((value.toList.dropWhile isQuote).rdropWhile isQuote)

-- The last assignment of a key counts.
def osRelease (text : String) : List (String × String) :=
  (splitLines (translateNewlines text.toList)).foldl (fun values raw =>
    match splitOnce "=" raw with
    | some (key, value) => (key, stripQuotes (strip value)) :: values
    | none => values) []

-- `split(".", maxsplit=1)[0]`
def beforeDot (version : String) : String := ((splitOnce "." version).map Prod.fst).getD version

def verifyAlmalinux : Script Unit := do
  let text ← readText "/etc/os-release"
  Try.failIf ((osRelease text).lookup "ID" != some "almalinux") ⟨"production deploy requires AlmaLinux"⟩
  Try.failIf (beforeDot (((osRelease text).lookup "VERSION_ID").getD "") != "10")
    ⟨"production deploy requires AlmaLinux 10"⟩

def verifyService (config : Config) : Script Unit := do
  let _ ← run .host ["systemctl", "is-enabled", "mcserver-control-plane.service"]
  let _ ← run .host ["systemctl", "is-active", "mcserver-control-plane.service"]
  let _ ← waitForPing
  let address ← Try.ofExcept (item config.service "public_address")
  let name ← Try.ofExcept (item config.service "server_name")
  let tls ← run .host ["/usr/bin/openssl", "s_client", "-connect", address, "-servername", name, "-CAfile",
    "/etc/mcserver/pki/remote-tls-root-ca.pem", "-verify_return_error"]
  Try.failIf (!Text.containsText "Verify return code: 0 (ok)" tls)
    ⟨"external TLS verification did not return code 0"⟩

def confirmation : String := "I_UNDERSTAND_THIS_CREATES_BILLABLE_AKAMAI_RESOURCES"

structure Invocation where
  config : Config
  package : String
  executable : String
  acceptanceScript : String
  goLive : Bool

namespace Invocation

variable (invocation : Invocation)

def acceptanceCommand : Except DeployError (List String) := do
  let acceptance := invocation.config.acceptance
  return [invocation.executable, invocation.acceptanceScript, "--confirm-billable-akamai-run", confirmation,
    "--accept-eula", "--socket", "/run/mcserver/control-plane.sock",
    "--firewall-id", ← item acceptance "firewall_id", "--region", ← item acceptance "region",
    "--image", ← item acceptance "image", "--instance-type", ← item acceptance "instance_type",
    "--host-port", ← item acceptance "host_port"]

def prepare : Script (Bool × String) := do
  Try.failIf ((← geteuid) ≠ 0) ⟨"deploy must run as root"⟩
  verifyAlmalinux
  let restoreLiveAfterUpgrade ← existingLiveCreationEnabled
  let _ ← run .host ["dnf", "install", "-y", "ca-certificates", "openssl", "systemd"]
  let _ ← runInstaller [invocation.package ++ "/deploy/install-control-plane.sh",
    invocation.package ++ "/mcserver-control-plane", invocation.package ++ "/mcserverctl"]
  Try.failIf (!(← which "certbot")) ⟨"certbot is required before production deployment"⟩
  let lineage ← Try.ofExcept (item invocation.config.service "certbot_lineage")
  let _ ← run .host [invocation.package ++ "/deploy/install-certbot-renewal-hook.sh", lineage]
  let nodeDigest ← sha256 (invocation.package ++ "/mcserver-node-agent")
  return (restoreLiveAfterUpgrade, nodeDigest)

def restart : Script String := run .host ["systemctl", "restart", "mcserver-control-plane.service"]

def start : Script Unit := do
  let _ ← run .host ["systemctl", "enable", "mcserver-control-plane.service"]
  let _ ← restart
  let _ ← waitForPing
  verifyService invocation.config

def accept : Script Unit := do
  let _ ← restart
  let _ ← waitForPing
  if !invocation.goLive then verifyService invocation.config
  else
    Try.failIf (!(← isFile invocation.acceptanceScript))
      ⟨"live acceptance script is missing; run production_deploy.py from a complete repository checkout"⟩
    let command ← Try.ofExcept invocation.acceptanceCommand
    Try.ofExcept (requirePositiveNumber invocation.config.acceptance "timeout_seconds" "acceptance")
    let _ ← run .host command
    verifyService invocation.config

def rollBack (safeEnvironment : String) (error : DeployError) : Script Unit := do
  installConfiguration .rollback invocation.config safeEnvironment
  let _ ← restart
  Try.fail error

-- The live phase: only what follows the installation is under the handler.
def enableLive (nodeDigest safeEnvironment : String) : Script Unit := do
  let liveEnvironment ← Try.ofExcept (environmentText invocation.config nodeDigest true)
  installConfiguration .live invocation.config liveEnvironment
  onError invocation.accept (invocation.rollBack safeEnvironment)

def deploy : Script Unit := do
  let (restoreLiveAfterUpgrade, nodeDigest) ← invocation.prepare
  let safeEnvironment ← Try.ofExcept (environmentText invocation.config nodeDigest false)
  installConfiguration .disabled invocation.config safeEnvironment
  invocation.start
  if !invocation.goLive && !restoreLiveAfterUpgrade then return ()
  else invocation.enableLive nodeDigest safeEnvironment

end Invocation

def Source.Left (source : Source) (host : Host) (left : Option InputFile) : Prop :=
  match source with
  | .temporary (.environment text) => left.map InputFile.content = some (.text text)
  | .temporary .trustAnchor => left.isSome
  | .input path => left.map InputFile.content = (host path).map InputFile.content

def Effect : (step : Step) → Host → step.Res → Host → Prop
  | (_, .install source destination _ _), before, answer, after =>
      (answer.1 = .ok () → source.Left before answer.2) ∧ after = Function.update before destination answer.2
  | (_, .sameFile source _), before, answer, after =>
      (∀ file, source = .temporary file → answer = false) ∧ after = before
  | (_, .isFile path), before, answer, after => answer = (before path).isSome ∧ after = before
  | (_, .readText path), before, answer, after =>
      (∀ text, answer = .ok text → (before path).map InputFile.content = some (.text text)) ∧ after = before
  -- Commands other than `install` may change any file but the environment file.
  | (_, .run _), before, _, after => after environmentPath = before environmentPath
  | (_, .runInstaller _), before, _, after =>
      before environmentPath ≠ none → after environmentPath = before environmentPath
  | _, before, _, after => after = before

end McServer.Deploy
