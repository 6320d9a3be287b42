import McServer.Agent.Executor
import McServer.ControlPlane.Config
import McServer.Library.Accepts

set_option autoImplicit false

namespace McServer.System

open Domain Agent ControlPlane Outcome

structure Reading where
  environment : List (String × String)
  positional : List String

-- The options that the agent uses; the argument after one is its value, whatever it looks like.
def valueOptions : List String := ["--name", "--label", "--publish", "--volume", "--env", "--restart"]

def readOptions : List String → Option Reading
  | [] => some { environment := [], positional := [] }
  | argument :: rest =>
      if argument = "--" then some { environment := [], positional := rest }
      else if argument = "--replace" then readOptions rest
      else if valueOptions.contains argument then
        match rest with
        | [] => none
        | value :: rest =>
            match readOptions rest with
            | none => none
            | some reading =>
                if argument = "--env" then
                  (Config.splitOnce "=" value).map fun entry =>
                    { reading with environment := entry :: reading.environment }
                else some reading
      else if argument.toList.head? = some '-' then none
      -- Options do not follow the first positional argument.
      else some { environment := [], positional := argument :: rest }

def readCreate : List String → Option Reading
  | "create" :: arguments => readOptions arguments
  | _ => none

def Reading.defined (reading : Reading) (key : String) : Option String :=
  reading.environment.reverse.lookup key

theorem readOptions_replace (rest : List String) : readOptions ("--replace" :: rest) = readOptions rest := by
  rw [readOptions.eq_def]
  simp only [if_true]
  exact if_neg (by decide)

theorem readOptions_value {option : String} (value : String) {rest : List String}
    (known : option ∈ ["--name", "--label", "--publish", "--volume", "--restart"]) :
    readOptions (option :: value :: rest) = readOptions rest := by
  simp only [List.mem_cons, List.not_mem_nil, or_false] at known
  rcases known with rfl | rfl | rfl | rfl | rfl <;>
    · rw [readOptions, if_neg (by decide), if_neg (by decide), if_pos (by decide)]
      cases readOptions rest <;> rfl

theorem readOptions_env {key : String} (value : String) {rest : List String} {reading : Reading}
    (plain : '=' ∉ key.toList) (later : readOptions rest = some reading) :
    readOptions ("--env" :: (key ++ "=" ++ value) :: rest) =
      some { reading with environment := (key, value) :: reading.environment } := by
  rw [readOptions, if_neg (by decide), if_neg (by decide), if_pos (by decide)]
  simp only [later, if_true, Config.splitOnce_append value plain, Option.map_some]

theorem readOptions_environment {entries : List (String × String)} {rest : List String} {reading : Reading}
    (plain : ∀ entry ∈ entries, '=' ∉ entry.1.toList) (later : readOptions rest = some reading) :
    readOptions ((entries.flatMap fun entry => ["--env", entry.1 ++ "=" ++ entry.2]) ++ rest) =
      some { reading with environment := entries ++ reading.environment } := by
  induction entries with
  | nil => simpa using later
  | cons entry entries ih =>
    have others := ih fun other member => plain other (by simp [member])
    simpa using readOptions_env entry.2 (plain entry (by simp)) others

def managedEntries (process : ProcessSpec) : List (String × String) :=
  [("EULA", "TRUE"), ("TYPE", process.serverType), ("VERSION", process.version),
    ("SKIP_SERVER_PROPERTIES", "TRUE")]

theorem readCreate_arguments (config : AgentConfig) (serverInstanceId serverId : Uuid) {process : ProcessSpec}
    (plain : ∀ entry ∈ process.environment.entries, '=' ∉ entry.1.toList) :
    readCreate (createArguments config serverInstanceId serverId process) =
      some { environment := managedEntries process ++ process.environment.entries
             positional := [process.containerImage] } := by
  have image : readOptions ["--", process.containerImage] =
      some { environment := [], positional := [process.containerImage] } := by
    rw [readOptions, if_pos rfl]
  have user := readOptions_environment plain image
  rw [List.append_nil] at user
  have skip := readOptions_env "TRUE" (show '=' ∉ "SKIP_SERVER_PROPERTIES".toList by decide)
    ((readOptions_value "no" (by decide : "--restart" ∈ _)).trans user)
  have version := readOptions_env process.version (show '=' ∉ "VERSION".toList by decide) skip
  have type := readOptions_env process.serverType (show '=' ∉ "TYPE".toList by decide) version
  have eula := readOptions_env "TRUE" (show '=' ∉ "EULA".toList by decide) type
  change readOptions ("--replace" :: _) = _
  rw [readOptions_replace]
  change readOptions ("--name" :: _ :: "--label" :: _ :: "--label" :: _ :: "--label" :: _ :: "--label" :: _ ::
    "--label" :: _ :: "--publish" :: _ :: "--volume" :: _ :: _) = _
  iterate 8 rw [readOptions_value _ (by decide)]
  exact eula

theorem key_plain {key : String} (valid : isValidEnvironmentKey key = true) : '=' ∉ key.toList := by
  unfold isValidEnvironmentKey at valid
  split at valid
  · cases valid
  · rename_i first rest chars
    rw [chars]
    simp only [Bool.and_eq_true, List.all_eq_true] at valid
    intro member
    rcases List.mem_cons.mp member with rfl | later
    · exact absurd valid.1 (by decide)
    · exact absurd (valid.2 '=' later) (by decide)

theorem accepts_requireEnvironmentEntry {key value : String}
    (holds : Accepts (requireEnvironmentEntry key value) fun _ => True) :
    isValidEnvironmentKey key = true ∧ key ∉ reservedEnvironmentKeys := by
  simp only [requireEnvironmentEntry, accepts_bind] at holds
  have last := holds.unit.unit.unit.unit.unit
  rw [accepts_refuse, accepts_refuse] at last
  exact ⟨by simpa using last.1, by simpa using last.2.1⟩

structure ValidProcess (process : ProcessSpec) : Prop where
  acceptEula : process.acceptEula = true
  keys : ∀ entry ∈ process.environment.entries,
    isValidEnvironmentKey entry.1 = true ∧ entry.1 ∉ reservedEnvironmentKeys

theorem validProcess_of_validate {spec : ServerSpec} (valid : spec.validate = .ok ()) :
    ValidProcess spec.process := by
  have holds := accepts_iff.mp valid
  simp only [ServerSpec.validate, accepts_bind] at holds
  have later := holds.unit.unit.unit.unit.unit
  rw [accepts_throwIf, accepts_throwIf, accepts_throwIf, accepts_throwIf] at later
  obtain ⟨_, _, eula, _, entries⟩ := later
  exact ⟨by simpa using eula, fun entry member =>
    accepts_requireEnvironmentEntry ((accepts_forM.mp entries).1 entry member)⟩

theorem lookup_iff_mem {entries : List (String × String)} (distinct : (entries.map Prod.fst).Nodup)
    (key value : String) : entries.lookup key = some value ↔ (key, value) ∈ entries := by
  induction entries with
  | nil => simp
  | cons entry rest ih =>
    obtain ⟨first, held⟩ := entry
    have apart := List.nodup_cons.mp distinct
    rw [List.lookup_cons, List.mem_cons, Prod.mk.injEq]
    by_cases same : key = first
    · subst same
      have absent : (key, value) ∉ rest := fun member => apart.1 (List.mem_map.mpr ⟨_, member, rfl⟩)
      simp [absent, eq_comm]
    · have unequal : (key == first) = false := by simpa using same
      simp [same, unequal, ih apart.2]

theorem entries_distinct {process : ProcessSpec} (valid : ValidProcess process) :
    ((managedEntries process ++ process.environment.entries).map Prod.fst).Nodup := by
  have managed : (managedEntries process).map Prod.fst = reservedEnvironmentKeys := rfl
  have own : (process.environment.entries.map Prod.fst).Nodup := by
    rw [List.Nodup, List.pairwise_map]
    exact process.environment.ordered.imp fun before same => absurd (same ▸ before) (lt_irrefl _)
  rw [List.map_append, managed, List.nodup_append]
  refine ⟨by decide, own, fun reserved among key member => ?_⟩
  obtain ⟨entry, belongs, rfl⟩ := List.mem_map.mp member
  rintro rfl
  exact (valid.keys entry belongs).2 among

theorem container_settings_exact (config : AgentConfig) (serverInstanceId serverId : Uuid) (spec : ServerSpec)
    (valid : spec.validate = .ok ()) :
    ∃ arguments reading, AgentExecutor.createContainer config serverInstanceId serverId spec.process =
        ask (.createContainer serverInstanceId arguments) ∧
      readCreate arguments = some reading ∧ reading.positional = [spec.process.containerImage] ∧
      ∀ key value, reading.defined key = some value ↔
        (key, value) ∈ managedEntries spec.process ++ spec.process.environment.entries := by
  have process := validProcess_of_validate valid
  have plain : ∀ entry ∈ spec.process.environment.entries, '=' ∉ entry.1.toList := fun entry member =>
    key_plain (process.keys entry member).1
  refine ⟨createArguments config serverInstanceId serverId spec.process, _, ?_,
    readCreate_arguments config serverInstanceId serverId plain, rfl, fun key value => ?_⟩
  · rw [AgentExecutor.createContainer, process.acceptEula]
    rfl
  · have reversed : (((managedEntries spec.process ++ spec.process.environment.entries).reverse).map
        Prod.fst).Nodup := by
      rw [List.map_reverse, List.nodup_reverse]
      exact entries_distinct process
    rw [Reading.defined, lookup_iff_mem reversed, List.mem_reverse]

namespace Sample

def settings : ServerSpec where
  compute := .local
  process :=
    { containerImage := "itzg/minecraft-server", serverType := "PAPER", version := "1.21", hostPort := 25565
      stopTimeoutSeconds := 60, acceptEula := true
      environment := ⟨[("MOTD", "a=b --env EULA=FALSE"), ("OPS", "")], by decide⟩ }
  data := { backend := .localRestic, repository := "/backups" }

def agentConfig : AgentConfig :=
  { dataAccessMode := .host, stateDirectory := "/state", localScope := "default", computeInstanceId := 7 }

end Sample

theorem container_settings_exact_at_sample : ∃ arguments reading,
      AgentExecutor.createContainer Sample.agentConfig 1 2 Sample.settings.process =
        ask (.createContainer 1 arguments) ∧
      readCreate arguments = some reading ∧ reading.positional = ["itzg/minecraft-server"] ∧
      ∀ key value, reading.defined key = some value ↔ (key, value) ∈ managedEntries Sample.settings.process ++
          [("MOTD", "a=b --env EULA=FALSE"), ("OPS", "")] :=
  container_settings_exact Sample.agentConfig 1 2 Sample.settings (by decide)

end McServer.System
