import McServer.Deploy.Agreement
import McServer.Deploy.Rollout
import McServer.Library.Lines

set_option autoImplicit false

namespace McServer.Deploy

open Domain ControlPlane.Config Interleaving Outcome

def assigned (line : List Char) : Option String := (splitOnce "=" (String.ofList line)).map Prod.fst

def Sets (text name value : String) : Prop :=
  (Lines.lines '\n' text.toList).filter (fun line => assigned line = some name) =
    [(settingText (name, value)).toList]

def Plain (setting : String × String) : Prop :=
  '=' ∉ setting.1.toList ∧ '\n' ∉ setting.1.toList ∧ '\n' ∉ setting.2.toList

theorem settingText_ended {setting : String × String} (plain : Plain setting) :
    ∃ body, (settingText setting).toList = body ++ ['\n'] ∧ '\n' ∉ body := by
  refine ⟨setting.1.toList ++ '=' :: setting.2.toList, by simp [settingText], ?_⟩
  simp [plain.2.1, plain.2.2]

theorem assigned_setting {setting : String × String} (plain : Plain setting) :
    assigned (settingText setting).toList = some setting.1 := by
  have text : settingText setting = setting.1 ++ "=" ++ (setting.2 ++ "\n") := by
    simp [settingText, String.append_assoc]
  rw [assigned, String.ofList_toList, text, splitOnce_append _ plain.1, Option.map_some]

theorem sets_of_plain {settings : List (String × String)} {name value : String}
    (plain : ∀ setting ∈ settings, Plain setting)
    (only : settings.filter (fun setting => setting.1 = name) = [(name, value)]) :
    Sets (String.join (settings.map settingText)) name value := by
  have pieces : (String.join (settings.map settingText)).toList =
      (settings.map fun setting => (settingText setting).toList).flatten := by
    simp [String.toList_join, List.flatMap_def, Function.comp_def]
  have cut : Lines.lines '\n' (String.join (settings.map settingText)).toList =
      settings.map fun setting => (settingText setting).toList := by
    rw [pieces, Lines.lines_flatten]
    intro piece member
    obtain ⟨setting, listed, rfl⟩ := List.mem_map.mp member
    exact settingText_ended (plain setting listed)
  have names : settings.filter (fun setting => assigned (settingText setting).toList = some name) =
      settings.filter (fun setting => setting.1 = name) := by
    refine List.filter_congr fun setting listed => ?_
    rw [assigned_setting (plain setting listed)]
    simp
  rw [Sets, cut, List.filter_map]
  simp only [Function.comp_def, names, only, List.map_cons, List.map_nil]

theorem Sets.unique {text name first second : String} (one : Sets text name first)
    (other : Sets text name second) : first = second := by
  have same := String.toList_inj.mp (List.singleton_inj.mp (one.symm.trans other))
  simpa [settingText] using same

theorem permitted_of_checkValue {key value : String} (checked : Accepts (checkValue key value) fun _ => True) :
    '\n' ∉ value.toList := by
  intro broken
  have forbidden : value.toList.any isForbidden = true := List.any_eq_true.mpr ⟨'\n', broken, by decide⟩
  simp [checkValue, check, forbidden] at checked

theorem plain_ofList {chars : List Char} (plain : chars.all (fun char => char != '=' && char != '\n') = true) :
    '=' ∉ (String.ofList chars).toList ∧ '\n' ∉ (String.ofList chars).toList := by
  rw [String.toList_ofList, List.all_eq_true] at *
  exact ⟨fun member => absurd (plain _ member) (by decide), fun member => absurd (plain _ member) (by decide)⟩

-- The characters of a literal are read off its list: the kernel need not decode the text.
theorem name_plain (key : Variable) : '=' ∉ key.name.toList ∧ '\n' ∉ key.name.toList := by
  cases key <;> exact plain_ofList rfl

theorem rustLog_of_render {config : Config} {rendered : Rendered} (found : render config = .ok rendered) :
    rustLog config.service = .ok rendered.rustLog := by
  have accepted : Accepts (render config) (· = rendered) := ⟨rendered, found, rfl⟩
  simp only [render, accepts_bind, accepts_pure] at accepted
  obtain ⟨log, logged, rest⟩ := accepted
  iterate 14 obtain ⟨_, -, rest⟩ := rest
  exact rest ▸ logged

theorem environmentText_sets {config : Config} {digest text : String} {live : Bool}
    (rendered : environmentText config digest live = .ok text) :
    Sets text Variable.akamaiLiveEnabled.name (if live then "true" else "false") := by
  have accepted : Accepts (environmentText config digest live) (· = text) := ⟨text, rendered, rfl⟩
  simp only [environmentText, environmentSettings, renderEnvironment, accepts_bind, accepts_pure,
    accepts_forM] at accepted
  obtain ⟨texts, found, _, logged, checked, log, same, rfl⟩ := accepted
  obtain rfl : texts.rustLog = log := Except.ok.inj ((rustLog_of_render found).symm.trans same)
  refine sets_of_plain ?_ ?_
  · rw [List.forall_mem_cons]
    have name : '=' ∉ "RUST_LOG".toList ∧ '\n' ∉ "RUST_LOG".toList := plain_ofList rfl
    refine ⟨⟨name.1, name.2, permitted_of_checkValue ⟨_, logged, trivial⟩⟩, ?_⟩
    intro setting member
    obtain ⟨key, listed, rfl⟩ := List.mem_map.mp member
    have name := name_plain key
    exact ⟨name.1, name.2, permitted_of_checkValue (checked key listed)⟩
  · have named : renderedVariables.filter (fun key => key.name = Variable.akamaiLiveEnabled.name) =
        [.akamaiLiveEnabled] := by
      decide
    have other : "RUST_LOG" ≠ Variable.akamaiLiveEnabled.name := by decide
    rw [List.filter_cons_of_neg (by simpa using other), List.filter_map]
    simp only [Function.comp_def, named, List.map_cons, List.map_nil, Rendered.value, Option.getD_some]

abbrev Exchange := (step : Step) × step.Res

abbrev Runs {A : Type} (script : Script A) (before : Host) (trace : List Exchange)
    (result : Except DeployError A) (after : Host) : Prop :=
  Prog.Performs Effect script before trace result after

section Uses

variable {A B : Type} {allowed : Step → Prop}

def Uses (allowed : Step → Prop) (script : Script A) : Prop := Prog.Everywhere (fun step _ => allowed step) script

theorem Uses.pure (value : A) : Uses allowed (Pure.pure value : Script A) := trivial

theorem Uses.ofExcept (result : Except DeployError A) : Uses allowed (Try.ofExcept result : Script A) := trivial

theorem Uses.failIf {condition : Prop} [Decidable condition] {error : DeployError} :
    Uses allowed (Try.failIf condition error : Script Unit) := by
  unfold Try.failIf
  split <;> trivial

theorem Uses.bind {script : Script A} {next : A → Script B} (first : Uses allowed script)
    (second : ∀ value, Uses allowed (next value)) : Uses allowed (script >>= next) := by
  refine Prog.Everywhere.bind (fun _ _ holds => holds) first fun result => ?_
  cases result with
  | ok value => exact second value
  | error error => trivial

theorem Uses.ite {condition : Prop} [Decidable condition] {first second : Script A}
    (yes : Uses allowed first) (no : Uses allowed second) : Uses allowed (if condition then first else second) := by
  split
  · exact yes
  · exact no

theorem Uses.step {stage : Stage} {action : Action} {next : action.Res → Except DeployError A}
    (here : allowed (stage, action)) :
    Uses allowed (Prog.call (stage, action) fun answer => .done (next answer) : Script A) :=
  ⟨here, fun _ => trivial⟩

end Uses

def Harmless : Step → Prop
  | (.host, .install _ _ _ _) | (.host, .runInstaller _) => False
  | (.host, _) => True
  | _ => False

def Ordinary : Step → Prop
  | (.host, .install _ _ _ _) => False
  | (.host, _) => True
  | _ => False

def Beside (stage : Stage) : Step → Prop
  | (here, .install _ destination _ _) => here = stage ∧ destination ≠ environmentPath
  | (here, .run _) | (here, .sameFile _ _) | (here, .makeTemporary .trustAnchor)
  | (here, .extractServerTrustAnchor _ _) => here = stage
  | _ => False

section Parts

variable {allowed : Step → Prop}

theorem run_uses {stage : Stage} {command : List String} (here : allowed (stage, .run command)) :
    Uses allowed (run stage command) :=
  Uses.step here

theorem verifyService_uses (config : Config) : Uses Harmless (verifyService config) := by
  refine Uses.bind (run_uses trivial) fun _ => ?_
  refine Uses.bind (run_uses trivial) fun _ => ?_
  refine Uses.bind (Uses.step trivial) fun _ => ?_
  refine Uses.bind (Uses.ofExcept _) fun _ => ?_
  refine Uses.bind (Uses.ofExcept _) fun _ => ?_
  exact Uses.bind (run_uses trivial) fun _ => Uses.failIf

theorem restart_uses : Uses Harmless Invocation.restart := run_uses trivial

theorem start_uses (invocation : Invocation) : Uses Harmless invocation.start := by
  refine Uses.bind (run_uses trivial) fun _ => ?_
  refine Uses.bind restart_uses fun _ => ?_
  exact Uses.bind (Uses.step trivial) fun _ => verifyService_uses _

theorem accept_uses (invocation : Invocation) : Uses Harmless invocation.accept := by
  refine Uses.bind restart_uses fun _ => ?_
  refine Uses.bind (Uses.step trivial) fun _ => ?_
  refine Uses.ite (verifyService_uses _) ?_
  refine Uses.bind (Uses.step trivial) fun _ => ?_
  refine Uses.bind Uses.failIf fun _ => ?_
  refine Uses.bind (Uses.ofExcept _) fun _ => ?_
  refine Uses.bind (Uses.ofExcept _) fun _ => ?_
  exact Uses.bind (run_uses trivial) fun _ => verifyService_uses _

theorem verifyAlmalinux_uses : Uses Ordinary verifyAlmalinux := by
  refine Uses.bind (Uses.step trivial) fun text => ?_
  refine Uses.bind Uses.failIf fun _ => ?_
  generalize beforeDot _ = version
  exact Uses.failIf

theorem existingLiveCreationEnabled_uses : Uses Ordinary existingLiveCreationEnabled := by
  refine Uses.bind (Uses.step trivial) fun found => ?_
  refine Uses.ite ⟨trivial, fun answer => ?_⟩ (Uses.pure _)
  cases answer with
  | error error => trivial
  | ok text =>
    dsimp only [Prog.bind]
    split <;> trivial

theorem prepare_uses (invocation : Invocation) : Uses Ordinary invocation.prepare := by
  refine Uses.bind (Uses.step trivial) fun _ => ?_
  refine Uses.bind Uses.failIf fun _ => ?_
  refine Uses.bind verifyAlmalinux_uses fun _ => ?_
  refine Uses.bind existingLiveCreationEnabled_uses fun _ => ?_
  refine Uses.bind (run_uses trivial) fun _ => ?_
  refine Uses.bind (Uses.step trivial) fun _ => ?_
  refine Uses.bind (Uses.step trivial) fun _ => ?_
  refine Uses.bind Uses.failIf fun _ => ?_
  refine Uses.bind (Uses.ofExcept _) fun _ => ?_
  refine Uses.bind (run_uses trivial) fun _ => ?_
  exact Uses.bind (Uses.step trivial) fun _ => Uses.pure _

theorem installFile_uses {stage : Stage} {source : Source} {destination mode group : String}
    (other : destination ≠ environmentPath) :
    Uses (Beside stage) (installFile stage source destination mode group) := by
  refine Uses.bind (Uses.step rfl) fun _ => ?_
  refine Uses.ite ?_ (Uses.step ⟨rfl, other⟩)
  refine Uses.bind (run_uses rfl) fun _ => ?_
  exact Uses.bind (run_uses rfl) fun _ => Uses.pure _

theorem credentialPath_ne (name : String) : credentialPath name ≠ environmentPath := by
  have differs : ∀ start : String, 16 ≤ start.toList.length →
      start.toList.take 16 ≠ environmentPath.toList.take 16 → start ++ name ≠ environmentPath := by
    intro start long differs same
    rw [← same, String.toList_append, List.take_append_of_le_length long] at differs
    exact differs rfl
  exact differs _ (by decide) (by decide)

theorem installSecrets_uses (stage : Stage) (secrets : List (String × String)) :
    Uses (Beside stage) (installSecrets stage secrets) := by
  induction secrets with
  | nil => exact Uses.pure ()
  | cons secret rest ih => exact Uses.bind (installFile_uses (credentialPath_ne _)) fun _ => ih

theorem installInputs_uses (stage : Stage) (files : InputFiles String) :
    Uses (Beside stage) (installInputs stage files) := by
  refine Uses.bind (installSecrets_uses stage _) fun _ => ?_
  refine Uses.bind (installFile_uses (by decide)) fun _ => ?_
  refine Uses.bind (Uses.step rfl) fun _ => ?_
  refine Uses.bind (Uses.step rfl) fun _ => ?_
  refine Uses.bind (installFile_uses (by decide)) fun _ => ?_
  refine Uses.bind (installFile_uses (by decide)) fun _ => ?_
  exact installFile_uses (by decide)

end Parts

def Raised : (action : Action) → action.Res → Prop
  | .readText _, answer | .sha256 _, answer | .run _, answer | .runInstaller _, answer | .waitForPing, answer =>
      ∃ error : DeployError, answer = .error error
  | .makeTemporary _, answer | .extractServerTrustAnchor _ _, answer => ∃ error : DeployError, answer = .error error
  | .install _ _ _ _, answer => ∃ error : DeployError, answer.1 = .error error
  | _, _ => False

def Raises (exchange : Exchange) : Prop := Raised exchange.1.2 exchange.2

def Strict {A : Type} (script : Script A) : Prop :=
  ∀ ⦃before : Host⦄ ⦃trace : List Exchange⦄ ⦃result : Except DeployError A⦄ ⦃after : Host⦄,
    Runs script before trace result after →
      ((∃ exchange ∈ trace, Raises exchange) ↔ ∃ error, result = .error error)

section Strict

variable {A B : Type}

theorem Strict.pure (value : A) : Strict (Pure.pure value : Script A) := by
  intro before trace result after runs
  cases runs
  simp

theorem Strict.bind {script : Script A} {next : A → Script B} (first : Strict script)
    (second : ∀ value, Strict (next value)) : Strict (script >>= next) := by
  intro before trace result after runs
  rcases Try.performs_bind runs with ⟨error, rfl, early⟩ | ⟨value, middle, one, two, early, late, rfl⟩
  · exact iff_of_true ((first early).mpr ⟨error, rfl⟩) ⟨error, rfl⟩
  · have quiet : ¬∃ exchange ∈ one, Raises exchange := fun raised => by
      obtain ⟨error, failed⟩ := (first early).mp raised
      cases failed
    rw [← second value late]
    constructor
    · rintro ⟨exchange, member, raised⟩
      rcases List.mem_append.mp member with here | there
      · exact absurd ⟨exchange, here, raised⟩ quiet
      · exact ⟨exchange, there, raised⟩
    · rintro ⟨exchange, member, raised⟩
      exact ⟨exchange, List.mem_append_right _ member, raised⟩

theorem Strict.ite {condition : Prop} [Decidable condition] {first second : Script A}
    (yes : Strict first) (no : Strict second) : Strict (if condition then first else second) := by
  split
  · exact yes
  · exact no

theorem Strict.step {stage : Stage} {action : Action} {next : action.Res → Except DeployError A}
    (told : ∀ answer, Raised action answer ↔ ∃ error, next answer = .error error) :
    Strict (Prog.call (stage, action) fun answer => .done (next answer) : Script A) := by
  intro before trace result after runs
  cases runs with
  | call answer taken later =>
    cases later
    simpa [Raises] using told answer

theorem run_strict (stage : Stage) (command : List String) : Strict (run stage command) :=
  Strict.step fun _ => Iff.rfl

theorem makeTemporary_strict (stage : Stage) (file : Temporary) : Strict (makeTemporary stage file) :=
  Strict.step fun _ => Iff.rfl

theorem installFile_strict (stage : Stage) (source : Source) (destination mode group : String) :
    Strict (installFile stage source destination mode group) := by
  have asked : Strict (sameFile stage source destination) := Strict.step fun _ => by simp [Raised]
  have placed : Strict (install stage source destination mode group) := Strict.step fun _ => Iff.rfl
  refine Strict.bind asked fun _ => ?_
  refine Strict.ite ?_ placed
  refine Strict.bind (run_strict stage _) fun _ => ?_
  exact Strict.bind (run_strict stage _) fun _ => Strict.pure ()

theorem installSecrets_strict (stage : Stage) (secrets : List (String × String)) :
    Strict (installSecrets stage secrets) := by
  induction secrets with
  | nil => exact Strict.pure ()
  | cons secret rest ih => exact Strict.bind (installFile_strict stage _ _ _ _) fun _ => ih

theorem installInputs_strict (stage : Stage) (files : InputFiles String) :
    Strict (installInputs stage files) := by
  refine Strict.bind (installSecrets_strict stage _) fun _ => ?_
  refine Strict.bind (installFile_strict stage _ _ _ _) fun _ => ?_
  refine Strict.bind (makeTemporary_strict stage _) fun _ => ?_
  refine Strict.bind (Strict.step fun _ => Iff.rfl) fun _ => ?_
  refine Strict.bind (installFile_strict stage _ _ _ _) fun _ => ?_
  refine Strict.bind (installFile_strict stage _ _ _ _) fun _ => ?_
  exact installFile_strict stage _ _ _ _

end Strict

def Disabled (file : Option InputFile) : Prop :=
  ∃ text, file.map InputFile.content = some (.text text) ∧ Sets text Variable.akamaiLiveEnabled.name "false"

theorem disabled_of_text {config : Config} {digest text : String} {file : Option InputFile}
    (rendered : environmentText config digest false = .ok text)
    (content : file.map InputFile.content = some (.text text)) : Disabled file :=
  ⟨text, content, by simpa only [Bool.false_eq_true, if_false] using environmentText_sets rendered⟩

theorem not_disabled_of_text {config : Config} {digest text : String} {file : Option InputFile}
    (rendered : environmentText config digest true = .ok text)
    (content : file.map InputFile.content = some (.text text)) : ¬Disabled file := by
  rintro ⟨other, same, disabled⟩
  obtain rfl : text = other := by simpa using content.symm.trans same
  have enabled := environmentText_sets rendered
  rw [if_pos rfl] at enabled
  exact absurd (enabled.unique disabled) (by decide)

def placing (stage : Stage) (environment : String) : Step :=
  (stage, .install (.temporary (.environment environment)) environmentPath "0640" "mcserver")

inductive Wrote (stage : Stage) (environment : String) (before : Host) :
    List Exchange → Except DeployError Unit → Host → Prop
  | unprepared (error : DeployError) :
      Wrote stage environment before
        [⟨(stage, .makeTemporary (.environment environment)), .error error⟩] (.error error) before
  | failed (error : DeployError) (left : Option InputFile) :
      Wrote stage environment before
        [⟨(stage, .makeTemporary (.environment environment)), .ok ()⟩,
          ⟨(stage, .sameFile (.temporary (.environment environment)) environmentPath), false⟩,
          ⟨placing stage environment, (.error error, left)⟩]
        (.error error) (Function.update before environmentPath left)
  | written (left : Option InputFile) (content : left.map InputFile.content = some (.text environment)) :
      Wrote stage environment before
        [⟨(stage, .makeTemporary (.environment environment)), .ok ()⟩,
          ⟨(stage, .sameFile (.temporary (.environment environment)) environmentPath), false⟩,
          ⟨placing stage environment, (.ok (), left)⟩]
        (.ok ()) (Function.update before environmentPath left)

theorem installEnvironment_wrote {stage : Stage} {environment : String} {before after : Host}
    {trace : List Exchange} {result : Except DeployError Unit}
    (runs : Runs (installEnvironment stage environment) before trace result after) :
    Wrote stage environment before trace result after := by
  cases runs with
  | call made taken later =>
    obtain rfl := taken
    cases made with
    | error error =>
      cases later
      exact .unprepared error
    | ok _ =>
      cases later with
      | call same taken later =>
        obtain ⟨temporary, rfl⟩ := taken
        obtain rfl := temporary _ rfl
        cases later with
        | call answer taken later =>
          obtain ⟨content, rfl⟩ := taken
          cases later
          obtain ⟨outcome, left⟩ := answer
          cases outcome with
          | error error => exact .failed error left
          | ok _ => exact .written left (content rfl)

theorem runs_ofExcept {A : Type} {value result : Except DeployError A} {before after : Host}
    {trace : List Exchange} (runs : Runs (Try.ofExcept value) before trace result after) :
    trace = [] ∧ result = value ∧ after = before := by
  unfold Try.ofExcept at runs
  cases runs
  exact ⟨rfl, rfl, rfl⟩

theorem harmless_keeps (step : Step) (harmless : Harmless step) (before : Host) (answer : step.Res)
    (after : Host) (effect : Effect step before answer after) :
    after environmentPath = before environmentPath := by
  obtain ⟨stage, action⟩ := step
  cases stage <;> cases action <;> simp_all [Harmless, Effect]

theorem beside_keeps (stage : Stage) (step : Step) (beside : Beside stage step) (before : Host)
    (answer : step.Res) (after : Host) (effect : Effect step before answer after) :
    after environmentPath = before environmentPath := by
  obtain ⟨stage, action⟩ := step
  cases action with
  | makeTemporary file => cases file <;> simp_all [Beside, Effect]
  | _ => simp_all [Beside, Effect, Function.update_of_ne, Ne.symm]

def Placed (trace : List Exchange) : Prop :=
  ∃ stage source mode group left,
    (⟨(stage, .install source environmentPath mode group), (.ok (), left)⟩ : Exchange) ∈ trace

-- A step of the live installation that raises without leaving live creation enabled: before the
-- environment file is touched, or in touching it.
def Spared : (action : Action) → action.Res → Prop
  | .makeTemporary (.environment _), _ => True
  | .install _ destination _ _, answer => destination = environmentPath ∧ Disabled answer.2
  | _, _ => False

def LiveSpared (trace : List Exchange) : Prop :=
  ∀ exchange ∈ trace, exchange.1.1 = .live → Raises exchange → Spared exchange.1.2 exchange.2

theorem liveSpared_append {first second : List Exchange} :
    LiveSpared (first ++ second) ↔ LiveSpared first ∧ LiveSpared second :=
  List.forall_mem_append

theorem liveSpared_of_stage {stage : Stage} {trace : List Exchange} (other : stage ≠ .live)
    (here : ∀ exchange ∈ trace, exchange.1.1 = stage) : LiveSpared trace :=
  fun exchange member live => absurd ((here exchange member).symm.trans live) other

theorem liveSpared_of_quiet {trace : List Exchange} (quiet : ¬∃ exchange ∈ trace, Raises exchange) :
    LiveSpared trace :=
  fun exchange member _ raises => absurd ⟨exchange, member, raises⟩ quiet

theorem placed_append {first second : List Exchange} : Placed (first ++ second) ↔ Placed first ∨ Placed second := by
  simp only [Placed, List.mem_append, exists_or]

theorem Ordinary.stage {step : Step} (ordinary : Ordinary step) : step.1 = .host := by
  obtain ⟨stage, action⟩ := step
  cases stage <;> simp_all [Ordinary]

theorem Harmless.stage {step : Step} (harmless : Harmless step) : step.1 = .host := by
  obtain ⟨stage, action⟩ := step
  cases stage <;> simp_all [Harmless]

theorem Beside.stage {stage : Stage} {step : Step} (beside : Beside stage step) : step.1 = stage := by
  obtain ⟨stage, action⟩ := step
  cases action with
  | makeTemporary file => cases file <;> simp_all [Beside]
  | _ => simp_all [Beside]

theorem Beside.not_spared {stage : Stage} {step : Step} (beside : Beside stage step) (answer : step.Res) :
    ¬Spared step.2 answer := by
  obtain ⟨stage, action⟩ := step
  cases action with
  | makeTemporary file => cases file <;> simp_all [Beside, Spared]
  | _ => simp_all [Beside, Spared]

theorem not_placed_of_ordinary {trace : List Exchange} (ordinary : ∀ exchange ∈ trace, Ordinary exchange.1) :
    ¬Placed trace := by
  rintro ⟨stage, source, mode, group, left, member⟩
  have here := ordinary _ member
  cases stage <;> exact here

namespace Wrote

variable {stage : Stage} {environment : String} {before after : Host} {trace : List Exchange}
  {result : Except DeployError Unit}

theorem staged (wrote : Wrote stage environment before trace result after) :
    ∀ exchange ∈ trace, exchange.1.1 = stage := by
  cases wrote <;> simp [placing]

theorem not_placed {error : DeployError} (wrote : Wrote stage environment before trace (.error error) after) :
    ¬Placed trace := by
  rintro ⟨stage, source, mode, group, left, member⟩
  cases wrote with
  | unprepared =>
    cases member with
    | tail _ rest => cases rest
  | failed =>
    iterate 3 rcases member with _ | ⟨_, member⟩
    cases member

theorem placed (wrote : Wrote stage environment before trace (.ok ()) after) :
    Placed trace ∧ (after environmentPath).map InputFile.content = some (.text environment) := by
  cases wrote with
  | written left content =>
    refine ⟨⟨stage, .temporary (.environment environment), "0640", "mcserver", left, ?_⟩, by simpa using content⟩
    exact List.mem_cons_of_mem _ (List.mem_cons_of_mem _ (List.mem_singleton_self _))

theorem raises {error : DeployError} (wrote : Wrote stage environment before trace (.error error) after) :
    ∃ exchange ∈ trace, Raises exchange := by
  cases wrote with
  | unprepared => exact ⟨_, List.mem_singleton_self _, error, rfl⟩
  | failed _ left => exact ⟨⟨placing stage environment, (.error error, left)⟩, by simp, error, rfl⟩

theorem quiet (wrote : Wrote stage environment before trace (.ok ()) after) :
    ¬∃ exchange ∈ trace, Raises exchange := by
  cases wrote with
  | written left content => simp [Raises, Raised, placing]

end Wrote

theorem installConfiguration_runs {stage : Stage} {config : Config} {environment : String}
    {before after : Host} {trace : List Exchange} {result : Except DeployError Unit}
    (runs : Runs (installConfiguration stage config environment) before trace result after) :
    (∃ error, result = .error error ∧ Wrote stage environment before trace (.error error) after) ∨
      ∃ middle first second, Wrote stage environment before first (.ok ()) middle ∧ trace = first ++ second ∧
        (after environmentPath).map InputFile.content = some (.text environment) ∧
        (∀ exchange ∈ second, Beside stage exchange.1) ∧
        ((∃ exchange ∈ second, Raises exchange) ↔ ∃ error, result = .error error) := by
  rcases Try.performs_bind runs with ⟨error, rfl, early⟩ | ⟨⟨⟩, middle, first, second, early, late, rfl⟩
  · exact .inl ⟨error, rfl, installEnvironment_wrote early⟩
  · have wrote := installEnvironment_wrote early
    have kept : after environmentPath = middle environmentPath :=
      late.preserves (beside_keeps stage) (installInputs_uses stage _)
    exact .inr ⟨middle, first, second, wrote, rfl, kept ▸ wrote.placed.2,
      late.everywhere (installInputs_uses stage _), installInputs_strict stage _ late⟩

theorem installConfiguration_stage {stage : Stage} {config : Config} {environment : String}
    {before after : Host} {trace : List Exchange} {result : Except DeployError Unit}
    (runs : Runs (installConfiguration stage config environment) before trace result after) :
    ∀ exchange ∈ trace, exchange.1.1 = stage := by
  rcases installConfiguration_runs runs with ⟨error, rfl, wrote⟩ | ⟨_, _, _, wrote, rfl, -, beside, -⟩
  · exact wrote.staged
  · exact List.forall_mem_append.mpr ⟨wrote.staged, fun exchange member => (beside exchange member).stage⟩

structure Deployment where
  invocation : Invocation
  before : Host
  trace : List Exchange
  result : Except DeployError Unit
  after : Host
  runs : Runs invocation.deploy before trace result after

def RollbackWrites (trace : List Exchange) : Prop :=
  ∀ exchange ∈ trace, exchange.1.1 = .rollback → ¬Raises exchange

def FailsSafe (trace : List Exchange) (result : Except DeployError Unit) (after : Host) : Prop :=
  (∃ error, result = .error error) → Placed trace → Disabled (after environmentPath)

section Ends

variable {invocation : Invocation} {safe live : String} {before after : Host} {trace : List Exchange}
  {result : Except DeployError Unit}

theorem rollBack_leaves {error : DeployError} (written : RollbackWrites trace)
    (runs : Runs (invocation.rollBack safe error) before trace result after) :
    (after environmentPath).map InputFile.content = some (.text safe) ∧ LiveSpared trace := by
  have installs : ∀ {before after first outcome},
      Runs (installConfiguration .rollback invocation.config safe) before first outcome after →
      (∀ exchange ∈ first, exchange ∈ trace) →
      (after environmentPath).map InputFile.content = some (.text safe) ∧ LiveSpared first := by
    intro before after first outcome installed within
    have here := installConfiguration_stage installed
    refine ⟨?_, liveSpared_of_stage (by decide) here⟩
    rcases installConfiguration_runs installed with ⟨error, rfl, wrote⟩ | ⟨_, _, _, -, -, content, -⟩
    · obtain ⟨exchange, member, raises⟩ := wrote.raises
      exact absurd raises (written exchange (within exchange member) (here exchange member))
    · exact content
  rcases Try.performs_bind runs with ⟨error, rfl, installed⟩ | ⟨⟨⟩, middle, first, second, installed, rest, rfl⟩
  · exact installs installed fun _ member => member
  · obtain ⟨content, spared⟩ := installs installed fun _ member => List.mem_append_left _ member
    have uses : Uses Harmless (do let _ ← Invocation.restart; Try.fail error : Script Unit) :=
      Uses.bind restart_uses fun _ => trivial
    have kept : after environmentPath = middle environmentPath := rest.preserves harmless_keeps uses
    refine ⟨kept ▸ content, liveSpared_append.mpr ⟨spared, ?_⟩⟩
    exact liveSpared_of_stage (by decide) fun exchange member => (rest.everywhere uses exchange member).stage

theorem accept_ends {digest : String} (rendered : environmentText invocation.config digest false = .ok safe)
    (written : RollbackWrites trace)
    (runs : Runs (onError invocation.accept (invocation.rollBack safe)) before trace result after) :
    ((∃ error, result = .error error) → Disabled (after environmentPath)) ∧ LiveSpared trace := by
  obtain ⟨outcome, middle, first, second, early, late, rfl⟩ := Prog.Performs.of_bind runs
  have started : LiveSpared first := liveSpared_of_stage (by decide) fun exchange member =>
    (early.everywhere (accept_uses _) exchange member).stage
  cases outcome with
  | ok value =>
    cases late
    refine ⟨fun ⟨error, failed⟩ => (by cases failed), ?_⟩
    exact liveSpared_append.mpr ⟨started, liveSpared_of_quiet (by simp)⟩
  | error error =>
    have succeeds : RollbackWrites second := fun exchange member =>
      written exchange (List.mem_append_right _ member)
    obtain ⟨content, spared⟩ := rollBack_leaves succeeds late
    exact ⟨fun _ => disabled_of_text rendered content, liveSpared_append.mpr ⟨started, spared⟩⟩

theorem enableLive_ends {digest : String} {earlier : List Exchange}
    (rendered : environmentText invocation.config digest false = .ok safe)
    (placed : Placed earlier) (spared : LiveSpared earlier) (disabled : Disabled (before environmentPath))
    (written : RollbackWrites trace) (runs : Runs (invocation.enableLive digest safe) before trace result after) :
    FailsSafe (earlier ++ trace) result after ↔ LiveSpared (earlier ++ trace) := by
  have present : ∀ {rest : List Exchange}, Placed (earlier ++ rest) := placed_append.mpr (.inl placed)
  rw [liveSpared_append, and_iff_right spared]
  rcases Try.performs_bind runs with ⟨error, rfl, failed⟩ | ⟨live, _, _, trace, shown, onward, rfl⟩
  · obtain ⟨rfl, -, rfl⟩ := runs_ofExcept failed
    exact iff_of_true (fun _ _ => disabled) (liveSpared_of_quiet (by simp))
  obtain ⟨rfl, enabling, rfl⟩ := runs_ofExcept shown
  rw [List.nil_append] at *
  rcases Try.performs_bind onward with ⟨error, rfl, installed⟩ | ⟨⟨⟩, middle, first, second, installed, rest, rfl⟩
  · have ends : FailsSafe (earlier ++ trace) (.error error) after ↔ Disabled (after environmentPath) :=
      ⟨fun safe => safe ⟨error, rfl⟩ present, fun disabled _ _ => disabled⟩
    rw [ends]
    rcases installConfiguration_runs installed with
      ⟨error, failed, wrote⟩ | ⟨_, one, two, wrote, rfl, content, beside, raised⟩
    · cases wrote with
      | unprepared =>
        refine iff_of_true disabled fun exchange member _ _ => ?_
        cases List.mem_singleton.mp member
        trivial
      | failed error left =>
        rw [Function.update_self]
        constructor
        · rintro disabled exchange member - raises
          rcases List.mem_cons.mp member with rfl | member
          · cases raises.choose_spec
          rcases List.mem_cons.mp member with rfl | member
          · exact absurd raises id
          · cases List.mem_singleton.mp member
            exact ⟨rfl, disabled⟩
        · intro spared
          exact (spared ⟨placing .live live, (.error error, left)⟩ (by simp) rfl ⟨error, rfl⟩).2
    · -- The live environment file is there, and what has raised comes after it.
      obtain ⟨exchange, member, raises⟩ := raised.mpr ⟨error, rfl⟩
      refine iff_of_false (not_disabled_of_text enabling.symm content) fun spared => ?_
      have here := beside exchange member
      exact here.not_spared _ (spared exchange (List.mem_append_right _ member) here.stage raises)
  · have started : LiveSpared first := by
      rcases installConfiguration_runs installed with
        ⟨error, failed, -⟩ | ⟨_, one, two, wrote, rfl, -, -, raised⟩
      · cases failed
      · refine liveSpared_append.mpr ⟨liveSpared_of_quiet wrote.quiet, liveSpared_of_quiet ?_⟩
        rw [raised]
        rintro ⟨error, failed⟩
        cases failed
    have succeeds : RollbackWrites second := fun exchange member =>
      written exchange (List.mem_append_right _ member)
    obtain ⟨ended, spared'⟩ := accept_ends rendered succeeds rest
    exact iff_of_true (fun failed _ => ended failed) (liveSpared_append.mpr ⟨started, spared'⟩)

theorem deploy_ends (written : RollbackWrites trace) (runs : Runs invocation.deploy before trace result after) :
    FailsSafe trace result after ↔ LiveSpared trace := by
  rcases Try.performs_bind runs with
    ⟨error, rfl, prepared⟩ | ⟨⟨restore, digest⟩, _, one, _, prepared, ready, rfl⟩
  · have ordinary := prepared.everywhere (prepare_uses invocation)
    refine iff_of_true (fun _ placed => absurd placed (not_placed_of_ordinary ordinary)) ?_
    exact liveSpared_of_stage (by decide) fun exchange member => (ordinary exchange member).stage
  have ordinary := prepared.everywhere (prepare_uses invocation)
  have first : LiveSpared one :=
    liveSpared_of_stage (by decide) fun exchange member => (ordinary exchange member).stage
  rcases Try.performs_bind ready with ⟨error, rfl, failed⟩ | ⟨safe, _, _, trace, shown, onward, rfl⟩
  · obtain ⟨rfl, -, -⟩ := runs_ofExcept failed
    rw [List.append_nil] at *
    exact iff_of_true (fun _ placed => absurd placed (not_placed_of_ordinary ordinary)) first
  obtain ⟨rfl, rendered, rfl⟩ := runs_ofExcept shown
  rw [List.nil_append] at *
  -- The environment that disables live creation
  rcases Try.performs_bind onward with ⟨error, rfl, installed⟩ | ⟨⟨⟩, safely, two, trace, installed, served, rfl⟩
  · have second : LiveSpared trace := liveSpared_of_stage (by decide) (installConfiguration_stage installed)
    refine iff_of_true (fun _ placed => ?_) (liveSpared_append.mpr ⟨first, second⟩)
    rcases installConfiguration_runs installed with ⟨error, -, wrote⟩ | ⟨_, _, _, -, -, content, -⟩
    · rcases placed_append.mp placed with early | late
      · exact absurd early (not_placed_of_ordinary ordinary)
      · exact absurd late wrote.not_placed
    · exact disabled_of_text rendered.symm content
  have second : LiveSpared two := liveSpared_of_stage (by decide) (installConfiguration_stage installed)
  obtain ⟨placed, disabled⟩ : Placed two ∧ Disabled (safely environmentPath) := by
    rcases installConfiguration_runs installed with ⟨error, failed, -⟩ | ⟨_, _, _, wrote, rfl, content, -⟩
    · cases failed
    · exact ⟨placed_append.mpr (.inl wrote.placed.1), disabled_of_text rendered.symm content⟩
  -- From here on the file changes in the live phase only.
  have starting : ∀ {after three outcome}, Runs invocation.start safely three outcome after →
      LiveSpared three ∧ after environmentPath = safely environmentPath := fun started =>
    ⟨liveSpared_of_stage (by decide) fun exchange member =>
        (started.everywhere (start_uses invocation) exchange member).stage,
      started.preserves harmless_keeps (start_uses invocation)⟩
  rcases Try.performs_bind served with ⟨error, rfl, started⟩ | ⟨⟨⟩, serving, three, trace, started, last, rfl⟩
  · obtain ⟨third, kept⟩ := starting started
    refine iff_of_true (fun _ _ => kept ▸ disabled) ?_
    exact liveSpared_append.mpr ⟨first, liveSpared_append.mpr ⟨second, third⟩⟩
  obtain ⟨third, kept⟩ := starting started
  have earlier : LiveSpared (one ++ two ++ three) :=
    liveSpared_append.mpr ⟨liveSpared_append.mpr ⟨first, second⟩, third⟩
  rw [← List.append_assoc, ← List.append_assoc] at *
  by_cases stays : (!invocation.goLive && !restore) = true
  · rw [if_pos stays] at last
    cases last
    rw [List.append_nil]
    exact iff_of_true (fun ⟨error, failed⟩ => by cases failed) earlier
  · rw [if_neg stays] at last
    refine enableLive_ends rendered.symm ?_ earlier (kept ▸ disabled) (fun exchange member =>
      written exchange (List.mem_append_right _ member)) last
    exact placed_append.mpr (.inl (placed_append.mpr (.inr placed)))

end Ends

structure History where
  deployments : List Deployment
  linked : deployments.IsChain fun first second => second.before = first.after

theorem failed_deployment_disables_live_iff (history : History) :
    ∀ deployment ∈ history.deployments, RollbackWrites deployment.trace →
      (FailsSafe deployment.trace deployment.result deployment.after ↔ LiveSpared deployment.trace) :=
  fun deployment _ written => deploy_ends written deployment.runs

namespace Sample

def almalinux : Host := Function.update host "/etc/os-release"
  (some { mode := 0o644, content := .text "ID=almalinux\nVERSION_ID=10\n" })

def rollout : Invocation where
  config := config 43200 46800
  package := "/tmp/package"
  executable := "/usr/bin/python3"
  acceptanceScript := "/root/scripts/live_akamai_e2e.py"
  goLive := true

def installedFrom (host : Host) : Source → Option InputFile
  | .temporary (.environment text) => some { mode := 0o640, content := .text text }
  | .temporary .trustAnchor => some { mode := 0o644, content := .bytes 1 }
  | .input path => host path

def answers (breaks : Step → Bool) (step : Step) (host : Host) : step.Res × Host :=
  let told (text : String) : Except DeployError String :=
    if breaks step then .error ⟨"broken"⟩ else .ok text
  let done : Except DeployError Unit := if breaks step then .error ⟨"broken"⟩ else .ok ()
  match step with
  | (_, .geteuid) => ((0 : Nat), host)
  | (_, .isFile path) => ((host path).isSome, host)
  | (_, .readText path) =>
      match (host path).map InputFile.content with
      | some (.text text) => ((.ok text : Except DeployError String), host)
      | _ => ((.error ⟨"unreadable"⟩ : Except DeployError String), host)
  | (_, .which _) => (true, host)
  | (_, .sha256 _) => (told digest, host)
  | (_, .run _) | (_, .runInstaller _) => (told "Verify return code: 0 (ok)", host)
  | (_, .waitForPing) => (told "", host)
  | (_, .sameFile _ _) => (false, host)
  | (_, .makeTemporary _) | (_, .extractServerTrustAnchor _ _) => (done, host)
  | (_, .install source destination _ _) =>
      let left := installedFrom host source
      ((done, left), Function.update host destination left)

theorem answers_taken (breaks : Step → Bool) (step : Step) (host : Host) :
    Effect step host (answers breaks step host).1 (answers breaks step host).2 := by
  obtain ⟨stage, action⟩ := step
  cases action with
  | readText path =>
    unfold answers Effect
    dsimp only
    split
    · rename_i text found
      exact ⟨fun other same => by cases same; exact found, rfl⟩
    · exact ⟨nofun, rfl⟩
  | install source destination mode group =>
    refine ⟨fun _ => ?_, rfl⟩
    cases source with
    | input path => rfl
    | temporary file => cases file <;> rfl
  | runInstaller command => exact fun _ => rfl
  | isFile path => exact ⟨rfl, rfl⟩
  | sameFile source destination => exact ⟨fun _ _ => rfl, rfl⟩
  | _ => rfl

def failing (breaks : Step → Bool) : Deployment :=
  ⟨rollout, almalinux, _, _, _, Prog.performs_follow (answers_taken breaks) rollout.deploy almalinux⟩

def breaksPreflight : Step → Bool
  | (.host, .waitForPing) => true
  | _ => false

def breaksLive : Step → Bool
  | (.live, .extractServerTrustAnchor _ _) => true
  | _ => false

def lacksAnchor : Exchange → Bool
  | ⟨(.live, .extractServerTrustAnchor _ _), .error _⟩ => true
  | _ => false

theorem lacksAnchor_unspared {exchange : Exchange} (lacks : lacksAnchor exchange = true) :
    exchange.1.1 = .live ∧ Raises exchange ∧ ¬Spared exchange.1.2 exchange.2 := by
  unfold lacksAnchor at lacks
  split at lacks
  · exact ⟨rfl, ⟨_, rfl⟩, id⟩
  · cases lacks

end Sample

open Sample in
theorem failed_preflight_leaves_live_disabled :
    (failing breaksPreflight).result = .error ⟨"broken"⟩ ∧
      FailsSafe (failing breaksPreflight).trace (failing breaksPreflight).result (failing breaksPreflight).after := by
  have early : (failing breaksPreflight).result = .error ⟨"broken"⟩ ∧
      ∀ exchange ∈ (failing breaksPreflight).trace, exchange.1.1 = .host ∨ exchange.1.1 = .disabled := by
    decide +kernel
  refine ⟨early.1, (failed_deployment_disables_live_iff ⟨[failing breaksPreflight], .singleton _⟩ _
    (List.mem_singleton_self _) fun exchange member rollback => ?_).mpr fun exchange member live => ?_⟩
  · rcases early.2 exchange member with here | here <;> simp [here] at rollback
  · rcases early.2 exchange member with here | here <;> simp [here] at live

open Sample in
theorem failed_live_installation_leaves_live_enabled :
    RollbackWrites (failing breaksLive).trace ∧
      ¬FailsSafe (failing breaksLive).trace (failing breaksLive).result (failing breaksLive).after := by
  have late : (∀ exchange ∈ (failing breaksLive).trace, exchange.1.1 ≠ .rollback) ∧
      (failing breaksLive).trace.any lacksAnchor = true := by
    decide +kernel
  have written : RollbackWrites (failing breaksLive).trace := fun exchange member rollback =>
    absurd rollback (late.1 exchange member)
  obtain ⟨exchange, member, lacks⟩ := List.any_eq_true.mp late.2
  obtain ⟨live, raises, unspared⟩ := lacksAnchor_unspared lacks
  refine ⟨written, fun safe => unspared ?_⟩
  exact (deploy_ends written (failing breaksLive).runs).mp safe exchange member live raises

end McServer.Deploy
