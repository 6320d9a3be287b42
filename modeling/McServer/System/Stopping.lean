import McServer.System.Renting
import McServer.System.Rows

set_option autoImplicit false

namespace McServer.ControlPlane

def AkamaiComputeError.isGate : AkamaiComputeError → Bool
  | .liveOperationsDisabled | .regionNotAllowed _ | .imageNotAllowed _ | .instanceTypeNotAllowed _
  | .firewallNotAllowed _ => true
  | _ => false

def Choice.Calm (choice : Choice) : Prop := choice.fault = .none ∧ ∃ now, choice.now = .ok now

def AkamaiComputeError.Passes (error : AkamaiComputeError) : Prop := error.isGate = false

end McServer.ControlPlane

namespace McServer.System

open Domain Store Agent ControlPlane Interleaving Interleaving.Contract

def attended (firewalls : List ProviderFirewall) (op : Op) (choice : Choice) : Choice :=
  match op with
  | .provider _ => { choice with fault := .none, answers := { choice.answers with firewalls } }
  | _ => choice

def served (firewalls : List ProviderFirewall) (op : Op) (choice : Choice) (world : World) :
    op.Res × World :=
  exec op (attended firewalls op choice) world

structure Stopping (manager : AkamaiManager) (firewalls : List ProviderFirewall) (spec : AkamaiSpec)
    (found : ServerInstance) (compute : ComputeInstance) (vm : ProviderInstance) (world : World) :
    Prop where
  requested : found.stopRequestedAt.isSome
  resolved : found.resolvedSpec.compute = .akamai spec.region spec.instanceType spec.image spec.firewallId
  readable : Readable world.db
  keyed : Keyed world.db
  active : (ComputeInstanceRepository.getActiveForInstance found.id world.db).1 = .ok (some compute)
  remote : compute.provider = .akamai
  fleet : Fleet world.provider
  present : vm ∈ world.provider.instances
  owned : vm.isOwnedBy (providerLabel compute.id) manager.tag = true
  configured : vm.verifyConfiguration spec.region spec.instanceType spec.image = .ok ()
  recorded : ∀ text, compute.providerInstanceId = some text → Text.parseU64 text = some vm.id
  firewall : ∃ firewall, (firewalls.find? fun value => value.id = spec.firewallId) = some firewall ∧
    firewall.status = "enabled"

section Answers

variable {db : Database}

theorem getCompute_answers (readable : Readable db) {row : ComputeRow} (member : row ∈ db.computeInstances) :
    ∃ compute, (ComputeInstanceRepository.get row.id db).1 = .ok (some compute) := by
  cases found : db.computeInstances.find? (fun other => other.id = row.id) with
  | none => exact absurd (List.find?_eq_none.mp found row member) (by simp)
  | some other =>
    refine ⟨other.toComputeInstance, ?_⟩
    simp only [ComputeInstanceRepository.get, Store.read, found]
    simp [readable.decoded.2.2 other (List.mem_of_find?_eq_some found)]

structure Written (id : ComputeInstanceId) (going : Bool) (outcome : Except RepositoryError Bool × Database) :
    Prop where
  answer : outcome.1 = .ok true
  readable : Readable outcome.2
  keyed : Keyed outcome.2
  row : ∃ row ∈ outcome.2.computeInstances, row.id = id ∧ row.provider = .akamai ∧
    (going = true → row.terminatedAt = none)

theorem updateComputes_written (readable : Readable db) (keyed : Keyed db) {row : ComputeRow}
    {selects : ComputeRow → Bool} {set : ComputeRow → ComputeRow} {going : Bool}
    (member : row ∈ db.computeInstances) (chosen : selects row = true)
    (named : ∀ other, selects other = true → other.id = row.id)
    (written : ∀ other, ComputeSound other → selects other = true → ComputeSound (set other))
    (same : ∀ other, (set other).id = other.id)
    (remote : (set row).provider = .akamai) (stays : going = true → (set row).terminatedAt = none) :
    Written row.id going (touchedOne (updateComputes selects set) db) := by
  have accepted := @touchedOne_accepted ComputeRow ComputeRow.check Database.computeInstances
    (fun database computeInstances => { database with computeInstances }) selects set db
    fun other stored picked => (written other (readable.computes other stored) picked).check
  rw [(keyed.computeIds.affected_eq_one named).mpr ⟨row, member, chosen⟩] at accepted
  have reads := (readable.updateComputes fun other stored picked =>
    written other (readable.computes other stored) picked).1
  refine ⟨?_, reads, ?_, ?_⟩
  · exact congrArg Prod.fst accepted
  · rw [accepted]
    exact ⟨keyed.serverIds, keyed.serverNames, keyed.instanceIds,
      keyed.computeIds.update fun other _ _ => same other⟩
  · rw [accepted]
    exact ⟨set row, Table.mem_update.mpr ⟨row, member, .inl ⟨chosen, rfl⟩⟩, same row, remote, stays⟩

variable {row : ComputeRow} (readable : Readable db) (keyed : Keyed db)
variable (member : row ∈ db.computeInstances) (running : row.terminatedAt = none)
variable (remote : row.provider = .akamai)

include readable keyed member running remote

theorem recordProviderInstance_written {vm : ProviderInstance} (within : vm.id ≤ maximumU64)
    (now : UnixTimestampMillis) :
    Written row.id true
      (ComputeInstanceRepository.recordProviderInstance row.id (toString vm.id) vm.publicIpv4 now db) := by
  refine updateComputes_written readable keyed member (by simp [running, remote]) (by simp_all) ?_
    (fun _ => rfl) remote fun _ => running
  intro other sound chosen
  simp only [Bool.and_eq_true, decide_eq_true_eq, Option.isNone_iff_eq_none] at chosen
  exact sound.recordProviderInstance chosen.1.2 chosen.2 (toString_legible within)
    (fun _ given => publicIpv4_valid given) now

theorem requestShutdown_written (now : UnixTimestampMillis) :
    Written row.id true (ComputeInstanceRepository.requestShutdown row.id now db) := by
  refine updateComputes_written readable keyed member (by simp [running]) (by simp_all) ?_
    (fun _ => rfl) remote fun _ => running
  intro other sound chosen
  simp only [Bool.and_eq_true, decide_eq_true_eq, Option.isNone_iff_eq_none] at chosen
  exact sound.requestShutdown chosen.2 now

theorem terminate_written (now : UnixTimestampMillis) :
    Written row.id false (ComputeInstanceRepository.terminate row.id .deleted none now db) :=
  updateComputes_written readable keyed member (by simp [running]) (by simp_all)
    (fun other sound _ => sound.terminate .deleted now) (fun _ => rfl) remote nofun

end Answers

theorem applyLocal_account (op : LocalOp) (choice : Choice) (world : World) :
    (applyLocal op choice world).2.provider = world.provider := by
  cases op with
  | tryWaitChild compute =>
    simp only [applyLocal]
    split
    · rfl
    · split <;> rfl
  | signal processId name =>
    simp only [applyLocal]
    split <;> rfl
  | _ => rfl

theorem execLink_account (op : LinkOp) (choice : Choice) (world : World) :
    (execLink op choice world).2.provider = world.provider := by
  cases op with
  | send compute command =>
    simp only [execLink, execSend]
    split
    · rfl
    · split <;> rfl
  | await compute exchange =>
    simp only [execLink, execAwait]
    split <;> rfl
  | _ => rfl

theorem exec_account {op : Op} (elsewhere : ∀ request, op ≠ .provider request) (choice : Choice)
    (world : World) : (exec op choice world).2.provider = world.provider := by
  cases op with
  | provider request => exact absurd rfl (elsewhere request)
  | db op =>
    simp only [exec, execDb]
    split <;> rfl
  | machine op =>
    simp only [exec, execLocal]
    split
    · exact applyLocal_account op choice world
    · rfl
    · exact applyLocal_account op choice world
  | link op => exact execLink_account op choice world
  | issueCredentials compute keyPrefix ttl =>
    simp only [exec]
    split <;> rfl
  | respond since request der response =>
    simp only [exec]
    split <;> rfl
  | clock | newUuid | readBounded _ _ | openssl _ _ | begin | reply _ _ _ => rfl

structure Alike (origin world : World) : Prop where
  db : world.db = origin.db
  provider : world.provider = origin.provider

def standing (origin : World) : Contract Unit Op World :=
  Contract.alone (fun world => world.provider.nextId = origin.provider.nextId)
    fun op _ => ∀ request, op ≠ .provider (.createInstance request)

theorem served_elsewhere (firewalls : List ProviderFirewall) {op : Op}
    (elsewhere : ∀ request, op ≠ .provider request) (choice : Choice) (world : World) :
    served firewalls op choice world = exec op choice world := by
  cases op with
  | provider request => exact absurd rfl (elsewhere request)
  | _ => rfl

theorem settleProvider_nextId {op : ProviderOp} (mild : ∀ request, op ≠ .createInstance request)
    (answers : ProviderAnswers) (world : World) :
    (settleProvider op (world.provider.apply op answers).2 world).provider.nextId = world.provider.nextId := by
  cases op with
  | createInstance request => exact absurd rfl (mild request)
  | deleteInstance id =>
    simp only [settleProvider]
    split
    · simp only [World.note, World.wipeVm]
      split <;> rfl
    · rfl
  | _ => rfl

theorem served_standing {firewalls : List ProviderFirewall} {origin : World} (op : Op) (choice : Choice)
    (world : World) (inv : world.provider.nextId = origin.provider.nextId)
    (guard : ∀ request, op ≠ .provider (.createInstance request)) :
    (served firewalls op choice world).2.provider.nextId = origin.provider.nextId := by
  rw [← inv]
  by_cases elsewhere : ∀ request, op ≠ .provider request
  · rw [served_elsewhere firewalls elsewhere, exec_account elsewhere]
  · push Not at elsewhere
    obtain ⟨request, rfl⟩ := elsewhere
    have mild : ∀ create, request ≠ .createInstance create := fun create same =>
      guard create (congrArg Op.provider same)
    simp only [served, exec, execProvider, attended]
    split
    · rfl
    · exact settleProvider_nextId mild _ world

section Walk

variable {Pick : Type} {pick : Pick → Choice} {excused : Prop}
variable {firewalls : List ProviderFirewall} {origin : World}

variable (pick excused firewalls origin) in
abbrev Stops {E A : Type} (harmless : E → Prop) (pre : World → Prop) (program : Flow E A)
    (post : A → World → Prop) : Prop :=
  (standing origin).Attempts (fun op choice => served firewalls op (pick choice)) ()
    (fun error _ => harmless error ∧ excused) pre program post

theorem link_stops {other : World} (op : LinkOp) :
    (standing origin).Triple (fun op choice => served firewalls op (pick choice)) () (Alike other)
      (Prog.perform (Op.link op)) fun _ => Alike other := by
  refine Triple.perform (Contract.Stable.alone _) fun world _ alike => ⟨fun _ => nofun, fun choice => ?_⟩
  exact ⟨(execLink_aside world (pick choice) op).db.trans alike.db,
    (execLink_account op (pick choice) world).trans alike.provider⟩

theorem call_stops {other : World} (compute : ComputeInstanceId) (command : Command) :
    (standing origin).Triple (fun op choice => served firewalls op (pick choice)) () (Alike other)
      (call compute command) fun _ => Alike other := by
  refine Triple.tryBind (fun _ => Alike other) ?_ fun tag => link_stops _
  refine Triple.weaken (link_stops (.send compute command)) ?_
  intro result world alike
  cases result <;> exact alike

theorem isConnected_stops {E : Type} {harmless : E → Prop} {other : World} (compute : ComputeInstanceId) :
    Stops pick excused firewalls origin harmless (Alike other) (isConnected compute) fun _ => Alike other :=
  Attempts.lift (link_stops (.isConnected compute))

theorem requestNodeShutdown_stops {E : Type} {harmless : E → Prop} {other : World}
    (compute : ComputeInstanceId) :
    Stops pick excused firewalls origin harmless (Alike other)
      (AkamaiManager.requestNodeShutdown compute) fun _ => Alike other := by
  refine Attempts.bind _ (isConnected_stops compute) fun connected => ?_
  refine Attempts.ite (fun _ => ?_) fun _ => Attempts.pure fun _ alike => alike
  exact Attempts.lift (Triple.bind _ (call_stops compute .shutdown) fun _ => Triple.done fun _ alike => alike)

theorem read_stops {harmless : AkamaiComputeError → Prop} {op : ProviderOp} (read : isRead op = true)
    {pre : World → Prop} :
    Stops pick excused firewalls origin harmless pre (AkamaiClient.request op)
      fun value world => pre world ∧ ∃ answers : ProviderAnswers, answers.firewalls = firewalls ∧
        value = (world.provider.apply op answers).1 := by
  refine Attempts.raising (Triple.perform (Contract.Stable.alone _) fun world _ held => ⟨?_, fun choice => ?_⟩)
  · rintro request ⟨⟩
    cases read
  · have open_ : world.provider.exhausted op = false := by
      cases op <;> first | rfl | cases read
    have settled : ∀ answers, settleProvider op (world.provider.apply op answers).2 world = world := by
      intro answers
      cases op <;> first | rfl | cases read
    simp only [served, exec, execProvider, attended, open_, Bool.false_eq_true, if_false, settled]
    exact ⟨held, _, rfl, rfl⟩

variable (calm : ∀ choice, (pick choice).Calm ∨ excused)

include calm

theorem clock_stops {E : Type} {harmless : E → Prop} {into : TimestampError → E}
    (fine : ∀ error, harmless (into error)) {pre : World → Prop} :
    Stops pick excused firewalls origin harmless pre (clock into) fun _ => pre := by
  refine Attempts.raising (Triple.perform (Contract.Stable.alone _)
    fun world _ held => ⟨fun _ => nofun, fun choice => ?_⟩)
  simp only [served, exec, attended]
  rcases calm choice with ⟨-, now, given⟩ | excuse
  · rw [given]
    exact held
  · cases (pick choice).now with
    | ok now => exact held
    | error error => exact ⟨fine error, excuse⟩

theorem db_stops {E : Type} {harmless : E → Prop} {into : RepositoryError → E}
    (fine : ∀ error, harmless (into error)) (op : DbOp) {pre : World → Prop}
    {post : op.Value → World → Prop}
    (effect : ∀ world after, pre world → after.provider = world.provider → after.links = world.links →
      after.db = (op.query world.db).2 →
      match (op.query world.db).1 with
      | .ok value => post value after
      | .error _ => excused) :
    Stops pick excused firewalls origin harmless pre (db into op) post := by
  refine Attempts.raising (Triple.perform (Contract.Stable.alone _)
    fun world _ held => ⟨fun _ => nofun, fun choice => ?_⟩)
  have applied := effect world ((world.store (op.query world.db).2).note
    (dbEntries op (op.query world.db).1)) held rfl rfl rfl
  simp only [served, exec, execDb, attended]
  rcases calm choice with ⟨faultless, -⟩ | excuse
  · rw [faultless]
    cases result : (op.query world.db).1 with
    | ok value =>
      rw [result] at applied
      exact applied
    | error error =>
      rw [result] at applied
      exact ⟨fine error, applied⟩
  · cases (pick choice).fault with
    | none =>
      cases result : (op.query world.db).1 with
      | ok value =>
        rw [result] at applied
        exact applied
      | error error => exact ⟨fine error, excuse⟩
    | before => exact ⟨fine .database, excuse⟩
    | after => exact ⟨fine .database, excuse⟩

omit calm in
theorem Fleet.find_eq {provider : Provider} (fleet : Fleet provider) {vm : ProviderInstance}
    (present : vm ∈ provider.instances) : provider.find vm.id = some vm := by
  cases found : provider.find vm.id with
  | none => exact absurd (List.find?_eq_none.mp found vm present) (by simp)
  | some other =>
    have same : other.id = vm.id := by simpa using List.find?_some found
    rw [fleet.numbered.eq_of_key (List.mem_of_find?_eq_some found) present same]

omit calm in
theorem Fleet.matching_label {provider : Provider} (fleet : Fleet provider) {vm : ProviderInstance}
    {compute : ComputeInstanceId} (present : vm ∈ provider.instances)
    (labelled : vm.label = providerLabel compute) :
    provider.matching (.label (providerLabel compute)) = [vm] := by
  have short := matching_short fleet compute
  have member : vm ∈ provider.matching (.label (providerLabel compute)) :=
    List.mem_filter.mpr ⟨present, by simpa using labelled⟩
  match listed : provider.matching (.label (providerLabel compute)) with
  | [] => simp [listed] at member
  | [other] =>
    rw [listed] at member
    rw [List.mem_singleton.mp member]
  | _ :: _ :: _ => simp [listed] at short

section Found

variable {manager : AkamaiManager} {spec : AkamaiSpec} {found : ServerInstance}
variable {compute : ComputeInstance} {vm : ProviderInstance}
variable (stopping : Stopping manager firewalls spec found compute vm origin)

include stopping

omit calm in
theorem findInstanceByLabel_stops {harmless : AkamaiComputeError → Prop} {holds : World → Prop}
    (account : ∀ world, holds world → world.provider = origin.provider) :
    Stops pick excused firewalls origin harmless holds
      (AkamaiClient.findInstanceByLabel (providerLabel compute.id))
      fun result world => holds world ∧ result = some vm := by
  have labelled := isOwnedBy_label stopping.owned
  have listed := stopping.fleet.matching_label stopping.present labelled
  obtain ⟨data, pages⟩ := page_label stopping.fleet compute.id
  rw [listed] at data
  have first : ∀ remaining, maximumU64 - (remaining + 1) = 1 →
      Stops pick excused firewalls origin harmless holds
        (AkamaiClient.listFrom (.label (providerLabel compute.id))
          (fun vm => vm.label = providerLabel compute.id) (remaining + 1) [])
        fun listed world => holds world ∧ listed = [vm] := by
    intro remaining start
    rw [AkamaiClient.listFrom, start]
    refine Attempts.bind
      (fun (body : ListInstancesResponse) world => holds world ∧ body.data = [vm] ∧ body.pages ≤ 1)
      (Attempts.weaken (@read_stops Pick pick excused firewalls origin harmless
          (.listInstances (.label (providerLabel compute.id)) 1) rfl holds) ?_) fun body => ?_
    · rintro body world ⟨held, answers, -, rfl⟩
      refine ⟨held, ?_⟩
      simp only [Provider.apply, account world held]
      exact ⟨data, pages⟩
    · refine Attempts.ite (fun _ => Attempts.pure ?_) fun more => ?_
      · rintro world ⟨held, only, -⟩
        simp [held, only, labelled]
      · rintro world ⟨-, -, one⟩
        exact absurd (max_le one (le_refl 1)) more
  refine Attempts.bind (fun listed world => holds world ∧ listed = [vm]) ?_ fun listed => ?_
  · obtain ⟨remaining, start⟩ : ∃ remaining, maximumU64 - 1 = remaining + 1 := ⟨maximumU64 - 2, by decide⟩
    unfold AkamaiClient.listAll
    rw [start]
    refine first remaining ?_
    have bound : (2 : Nat) ≤ maximumU64 := by decide
    omega
  · rintro world ⟨held, rfl⟩
    exact ⟨held, rfl⟩

omit calm in
theorem verifyProviderConfiguration_stops {harmless : AkamaiComputeError → Prop} :
    Stops pick excused firewalls origin harmless (Alike origin)
      (AkamaiManager.verifyProviderConfiguration vm spec) fun _ => Alike origin := by
  unfold AkamaiManager.verifyProviderConfiguration
  rw [stopping.configured]
  refine Attempts.bind (fun _ => Alike origin)
    (Attempts.ofExcept (fun _ => nofun) fun _ _ _ alike => alike) fun _ => ?_
  obtain ⟨firewall, listed, enabled⟩ := stopping.firewall
  unfold AkamaiClient.verifyInstanceFirewall
  refine Attempts.bind (fun (value : List ProviderFirewall) world => Alike origin world ∧ value = firewalls)
    (Attempts.weaken
      (@read_stops Pick pick excused firewalls origin harmless (.listFirewalls vm.id) rfl (Alike origin)) ?_)
    fun value => ?_
  · rintro value world ⟨alike, answers, same, rfl⟩
    exact ⟨alike, same⟩
  · rintro world ⟨alike, rfl⟩
    rw [listed]
    exact Attempts.ite (fun disabled => absurd enabled disabled)
      (fun _ => Attempts.pure fun _ alike => alike) world alike

omit calm in
theorem obtainProvider_stops {harmless : AkamaiComputeError → Prop} :
    Stops pick excused firewalls origin harmless (Alike origin) (manager.obtainProvider spec found compute)
      fun provider world => Alike origin world ∧ provider = vm := by
  have owned := stopping.owned
  have verified : Stops pick excused firewalls origin harmless (Alike origin)
      (do AkamaiManager.verifyProviderConfiguration vm spec; return vm)
      fun provider world => Alike origin world ∧ provider = vm :=
    Attempts.bind (fun _ => Alike origin) (verifyProviderConfiguration_stops stopping)
      fun _ => Attempts.pure fun _ alike => ⟨alike, rfl⟩
  have findOrCreate : ∀ allowCreate, Stops pick excused firewalls origin harmless (Alike origin)
      (manager.findOrCreateInstance (providerLabel compute.id) spec found compute allowCreate)
      fun provider world => Alike origin world ∧ provider = vm := by
    intro allowCreate
    refine Attempts.bind _ (findInstanceByLabel_stops stopping fun _ alike => alike.provider) fun result => ?_
    rintro world ⟨alike, rfl⟩
    refine Attempts.bind (fun _ => Alike origin) ?_ (fun _ => verified) world alike
    exact Attempts.ite (fun foreign => absurd owned (by simpa using foreign))
      fun _ => Attempts.pure fun _ alike => alike
  unfold AkamaiManager.obtainProvider
  cases recorded : compute.providerInstanceId with
  | none => exact findOrCreate _
  | some text =>
    simp only [stopping.recorded text recorded]
    refine Attempts.bind
      (fun (current : Option ProviderInstance) world => Alike origin world ∧ current = some vm)
      (Attempts.weaken
        (@read_stops Pick pick excused firewalls origin harmless (.getInstance vm.id) rfl (Alike origin)) ?_)
      fun current => ?_
    · rintro current world ⟨alike, answers, -, rfl⟩
      refine ⟨alike, ?_⟩
      simp only [Provider.apply, alike.provider]
      exact stopping.fleet.find_eq stopping.present
    · rintro world ⟨alike, rfl⟩
      exact Attempts.ite (fun _ => verified) (fun foreign => absurd owned foreign) world alike

omit calm in
theorem Stopping.row : ∃ row ∈ origin.db.computeInstances, row.serverInstanceId = found.id ∧
    row.terminatedAt = none ∧ compute = row.toComputeInstance ∧ row.provider = .akamai := by
  obtain ⟨row, member, served, running, same⟩ := getActiveForInstance_some stopping.active
  exact ⟨row, member, served, running, same, by simpa [same] using stopping.remote⟩

theorem recordProvider_stops : Stops pick excused firewalls origin AkamaiComputeError.Passes (Alike origin)
      (AkamaiManager.recordProvider compute vm)
      fun changed world => (changed = false → Alike origin world) ∧ Readable world.db ∧
        ∃ row ∈ world.db.computeInstances, row.id = compute.id := by
  obtain ⟨row, member, -, running, same, remote⟩ := stopping.row
  have named : row.id = compute.id := by rw [same]
  unfold AkamaiManager.recordProvider
  refine Attempts.ite (fun _ => Attempts.pure ?_) fun _ => ?_
  · rintro world alike
    rw [alike.db]
    exact ⟨fun _ => alike, stopping.readable, row, member, named⟩
  refine Attempts.bind _ (clock_stops calm fun _ => by rfl) fun observedAt => ?_
  refine Attempts.bind (fun (recorded : Bool) world => (Readable world.db ∧
    ∃ row ∈ world.db.computeInstances, row.id = compute.id) ∧ recorded = true) ?_ fun recorded => ?_
  · refine db_stops calm (fun _ => by rfl) (.recordProviderInstance compute.id (toString vm.id) vm.publicIpv4
      observedAt) fun world after alike _ _ stored => ?_
    rw [alike.db] at stored ⊢
    have written := recordProviderInstance_written stopping.readable stopping.keyed member running
      remote (stopping.fleet.within vm stopping.present) observedAt
    rw [named] at written
    have answer : ((DbOp.recordProviderInstance compute.id (toString vm.id) vm.publicIpv4
      observedAt).query origin.db).1 = .ok true := written.answer
    obtain ⟨new, kept, here, -⟩ := written.row
    rw [answer, stored]
    exact ⟨⟨written.readable, new, kept, here⟩, rfl⟩
  refine Attempts.given fun yes => ?_
  refine Attempts.ite (fun _ => Attempts.pure ?_) fun no => absurd yes no
  exact fun world held => ⟨nofun, held⟩

theorem ensureForInstance_stops (allowed : manager.validateSpec spec = .ok ()) (now : UnixTimestampMillis) :
    Stops pick excused firewalls origin AkamaiComputeError.Passes (Alike origin)
      (manager.ensureForInstance found now)
      fun result world => result.2 = false → Alike origin world := by
  unfold AkamaiManager.ensureForInstance
  rw [stopping.resolved]
  refine Attempts.bind (fun _ => Alike origin) ?_ fun _ => ?_
  · refine Attempts.ofExcept (fun error refused => ?_) fun _ _ _ alike => alike
    cases (refused : manager.validateSpec spec = .error error).symm.trans allowed
  refine Attempts.bind (fun result world => Alike origin world ∧ result = (compute, false)) ?_ fun result => ?_
  · refine Attempts.bind
      (fun (existing : Option ComputeInstance) world => Alike origin world ∧ existing = some compute) ?_
      fun existing => ?_
    · refine db_stops calm (fun _ => by rfl) (.getActiveCompute found.id) fun world after alike provider _ stored => ?_
      have answer : ((DbOp.getActiveCompute found.id).query world.db).1 = .ok (some compute) := by
        rw [alike.db]
        exact stopping.active
      rw [answer]
      exact ⟨⟨stored.trans alike.db, provider.trans alike.provider⟩, rfl⟩
    · rintro world ⟨alike, rfl⟩
      exact Attempts.ite (fun _ => Attempts.pure fun _ alike => ⟨alike, rfl⟩)
        (fun other => absurd stopping.remote other) world alike
  rintro world ⟨alike, rfl⟩
  refine Attempts.bind _ (obtainProvider_stops stopping) (fun provider => ?_) world alike
  rintro world ⟨alike, rfl⟩
  refine Attempts.bind _ (recordProvider_stops calm stopping) (fun changed => ?_) world alike
  refine Attempts.bind (fun (refreshed : Option ComputeInstance) world =>
    (changed = false → Alike origin world) ∧ refreshed.isSome) ?_ fun refreshed => ?_
  · refine db_stops calm (fun _ => by rfl) (.getCompute compute.id) fun world after held provider _ stored => ?_
    obtain ⟨unchanged, readable, row, member, named⟩ := held
    obtain ⟨refreshed, answered⟩ := getCompute_answers readable member
    rw [named] at answered
    have answer : ((DbOp.getCompute compute.id).query world.db).1 = .ok (some refreshed) := answered
    rw [answer]
    exact ⟨fun same => ⟨stored.trans (unchanged same).db, provider.trans (unchanged same).provider⟩, rfl⟩
  · cases refreshed with
    | none =>
      rintro world ⟨-, never⟩
      cases never
    | some refreshed => exact Attempts.pure fun _ held same => held.1 (by simpa using same)

structure Leaving (compute : ComputeInstanceId) (account : Provider) (world : World) : Prop where
  readable : Readable world.db
  keyed : Keyed world.db
  row : ∃ row ∈ world.db.computeInstances, row.id = compute ∧ row.provider = .akamai ∧ row.terminatedAt = none
  provider : world.provider = account

omit calm stopping in
theorem Leaving.alike {compute : ComputeInstanceId} {account : Provider} {world after : World}
    (leaving : Leaving compute account world) (alike : Alike world after) :
    Leaving compute account after :=
  ⟨alike.db ▸ leaving.readable, alike.db ▸ leaving.keyed, alike.db ▸ leaving.row,
    alike.provider.trans leaving.provider⟩

theorem requestShutdown_stops (now : UnixTimestampMillis) :
    Stops pick excused firewalls origin AkamaiComputeError.Passes (Alike origin)
      (db .repository (.requestShutdown compute.id now))
      fun _ => Leaving compute.id origin.provider := by
  obtain ⟨row, member, -, running, same, remote⟩ := stopping.row
  have named : row.id = compute.id := by rw [same]
  refine db_stops calm (fun _ => by rfl) (.requestShutdown compute.id now)
    fun world after alike provider _ stored => ?_
  have written := requestShutdown_written stopping.readable stopping.keyed member running remote now
  rw [named] at written
  rw [alike.db] at stored ⊢
  have answer : ((DbOp.requestShutdown compute.id now).query origin.db).1 = .ok true := written.answer
  obtain ⟨new, kept, here, akamai, going⟩ := written.row
  have kept : new ∈ after.db.computeInstances := by
    rw [stored]
    exact kept
  rw [answer]
  exact ⟨by rw [stored]; exact written.readable, by rw [stored]; exact written.keyed,
    ⟨new, kept, here, akamai, going rfl⟩, provider.trans alike.provider⟩

omit calm in
theorem providerToDelete_stops {harmless : AkamaiComputeError → Prop} :
    Stops pick excused firewalls origin harmless (Leaving compute.id origin.provider)
      (manager.providerToDelete compute)
      fun target world => Leaving compute.id origin.provider world ∧ target = some vm.id := by
  have owned := stopping.owned
  unfold AkamaiManager.providerToDelete
  cases recorded : compute.providerInstanceId with
  | none =>
    refine Attempts.bind _
      (findInstanceByLabel_stops stopping fun _ leaving => leaving.provider) fun result => ?_
    rintro world ⟨leaving, rfl⟩
    exact Attempts.ite (fun _ => Attempts.pure fun _ leaving => ⟨leaving, rfl⟩)
      (fun foreign => absurd owned foreign) world leaving
  | some text =>
    simp only [stopping.recorded text recorded]
    refine Attempts.bind (fun (current : Option ProviderInstance) world =>
        Leaving compute.id origin.provider world ∧ current = some vm)
      (Attempts.weaken (@read_stops Pick pick excused firewalls origin harmless
        (.getInstance vm.id) rfl (Leaving compute.id origin.provider)) ?_)
      fun current => ?_
    · rintro current world ⟨leaving, answers, -, rfl⟩
      refine ⟨leaving, ?_⟩
      simp only [Provider.apply, leaving.provider]
      exact stopping.fleet.find_eq stopping.present
    · rintro world ⟨leaving, rfl⟩
      exact Attempts.ite (fun _ => Attempts.pure fun _ leaving => ⟨leaving, rfl⟩)
        (fun foreign => absurd owned foreign) world leaving

omit calm stopping in
theorem deleteProvider_stops {harmless : AkamaiComputeError → Prop} {compute : ComputeInstanceId} (id : Nat) :
    Stops pick excused firewalls origin harmless (Leaving compute origin.provider)
      (AkamaiManager.deleteProvider (some id))
      fun _ world => ∃ account, Leaving compute account world := by
  refine Attempts.raising (Triple.perform (Contract.Stable.alone _)
    fun world _ leaving => ⟨fun _ => nofun, fun choice => ?_⟩)
  have aside := execProvider_aside world (attended firewalls (.provider (.deleteInstance id)) (pick choice))
    (.deleteInstance id)
  have leaves : Leaving compute
      (served firewalls (.provider (.deleteInstance id)) (pick choice) world).2.provider
      (served firewalls (.provider (.deleteInstance id)) (pick choice) world).2 :=
    ⟨aside.db.symm ▸ leaving.readable, aside.db.symm ▸ leaving.keyed, aside.db.symm ▸ leaving.row, rfl⟩
  exact ⟨_, leaves⟩

theorem delete_stops :
    Stops pick excused firewalls origin AkamaiComputeError.Passes (Alike origin) (manager.delete compute)
      fun deleted _ => deleted = true := by
  unfold AkamaiManager.delete
  refine Attempts.bind (fun _ => Alike origin) ?_ fun _ => ?_
  · exact Attempts.ite (fun other => absurd stopping.remote other) fun _ => Attempts.pure fun _ alike => alike
  refine Attempts.bind _ (clock_stops calm fun _ => by rfl) fun now => ?_
  refine Attempts.bind _ (requestShutdown_stops calm stopping now) fun _ => ?_
  refine Attempts.bind (fun _ => Leaving compute.id origin.provider) ?_ fun _ => ?_
  · intro world leaving
    have stays : Stops pick excused firewalls origin AkamaiComputeError.Passes (Alike world)
        (AkamaiManager.requestNodeShutdown compute.id) fun _ => Leaving compute.id origin.provider :=
      Attempts.weaken (requestNodeShutdown_stops compute.id) fun _ _ alike => leaving.alike alike
    exact stays world ⟨rfl, rfl⟩
  refine Attempts.bind _ (providerToDelete_stops stopping) fun target => ?_
  rintro world ⟨leaving, rfl⟩
  refine Attempts.bind _ (deleteProvider_stops vm.id) (fun _ => ?_) world leaving
  refine Attempts.bind _ (clock_stops calm fun _ => by rfl) fun deletedAt => ?_
  refine db_stops calm (fun _ => by rfl) (.terminateCompute compute.id .deleted none deletedAt)
    fun world after held _ _ _ => ?_
  obtain ⟨account, leaving⟩ := held
  obtain ⟨row, member, named, remote, running⟩ := leaving.row
  have written := terminate_written leaving.readable leaving.keyed member running remote deletedAt
  rw [named] at written
  have answer : ((DbOp.terminateCompute compute.id .deleted none deletedAt).query world.db).1 =
    .ok true := written.answer
  rw [answer]

end Found

end Walk

def Tolerable (error : ReconcileError) : Prop :=
  ∀ source : AkamaiComputeError, error = .compute (.akamai source) → source.Passes

def Elsewhere (error : ReconcileError) : Prop := ∀ source, error ≠ .compute source

-- What a turn may end with: any failure outside the provider's part, and one within if it is excused there.
structure Bears {Pick : Type} (pick : Pick → Choice) (excused : Prop) (harmless : ReconcileError → Prop) :
    Prop where
  calm : ∀ choice, (pick choice).Calm ∨ excused
  elsewhere : ∀ error, Elsewhere error → harmless error
  passes : excused → ∀ source : AkamaiComputeError, source.Passes → harmless (.compute (.akamai source))

-- Where the stop needs nothing more of the machine
def Discardable (found : ServerInstance) (compute : ComputeInstance) (world : World) : Prop :=
  ReconcileWorker.unpublished found = false ∧
    (compute.shutdownRequestedAt.isSome ∨ (world.links compute.id).registered = none)

section Turn

variable {Pick : Type} {pick : Pick → Choice} {excused : Prop} {harmless : ReconcileError → Prop}
variable {firewalls : List ProviderFirewall} {origin : World}

variable (pick harmless firewalls origin) in
abbrev Turns {A : Type} (pre : World → Prop) (program : Reconcile A) (post : A → World → Prop) : Prop :=
  Stops pick True firewalls origin harmless pre program post

variable (bears : Bears pick excused harmless)

include bears

theorem now_turns {pre : World → Prop} : Turns pick harmless firewalls origin pre ReconcileWorker.now fun _ => pre :=
  clock_stops (fun _ => .inr trivial) fun _ => bears.elsewhere _ (by rintro _ ⟨⟩)

theorem db_turns (op : DbOp) {pre : World → Prop} :
    Turns pick harmless firewalls origin pre (db .repository op) fun _ _ => True := by
  refine db_stops (fun _ => .inr trivial) (fun _ => bears.elsewhere _ (by rintro _ ⟨⟩)) op fun world after _ _ _ _ => ?_
  split <;> trivial

theorem request_turns {A : Type} {other : World} (compute : ComputeInstanceId) (command : Command)
    (expect : CommandResult → Except AgentCallError A) :
    Turns pick harmless firewalls origin (Alike other) (request compute command expect) fun _ => Alike other := by
  refine Attempts.raising ?_
  refine Attempts.bind (fun _ => Alike other) ?_ fun result => ?_
  · refine Triple.weaken (call_stops compute command) fun result world alike => ?_
    cases result with
    | ok value => exact alike
    | error error => exact ⟨bears.elsewhere _ (by rintro _ ⟨⟩), trivial⟩
  · exact Attempts.ofExcept (fun _ _ _ _ => ⟨bears.elsewhere _ (by rintro _ ⟨⟩), trivial⟩) fun _ _ _ alike => alike

theorem persistObservations_turns (found : ServerInstance) (observed : AgentInspectResult)
    (now : UnixTimestampMillis) :
    Turns pick harmless firewalls origin (Alike origin) (ReconcileWorker.persistObservations found observed now)
      fun persisted world => persisted = false → Alike origin world := by
  refine Attempts.ite (fun _ => ?_) fun _ => ?_
  · exact Attempts.bind _ (db_turns bears _) fun _ => Attempts.pure fun _ _ => nofun
  · refine Attempts.ite (fun _ => ?_) fun _ => ?_
    · exact Attempts.bind _ (db_turns bears _) fun _ => Attempts.pure fun _ _ => nofun
    · exact Attempts.pure fun _ alike _ => alike

theorem inspectAndPersist_turns (found : ServerInstance) (compute : ComputeInstance) :
    Turns pick harmless firewalls origin (Alike origin) (ReconcileWorker.inspectAndPersist found compute)
      fun result world => result.2 = false → Alike origin world := by
  refine Attempts.bind _ (request_turns bears compute.id _ _) fun observed => ?_
  refine Attempts.bind (fun _ => Alike origin) ?_ fun _ => ?_
  · exact Attempts.ite (fun _ => Attempts.fail fun _ _ => ⟨bears.elsewhere _ (by rintro _ ⟨⟩), trivial⟩)
      fun _ => Attempts.pure fun _ alike => alike
  refine Attempts.bind _ (now_turns bears) fun observedAt => ?_
  refine Attempts.bind _ (persistObservations_turns bears found observed observedAt) fun persisted => ?_
  exact Attempts.pure fun _ held => held

theorem record_turns (record : UnixTimestampMillis → DbOp) : Turns pick harmless firewalls origin (Alike origin)
      (do
        let time ← ReconcileWorker.now
        let _ ← db .repository (record time)
        return StepOutcome.changed) fun _ _ => True := by
  refine Attempts.bind _ (now_turns bears) fun time => ?_
  exact Attempts.bind _ (db_turns bears _) fun _ => Attempts.pure fun _ _ => trivial

theorem stopProcess_turns (found : ServerInstance) (compute : ComputeInstance) :
    Turns pick harmless firewalls origin (Alike origin) (ReconcileWorker.stopProcess found compute) fun _ _ => True :=
  Attempts.bind _ (request_turns bears compute.id _ _) fun _ =>
    record_turns bears fun time => .observeProcess found.id false time

theorem publish_turns (server : Server) (found : ServerInstance) (compute : ComputeInstance)
    (lastSnapshotId : Option String) :
    Turns pick harmless firewalls origin (Alike origin)
      (ReconcileWorker.publish server found compute lastSnapshotId) fun _ _ => True := by
  have commit : ∀ snapshotId, Turns pick harmless firewalls origin (Alike origin)
      (ReconcileWorker.commit found snapshotId) fun _ _ => True := fun snapshotId =>
    record_turns bears fun time => .commitSnapshot found.id found.fencingToken snapshotId time
  cases lastSnapshotId with
  | some snapshotId => exact commit snapshotId
  | none => exact Attempts.bind _ (request_turns bears compute.id _ _) commit

variable {manager : AkamaiManager} {spec : AkamaiSpec} {found : ServerInstance}
variable {compute : ComputeInstance} {vm : ProviderInstance}
variable (stopping : Stopping manager firewalls spec found compute vm origin)
variable {computes : ComputeManager} (configured : computes.akamai = some manager)

include stopping configured

theorem deleteCompute_turns :
    Turns pick harmless firewalls origin (Alike origin) (ReconcileWorker.deleteCompute computes compute)
      fun _ _ => True := by
  unfold ReconcileWorker.deleteCompute ComputeManager.delete
  rw [stopping.remote]
  simp only [configured]
  refine Attempts.bind (fun _ _ => True) (Attempts.raising (Attempts.raising ?_))
    fun _ => Attempts.pure fun _ _ => trivial
  refine Triple.weaken (delete_stops bears.calm stopping) fun result world held => ?_
  cases result with
  | ok value => trivial
  | error error => exact ⟨bears.passes held.2 error held.1, trivial⟩

theorem cleanUp_turns :
    Turns pick harmless firewalls origin (Alike origin) (ReconcileWorker.cleanUp computes found compute)
      fun _ _ => True := by
  refine Attempts.bind _ (request_turns bears compute.id _ _) fun changed => ?_
  exact Attempts.ite (fun _ => Attempts.pure fun _ _ => trivial)
    fun _ => deleteCompute_turns bears stopping configured

theorem ensureForInstance_turns (allowed : manager.validateSpec spec = .ok ()) (now : UnixTimestampMillis) :
    Turns pick harmless firewalls origin (Alike origin)
      (Try.raising .compute (computes.ensureForInstance found now))
      fun result world => result.2 = false → Alike origin world := by
  unfold ComputeManager.ensureForInstance
  rw [stopping.resolved]
  simp only [configured]
  refine Attempts.raising (Attempts.raising ?_)
  refine Triple.weaken (ensureForInstance_stops bears.calm stopping allowed now) fun result world held => ?_
  cases result with
  | ok value => exact held
  | error error => exact ⟨bears.passes held.2 error held.1, trivial⟩

theorem stopConnected_turns (allowed : manager.validateSpec spec = .ok ()) (server : Server) :
    Turns pick harmless firewalls origin (Alike origin)
      (ReconcileWorker.stopConnected computes server found compute) fun _ _ => True := by
  unfold ReconcileWorker.stopConnected
  refine Attempts.bind _ (now_turns bears) fun provisionedAt => ?_
  refine Attempts.bind _ (ensureForInstance_turns bears stopping configured allowed provisionedAt)
    fun result => ?_
  refine Attempts.ite (fun _ => Attempts.pure fun _ _ => trivial) fun unchanged => ?_
  refine Attempts.strengthen ?_ fun world held => held (by simpa using unchanged)
  refine Attempts.bind _ (isConnected_stops compute.id) fun connected => ?_
  refine Attempts.ite (fun _ => Attempts.pure fun _ _ => trivial) fun _ => ?_
  refine Attempts.bind _ (inspectAndPersist_turns bears found compute) fun observed => ?_
  refine Attempts.ite (fun _ => Attempts.pure fun _ _ => trivial) fun unchanged => ?_
  refine Attempts.strengthen ?_ fun world held => held (by simpa using unchanged)
  refine Attempts.ite (fun _ => stopProcess_turns bears found compute) fun _ => ?_
  exact Attempts.ite (fun _ => publish_turns bears server found compute _)
    fun _ => cleanUp_turns bears stopping configured

omit bears stopping configured in
-- Where the machine is kept, the allowlists have to allow it.
theorem mayDelete_turns (may : manager.validateSpec spec = .ok () ∨ Discardable found compute origin) :
    Turns pick harmless firewalls origin (fun world => Alike origin world ∧ world.links = origin.links)
      (ReconcileWorker.mayDelete found compute)
      fun deletes world => Alike origin world ∧ (deletes = false → manager.validateSpec spec = .ok ()) := by
  refine Attempts.ite (fun kept => Attempts.pure fun _ held => ⟨held.1, fun _ => ?_⟩) fun _ => ?_
  · rcases may with allowed | discardable
    · exact allowed
    · cases kept.symm.trans discardable.1
  refine Attempts.ite (fun _ => Attempts.pure fun _ held => ⟨held.1, nofun⟩) fun unasked => ?_
  refine Attempts.bind (fun connected world => Alike origin world ∧
    connected = (origin.links compute.id).registered.isSome) ?_ fun connected =>
      Attempts.pure fun _ held => ⟨held.1, fun kept => ?_⟩
  · refine Attempts.lift (Triple.perform (Contract.Stable.alone _) fun world _ held => ⟨fun _ => nofun, fun _ => ?_⟩)
    exact ⟨held.1, by rw [← held.2]; rfl⟩
  · rcases may with allowed | ⟨-, asked | away⟩
    · exact allowed
    · exact absurd asked unasked
    · simp [held.2, away] at kept

theorem reconcileStopping_turns (may : manager.validateSpec spec = .ok () ∨ Discardable found compute origin)
    (server : Server) :
    Turns pick harmless firewalls origin (fun world => Alike origin world ∧ world.links = origin.links)
      (ReconcileWorker.reconcileStopping computes server found) fun _ _ => True := by
  unfold ReconcileWorker.reconcileStopping
  refine Attempts.bind (fun (active : Option ComputeInstance) world =>
    (Alike origin world ∧ world.links = origin.links) ∧ active = some compute) ?_ fun active => ?_
  · refine db_stops (fun _ => .inr trivial) (fun _ => bears.elsewhere _ (by rintro _ ⟨⟩))
      (.getActiveCompute found.id) fun world after held provider links stored => ?_
    have answer : ((DbOp.getActiveCompute found.id).query world.db).1 = .ok (some compute) := by
      rw [held.1.db]
      exact stopping.active
    rw [answer]
    exact ⟨⟨⟨stored.trans held.1.db, provider.trans held.1.provider⟩, links.trans held.2⟩, rfl⟩
  rintro world ⟨held, rfl⟩
  refine Attempts.bind _ (mayDelete_turns may) (fun deletes => ?_) world held
  refine Attempts.ite (fun _ => ?_) fun kept => ?_
  · exact (deleteCompute_turns bears stopping configured).strengthen fun _ held => held.1
  · rintro world ⟨alike, allowed⟩
    exact stopConnected_turns bears stopping configured (allowed (by simpa using kept)) server world alike

end Turn

structure Unhindered (computes : ComputeManager) (manager : AkamaiManager)
    (firewalls : List ProviderFirewall) (server : Server) (found : ServerInstance)
    (compute : ComputeInstance) (world : World) : Prop where
  turn : ∀ choices : List Choice, (∀ source, (runPrefix (served firewalls) choices
        (ReconcileWorker.reconcileStopping computes server found) world).1 =
        .done (.error (.compute (.akamai source))) → source.isGate = false) ∧
      (runPrefix (served firewalls) choices
        (ReconcileWorker.reconcileStopping computes server found) world).2.provider.nextId =
          world.provider.nextId
  proceeds : ∀ choices : Nat → Choice, (∀ count, (choices count).Calm) → ∀ source,
    (runAll (served firewalls) choices (ReconcileWorker.reconcileStopping computes server found) world).1 ≠
      .error (.compute source)
  deleted : ∀ choices : Nat → Choice, (∀ count, (choices count).Calm) →
    (runAll (served firewalls) choices (manager.delete compute) world).1 = .ok true

theorem outcome_of_stops {E A : Type} {harmless : E → Prop} {excused : Prop} {firewalls : List ProviderFirewall}
    {world : World} {pre : World → Prop} {program : Flow E A} {post : A → World → Prop} (held : pre world)
    (stops : Stops (Subtype.val : { choice : Choice // choice.Calm } → Choice) excused firewalls world
      harmless pre program post)
    (choices : Nat → Choice) (calm : ∀ count, (choices count).Calm) :
    match (runAll (served firewalls) choices program world).1 with
    | .ok value => post value (runAll (served firewalls) choices program world).2
    | .error error => harmless error ∧ excused := by
  have keeps : ∀ (op : Op) (choice : { choice : Choice // choice.Calm }) (state : World),
      state.provider.nextId = world.provider.nextId →
      (∀ request, op ≠ .provider (.createInstance request)) →
      (served firewalls op choice.val state).2.provider.nextId = world.provider.nextId :=
    fun op choice state => served_standing op choice.val state
  have ended := (Contract.Safe.runAll keeps rfl (stops world held) fun count => ⟨choices count, calm count⟩).2
  have same := runAll_pick (served firewalls) (Subtype.val : { choice : Choice // choice.Calm } → Choice)
    (fun count => ⟨choices count, calm count⟩) (A := Except E A) program world
  rw [same] at ended
  cases result : (runAll (served firewalls) choices program world).1 with
  | ok value =>
    rw [result] at ended
    exact ended
  | error error =>
    rw [result] at ended
    exact ended

theorem validateSpec_ok (manager : AkamaiManager) (spec : AkamaiSpec) : manager.validateSpec spec = .ok () ↔
      spec.region ∈ manager.config.allowedRegions ∧ spec.image ∈ manager.config.allowedImages ∧
        spec.instanceType ∈ manager.config.allowedInstanceTypes ∧
        spec.firewallId ∈ manager.config.allowedFirewallIds := by
  unfold AkamaiManager.validateSpec
  by_cases region : spec.region ∈ manager.config.allowedRegions
  · by_cases image : spec.image ∈ manager.config.allowedImages
    · by_cases instanceType : spec.instanceType ∈ manager.config.allowedInstanceTypes
      · by_cases firewall : spec.firewallId ∈ manager.config.allowedFirewallIds <;>
          simp [region, image, instanceType, firewall]
      · simp [region, image, instanceType]
    · simp [region, image]
  · simp [region]

section Refusing

variable {firewalls : List ProviderFirewall} {choices : Nat → Choice} {world : World}

theorem runAll_perform {E A B : Type} (op : Op) (lift : op.Res → Except E A) (next : A → Flow E B) (value : A)
    (after : World) (ended : lift (served firewalls op (choices 0) world).1 = .ok value)
    (left : (served firewalls op (choices 0) world).2 = after) :
    runAll (served firewalls) choices (Try.bind (.call op fun result => .done (lift result)) next) world =
      runAll (served firewalls) (fun count => choices (count + 1)) (next value) after := by
  change runAll (served firewalls) _ (Prog.bind (.done (lift (served firewalls op (choices 0) world).1)) _)
    (served firewalls op (choices 0) world).2 = _
  rw [ended, left]
  rfl

variable {manager : AkamaiManager} {spec : AkamaiSpec} {found : ServerInstance}
variable {computes : ComputeManager} (configured : computes.akamai = some manager)
variable (resolved : found.resolvedSpec.compute =
  .akamai spec.region spec.instanceType spec.image spec.firewallId)
variable {error : AkamaiComputeError} (refused : manager.validateSpec spec = .error error)

include configured resolved refused

theorem ensureForInstance_refuses (now : UnixTimestampMillis) :
    computes.ensureForInstance found now = Try.fail (.akamai error) := by
  have same : manager.validateSpec
      ⟨spec.region, spec.instanceType, spec.image, spec.firewallId⟩ = .error error := refused
  simp only [ComputeManager.ensureForInstance, AkamaiManager.ensureForInstance, resolved, configured, same]
  rfl

variable (calm : ∀ count, (choices count).Calm)

include calm

theorem stopConnected_refuses (server : Server) (compute : ComputeInstance) :
    (runAll (served firewalls) choices (ReconcileWorker.stopConnected computes server found compute) world).1 =
      .error (.compute (.akamai error)) := by
  obtain ⟨-, now, given⟩ := calm 0
  refine (congrArg Prod.fst (runAll_perform .clock (Except.mapError ReconcileError.timestamp) _ now world
    ?_ rfl)).trans ?_
  · change Except.mapError _ (choices 0).now = _
    rw [given]
    rfl
  · rw [ensureForInstance_refuses configured resolved refused]
    rfl

theorem reconcileStopping_refuses {compute : ComputeInstance}
    (active : (ComputeInstanceRepository.getActiveForInstance found.id world.db).1 = .ok (some compute))
    (kept : ¬Discardable found compute world) (server : Server) :
    (runAll (served firewalls) choices (ReconcileWorker.reconcileStopping computes server found) world).1 =
      .error (.compute (.akamai error)) := by
  obtain ⟨faultless, -⟩ := calm 0
  have read : (served firewalls (.db (.getActiveCompute found.id)) (choices 0) world).1 = .ok (some compute) := by
    simp only [served, exec, execDb, attended, faultless]
    exact active
  have links : (served firewalls (.db (.getActiveCompute found.id)) (choices 0) world).2.links = world.links := by
    simp only [served, exec, execDb, attended, faultless]
    rfl
  refine (congrArg Prod.fst (runAll_perform (.db (.getActiveCompute found.id)) (Except.mapError
    ReconcileError.repository) _ (some compute) _ (by rw [read]; rfl) rfl)).trans ?_
  generalize (served firewalls (.db (.getActiveCompute found.id)) (choices 0) world).2 = after at links ⊢
  have refuses : ∀ count, (runAll (served firewalls) (fun later => choices (later + count))
      (ReconcileWorker.stopConnected computes server found compute) after).1 =
      .error (.compute (.akamai error)) := fun count =>
    stopConnected_refuses configured resolved refused (fun later => calm (later + count)) server compute
  dsimp only
  by_cases unpublished : ReconcileWorker.unpublished found = true
  · have asks : ReconcileWorker.mayDelete found compute = pure false := by
      simp only [ReconcileWorker.mayDelete, unpublished, if_true]
    rw [asks]
    exact refuses 1
  · have unasked : ¬compute.shutdownRequestedAt.isSome = true := fun asked =>
      kept ⟨by simpa using unpublished, .inl asked⟩
    have connected : (after.links compute.id).registered.isSome = true := by
      rw [links, Option.isSome_iff_ne_none]
      exact fun away => kept ⟨by simpa using unpublished, .inr away⟩
    have asks : ReconcileWorker.mayDelete found compute =
        Try.bind (isConnected compute.id) fun connected => pure !connected := by
      simp only [ReconcileWorker.mayDelete, unpublished, unasked]
      rfl
    rw [asks]
    exact (congrArg Prod.fst (runAll_perform (.link (.isConnected compute.id)) .ok (fun connected =>
      Try.bind (pure !connected) fun deletes =>
        if deletes then ReconcileWorker.deleteCompute computes compute
        else ReconcileWorker.stopConnected computes server found compute) true after
      (congrArg Except.ok connected) rfl)).trans (refuses 2)

end Refusing

namespace Sample

def haltingSpec : AkamaiSpec :=
  { region := "jp-osa", instanceType := "g6-standard-2", image := "linode/debian12", firewallId := 1 }

def halting : ServerInstance where
  id := ⟨2⟩
  serverId := ⟨1⟩
  serverGeneration := 1
  resolvedSpec :=
    { (Server.sample 1).spec with
      compute := .akamai "jp-osa" "g6-standard-2" "linode/debian12" 1 }
  fencingToken := 1
  sourceSnapshotId := none
  dataPreparedAt := some 1
  processRunning := false
  processObservedAt := none
  resultSnapshotId := none
  stopRequestedAt := some 1
  terminatedAt := none
  terminalResult := none
  lastError := none
  createdAt := 1
  updatedAt := 1

def haltingCompute : ComputeRow where
  id := ⟨5⟩
  serverInstanceId := ⟨2⟩
  provider := .akamai
  providerInstanceId := none
  publicIpv4 := none
  connectionToken := "connection"
  enrollmentToken := some "enrollment"
  processId := none
  agentConnectedAt := none
  shutdownRequestedAt := none
  terminatedAt := none
  terminalResult := none
  failureMessage := none
  createdAt := 1
  updatedAt := 1
  agentCsrPem := none
  agentCertificateChainPem := none
  agentCertificateDer := none
  agentCertificateExpiresAt := none

def haltingVm : ProviderInstance where
  id := 7
  label := providerLabel ⟨5⟩
  region := "jp-osa"
  instanceType := "g6-standard-2"
  image := "linode/debian12"
  diskEncryption := .disabled
  ipv4 := []
  tags := [managedTag, scopeTag "default"]
  userData := some { computeInstanceId := ⟨5⟩, serverInstanceId := ⟨2⟩, enrollmentToken := "enrollment"
                     providerScope := "default" }

def haltingWorld : World :=
  { initial with
    db :=
      { servers := [{ toServer := Server.sample 1, nextFencingToken := 2 }]
        serverInstances := [halting]
        computeInstances := [haltingCompute]
        snapshots := [] }
    provider := { instances := [haltingVm], nextId := 8 } }

def managerFor (regions : List String) : AkamaiManager where
  config :=
    { scope := "default", liveEnabled := false, loopbackApi := false, reapOrphansOnStart := true
      allowedRegions := regions, allowedImages := ["linode/debian12"]
      allowedInstanceTypes := ["g6-standard-2"], allowedFirewallIds := [1]
      maxActiveInstances := 2, maxInstanceLifetimeMillis := 86400000 }
  remote :=
    { authorizedKeysFile := "authorized_keys", tlsCaCertificate := "ca.pem"
      certificateValidityMillis := 86400000 }

def haltingFirewalls : List ProviderFirewall := [{ id := 1, status := "enabled" }]

theorem halting_readable : Readable haltingWorld.db := by
  have once : Between 1 1 (some 1) := by
    rintro time ⟨⟩
    decide
  refine ⟨?_, ?_, ?_⟩ <;> intro row member <;> cases List.mem_singleton.mp member
  · exact ⟨by decide, by decide, by decide, by rintro _ ⟨⟩, by decide, by rintro _ ⟨⟩⟩
  · exact ⟨by decide, by decide, by decide, by rintro _ ⟨⟩, by rintro _ ⟨⟩, by rintro _ ⟨⟩, by decide, rfl,
      by rintro ⟨⟩, by rintro ⟨⟩, once, by rintro _ ⟨⟩, once, by rintro _ ⟨⟩, by rintro _ ⟨⟩⟩
  · have legible : ∀ text ∈ ["connection", "enrollment"], Legible maxConnectionTokenChars text := by
      intro text member
      simp only [List.mem_cons, List.not_mem_nil, or_false] at member
      rcases member with rfl | rfl <;> exact ⟨by decide, by decide, by decide⟩
    exact ⟨legible _ (by simp [haltingCompute]), fun token given => legible token (by simp_all [haltingCompute]),
      by rintro _ ⟨⟩, by rintro _ ⟨⟩, by rintro _ ⟨⟩, rfl, rfl, rfl, rfl, rfl, rfl, rfl, by decide, rfl,
      by rintro _ ⟨⟩, by rintro _ ⟨⟩, by rintro _ ⟨⟩, by rintro _ ⟨⟩⟩

theorem halting_stops (regions : List String) :
    Stopping (managerFor regions) haltingFirewalls haltingSpec halting
      haltingCompute.toComputeInstance haltingVm haltingWorld where
  requested := rfl
  resolved := rfl
  readable := halting_readable
  keyed := ⟨List.nodup_singleton _, List.nodup_singleton _, List.nodup_singleton _, List.nodup_singleton _⟩
  active := by
    have decoded := halting_readable.decoded.2.2 haltingCompute (List.mem_singleton.mpr rfl)
    have found : haltingWorld.db.computeInstances.find?
        (fun row => row.serverInstanceId = halting.id && row.terminatedAt.isNone) = some haltingCompute := rfl
    simp only [ComputeInstanceRepository.getActiveForInstance, Store.read, found]
    simp [decoded]
  remote := rfl
  fleet := by
    refine ⟨?_, ?_, List.nodup_singleton _, ?_, ?_, ?_⟩
    · rintro vm member
      cases List.mem_singleton.mp member
      decide
    · rintro vm member
      cases List.mem_singleton.mp member
      decide
    · rintro vm member
      cases List.mem_singleton.mp member
      rintro data ⟨⟩
      rfl
    · rintro vm member
      cases List.mem_singleton.mp member
      exact fun compute labelled => ⟨_, rfl, providerLabel_injective labelled⟩
    · rintro first member second member' - - -
      rw [List.mem_singleton.mp member, List.mem_singleton.mp member']
  present := List.mem_singleton.mpr rfl
  owned := by
    simp [ProviderInstance.isOwnedBy, haltingVm, haltingCompute, AkamaiManager.tag, managerFor]
  configured := rfl
  recorded := nofun
  firewall := ⟨_, rfl, rfl⟩

def computesFor (regions : List String) : ComputeManager :=
  { setup.manager with akamai := some (managerFor regions) }

end Sample

end McServer.System
