import McServer.System.Isolation
import McServer.System.Stopping
import McServer.System.Walks

set_option autoImplicit false

namespace McServer.System

open Domain Store Agent ControlPlane Interleaving

def inScope (scope : String) (vm : ProviderInstance) : Bool :=
  vm.tags.contains managedTag && vm.tags.contains (scopeTag scope)

def population (scope : String) (provider : Provider) : Nat :=
  provider.instances.countP (inScope scope)

-- Those of the scope among the first managed machines, which is what the first pages show.
def crowd (scope : String) (provider : Provider) (count : Nat) : Nat :=
  ((provider.matching .managed).take count).countP (inScope scope)

structure Numbered (provider : Provider) : Prop where
  below : ∀ vm ∈ provider.instances, vm.id < provider.nextId
  distinct : (provider.instances.map ProviderInstance.id).Nodup
  within : provider.nextId ≤ maximumU64 + 1

section Counting

variable {A : Type} {counted kept : A → Bool}

-- Taking counted elements away moves others forward, but never more than were taken.
theorem countP_take_filter {list : List A} (lost : ∀ value ∈ list, kept value = false → counted value = true)
    (count : Nat) : ((list.filter kept).take count).countP counted ≤ (list.take count).countP counted := by
  induction list generalizing count with
  | nil => simp
  | cons head tail ih =>
    have rest := ih fun value member => lost value (List.mem_cons_of_mem _ member)
    cases count with
    | zero => simp
    | succ count =>
      by_cases keeps : kept head = true
      · rw [List.filter_cons_of_pos keeps, List.take_succ_cons, List.take_succ_cons, List.countP_cons,
          List.countP_cons]
        exact Nat.add_le_add_right (rest count) _
      · have own := lost head List.mem_cons_self (by simpa using keeps)
        rw [List.filter_cons_of_neg keeps, List.take_succ_cons, List.countP_cons_of_pos own]
        have one : ((tail.filter kept).take (count + 1)).countP counted ≤
            ((tail.filter kept).take count).countP counted + 1 := by
          rw [List.take_add_one, List.countP_append]
          refine Nat.add_le_add_left ?_ _
          cases (tail.filter kept)[count]? with
          | none => simp
          | some value => exact List.countP_le_length
        exact one.trans (Nat.add_le_add_right (rest count) 1)

theorem population_matching (scope : String) (provider : Provider) :
    (provider.matching .managed).countP (inScope scope) = population scope provider := by
  simp only [Provider.matching, population, List.countP_filter]
  refine List.countP_congr fun vm _ => ?_
  simp [inScope]
  tauto

theorem crowd_all {scope : String} {provider : Provider} {count : Nat}
    (all : (provider.matching .managed).length ≤ count) :
    crowd scope provider count = population scope provider := by
  rw [← population_matching, crowd, List.take_of_length_le all]

theorem crowd_page (scope : String) (provider : Provider) (page : Nat) :
    crowd scope provider (page * pageSize + pageSize) = crowd scope provider (page * pageSize) +
      ((provider.page .managed (page + 1)).data.filter (inScope scope)).length := by
  simp only [crowd, Provider.page, Nat.add_sub_cancel, List.take_add, List.countP_eq_length_filter,
    List.filter_append, List.length_append]

theorem Numbered.few {provider : Provider} (numbered : Numbered provider) :
    (provider.matching .managed).length ≤ maximumU64 + 1 := by
  have inside : provider.instances.map ProviderInstance.id ⊆ List.range provider.nextId := by
    intro id member
    obtain ⟨vm, present, rfl⟩ := List.mem_map.mp member
    exact List.mem_range.mpr (numbered.below vm present)
  have few := numbered.distinct.length_le_of_subset inside
  rw [List.length_map, List.length_range] at few
  exact (List.length_filter_le _ _).trans (few.trans numbered.within)

end Counting

section Requests

variable {scope : String}

theorem settleProvider_account (op : ProviderOp) (provider : Provider) (world : World) :
    (settleProvider op provider world).provider = provider := by
  cases op with
  | deleteInstance id =>
    simp only [settleProvider]
    cases world.provider.find id with
    | none => rfl
    | some vm => exact wipeVm_provider _ vm
  | _ => rfl

theorem request_account (op : ProviderOp) (choice : Choice) (world : World) :
    (exec (.provider op) choice world).2.provider = world.provider ∨
      world.provider.exhausted op = false ∧
        (exec (.provider op) choice world).2.provider = (world.provider.apply op choice.answers).2 := by
  simp only [exec, execProvider]
  cases room : world.provider.exhausted op with
  | true => exact .inl rfl
  | false =>
    cases choice.fault with
    | before => exact .inl rfl
    | none => exact .inr ⟨rfl, settleProvider_account op _ world⟩
    | after => exact .inr ⟨rfl, settleProvider_account op _ world⟩

theorem Numbered.delete {provider : Provider} (numbered : Numbered provider) (id : Nat) :
    Numbered (provider.delete id) where
  below vm member := numbered.below vm (List.mem_filter.mp member).1
  distinct := numbered.distinct.sublist (List.Sublist.map _ List.filter_sublist)
  within := numbered.within

theorem Numbered.append {provider : Provider} (numbered : Numbered provider)
    (room : provider.nextId ≤ maximumU64) {vm : ProviderInstance} (number : vm.id = provider.nextId) :
    Numbered { instances := provider.instances ++ [vm], nextId := provider.nextId + 1 } where
  below other member := by
    rcases List.mem_append.mp member with old | new
    · exact Nat.lt_succ_of_lt (numbered.below other old)
    · rw [List.mem_singleton.mp new, number]
      exact Nat.lt_succ_self _
  distinct := by
    rw [List.map_append, List.map_singleton, number]
    refine List.Nodup.append numbered.distinct (List.nodup_singleton _) ?_
    intro id member same
    obtain ⟨other, present, rfl⟩ := List.mem_map.mp member
    exact absurd (List.mem_singleton.mp same) (numbered.below other present).ne
  within := Nat.succ_le_succ room

theorem apply_numbered {provider : Provider} (numbered : Numbered provider) {op : ProviderOp}
    (room : provider.exhausted op = false) (answers : ProviderAnswers) :
    Numbered (provider.apply op answers).2 := by
  cases op with
  | createInstance request => exact numbered.append (by simpa [Provider.exhausted] using room) rfl
  | deleteInstance id => exact numbered.delete id
  | _ => exact numbered

theorem exec_numbered (op : Op) (choice : Choice) {world : World} (numbered : Numbered world.provider) :
    Numbered (exec op choice world).2.provider := by
  by_cases elsewhere : ∀ request, op ≠ .provider request
  · rwa [exec_account elsewhere]
  · push Not at elsewhere
    obtain ⟨request, rfl⟩ := elsewhere
    rcases request_account request choice world with same | ⟨room, applied⟩
    · rwa [same]
    · rw [applied]
      exact apply_numbered numbered room _

theorem delete_population (provider : Provider) (id : Nat) :
    population scope (provider.delete id) ≤ population scope provider :=
  List.Sublist.countP_le List.filter_sublist

theorem append_population (provider : Provider) (vm : ProviderInstance) (nextId : Nat) :
    population scope { instances := provider.instances ++ [vm], nextId } =
      population scope provider + if inScope scope vm then 1 else 0 := by
  simp [population, List.countP_append, List.countP_cons]

theorem exec_population (op : Op) (choice : Choice) (world : World) :
    population scope (exec op choice world).2.provider ≤ population scope world.provider ∨
      (∃ request, op = .provider (.createInstance request)) ∧
        population scope (exec op choice world).2.provider ≤ population scope world.provider + 1 := by
  by_cases elsewhere : ∀ request, op ≠ .provider request
  · rw [exec_account elsewhere]
    exact .inl le_rfl
  · push Not at elsewhere
    obtain ⟨request, rfl⟩ := elsewhere
    rcases request_account request choice world with same | ⟨-, applied⟩
    · rw [same]
      exact .inl le_rfl
    · rw [applied]
      cases request with
      | createInstance body =>
        refine .inr ⟨⟨body, rfl⟩, ?_⟩
        simp only [Provider.apply, Provider.create, append_population]
        split <;> omega
      | deleteInstance id => exact .inl (delete_population _ id)
      | _ => exact .inl le_rfl

end Requests

-- A later page of the list of managed machines continues the pages before it.
def continues : Op → Bool
  | .provider (.listInstances .managed page) => 1 < page
  | _ => false

-- The machines of the scope do not become more behind the worker's back, and while it reads a list
-- none of them moves to a page it has already read.
def limit (manager : AkamaiManager) : Watch Op Choice World where
  base world := Numbered world.provider
  rest _ := True
  admits _ _ _ := True
  drift op before after :=
    population manager.config.scope after.provider ≤ population manager.config.scope before.provider ∧
      (continues op = true → ∀ count, crowd manager.config.scope after.provider count ≤
        crowd manager.config.scope before.provider count)
  guard op world := (∃ request, op = .provider (.createInstance request)) →
    manager.config.mutationsEnabled = true ∧
      population manager.config.scope world.provider < manager.config.maxActiveInstances

section Worker

variable {manager : AkamaiManager}

theorem limit_still (op : Op) (world : World) : (limit manager).drift op world world :=
  ⟨le_rfl, fun _ _ => le_rfl⟩

theorem limit_composed (op : Op) (first second third : World)
    (left : (limit manager).drift op first second) (right : (limit manager).drift op second third) :
    (limit manager).drift op first third :=
  ⟨right.1.trans left.1, fun continued count => (right.2 continued count).trans (left.2 continued count)⟩

theorem limit_permits (bound : Nat) {op : Op} (other : ∀ request, op ≠ .provider (.createInstance request)) :
    (limit manager).Permits exec
      (fun world => population manager.config.scope world.provider < bound) op := by
  intro world later below drift _
  refine ⟨fun ⟨request, same⟩ => absurd same (other request), fun choice _ => ?_⟩
  rcases exec_population op choice later with less | ⟨⟨request, same⟩, -⟩
  · exact less.trans_lt (drift.1.trans_lt below)
  · exact absurd same (other request)

theorem limit_modest {op : Op} (other : ∀ request, op ≠ .provider (.createInstance request)) :
    (limit manager).Permits exec (fun _ => True) op :=
  fun _ _ _ _ _ => ⟨fun ⟨request, same⟩ => absurd same (other request), fun _ _ => trivial⟩

theorem limit_lenient {held : World → Prop}
    (permits : ∀ op, (∀ request, op ≠ .provider (.createInstance request)) →
      (limit manager).Permits exec held op) : Lenient (limit manager) exec held where
  plain op plain := permits op fun request same => by
    rw [same] at plain
    cases plain
  asks op old := permits _ fun request same => by
    injection same with same
    rw [same] at old
    cases old
  allots _ _ _ _ _ _ := permits _ nofun

theorem list_safe {B : Type} {page : Nat} {next : ListInstancesResponse → Flow AkamaiComputeError B}
    {post : Except AkamaiComputeError B → World → Prop} {world : World}
    (failed : ∀ error later, post (.error error) later)
    (onward : ∀ later, (limit manager).drift (.provider (.listInstances .managed page)) world later →
      Numbered later.provider →
      (limit manager).Safe exec (next (later.provider.page .managed page)) post later) :
    (limit manager).Safe exec (Try.bind (AkamaiClient.request (.listInstances .managed page)) next) post
      world := by
  intro later drift numbered
  refine ⟨by rintro ⟨request, ⟨⟩⟩, fun choice _ => ?_⟩
  simp only [exec, execProvider, Provider.exhausted]
  cases choice.fault with
  | none => exact onward later drift numbered
  | before => exact failed _ _
  | after => exact failed _ _

theorem page_counts {page : Nat} (first : 0 < page) {found : List ProviderInstance} {world later : World}
    (drift : (limit manager).drift (.provider (.listInstances .managed page)) world later)
    (seen : crowd manager.config.scope world.provider ((page - 1) * pageSize) ≤ found.length) :
    crowd manager.config.scope later.provider (page * pageSize) ≤
      (found ++ (later.provider.page .managed page).data.filter (inScope manager.config.scope)).length := by
  obtain ⟨earlier, rfl⟩ : ∃ earlier, page = earlier + 1 := ⟨page - 1, by omega⟩
  rw [Nat.add_sub_cancel] at seen
  have still : crowd manager.config.scope later.provider (earlier * pageSize) ≤ found.length := by
    by_cases start : earlier = 0
    · simp [start, crowd]
    · have continued : continues (.provider (.listInstances .managed (earlier + 1))) = true :=
        decide_eq_true (by omega)
      exact (drift.2 continued _).trans seen
  rw [Nat.succ_mul, crowd_page, List.length_append]
  exact Nat.add_le_add_right still _

theorem listFrom_counts {remaining : Nat} (more : remaining < maximumU64) {found : List ProviderInstance}
    {world : World}
    (seen : crowd manager.config.scope world.provider ((maximumU64 - remaining - 1) * pageSize) ≤
      found.length) :
    (limit manager).Safe exec
      (AkamaiClient.listFrom .managed (inScope manager.config.scope) remaining found)
      (fun result later => ∀ listed, result = .ok listed →
        population manager.config.scope later.provider ≤ listed.length) world := by
  induction remaining generalizing found world with
  | zero =>
    refine list_safe (fun _ _ => nofun) fun later drift numbered => ?_
    rintro listed ⟨⟩
    have counted := page_counts (by omega) drift seen
    -- There are not as many machines as the last page has room for.
    rwa [crowd_all] at counted
    have few := numbered.few
    simp only [pageSize]
    generalize maximumU64 = last at *
    omega
  | succ remaining ih =>
    refine list_safe (fun _ _ => nofun) fun later drift numbered => ?_
    have counted := page_counts (by omega) drift seen
    dsimp only
    split
    · rename_i last
      rintro listed ⟨⟩
      rwa [crowd_all] at counted
      simp only [Provider.page, pageSize] at last ⊢
      omega
    · exact ih (by omega) (by rwa [Nat.sub_sub])

theorem createInstance_limited (label : String) (spec : AkamaiSpec) (found : ServerInstance)
    (compute : ComputeInstance) :
    (limit manager).Modest exec (fun _ => True) (manager.createInstance label spec found compute) := by
  have lenient : Lenient (limit manager) exec (fun _ => True) := limit_lenient fun op => limit_modest
  have below : Lenient (limit manager) exec (fun world =>
      population manager.config.scope world.provider < manager.config.maxActiveInstances) :=
    limit_lenient fun op => limit_permits _
  unfold AkamaiManager.createInstance AkamaiManager.requireLiveOperationsEnabled
  by_cases live : manager.config.mutationsEnabled = true
  case neg =>
    rw [if_neg live]
    exact fun _ _ => trivial
  rw [if_pos live]
  refine modest_then (modest_ofExcept _) fun _ => ?_
  refine modest_then (verifyBootstrapCompatibility_modest lenient.reads _ _) fun _ => ?_
  refine modest_then (verifyInstanceType_modest lenient.reads _) fun _ => ?_
  refine modest_then (verifyFirewall_modest lenient.reads _) fun _ => fun world _ => ?_
  have listed : (limit manager).Safe exec (AkamaiClient.listManagedInstances manager.config.scope)
      (fun result later => ∀ listed, result = .ok listed →
        population manager.config.scope later.provider ≤ listed.length) world := by
    refine listFrom_counts (Nat.sub_lt (by decide) Nat.one_pos) ?_
    rw [Nat.sub_sub_self (by decide)]
    simp [crowd]
  refine listed.tryBind (fun _ _ _ => trivial) fun listed later counted => ?_
  refine Watch.Safe.require (fun _ => trivial) fun full => ?_
  -- From here on there is room for one more.
  have room : population manager.config.scope later.provider < manager.config.maxActiveInstances :=
    (counted listed rfl).trans_lt (by omega)
  have built : (limit manager).Safe exec
      (Try.raising AkamaiComputeError.bootstrap
        (buildBootstrap manager.remote manager.config.scope found compute))
      (fun _ world => population manager.config.scope world.provider < manager.config.maxActiveInstances)
      later :=
    modest_raising (buildBootstrap_modest below.files _ _ _ _) later room
  refine built.tryBind (fun _ _ _ => trivial) fun bootstrap ready room => ?_
  have created : ∀ request, (limit manager).Safe exec (AkamaiClient.request (.createInstance request))
      (fun _ _ => True) ready :=
    fun _ final drift _ => ⟨fun _ => ⟨live, drift.1.trans_lt room⟩, fun _ _ => trivial⟩
  refine (created _).tryBind (fun _ _ _ => trivial) fun provider world _ => ?_
  exact modest_then (verifyProviderConfiguration_modest lenient.reads _ _) (fun _ => modest_done _) world trivial

theorem worker_limited {setup : Setup} (configured : setup.manager.akamai = some manager) (task : Task) :
    (limit manager).Modest exec (fun _ => True) (program setup .worker task) := by
  have lenient : Lenient (limit manager) exec (fun _ => True) := limit_lenient fun op => limit_modest
  have hosts : ∀ op, (limit manager).Permits exec (fun _ => True) (.machine op) :=
    fun op => limit_modest nofun
  have records : ∀ id processId now,
      (limit manager).Permits exec (fun _ => True) (.db (.recordProcessId id processId now)) :=
    fun _ _ _ => limit_modest nofun
  have ends : ∀ id result message now,
      (limit manager).Permits exec (fun _ => True) (.db (.terminateCompute id result message now)) :=
    fun _ _ _ _ => limit_modest nofun
  have rents : ∀ akamai, setup.manager.akamai = some akamai → ∀ label spec found compute,
      (limit manager).Modest exec (fun _ => True) (akamai.createInstance label spec found compute) := by
    intro akamai same
    obtain rfl := Option.some.inj (configured.symm.trans same)
    exact createInstance_limited
  cases task with
  | startUp =>
    refine (startUp_modest lenient setup.reapLocal fun next onward => ?_).bind fun _ => modest_done _
    refine modest_then (modest_db lenient.plain _ rfl) fun
      (ownership : List (ComputeInstanceId × ServerInstanceId)) => ?_
    exact modest_then (modest_raising (local_reapOrphans_modest _ hosts ownership)) fun _ => onward
  | reconcile server =>
    have ensures := local_ensureForInstance_modest lenient setup.manager.localProcess hosts records
    have deletes := deleteCompute_modest lenient ends (local_delete_modest lenient setup.manager.localProcess
      hosts ends)
    exact reconcileAndSchedule_modest lenient rents ensures
      (reconcileStopping_modest lenient rents ensures deletes) server
  | request | connect => exact modest_done _

end Worker

-- Only the control plane puts machines into the scope, and no managed machine outside it goes away
-- between two pages of a list, so that the pages show all the machines of the scope.
def Secluded (scope : String) :
    Event Thread Task Action Choice → Config Thread Op Op.Res World → Prop
  | .environment (.foreignVmAppears vm), _ => inScope scope vm = false
  | .environment (.vmVanishes id), config =>
      (∃ op next, config.threads .worker = .call op next ∧ continues op = true) →
        ∀ vm ∈ config.state.provider.instances, vm.id = id → vm.tags.contains managedTag = true →
          inScope scope vm = true
  | _, _ => True

section Runs

variable {setup : Setup} {manager : AkamaiManager} {scope : String}

theorem environment_account (action : Action) (world : World) :
    (environment setup action world).provider = world.provider ∨
      (∃ id, action = .vmVanishes id ∧
        (environment setup action world).provider = world.provider.delete id) ∨
      ∃ vm, action = .foreignVmAppears vm ∧ world.provider.nextId ≤ maximumU64 ∧
        (environment setup action world).provider =
          { instances := world.provider.instances ++
              [{ vm with id := world.provider.nextId, userData := none }]
            nextId := world.provider.nextId + 1 } := by
  cases action with
  | agentExecutes compute choices =>
    left
    simp only [environment, agentExecutes]
    split <;> rfl
  | vmVanishes id =>
    simp only [environment, vmVanishes]
    cases world.provider.find id with
    | none => exact .inl rfl
    | some vm => exact .inr (.inl ⟨id, rfl, rfl⟩)
  | foreignVmAppears vm =>
    simp only [environment, foreignVmAppears]
    split
    · rename_i allowed
      simp only [Bool.and_eq_true, decide_eq_true_eq] at allowed
      exact .inr (.inr ⟨vm, rfl, allowed.2, rfl⟩)
    · exact .inl rfl
  | _ => exact .inl rfl

theorem step_numbered (event : Event Thread Task Action Choice) {config : Config Thread Op Op.Res World}
    (numbered : Numbered config.state.provider) :
    Numbered ((machine setup).step event config).state.provider := by
  cases event with
  | advance thread choice =>
    simp only [Machine.step]
    split
    · exact numbered
    · exact exec_numbered _ choice numbered
  | start thread task =>
    simp only [Machine.step]
    split <;> exact numbered
  | environment action =>
    change Numbered (environment setup action config.state).provider
    rcases environment_account action config.state with same | ⟨id, -, gone⟩ | ⟨vm, -, room, new⟩
    · rwa [same]
    · rw [gone]
      exact numbered.delete id
    · rw [new]
      exact numbered.append room rfl
  | crash => exact numbered

-- A machine that goes away can only move others forward when it is not one of the scope.
theorem delete_crowd {provider : Provider} {id : Nat}
    (own : ∀ vm ∈ provider.instances, vm.id = id → vm.tags.contains managedTag = true →
      inScope scope vm = true) (count : Nat) :
    crowd scope (provider.delete id) count ≤ crowd scope provider count := by
  have commuted : (provider.delete id).matching .managed =
      (provider.matching .managed).filter fun vm => vm.id ≠ id := by
    simp only [Provider.matching, Provider.delete, List.filter_filter, Bool.and_comm]
  rw [crowd, commuted]
  refine countP_take_filter (fun vm member gone => ?_) count
  obtain ⟨present, managed⟩ := List.mem_filter.mp member
  exact own vm present (by simpa using gone) managed

theorem append_crowd {provider : Provider} {vm : ProviderInstance} (foreign : inScope scope vm = false)
    (nextId count : Nat) :
    crowd scope { instances := provider.instances ++ [vm], nextId } count = crowd scope provider count := by
  simp only [crowd, Provider.matching, List.filter_append, List.take_append, List.countP_append]
  refine Nat.add_eq_left.mpr (List.countP_eq_zero.mpr fun other member => ?_)
  have same := List.mem_singleton.mp (List.mem_of_mem_filter (List.mem_of_mem_take member))
  rw [same, foreign]
  exact Bool.false_ne_true

theorem environment_drift {action : Action} {config : Config Thread Op Op.Res World}
    (secluded : Secluded manager.config.scope (.environment action) config) {op : Op}
    {next : op.Res → Prog Op Op.Res Unit} (waiting : config.threads .worker = .call op next) :
    (limit manager).drift op config.state (environment setup action config.state) := by
  change population _ (environment setup action config.state).provider ≤ _ ∧ _
  rcases environment_account action config.state with same | ⟨id, rfl, gone⟩ | ⟨vm, rfl, -, new⟩
  · rw [same]
    exact ⟨le_rfl, fun _ _ => le_rfl⟩
  · rw [gone]
    exact ⟨delete_population _ id, fun continued =>
      delete_crowd (secluded ⟨op, next, waiting, continued⟩)⟩
  · have foreign : inScope manager.config.scope
        { vm with id := config.state.provider.nextId, userData := none } = false := secluded
    rw [new, append_population, foreign]
    exact ⟨le_rfl, fun _ count => (append_crowd foreign _ count).le⟩

theorem around_worker {run : Run} {world : World} {event : Event Thread Task Action Choice}
    (numbered : Numbered ((machine setup).run run (Machine.idle world)).state.provider)
    (secluded : Secluded manager.config.scope event ((machine setup).run run (Machine.idle world))) :
    (limit manager).Around (machine setup) .worker event ((machine setup).run run (Machine.idle world)) := by
  refine ⟨numbered, fun _ _ _ _ _ => trivial, fun op next waiting other => ?_, fun _ _ _ => trivial,
    fun _ => trivial⟩
  cases event with
  | advance thread choice =>
    have beside : thread ≠ .worker := fun same => other choice (by rw [same])
    simp only [Machine.step]
    split
    · exact limit_still op _
    · rename_i op' next' called
      have plain := others_plain beside called
      have elsewhere : ∀ request, op' ≠ .provider request := by
        rintro request rfl
        cases plain
      have same := exec_account elsewhere choice ((machine setup).run run (Machine.idle world)).state
      change population _ (exec op' choice _).2.provider ≤ _ ∧
        (_ → ∀ count, crowd _ (exec op' choice _).2.provider count ≤ _)
      rw [same]
      exact ⟨le_rfl, fun _ _ => le_rfl⟩
  | start thread task =>
    simp only [Machine.step]
    split <;> exact limit_still op _
  | environment action => exact environment_drift secluded waiting
  | crash => exact ⟨le_rfl, fun _ _ => le_rfl⟩

structure Limited (manager : AkamaiManager) (config : Config Thread Op Op.Res World) : Prop where
  numbered : Numbered config.state.provider
  worker : (limit manager).Safe exec (config.threads .worker) (fun _ _ => True) config.state

theorem run_limited (configured : setup.manager.akamai = some manager) {world : World}
    (numbered : Numbered world.provider) {run : Run}
    (secluded : (machine setup).Along (Secluded manager.config.scope) run (Machine.idle world)) :
    Limited manager ((machine setup).run run (Machine.idle world)) := by
  induction run using List.reverseRecOn with
  | nil => exact ⟨numbered, trivial⟩
  | append_singleton run event ih =>
    obtain ⟨before, last, -⟩ := Machine.along_append.mp secluded
    have limited := ih before
    rw [Machine.run_append]
    exact ⟨step_numbered event limited.numbered,
      Watch.step_safe limit_still limit_composed (worker_limited configured)
        (around_worker limited.numbered last) limited.worker⟩

theorem step_population {run : Run} {world : World}
    (limited : Limited manager ((machine setup).run run (Machine.idle world)))
    {event : Event Thread Task Action Choice}
    (secluded : Secluded manager.config.scope event ((machine setup).run run (Machine.idle world))) :
    population manager.config.scope
        ((machine setup).run (run ++ [event]) (Machine.idle world)).state.provider ≤
      population manager.config.scope ((machine setup).run run (Machine.idle world)).state.provider ∨
    manager.config.mutationsEnabled = true ∧
      population manager.config.scope
        ((machine setup).run (run ++ [event]) (Machine.idle world)).state.provider ≤
          manager.config.maxActiveInstances := by
  rw [Machine.run_append, Machine.run_cons, Machine.run_nil]
  cases event with
  | advance thread choice =>
    simp only [Machine.step]
    split
    · exact .inl le_rfl
    · rename_i op next waiting
      rcases exec_population op choice ((machine setup).run run (Machine.idle world)).state with less |
        ⟨⟨request, rfl⟩, more⟩
      · exact .inl less
      · by_cases worker : thread = .worker
        · subst worker
          have safe := limited.worker
          rw [waiting] at safe
          have room := (safe _ (limit_still _ _) limited.numbered).1 ⟨request, rfl⟩
          exact .inr ⟨room.1, more.trans room.2⟩
        · cases others_plain worker waiting
  | start thread task =>
    simp only [Machine.step]
    split <;> exact .inl le_rfl
  | environment action =>
    left
    change population _ (environment setup action _).provider ≤ _
    rcases environment_account action ((machine setup).run run (Machine.idle world)).state with same |
      ⟨id, rfl, gone⟩ | ⟨vm, rfl, -, new⟩
    · rw [same]
    · rw [gone]
      exact delete_population _ id
    · have foreign : inScope manager.config.scope { vm with
          id := ((machine setup).run run (Machine.idle world)).state.provider.nextId
          userData := none } = false := secluded
      rw [new, append_population, foreign]
      exact le_rfl
  | crash => exact .inl le_rfl

theorem vm_limit_kept (configured : setup.manager.akamai = some manager) {world : World}
    (numbered : Numbered world.provider)
    (initially : population manager.config.scope world.provider ≤ manager.config.maxActiveInstances)
    {run : Run}
    (secluded : (machine setup).Along (Secluded manager.config.scope) run (Machine.idle world)) :
    population manager.config.scope ((machine setup).run run (Machine.idle world)).state.provider ≤
        manager.config.maxActiveInstances ∧
      (manager.config.mutationsEnabled = false → ∀ earlier event later, run = earlier ++ event :: later →
        population manager.config.scope
            ((machine setup).run (earlier ++ [event]) (Machine.idle world)).state.provider ≤
          population manager.config.scope ((machine setup).run earlier (Machine.idle world)).state.provider) := by
  have step : ∀ earlier event, (machine setup).Along (Secluded manager.config.scope) (earlier ++ [event])
      (Machine.idle world) → population manager.config.scope
        ((machine setup).run (earlier ++ [event]) (Machine.idle world)).state.provider ≤
      population manager.config.scope ((machine setup).run earlier (Machine.idle world)).state.provider ∨
    manager.config.mutationsEnabled = true ∧ population manager.config.scope
        ((machine setup).run (earlier ++ [event]) (Machine.idle world)).state.provider ≤
          manager.config.maxActiveInstances := by
    intro earlier event along
    obtain ⟨before, last, -⟩ := Machine.along_append.mp along
    exact step_population (run_limited configured numbered before) last
  constructor
  · induction run using List.reverseRecOn with
    | nil => exact initially
    | append_singleton run event ih =>
      rcases step run event secluded with less | ⟨-, within⟩
      · exact less.trans (ih (Machine.along_append.mp secluded).1)
      · exact within
  · rintro disabled earlier event later rfl
    have along : (machine setup).Along (Secluded manager.config.scope) (earlier ++ [event])
        (Machine.idle world) := by
      rw [List.append_cons] at secluded
      exact (Machine.along_append.mp secluded).1
    rcases step earlier event along with less | ⟨enabled, -⟩
    · exact less
    · rw [disabled] at enabled
      cases enabled

end Runs

namespace Sample

def limitedManager : AkamaiManager :=
  { akamaiManager with config := { akamaiManager.config with maxActiveInstances := 1 } }

def limitedSetup : Setup :=
  { remoteSetup with manager := { remoteSetup.manager with akamai := some limitedManager } }

def rentsTwo : Run := rents "a" (.localRestic "/srv") 1 40 ++ rents "b" (.localRestic "/srv") 2 23

theorem secluded_alone {setup : Setup} {scope : String} {run : Run}
    (alone : ∀ event ∈ run, ∀ action, event ≠ .environment action)
    (config : Config Thread Op Op.Res World) : (machine setup).Along (Secluded scope) run config := by
  induction run generalizing config with
  | nil => trivial
  | cons event run ih =>
    obtain ⟨here, rest⟩ := List.forall_mem_cons.mp alone
    refine ⟨?_, ih rest _⟩
    cases event with
    | environment action => exact absurd rfl (here action)
    | _ => trivial

end Sample

-- The first server gets its machine, the second is refused one.
theorem vm_limit_kept_at_sample :
    ((reached Sample.limitedSetup Sample.rentsTwo).state.db.computeInstances.map
        (fun row => row.providerInstanceId) = [some "1", none] ∧
      population "default" (reached Sample.limitedSetup Sample.rentsTwo).state.provider = 1) ∧
      population Sample.limitedManager.config.scope
        ((machine Sample.limitedSetup).run Sample.rentsTwo (Machine.idle initial)).state.provider ≤
          Sample.limitedManager.config.maxActiveInstances := by
  have secluded := @Sample.secluded_alone Sample.limitedSetup Sample.limitedManager.config.scope Sample.rentsTwo
    (by simp [Sample.rentsTwo, Sample.rents, Sample.works]) (Machine.idle initial)
  exact ⟨by decide +kernel, (@vm_limit_kept Sample.limitedSetup Sample.limitedManager rfl initial
    ⟨by decide, by decide, by decide⟩ (by decide) Sample.rentsTwo secluded).1⟩

end McServer.System
