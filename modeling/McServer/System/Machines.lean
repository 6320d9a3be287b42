import McServer.System.Soundness

set_option autoImplicit false

namespace McServer.System

open Domain Store Agent ControlPlane Interleaving

def RentedFor (db : Database) (vm : ProviderInstance) : Prop :=
  ∃ row ∈ db.computeInstances, vm.label = providerLabel row.id ∧ row.provider = .akamai ∧
    ∀ found ∈ db.serverInstances, found.id = row.serverInstanceId → found.dataPreparedAt = none

-- What may stand at the provider after a step that did not stand there before.
def Appeared (world : World) (vm : ProviderInstance) : Prop :=
  vm ∈ world.provider.instances ∨ isForeignLabel vm.label = true ∨ RentedFor world.db vm

section Appearing

variable {setup : Setup} {policy : Policy setup} {world : World}

theorem Undisturbed.appeared {after : World} (undisturbed : Undisturbed world after) :
    ∀ vm ∈ after.provider.instances, Appeared world vm := by
  intro vm member
  rcases undisturbed.account.vms vm member with old | ⟨-, foreign⟩
  · exact .inl old
  · exact .inr (.inl foreign)

theorem createInstance_appeared {request : CreateInstanceRequest}
    (guard : workerRequest world (.createInstance request)) (choice : Choice) :
    ∀ vm ∈ (exec (.provider (.createInstance request)) choice world).2.provider.instances,
      Appeared world vm := by
  obtain ⟨compute, label, -, -, row, stored, named, remote, unprepared⟩ := guard
  have rented : ∀ vm ∈ world.provider.instances ++
      [(world.provider.create request choice.answers.ipv4).1], Appeared world vm := by
    intro vm member
    rcases List.mem_append.mp member with old | new
    · exact .inl old
    · refine .inr (.inr ⟨row, stored, ?_, remote, unprepared⟩)
      rw [List.mem_singleton.mp new, named]
      exact label
  simp only [exec, execProvider]
  split
  · exact fun vm member => .inl member
  · split
    · exact rented
    · exact fun vm member => .inl member
    · exact rented

theorem worker_appeared (inv : Inv setup policy world) {op : Op}
    (guard : workerGuard setup policy world op) (choice : Choice) :
    ∀ vm ∈ (exec op choice world).2.provider.instances, Appeared world vm := by
  by_cases isCalm : calm op = true
  · exact (calm_undisturbed inv isCalm guard choice).appeared
  · cases op with
    | db op =>
      have same : (exec (.db op) choice world).2.provider = world.provider := by
        simp only [exec, execDb]
        split <;> rfl
      rw [same]
      exact fun vm member => .inl member
    | provider op =>
      cases op with
      | createInstance request => exact createInstance_appeared guard choice
      | _ => exact absurd rfl isCalm
    | _ => exact absurd rfl isCalm

theorem step_appeared {config : Config Thread Op Op.Res World}
    (respected : Sound.Respected (machine setup) (contract setup policy) config)
    (event : Event Thread Task Action Choice) :
    ∀ vm ∈ ((machine setup).step event config).state.provider.instances,
      Appeared config.state vm := by
  cases event with
  | advance thread choice =>
    simp only [Machine.step]
    split
    · exact fun vm member => .inl member
    · rename_i op next waiting
      have guard := (sound setup policy).respected_guard respected waiting
      cases thread with
      | worker => exact worker_appeared respected.1 guard choice
      | client number => exact (client_undisturbed respected.1 guard choice).appeared
      | connection number => exact (connection_undisturbed respected.1 guard choice).appeared
  | start thread task =>
    simp only [Machine.step]
    split <;> exact fun vm member => .inl member
  | environment action => exact (environment_undisturbed config.state action).appeared
  | crash => exact fun vm member => .inl member

end Appearing

structure Solitary (world : World) : Prop where
  rows : ∀ state ∈ world.past, Table.Unique (fun row : ComputeRow => row.serverInstanceId)
    state.computeInstances
  ever : ∀ first ∈ world.past, ∀ second ∈ world.past, ∀ row ∈ first.computeInstances,
    ∀ other ∈ second.computeInstances, row.serverInstanceId = other.serverInstanceId →
      row.id = other.id
  active : ∀ row ∈ world.db.computeInstances, row.terminatedAt = none →
    ∃ found ∈ world.db.serverInstances, found.id = row.serverInstanceId ∧ found.terminatedAt = none
  machines : ∀ first ∈ world.provider.instances, ∀ second ∈ world.provider.instances, ∀ compute,
    first.label = providerLabel compute → second.label = providerLabel compute → first = second

theorem Inv.solitary {setup : Setup} {policy : Policy setup} {world : World}
    (inv : Inv setup policy world) : Solitary world where
  rows state member := (inv.history.consistent state member).allocation.single
  ever first left second right row member other present same := by
    -- Rows are never deleted, so both are still there.
    obtain ⟨new, stored, evolved⟩ := (inv.history.since left).computes row member
    obtain ⟨new', stored', evolved'⟩ := (inv.history.since right).computes other present
    have equal := inv.history.current.allocation.single.eq_of_key stored stored'
      (evolved.owner.trans (same.trans evolved'.owner.symm))
    rw [← evolved.id, ← evolved'.id, equal]
  active row member running := by
    obtain ⟨found, stored, named, alive, -⟩ := inv.history.current.allocation.owner row member
    exact ⟨found, stored, named, alive running⟩
  machines := inv.fleet.single

theorem one_compute_per_instance (setup : Setup) (run : Run) :
    Solitary (reached setup run).state ∧
    ∀ event, ∀ vm ∈ (reached setup (run ++ [event])).state.provider.instances,
      vm ∉ (reached setup run).state.provider.instances →
      ∀ row ∈ (reached setup run).state.db.computeInstances, vm.label = providerLabel row.id →
      ∀ found ∈ (reached setup run).state.db.serverInstances, found.id = row.serverInstanceId →
        found.dataPreparedAt = none := by
  have respected := reached_respected (Policy.unrestricted setup) (admitted_unrestricted run)
  refine ⟨respected.1.solitary, ?_⟩
  intro event vm member fresh row stored label found present owner
  rw [reached_concat] at member
  rcases step_appeared respected event vm member with old | foreign | ⟨other, stored', label', -, unprepared⟩
  · exact absurd old fresh
  · exact absurd label (ne_providerLabel foreign row.id)
  · obtain rfl := respected.1.history.current.keyed.computeIds.eq_of_key stored' stored
      (providerLabel_injective (label'.symm.trans label))
    exact unprepared found present owner

theorem machines_match_records (setup : Setup) (run : Run) :
    (∀ vm ∈ (reached setup run).state.provider.instances, ∀ data, vm.userData = some data →
      vm.label = providerLabel data.computeInstanceId) ∧
    ∀ vm ∈ (reached setup run).state.provider.instances, ∀ compute, vm.label = providerLabel compute →
      (∃ data, vm.userData = some data ∧ data.computeInstanceId = compute) ∧
      ∃ row ∈ (reached setup run).state.db.computeInstances, row.id = compute ∧ row.provider = .akamai ∧
        ∀ found ∈ (reached setup run).state.db.serverInstances, found.id = row.serverInstanceId →
          found.dataPreparedAt.isSome → row.providerInstanceId = some (toString vm.id) := by
  have inv := reached_inv setup run
  refine ⟨inv.fleet.tenant, fun vm member compute label => ⟨inv.fleet.managed vm member compute label, ?_⟩⟩
  obtain ⟨row, stored, rfl, remote⟩ := inv.tenancy.row vm member compute label
  exact ⟨row, stored, rfl, remote, inv.tenancy.recorded vm member row stored label⟩

end McServer.System
