import McServer.System.Computing

set_option autoImplicit false

namespace McServer.System

open Domain Store Agent ControlPlane Interleaving Interleaving.Contract

section Orphans

variable {setup : Setup} {policy : Policy setup}

theorem expendable_of_terminated {world : World} (inv : Inv setup policy world) {row : ComputeRow}
    (member : row ∈ world.db.computeInstances) (ended : row.terminatedAt ≠ none) :
    Expendable world row.id :=
  ⟨row.serverInstanceId, ⟨row, member, rfl, rfl⟩,
    inv.terminated row member (Option.isSome_iff_ne_none.mpr ended)⟩

structure Catalogued (active : List (ComputeInstanceId × ServerInstanceId)) (world : World) : Prop where
  complete : ∀ row ∈ world.db.computeInstances, row.terminatedAt = none →
    row.provider = .localProcess → (row.id, row.serverInstanceId) ∈ active

def OnRecord (directories : List ComputeInstanceId) (world : World) : Prop :=
  ∀ compute ∈ directories, ∃ row ∈ world.db.computeInstances, row.id = compute ∧ row.provider = .localProcess

theorem Catalogued.steady (active : List (ComputeInstanceId × ServerInstanceId)) :
    Steady setup policy (Catalogued active) := by
  intro before after held rely inv
  refine ⟨computes_steady ?_ before after held.complete rely inv⟩
  rintro old new ⟨h1, h2, h3, -, h5⟩ listed
  rw [h1, h2, h3, h5]
  exact listed

theorem OnRecord.steady (directories : List ComputeInstanceId) :
    Steady setup policy (OnRecord directories) := by
  intro before after held rely _ compute member
  obtain ⟨row, stored, named, here⟩ := held compute member
  obtain ⟨new, present, h1, -, h3, -⟩ := rely.1.computes.image row stored
  exact ⟨new, present, h1.trans named, h3.trans here⟩

theorem lookup_of_mem {A B : Type} [BEq A] [LawfulBEq A] {key : A} {value : B} {pairs : List (A × B)}
    (member : (key, value) ∈ pairs) : pairs.lookup key ≠ none := by
  rw [Ne, List.lookup_eq_none_iff]
  intro absent
  simpa using absent (key, value) member

theorem reapDirectories_works (manager : LocalManager)
    (active : List (ComputeInstanceId × ServerInstanceId)) (directories : List ComputeInstanceId) :
    Works setup policy (fun world => Catalogued active world ∧ OnRecord directories world)
      (manager.reapDirectories active directories) fun _ _ => True := by
  induction directories with
  | nil => exact Does.pure fun _ _ => trivial
  | cons compute rest ih =>
    have steady : Steady setup policy fun world =>
        Catalogued active world ∧ OnRecord (compute :: rest) world :=
      (Catalogued.steady active).and (OnRecord.steady _)
    have others : Works setup policy (fun world =>
        Catalogued active world ∧ OnRecord (compute :: rest) world)
        (manager.reapDirectories active rest) fun _ _ => True :=
      ih.strengthen fun world held => ⟨held.1, fun other member => held.2 other (List.mem_cons_of_mem _ member)⟩
    refine Does.ite (fun unowned => ?_) fun _ => others
    refine Does.bind _ (stopProcessFromRuntimeState_modest (looks_permitted steady) manager compute).does fun _ => ?_
    refine Does.bind _ (machine_works steady fun world inv held => ?_) fun _ => others
    obtain ⟨row, member, rfl, here⟩ := held.2 compute List.mem_cons_self
    refine expendable_of_terminated inv member fun running => ?_
    exact lookup_of_mem (held.1.complete row member running here) (Option.isNone_iff_eq_none.mp unowned)

theorem local_reapOrphans_works (manager : LocalManager)
    (active : List (ComputeInstanceId × ServerInstanceId)) :
    Works setup policy (Catalogued active) (manager.reapOrphans active) fun _ _ => True := by
  have steady : Steady setup policy (Catalogued active) := Catalogued.steady active
  refine Does.bind _ (machine_works steady fun _ _ _ => trivial) fun (containers : List ContainerListing) => ?_
  refine Does.bind _ (reapContainers_modest (looks_permitted steady) active containers).does fun _ => ?_
  refine Does.bind (fun (listed : List ComputeInstanceId) world =>
      Catalogued active world ∧ OnRecord listed world) ?_
    fun (directories : List ComputeInstanceId) => reapDirectories_works manager active directories
  refine Does.raising ((calm_step steady (.machine .listStateDirectories) rfl
    (fun _ _ _ => trivial) (fun (result : Except LocalError (List ComputeInstanceId)) world =>
      ∀ listed, result = .ok listed → OnRecord listed world) ?_).weaken
    fun result world held listed accepted => ⟨held.1, held.2 listed accepted⟩)
  intro world choice inv _ listed accepted
  simp only [exec, execLocal, applyLocal] at accepted ⊢
  split at accepted
  · injection accepted with same
    intro compute member
    rw [← same] at member
    exact inv.directories compute (by simpa using (List.mem_filter.mp member).2)
  · cases accepted
  · cases accepted

-- What the reaper has read of the active computes still holds, except that it may have recorded
-- machines since.
structure Overseen (active : List ComputeInstance) (world : World) : Prop where
  complete : ∀ row ∈ world.db.computeInstances, row.terminatedAt = none → row.provider = .akamai →
    ∃ compute ∈ active, compute.id = row.id
  recorded : ∀ compute ∈ active, ∀ row ∈ world.db.computeInstances, row.id = compute.id →
    ∀ recorded, compute.providerInstanceId = some recorded → row.providerInstanceId = some recorded
  free : ∀ compute ∈ active, compute.providerInstanceId = none →
    ∀ row ∈ world.db.computeInstances, row.id = compute.id → ∀ found ∈ world.db.serverInstances,
      found.id = row.serverInstanceId → found.dataPreparedAt.isSome → Vacant compute.id world
  agree : ∀ first ∈ active, ∀ second ∈ active, first.id = second.id →
    first.providerInstanceId = second.providerInstanceId

def Recorded (active : List ComputeInstance) (old new : ComputeRow) : Prop :=
  (new.id = old.id ∧ new.serverInstanceId = old.serverInstanceId ∧ new.provider = old.provider ∧
    new.terminatedAt = old.terminatedAt) ∧ (new.providerInstanceId = old.providerInstanceId ∨
      ∃ compute ∈ active, compute.id = old.id ∧ compute.providerInstanceId = none)

theorem Overseen.move {active : List ComputeInstance} {before after : World} (overseen : Overseen active before)
    (instances : after.db.serverInstances = before.db.serverInstances)
    (computes : ∀ row ∈ after.db.computeInstances, ∃ old ∈ before.db.computeInstances, Recorded active old row)
    (vms : ∀ compute, Vacant compute before → Vacant compute after) : Overseen active after := by
  refine ⟨fun row member running remote => ?_, fun compute listed row member named recorded known => ?_,
    fun compute listed unknown row member named found stored owner data => ?_, overseen.agree⟩
  all_goals obtain ⟨old, present, ⟨h1, h2, h3, h4⟩, change⟩ := computes row member
  · obtain ⟨compute, listed, same⟩ := overseen.complete old present (h4 ▸ running) (h3 ▸ remote)
    exact ⟨compute, listed, same.trans h1.symm⟩
  · rcases change with same | ⟨other, listed', named', unknown⟩
    · rw [same]
      exact overseen.recorded compute listed old present (h1.symm.trans named) recorded known
    · rw [overseen.agree compute listed other listed' (named.symm.trans (h1.trans named'.symm)),
        unknown] at known
      cases known
  · rw [instances] at stored
    exact vms compute.id (overseen.free compute listed unknown old present (h1.symm.trans named)
      found stored (owner.trans h2) data)

theorem Overseen.steady (active : List ComputeInstance) : Steady setup policy (Overseen active) := by
  intro before after overseen rely inv
  refine overseen.move rely.1.instances (fun row member => ?_) fun compute vacant =>
    Vacant.stable worker_rents compute before after vacant rely inv
  obtain ⟨old, stored, h1, h2, h3, h4, h5⟩ := rely.1.computes.origin row member
  exact ⟨old, stored, ⟨h1, h2, h3, h5⟩, .inl h4⟩

theorem recordProviderInstance_oversees {active : List ComputeInstance} {world : World}
    (overseen : Overseen active world) {compute : ComputeInstance} (listed : compute ∈ active)
    (unknown : compute.providerInstanceId = none) {providerId : String} {ipv4 : Option String}
    {now : UnixTimestampMillis} (choice : Choice) :
    Overseen active (exec (.db (.recordProviderInstance compute.id providerId ipv4 now)) choice world).2 := by
  have tables : ((DbOp.recordProviderInstance compute.id providerId ipv4 now).query world.db
      ).2.serverInstances = world.db.serverInstances ∧
      Table.Moved (Recorded active) world.db.computeInstances
        ((DbOp.recordProviderInstance compute.id providerId ipv4 now).query world.db ).2.computeInstances := by
    refine updateComputes_moved world.db (fun row => ⟨⟨rfl, rfl, rfl, rfl⟩, .inl rfl⟩) fun row chosen => ?_
    simp only [Bool.and_eq_true, decide_eq_true_eq] at chosen
    exact ⟨⟨rfl, rfl, rfl, rfl⟩, .inr ⟨compute, listed, chosen.1.1.symm, unknown⟩⟩
  simp only [exec]
  rcases execDb_cases (.recordProviderInstance compute.id providerId ipv4 now) choice world with
    failed | ⟨done, -⟩
  · rw [failed]
    exact overseen.move rfl (fun row member => ⟨row, member, ⟨rfl, rfl, rfl, rfl⟩, .inl rfl⟩)
      fun _ vacant => vacant
  · rw [done]
    exact overseen.move tables.1 tables.2.origin fun _ vacant => vacant

theorem mayReap {active : List ComputeInstance} {world : World} (inv : Inv setup policy world)
    (overseen : Overseen active world) {vm : ProviderInstance} (sighted : Sighted vm world)
    (unowned : ∀ uuid, AkamaiManager.labelledCompute vm = some uuid →
      ∀ compute, active.find? (fun compute => compute.id.uuid = uuid) = some compute →
        ∃ recorded, compute.providerInstanceId = some recorded ∧ Text.parseU64 recorded ≠ some vm.id) :
    workerRequest world (.deleteInstance vm.id) := by
  intro other member same data provisioned
  obtain rfl := sighted.only other member same
  have label := inv.fleet.tenant other member data provisioned
  obtain ⟨row, stored, named, remote⟩ := inv.tenancy.row other member data.computeInstanceId label
  have parsed : AkamaiManager.labelledCompute other = some data.computeInstanceId.uuid := by
    rw [AkamaiManager.labelledCompute, label]
    exact parse_providerLabel _
  cases listed : active.find? (fun compute => compute.id.uuid = data.computeInstanceId.uuid) with
  | none =>
    refine .inl ?_
    rw [← named]
    refine expendable_of_terminated inv stored fun running => ?_
    obtain ⟨compute, present, known⟩ := overseen.complete row stored running remote
    have absent := List.find?_eq_none.mp listed compute present
    rw [known, named] at absent
    simp at absent
  | some compute =>
    obtain ⟨recorded, known, different⟩ := unowned _ parsed compute listed
    have named' : row.id = compute.id := by
      have sameUuid : compute.id.uuid = data.computeInstanceId.uuid := by
        simpa using List.find?_some listed
      rw [named]
      exact (congrArg ComputeInstanceId.mk sameUuid).symm
    have onRecord := overseen.recorded compute (List.mem_of_find?_eq_some listed) row stored named'
      recorded known
    have another : recorded ≠ toString other.id := by
      rintro rfl
      rw [Text.parseU64_toString, if_pos sighted.bounded] at different
      exact different rfl
    refine .inr ⟨⟨row, stored, named, recorded, onRecord, another⟩, row.serverInstanceId,
      ⟨row, stored, named, rfl⟩, fun started => ?_⟩
    obtain ⟨found, present, owner, prepared⟩ := started_prepared inv started
    have kept := inv.tenancy.recorded other member row stored (by rw [label, named]) found present
      owner prepared
    rw [onRecord] at kept
    injection kept with kept
    exact another kept

def Surveyed (active : List ComputeInstance) (listed : List ProviderInstance) (world : World) : Prop :=
  Overseen active world ∧ ∀ vm ∈ listed, Sighted vm world

theorem Surveyed.steady (active : List ComputeInstance) (listed : List ProviderInstance) :
    Steady setup policy (Surveyed active listed) := by
  rintro before after ⟨overseen, sighted⟩ rely inv
  exact ⟨Overseen.steady active before after overseen rely inv, fun vm member =>
    Sighted.stable worker_rents vm before after (sighted vm member) rely inv⟩

theorem reapOne_works {active : List ComputeInstance} {listed : List ProviderInstance}
    {vm : ProviderInstance} (member : vm ∈ listed) :
    Works setup policy (Surveyed active listed) (AkamaiManager.reapOne active vm)
      fun _ => Surveyed active listed := by
  have steady : Steady setup policy (Surveyed active listed) := Surveyed.steady active listed
  have removed : (∀ uuid, AkamaiManager.labelledCompute vm = some uuid →
      ∀ compute, active.find? (fun compute => compute.id.uuid = uuid) = some compute →
        ∃ recorded, compute.providerInstanceId = some recorded ∧ Text.parseU64 recorded ≠ some vm.id) →
      Works setup policy (Surveyed active listed) (AkamaiClient.request (.deleteInstance vm.id))
        fun _ => Surveyed active listed := fun unowned =>
    Does.raising ((calm_keeps steady (.provider (.deleteInstance vm.id)) rfl
      fun world inv held => mayReap inv held.1 (held.2 vm member) unowned).weaken fun _ _ held _ _ => held)
  unfold AkamaiManager.reapOne
  cases labelled : AkamaiManager.labelledCompute vm with
  | none => exact removed fun uuid same => by rw [labelled] at same; cases same
  | some uuid =>
    dsimp only
    cases found : active.find? (fun compute => compute.id.uuid = uuid) with
    | none =>
      refine removed fun other same compute present => ?_
      rw [labelled] at same
      injection same with same
      rw [← same, found] at present
      cases present
    | some compute =>
      dsimp only
      have listed' := List.mem_of_find?_eq_some found
      cases known : compute.providerInstanceId with
      | none =>
        refine Does.bind _ (clock_works steady _) fun now => ?_
        refine Does.bind (fun _ => Surveyed active listed) ?_ fun _ => Does.pure fun _ held => held
        refine Does.raising (Triple.perform steady fun world inv held => ?_)
        refine ⟨⟨trivial, fun row stored named other present owner prepared machine running label => ?_,
          vm, (held.2 vm member).bounded, rfl, rfl⟩, fun choice _ _ => ?_⟩
        · exact absurd label (held.1.free compute listed' known row stored named other present owner
            prepared machine running)
        · refine ⟨recordProviderInstance_oversees held.1 listed' known choice, fun other present => ?_⟩
          have sighted := held.2 other present
          simp only [exec, execDb]
          split <;> exact ⟨sighted.old, sighted.bounded, sighted.only⟩
      | some recorded =>
        refine Does.ite (fun _ => Does.pure fun _ held => held) fun different => ?_
        refine removed fun other same compute' present => ?_
        rw [labelled] at same
        injection same with same
        rw [← same, found] at present
        injection present with present
        exact ⟨recorded, present ▸ known, different⟩

theorem reapEach_works (active : List ComputeInstance) {listed rest : List ProviderInstance}
    (part : rest ⊆ listed) :
    Works setup policy (Surveyed active listed) (AkamaiManager.reapEach active rest) fun _ _ => True := by
  induction rest with
  | nil => exact Does.pure fun _ _ => trivial
  | cons vm others ih =>
    obtain ⟨first, remaining⟩ := List.cons_subset.mp part
    exact Does.bind _ (reapOne_works first) fun _ => ih remaining

theorem akamai_reapOrphans_works (manager : AkamaiManager) (active : List ComputeInstance) :
    Works setup policy (Overseen active) (manager.reapOrphans active) fun _ _ => True := by
  refine Does.bind _ (Does.ofExcept fun _ _ _ held => held) fun _ => ?_
  refine Does.bind _ (listManagedInstances_sights worker_rents (Overseen.steady active)
    manager.config.scope) fun listed => ?_
  exact (reapEach_works active (List.Subset.refl listed)).strengthen fun world held =>
    ⟨held.1, fun vm member => (held.2 vm member).1⟩

theorem listActiveAkamai_oversees {E : Type} (into : RepositoryError → E) :
    Works setup policy (fun _ => True) (db into .listActiveAkamai)
      fun (active : List ComputeInstance) world => Overseen active world := by
  refine Does.raising ((calm_step (Contract.Stable.const True) (.db .listActiveAkamai) rfl
    (fun _ _ _ => lookup_issuable rfl _) (fun (result : Except RepositoryError (List ComputeInstance))
      world => ∀ active, result = .ok active → Overseen active world) ?_).weaken
    fun _ _ held => held.2)
  intro world choice inv _ active accepted
  obtain ⟨answered, after⟩ := exec_db_value accepted
  rw [after]
  have sound := listActiveAkamai_sound answered
  have same : ∀ compute ∈ active, ∀ row ∈ world.db.computeInstances, row.id = compute.id →
      row.providerInstanceId = compute.providerInstanceId := by
    intro compute listed row member named
    obtain ⟨other, stored, -, -, rfl⟩ := sound compute listed
    rw [inv.history.current.keyed.computeIds.eq_of_key member stored named]
  refine ⟨fun row member running remote => ?_, fun compute listed row member named recorded known => ?_,
    fun compute listed unknown row member named found stored owner prepared vm running label => ?_,
    fun first left second right named => ?_⟩
  · exact ⟨row.toComputeInstance, listActiveAkamai_complete answered row member running remote, rfl⟩
  · exact (same compute listed row member named).trans known
  · have recorded := inv.tenancy.recorded vm running row member (by rw [label, named]) found stored
      owner prepared
    rw [same compute listed row member named, unknown] at recorded
    cases recorded
  · obtain ⟨row, member, -, -, rfl⟩ := sound first left
    exact same second right row member named

theorem startUp_works (manager : ComputeManager) (reapLocal : Bool) :
    Works setup policy (fun _ => True) (startUp manager reapLocal) fun _ _ => True := by
  have first : ∀ next : Reconcile Unit, Works setup policy (fun _ => True) next (fun _ _ => True) →
      Works setup policy (fun _ => True) (Try.bind (db .repository .listActiveLocalOwnership) fun active =>
        Try.bind (Try.raising (fun error => .compute (.local error)) (manager.localProcess.reapOrphans active))
          fun _ => next) fun _ _ => True := by
    intro next onward
    refine Does.bind _ (lookup_works (Contract.Stable.const True) _ .listActiveLocalOwnership rfl
      (fun (active : List (ComputeInstanceId × ServerInstanceId)) db =>
        ∀ row ∈ db.computeInstances, row.terminatedAt = none → row.provider = .localProcess →
          (row.id, row.serverInstanceId) ∈ active) fun world active _ _ answered =>
        listActiveLocalOwnership_complete answered)
      fun (active : List (ComputeInstanceId × ServerInstanceId)) => ?_
    exact Does.bind _ ((Does.raising (local_reapOrphans_works manager.localProcess
      active)).strengthen fun world held => ⟨held.2⟩) fun _ => onward
  have done : Works setup policy (fun _ => True) (Pure.pure () : Reconcile Unit) fun _ _ => True :=
    Does.pure fun _ _ => trivial
  unfold startUp
  cases manager.akamai with
  | none => exact Does.ite (fun _ => first _ done) fun _ => done
  | some akamai =>
    have remote : Works setup policy (fun _ => True) (if akamai.config.reapOrphansOnStart then
        Try.bind (db .repository .listActiveAkamai) fun (active : List ComputeInstance) =>
          Try.raising (fun error => .compute (.akamai error)) (akamai.reapOrphans active)
        else Pure.pure () : Reconcile Unit) fun _ _ => True := by
      refine Does.ite (fun _ => ?_) fun _ => done
      refine Does.bind _ (listActiveAkamai_oversees _) fun (active : List ComputeInstance) => ?_
      exact Does.raising (akamai_reapOrphans_works akamai active)
    exact Does.ite (fun _ => first _ remote) fun _ => remote

end Orphans

end McServer.System
