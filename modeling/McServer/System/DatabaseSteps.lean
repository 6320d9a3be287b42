import McServer.System.Keeping

set_option autoImplicit false

namespace McServer.System

open Domain Store Agent ControlPlane

theorem dbEntries_length (op : DbOp) (result : Except RepositoryError op.Value) :
    (dbEntries op result).length ≤ 1 := by
  unfold dbEntries
  split
  · rename_i published
    cases published <;> simp
  · rename_i touched
    cases touched <;> simp
  · rename_i touched
    cases touched <;> simp
  · simp
  · simp

theorem dbEntries_noStart {op : DbOp} {result : Except RepositoryError op.Value}
    (id : ServerInstanceId) : ¬ Started (dbEntries op result) id := by
  rintro ⟨entry, member, starts⟩
  unfold dbEntries at member
  split at member
  · rename_i published
    cases published <;> simp at member
    simp [member, isStartOf] at starts
  · rename_i touched
    cases touched <;> simp at member
    simp [member, isStartOf] at starts
  · rename_i touched
    cases touched <;> simp at member
    simp [member, isStartOf] at starts
  · rw [List.mem_singleton.mp member] at starts
    cases starts
  · cases member

theorem mem_updateComputes {selects : ComputeRow → Bool} {set : ComputeRow → ComputeRow}
    {db : Database} (touched : (touchedOne (updateComputes selects set) db).1 = .ok true) :
    ∃ row ∈ db.computeInstances, selects row = true ∧
      set row ∈ (touchedOne (updateComputes selects set) db).2.computeInstances := by
  obtain ⟨stored, row, member, chosen⟩ := touchedOne_true touched
  refine ⟨row, member, chosen, ?_⟩
  rw [stored]
  exact Table.mem_update.mpr ⟨row, member, .inl ⟨chosen, rfl⟩⟩

theorem map_authentication_accepted {result : Except RepositoryError Bool}
    (accepted : result.map ComputeInstanceRepository.authentication = .ok .accepted) :
    result = .ok true := by
  rcases result with error | touched
  · cases accepted
  · cases touched with
    | false => cases accepted
    | true => rfl

open ComputeInstanceRepository in
theorem authenticateAgent_accepted {id : ComputeInstanceId} {provider : ComputeProvider}
    {token : String} {der : Option (List UInt8)} {now : UnixTimestampMillis} {db : Database}
    (checked : ∀ row ∈ db.computeInstances, row.check = true)
    (accepted : (authenticateAgent id provider token der now db).1 = .ok .accepted) :
    Authentic (authenticateAgent id provider token der now db).2 id provider token der now := by
  cases provider with
  | localProcess =>
    obtain ⟨row, member, chosen, stored⟩ := mem_updateComputes (map_authentication_accepted accepted)
    simp only [Bool.and_eq_true, decide_eq_true_eq] at chosen
    exact ⟨_, stored, chosen.1.1.1, chosen.1.1.2, chosen.1.2, nofun⟩
  | akamai =>
    cases der with
    | none => cases accepted
    | some der =>
      obtain ⟨row, member, chosen, stored⟩ := mem_updateComputes (map_authentication_accepted accepted)
      simp only [Bool.and_eq_true, decide_eq_true_eq, Option.any_eq_true] at chosen
      obtain ⟨⟨⟨⟨⟨named, remote⟩, sameToken⟩, leaf⟩, expires, stamped, unexpired⟩, -⟩ := chosen
      have csr : row.agentCsrPem.isSome := csr_of_certificate (checked row member) (by simp [leaf])
      exact ⟨_, stored, named, remote, sameToken, fun _ => ⟨rfl, csr, rfl, leaf, expires, stamped, unexpired⟩⟩

section Statement

variable {setup : Setup} {policy : Policy setup} {world : World} {op : DbOp}

def applied (op : DbOp) (world : World) : World :=
  (world.store (op.query world.db).2).note (dbEntries op (op.query world.db).1)

theorem applied_persists (inv : Inv setup policy world) (allowed : op.Allowed world.db) :
    Persists world (applied op world) := by
  have evolved := (query_effect allowed).evolved inv.history.current.keyed
  exact Quiet.persists (Quiet.same rfl rfl) evolved (dbEntries op (op.query world.db).1) rfl dbEntries_noStart

theorem applied_explained (inv : Inv setup policy world) (issuable : Issuable setup policy world op) :
    ∀ entry ∈ dbEntries op (op.query world.db).1,
      Explained policy.issuers (applied op world) world.log entry := by
  have persists := applied_persists inv issuable.1
  obtain ⟨allowed, legitimate, -⟩ := issuable
  intro entry member
  unfold dbEntries at member
  split at member
  · rename_i published result
    cases published <;> simp at member
    subst member
    exact Provenance.persists legitimate persists
  · rename_i touched result
    cases touched <;> simp at member
    subst member
    exact Spared.accounted legitimate persists
  · rename_i touched result
    cases touched <;> simp at member
    subst member
    exact Expendable.accounted legitimate persists
  · rename_i accepted
    rw [List.mem_singleton.mp member]
    exact authenticateAgent_accepted inv.history.current.allocation.checked accepted
  · cases member

theorem applied_log (inv : Inv setup policy world) (issuable : Issuable setup policy world op) :
    ExplainedLog policy.issuers (applied op world) := by
  have persists := applied_persists inv issuable.1
  refine inv.log.extend persists (dbEntries op (op.query world.db).1) rfl fun recent entry older split => ?_
  have short := dbEntries_length op (op.query world.db).1
  rw [split] at short
  obtain rfl : older = [] := by
    cases older with
    | nil => rfl
    | cons head rest =>
      simp only [List.length_append, List.length_cons] at short
      omega
  exact applied_explained inv issuable entry (by rw [split]; simp)

theorem applied_tenancy (inv : Inv setup policy world) (issuable : Issuable setup policy world op) :
    Tenancy (op.query world.db).2 world.provider := by
  obtain ⟨allowed, legitimate, -⟩ := issuable
  have effect := query_effect allowed
  have keyed := inv.history.current.keyed
  constructor
  · intro vm present compute labelled
    obtain ⟨row, member, named, remote⟩ := inv.tenancy.row vm present compute labelled
    obtain ⟨new, stored, same⟩ := (effect.evolved keyed).computes row member
    exact ⟨new, stored, same.id.trans named, same.provider.trans remote⟩
  · intro vm present row member labelled found stored owned prepared
    rcases effect.compute_origin member with ⟨old, member', step⟩ | created
    · rcases effect.instance_origin stored with ⟨found', stored', step'⟩ | created'
      · rw [step.id] at labelled
        rw [step'.id, step.owner] at owned
        rcases step'.prepared prepared with before | ⟨now, rfl⟩
        · rcases step.recorded with same | ⟨recorded, ipv4, now, rfl, written⟩
          · rw [same]
            exact inv.tenancy.recorded vm present old member' labelled found' stored' owned before
          · rw [written, legitimate old member' rfl found' stored' owned before vm present labelled]
        · -- Only the instance is written, so the compute's row is what it was.
          have written := legitimate old member' owned.symm vm present labelled
          rcases step.recorded with same | ⟨recorded, ipv4, now', other, -⟩
          · rw [same, written]
          · cases other
      · rw [created'.unprepared] at prepared
        cases prepared
    · obtain ⟨old, member', named, -⟩ := inv.tenancy.row vm present row.id labelled
      exact absurd named (created.fresh old member')

theorem applied_specified (inv : Inv setup policy world)
    (issuable : Issuable setup policy world op) : Specified policy (op.query world.db).2 := by
  obtain ⟨allowed, legitimate, -⟩ := issuable
  have effect := query_effect allowed
  have evolved := effect.evolved inv.history.current.keyed
  constructor
  · intro new member
    rcases effect.server_origin member with ⟨old, present, id, name, spec⟩ | created
    · rcases spec with same | ⟨server, previous, rfl, named, written⟩
      · rw [name, same]
        exact inv.specified.servers old present
      · rw [name, written]
        exact legitimate old present named.symm
    · rw [created] at legitimate
      exact legitimate
  · intro new member
    rcases effect.instance_origin member with ⟨old, present, step⟩ | created
    · obtain ⟨server, known, owner, admissible⟩ := inv.specified.instances old present
      obtain ⟨server', stored, same⟩ := evolved.servers server known
      refine ⟨server', stored, ?_, ?_⟩
      · rw [same.id, owner, step.server]
      · rw [same.name, step.spec]
        exact admissible
    · obtain ⟨server, known, owner, spec⟩ := created.server
      obtain ⟨server', stored, same⟩ := evolved.servers server known
      refine ⟨server', stored, same.id.trans owner, ?_⟩
      rw [same.name, spec]
      exact inv.specified.servers server known

theorem applied_results (inv : Inv setup policy world) (allowed : op.Allowed world.db) :
    ∀ row ∈ (op.query world.db).2.serverInstances, ∀ snapshotId, row.resultSnapshotId = some snapshotId →
      .committed row.id snapshotId ∈ dbEntries op (op.query world.db).1 ++ world.log := by
  intro row member snapshotId result
  rcases (query_effect allowed).instance_origin member with ⟨old, present, step⟩ | created
  · rw [step.id]
    rcases step.result with same | ⟨token, written, now, rfl, stored, done⟩
    · refine List.mem_append_right _ (inv.results old present snapshotId ?_)
      rw [← same, result]
    · refine List.mem_append_left _ ?_
      obtain rfl : written = snapshotId := Option.some.inj (stored.symm.trans result)
      simp only [DbOp.query, done, dbEntries, cond_true, List.mem_singleton]
  · rw [created.unpublished] at result
    cases result

theorem applied_terminated (inv : Inv setup policy world) (issuable : Issuable setup policy world op) :
    ∀ row ∈ (op.query world.db).2.computeInstances, row.terminatedAt.isSome →
      Spared (applied op world) row.serverInstanceId := by
  have persists := applied_persists inv issuable.1
  obtain ⟨allowed, legitimate, -⟩ := issuable
  intro row member gone
  rcases (query_effect allowed).compute_origin member with ⟨old, present, step⟩ | created
  · rw [step.owner]
    rcases step.terminated gone with before | ⟨result, message, now, rfl⟩
    · exact (inv.terminated old present before).persists persists
    · obtain ⟨id, allocated, spared⟩ := legitimate
      obtain rfl : id = old.serverInstanceId :=
        allocated.unique inv.history.current.keyed ⟨old, present, rfl, rfl⟩
      exact spared.persists persists
  · rw [created.active] at gone
    cases gone

theorem applied_keeps (inv : Inv setup policy world) (issuable : Issuable setup policy world op) :
    Inv setup policy (applied op world) where
  history := inv.history.statement issuable.1
  log := applied_log inv issuable
  agents := inv.agents.quiet (applied_persists inv issuable.1) (Quiet.same rfl rfl)
  fleet := inv.fleet
  tenancy := applied_tenancy inv issuable
  specified := applied_specified inv issuable
  results := applied_results inv issuable.1
  terminated := applied_terminated inv issuable
  directories compute member := by
    obtain ⟨row, present, named, here⟩ := inv.directories compute member
    obtain ⟨new, stored, same⟩ := (applied_persists inv issuable.1).evolved.computes row present
    exact ⟨new, stored, same.id.trans named, same.provider.trans here⟩

theorem unapplied_keeps (inv : Inv setup policy world) : Inv setup policy (world.store world.db) := by
  have persists : Persists world (world.store world.db) :=
    Quiet.persists (Quiet.same rfl rfl) (Evolved.refl world.db) [] rfl (by simp [Started])
  exact { history := inv.history.extend inv.history.current (Advance.refl _) (Evolved.refl _)
          log := inv.log.same persists rfl
          agents := inv.agents.quiet persists (Quiet.same rfl rfl)
          fleet := inv.fleet
          tenancy := inv.tenancy
          specified := inv.specified
          results := inv.results
          terminated := fun row member gone => (inv.terminated row member gone).persists persists
          directories := inv.directories }

theorem execDb_cases (op : DbOp) (choice : Choice) (world : World) :
    execDb op choice world = (.error .database, world.store world.db) ∨
      (execDb op choice world).2 = applied op world ∧ ((execDb op choice world).1 = (op.query world.db).1 ∨
          (execDb op choice world).1 = .error .database) := by
  unfold execDb
  cases choice.fault with
  | none => exact .inr ⟨rfl, .inl rfl⟩
  | before => exact .inl rfl
  | after => exact .inr ⟨rfl, .inr rfl⟩

theorem execDb_keeps (inv : Inv setup policy world) (issuable : Issuable setup policy world op)
    (choice : Choice) : Inv setup policy (execDb op choice world).2 := by
  rcases execDb_cases op choice world with failed | ⟨done, -⟩
  · rw [failed]
    exact unapplied_keeps inv
  · rw [done]
    exact applied_keeps inv issuable

end Statement

theorem exec_db_value {op : DbOp} {choice : Choice} {world : World} {value : op.Value}
    (accepted : (exec (.db op) choice world).1 = .ok value) :
    (op.query world.db).1 = .ok value ∧ (exec (.db op) choice world).2 = applied op world := by
  simp only [exec] at accepted ⊢
  rcases execDb_cases op choice world with failed | ⟨done, answered | lost⟩
  · rw [failed] at accepted
    cases accepted
  · rw [answered] at accepted
    exact ⟨accepted, done⟩
  · rw [lost] at accepted
    cases accepted

def isLookup : DbOp → Bool
  | .getServer _ | .getServerByName _ | .hasActiveInstance _ | .getInstance _ => true
  | .getActiveInstance _ | .getCompute _ | .getActiveCompute _ => true
  | .listActiveLocalOwnership | .listActiveAkamai | .getAgentEnrollment _ _ => true
  | _ => false

theorem lookup_unchanged {op : DbOp} (lookup : isLookup op = true) (db : Database) : (op.query db).2 = db := by
  cases op <;> first | rfl | cases lookup

theorem lookup_issuable {setup : Setup} {policy : Policy setup} {op : DbOp} (lookup : isLookup op = true) (world : World) :
    Issuable setup policy world op := by
  cases op <;> first | exact ⟨trivial, trivial, trivial⟩ | cases lookup

end McServer.System
