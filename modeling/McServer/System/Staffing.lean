import McServer.System.Processes
import McServer.System.Publication

set_option autoImplicit false

namespace McServer.System

open Domain Store Agent ControlPlane Interleaving

-- An agent that was just started is lost when the clock fails or the kill does.
def Benign (manager : LocalManager) : Op → Choice → Tracked → Prop
  | .clock, choice, state => (∀ error, choice.now ≠ .error error) ∨ Staffed manager none state
  | .machine (.killChild _), choice, state => choice.fault ≠ .before ∨ Staffed manager none state
  | .machine (.spawnAgent _ _), choice, _ => choice.fault ≠ .after
  | _, _, _ => True

def staffing (manager : LocalManager) : Watch Op Choice Tracked where
  base _ := True
  rest := Staffed manager none
  drift _ := Beside
  admits := Benign manager
  guard op state := ∀ compute token, op = .machine (.spawnAgent compute token) →
    ∀ processId, ¬Live state compute processId

def Enduring (held : Tracked → Prop) : Prop := ∀ before after, Beside before after → held before → held after

theorem Enduring.and {first second : Tracked → Prop} (left : Enduring first) (right : Enduring second) :
    Enduring fun state => first state ∧ second state :=
  fun before after beside holds => ⟨left before after beside holds.1, right before after beside holds.2⟩

structure Settled (manager : LocalManager) (kept : List Tenant) (state : Tracked) : Prop where
  staffed : Staffed manager none state
  kept : ∀ row ∈ kept, row ∈ tenants state.world.db

def Vacated (compute : ComputeInstanceId) (state : Tracked) : Prop :=
  ∀ processId, ¬Live state compute processId

def Only (compute : ComputeInstanceId) (processId : Nat) (state : Tracked) : Prop :=
  ∀ other, Live state compute other → other = processId

def Unheld (compute : ComputeInstanceId) (state : Tracked) : Prop :=
  state.world.machine.children compute = none

def occupant (compute : ComputeInstance) : Tenant :=
  { id := compute.id, provider := compute.provider, processId := compute.processId, active := true }

section Enduring

variable {manager : LocalManager} {kept : List Tenant} {compute : ComputeInstanceId} {processId : Nat}

theorem Settled.enduring : Enduring (Settled manager kept) := by
  intro before after beside settled
  refine ⟨beside.staffed settled.staffed, fun row member => ?_⟩
  rw [beside.rows]
  exact settled.kept row member

theorem Vacated.enduring : Enduring (Vacated compute) :=
  fun _ _ beside vacated processId live => vacated processId (beside.live live)

theorem Only.enduring : Enduring (Only compute processId) :=
  fun _ _ beside only other live => only other (beside.live live)

theorem Unheld.enduring : Enduring (Unheld compute) := by
  intro before after beside unheld
  cases held : after.world.machine.children compute with
  | none => exact held
  | some child =>
    have earlier := beside.children compute child held
    rw [unheld] at earlier
    cases earlier

theorem Settled.tail {row : Tenant} {state : Tracked} (settled : Settled manager (row :: kept) state) :
    Settled manager kept state :=
  ⟨settled.staffed, fun other member => settled.kept other (List.mem_cons_of_mem _ member)⟩

theorem Staffed.settled {state : Tracked} (staffed : Staffed manager none state) : Settled manager [] state :=
  ⟨staffed, nofun⟩

end Enduring

section Permits

variable {manager : LocalManager} {held : Tracked → Prop}

theorem harmless_permits {op : Op} (enduring : Enduring held)
    (harmless : ∀ choice state, Beside state (trackedExec op choice state).2)
    (unspawned : ∀ compute token, op ≠ .machine (.spawnAgent compute token)) :
    (staffing manager).Permits trackedExec held op := by
  intro state later holds drift _
  refine ⟨fun compute token same => absurd same (unspawned compute token), fun choice _ => ?_⟩
  exact enduring _ _ (harmless choice later) (enduring _ _ drift holds)

theorem plain_permits (enduring : Enduring held) (op : Op) (plain : isPlain op = true) :
    (staffing manager).Permits trackedExec held op := by
  refine harmless_permits enduring (plain_beside plain) ?_
  rintro compute token rfl
  cases plain

theorem request_permits (enduring : Enduring held) (op : ProviderOp) :
    (staffing manager).Permits trackedExec held (.provider op) :=
  harmless_permits enduring (request_beside op) nofun

theorem look_permits (enduring : Enduring held) (op : LocalOp) (look : isLook op = true) :
    (staffing manager).Permits trackedExec held (.machine op) := by
  have harmless : settles op = false := by cases op <;> first | rfl | cases look
  exact harmless_permits enduring (machine_beside harmless) (unspawned harmless)

end Permits

theorem Staffed.enduring {manager : LocalManager} : Enduring (Staffed manager none) :=
  fun _ _ beside staffed => beside.staffed staffed

section Rows

variable {manager : LocalManager} {kept : List Tenant} {before after : Tracked}

theorem Staffed.same (staffed : Staffed manager none before) (owner : after.owner = before.owner)
    (machine : after.world.machine = before.world.machine)
    (rows : tenants after.world.db = tenants before.world.db) : Staffed manager none after :=
  (Beside.of_same owner rows machine).staffed staffed

theorem Settled.same (settled : Settled manager kept before) (owner : after.owner = before.owner)
    (machine : after.world.machine = before.world.machine)
    (rows : tenants after.world.db = tenants before.world.db) : Settled manager kept after :=
  Settled.enduring before after (.of_same owner rows machine) settled

theorem Settled.allotted (settled : Settled manager kept before) (owner : after.owner = before.owner)
    (machine : after.world.machine = before.world.machine) {new : Tenant}
    (rows : tenants after.world.db = tenants before.world.db ++ [new])
    (fresh : ∀ old ∈ tenants before.world.db, old.id ≠ new.id) : Settled manager kept after := by
  have ids : Table.Unique Tenant.id (tenants after.world.db) := by
    rw [rows]
    exact settled.staffed.ids.insert fresh
  refine ⟨settled.staffed.rewritten owner machine ids (fun old member => ?_) ?_, fun row member => ?_⟩
  · exact ⟨old, by rw [rows]; exact List.mem_append_left _ member, rfl, rfl, fun _ => rfl⟩
  · rintro compute ⟨old, member, rfl⟩ ⟨row, present, same, active⟩
    rw [rows] at present
    rcases List.mem_append.mp present with old' | new'
    · exact ⟨row, old', same, active⟩
    · rw [List.mem_singleton.mp new'] at same
      exact absurd same.symm (fresh old member)
  · rw [rows]
    exact List.mem_append_left _ (settled.kept row member)

theorem mapped_ids {rows : List Tenant} (unique : Table.Unique Tenant.id rows) {change : Tenant → Tenant}
    (same : ∀ old, (change old).id = old.id) : Table.Unique Tenant.id (rows.map change) := by
  have kept : rows.map (Tenant.id ∘ change) = rows.map Tenant.id := List.map_congr_left fun old _ => same old
  rwa [Table.Unique, List.map_map, kept]

theorem ended_id (id : ComputeInstanceId) (old : Tenant) : (old.ended id).id = old.id := by
  unfold Tenant.ended
  split <;> rfl

theorem Staffed.ended (staffed : Staffed manager none before) (owner : after.owner = before.owner)
    (machine : after.world.machine = before.world.machine) {id : ComputeInstanceId}
    (rows : tenants after.world.db = (tenants before.world.db).map (Tenant.ended id)) :
    Staffed manager none after := by
  have ids : Table.Unique Tenant.id (tenants after.world.db) := by
    rw [rows]
    exact mapped_ids staffed.ids (ended_id id)
  refine staffed.rewritten owner machine ids (fun old member => ?_) ?_
  · refine ⟨old.ended id, by rw [rows]; exact List.mem_map_of_mem member, ended_id id old, ?_, fun _ => ?_⟩ <;>
    · unfold Tenant.ended
      split <;> rfl
  · rintro compute - ⟨row, present, rfl, active⟩
    rw [rows] at present
    obtain ⟨old, member, rfl⟩ := List.mem_map.mp present
    refine ⟨old, member, (ended_id id old).symm, ?_⟩
    unfold Tenant.ended at active
    split at active
    · cases active
    · exact active

theorem allot_permits (id : ComputeInstanceId) (owner : ServerInstanceId) (provider : ComputeProvider)
    (token : String) (enrollment : Option String) (now : UnixTimestampMillis) :
    (staffing manager).Permits trackedExec (Settled manager kept)
      (.db (.insertCompute id owner provider token enrollment now)) := by
  intro state later settled drift _
  refine ⟨nofun, fun choice _ => ?_⟩
  have settled := Settled.enduring state later drift settled
  have elsewhere : ∀ request, Op.db (.insertCompute id owner provider token enrollment now) ≠ .machine request :=
    nofun
  have machine := exec_machine elsewhere choice later.world
  rcases execDb_written (.insertCompute id owner provider token enrollment now) choice later.world with
    same | written
  · exact settled.same rfl machine (congrArg tenants same)
  · rcases insertCompute_tenants id owner provider token enrollment now later.world.db with
      ⟨same, -⟩ | ⟨new, rows, fresh, -⟩
    · exact settled.same rfl machine ((congrArg tenants written).trans same)
    · exact settled.allotted rfl machine ((congrArg tenants written).trans rows) fresh

theorem end_permits (id : ComputeInstanceId) (result : ComputeTerminalResult) (message : Option String)
    (now : UnixTimestampMillis) :
    (staffing manager).Permits trackedExec (Staffed manager none)
      (.db (.terminateCompute id result message now)) := by
  intro state later staffed drift _
  refine ⟨nofun, fun choice _ => ?_⟩
  have staffed := drift.staffed staffed
  have elsewhere : ∀ request, Op.db (.terminateCompute id result message now) ≠ .machine request := nofun
  have machine := exec_machine elsewhere choice later.world
  rcases execDb_written (.terminateCompute id result message now) choice later.world with same | written
  · exact staffed.same rfl machine (congrArg tenants same)
  · rcases terminateCompute_tenants id result message now later.world.db with same | rows
    · exact staffed.same rfl machine ((congrArg tenants written).trans same)
    · exact staffed.ended rfl machine ((congrArg tenants written).trans rows)

theorem settled_lenient : Lenient (staffing manager) trackedExec (Settled manager kept) where
  plain := plain_permits Settled.enduring
  asks op _ := request_permits Settled.enduring op
  allots := allot_permits

theorem staffed_lenient : Lenient (staffing manager) trackedExec (Staffed manager none) where
  plain := plain_permits Staffed.enduring
  asks op _ := request_permits Staffed.enduring op
  allots id owner provider token enrollment now state later staffed drift base := by
    obtain ⟨guard, onward⟩ :=
      allot_permits id owner provider token enrollment now state later staffed.settled drift base
    exact ⟨guard, fun choice admitted => (onward choice admitted).staffed⟩

end Rows

section Looks

variable {manager : LocalManager} {held : Tracked → Prop} {compute : ComputeInstanceId} {processId : Nat}

variable {state : Tracked} {file : LocalRuntimeState}

theorem answer_safe {op : LocalOp} (harmless : settles op = false) (enduring : Enduring held)
    {post : Except LocalComputeError op.Value → Tracked → Prop} (holds : held state)
    (failed : ∀ error later, held later → post (.error error) later)
    (answered : ∀ choice later, held later → held { later with world := (applyLocal op choice later.world).2 } →
      post (.ok (applyLocal op choice later.world).1)
        { later with world := (applyLocal op choice later.world).2 }) :
    (staffing manager).Safe trackedExec (LocalManager.ask op) post state := by
  intro later drift _
  have holds := enduring _ _ drift holds
  refine ⟨fun compute token same => ?_, fun choice _ => ?_⟩
  · exact absurd same (unspawned harmless compute token)
  · have applied := enduring _ _ (applyLocal_beside harmless choice later) holds
    simp only [trackedExec, owners_same (unspawned harmless), exec, execLocal]
    cases choice.fault with
    | none => exact answered choice later holds applied
    | before => exact failed _ _ holds
    | after => exact failed _ _ applied

theorem ask_safe {B : Type} {op : LocalOp} (harmless : settles op = false) (enduring : Enduring held)
    {next : op.Value → Flow LocalComputeError B} {post : Except LocalComputeError B → Tracked → Prop}
    (holds : held state)
    (failed : ∀ error later, held later → post (.error error) later)
    (onward : ∀ choice later, held later → held { later with world := (applyLocal op choice later.world).2 } →
      (staffing manager).Safe trackedExec (next (applyLocal op choice later.world).1) post
        { later with world := (applyLocal op choice later.world).2 }) :
    (staffing manager).Safe trackedExec (Try.bind (LocalManager.ask op) next) post state :=
  Watch.Safe.bind (answer_safe harmless enduring holds failed onward)

def Vouching (manager : LocalManager) (compute : ComputeInstanceId) (processId : Nat)
    (file : LocalRuntimeState) (state : Tracked) : Prop :=
  Live state compute processId → Vouched manager state compute processId file

theorem Vouching.enduring : Enduring (Vouching manager compute processId file) :=
  fun _ _ beside vouching live => beside.vouched live (vouching (beside.live live))

theorem runtimeProcessMatches_safe (enduring : Enduring held)
    (vouching : ∀ state, held state → Vouching manager compute processId file state)
    (holds : held state) :
    (staffing manager).Safe trackedExec (LocalManager.runtimeProcessMatches file)
      (fun result later => held later ∧ (result = .ok false → ¬Live later compute processId)) state := by
  have failed : ∀ (error : LocalComputeError) later, held later → held later ∧
      (Except.error error = Except.ok false → ¬Live later compute processId) :=
    fun _ _ holds => ⟨holds, nofun⟩
  refine ask_safe rfl enduring holds failed fun _ first _ holds => ?_
  dsimp only [applyLocal] at holds ⊢
  split
  · rename_i different
    refine ⟨holds, fun _ live => different ?_⟩
    exact (vouching _ holds live).boot.symm
  · refine ask_safe rfl enduring holds failed fun _ second _ holds => ?_
    dsimp only [applyLocal] at holds ⊢
    cases found : second.world.machine.processes file.processId with
    | none =>
      refine ⟨holds, fun _ live => ?_⟩
      obtain ⟨process, lives⟩ := live.process
      rw [← (vouching _ holds live).process, found] at lives
      cases lives
    | some process =>
      refine ⟨holds, fun mismatch live => ?_⟩
      have vouched := vouching _ holds live
      have ticks := vouched.ticks process (by rw [← vouched.process]; exact found)
      have lives := live.2
      simp only [LocalMachine.processMatches, ← vouched.process, found, Option.any_some] at lives
      injection mismatch with mismatch
      rw [lives, ticks, beq_self_eq_true] at mismatch
      cases mismatch

theorem pollUntilGone_safe (enduring : Enduring held)
    (vouching : ∀ state, held state → Vouching manager compute processId file state) (turns : Nat)
    (holds : held state) :
    (staffing manager).Safe trackedExec (LocalManager.pollUntilGone file turns)
      (fun result later => held later ∧ (result = .ok true → ¬Live later compute processId)) state := by
  induction turns generalizing state with
  | zero => exact ⟨holds, nofun⟩
  | succ turns ih =>
    refine ask_safe rfl enduring holds (fun _ _ holds => ⟨holds, nofun⟩) fun choice later _ holds => ?_
    dsimp only [applyLocal] at holds ⊢
    split
    · exact ⟨holds, nofun⟩
    · refine (runtimeProcessMatches_safe enduring vouching holds).tryBind
        (fun _ _ reached => ⟨reached.1, nofun⟩) fun running later reached => ?_
      cases running with
      | true => exact ih reached.1
      | false => exact ⟨reached.1, fun _ => reached.2 rfl⟩

theorem waitForUntrackedProcessExit_safe (enduring : Enduring held)
    (vouching : ∀ state, held state → Vouching manager compute processId file state)
    (holds : held state) :
    (staffing manager).Safe trackedExec (manager.waitForUntrackedProcessExit file)
      (fun result later => held later ∧ (result = .ok () → ¬Live later compute processId)) state := by
  refine (runtimeProcessMatches_safe enduring vouching holds).tryBind
    (fun _ _ reached => ⟨reached.1, nofun⟩) fun running first reached => ?_
  cases running with
  | false => exact ⟨reached.1, fun _ => reached.2 rfl⟩
  | true =>
    refine ask_safe rfl enduring reached.1 (fun _ _ holds => ⟨holds, nofun⟩) fun choice second _ holds => ?_
    refine (pollUntilGone_safe enduring vouching _ holds).tryBind
      (fun _ _ reached => ⟨reached.1, nofun⟩) fun gone third reached => ?_
    cases gone with
    | true => exact ⟨reached.1, fun _ => reached.2 rfl⟩
    | false =>
      refine ask_safe rfl enduring reached.1 (fun _ _ holds => ⟨holds, nofun⟩) fun choice fourth _ holds => ?_
      refine (pollUntilGone_safe enduring vouching _ holds).tryBind
        (fun _ _ reached => ⟨reached.1, nofun⟩) fun gone last reached => ?_
      cases gone with
      | true => exact ⟨reached.1, fun _ => reached.2 rfl⟩
      | false => exact ⟨reached.1, nofun⟩

theorem loadRuntimeState_safe (enduring : Enduring held) (holds : held state) :
    (staffing manager).Safe trackedExec (LocalManager.loadRuntimeState compute)
      (fun result later => held later ∧
        ∀ stored, result = .ok stored → later.world.machine.runtimeStates compute = stored) state := by
  refine ask_safe rfl enduring holds (fun _ _ holds => ⟨holds, nofun⟩) fun choice later _ holds => ?_
  dsimp only [applyLocal] at holds ⊢
  cases stored : later.world.machine.runtimeStates compute with
  | none => exact ⟨holds, fun _ same => by injection same with same; rw [← same]; exact stored⟩
  | some file =>
    dsimp only
    split
    · exact ⟨holds, nofun⟩
    · exact ⟨holds, fun _ same => by injection same with same; rw [← same]; exact stored⟩

end Looks

section Running

variable {manager : LocalManager} {kept : List Tenant} {compute : ComputeInstance} {state : Tracked}

variable {processId : Nat}

theorem Settled.attested (settled : Settled manager (occupant compute :: kept) state)
    (live : Live state compute.id processId) : Attested manager state compute.id processId :=
  settled.staffed.attested compute.id processId live
    ⟨occupant compute, settled.kept _ List.mem_cons_self, rfl, rfl⟩ nofun

theorem Settled.column (settled : Settled manager (occupant compute :: kept) state)
    (live : Live state compute.id processId) : compute.processId = some processId := by
  obtain ⟨row, member, named, recorded⟩ := (settled.attested live).column
  have same : row = occupant compute :=
    settled.staffed.ids.eq_of_key member (settled.kept _ List.mem_cons_self) named
  rw [same] at recorded
  exact recorded

theorem Settled.vouching (settled : Settled manager (occupant compute :: kept) state)
    {file : LocalRuntimeState} (stored : state.world.machine.runtimeStates compute.id = some file)
    : Vouching manager compute.id processId file state := by
  intro live
  obtain ⟨other, written, vouched⟩ := (settled.attested live).file
  rw [stored] at written
  injection written with same
  rwa [← same] at vouched

theorem Settled.vacated_of_no_file (settled : Settled manager (occupant compute :: kept) state)
    (absent : state.world.machine.runtimeStates compute.id = none) : Vacated compute.id state := by
  intro processId live
  obtain ⟨file, written, -⟩ := (settled.attested live).file
  rw [absent] at written
  cases written

theorem Settled.vacated_of_no_column (settled : Settled manager (occupant compute :: kept) state)
    (absent : compute.processId = none) : Vacated compute.id state := by
  intro processId live
  rw [settled.column live] at absent
  cases absent

theorem Settled.vacated_of_mismatch (settled : Settled manager (occupant compute :: kept) state)
    {file : LocalRuntimeState} (stored : state.world.machine.runtimeStates compute.id = some file)
    (recorded : compute.processId = some processId)
    (mismatch : ¬(decide (file.processId = processId) && manager.belongsTo file compute.id) = true) :
    Vacated compute.id state := by
  intro other live
  have vouched := settled.vouching stored live
  have same := settled.column live
  rw [recorded] at same
  injection same with same
  rw [vouched.process, same, vouched.owner] at mismatch
  simp at mismatch

theorem Settled.vacated_of_dead (settled : Settled manager (occupant compute :: kept) state)
    (recorded : compute.processId = some processId) (dead : ¬Live state compute.id processId) :
    Vacated compute.id state := by
  intro other live
  have same := settled.column live
  rw [recorded] at same
  injection same with same
  rw [same] at dead
  exact dead live

theorem untracked_safe {held : Tracked → Prop} (enduring : Enduring held)
    (settled : ∀ state, held state → Settled manager (occupant compute :: kept) state) {A : Type}
    (absent : A) (look : LocalRuntimeState → Flow LocalComputeError A)
    {post : Except LocalComputeError A → Tracked → Prop}
    (failed : ∀ error later, held later → post (.error error) later)
    (gone : ∀ later, held later → Vacated compute.id later → post (.ok absent) later)
    (recorded : compute.processId = some processId)
    (looks : ∀ file later, held later → later.world.machine.runtimeStates compute.id = some file →
      (staffing manager).Safe trackedExec (look file) post later) (holds : held state) :
    (staffing manager).Safe trackedExec (Try.bind (LocalManager.loadRuntimeState compute.id) fun
      | none => pure absent
      | some file =>
          if file.processId = processId && manager.belongsTo file compute.id then look file
          else pure absent) post state := by
  refine (loadRuntimeState_safe enduring holds).tryBind (fun _ _ reached => failed _ _ reached.1)
    fun stored later reached => ?_
  have written := reached.2 stored rfl
  cases stored with
  | none => exact gone later reached.1 ((settled later reached.1).vacated_of_no_file written)
  | some file =>
    dsimp only
    split
    · exact looks file later reached.1 written
    · rename_i mismatch
      exact gone later reached.1 ((settled later reached.1).vacated_of_mismatch written recorded mismatch)

theorem processIsRunning_safe (settled : Settled manager (occupant compute :: kept) state) :
    (staffing manager).Safe trackedExec (manager.processIsRunning compute)
      (fun result later => Settled manager (occupant compute :: kept) later ∧
        (result = .ok false → Vacated compute.id later ∧ Unheld compute.id later)) state := by
  refine ask_safe rfl Settled.enduring settled (fun _ _ settled => ⟨settled, nofun⟩)
    fun choice later settled applied => ?_
  dsimp only [applyLocal] at applied ⊢
  cases child : later.world.machine.children compute.id with
  | some processId =>
    simp only [child] at applied
    by_cases lives : later.world.machine.processMatches processId = true
    · simp only [if_pos lives]
      exact ⟨settled, nofun⟩
    · simp only [if_neg lives] at applied ⊢
      refine ⟨applied, fun _ => ⟨fun other live => ?_, ?_⟩⟩
      · have same := (settled.attested live).child processId child
        rw [same] at lives
        exact lives live.2
      · exact Function.update_self ..
  | none =>
    have enduring : Enduring fun state =>
        Settled manager (occupant compute :: kept) state ∧ Unheld compute.id state :=
      Settled.enduring.and Unheld.enduring
    dsimp only
    cases recorded : compute.processId with
    | none => exact ⟨settled, fun _ => ⟨settled.vacated_of_no_column recorded, child⟩⟩
    | some processId =>
      refine untracked_safe enduring (fun _ holds => holds.1) false _ (fun _ _ holds => ⟨holds.1, nofun⟩)
        (fun _ holds vacated => ⟨holds.1, fun _ => ⟨vacated, holds.2⟩⟩) recorded
        (fun file later holds stored => ?_) ⟨settled, child⟩
      have vouched : Enduring fun state => (Settled manager (occupant compute :: kept) state ∧
          Unheld compute.id state) ∧ Vouching manager compute.id processId file state :=
        enduring.and Vouching.enduring
      refine (runtimeProcessMatches_safe vouched (fun _ holds => holds.2)
        ⟨holds, holds.1.vouching stored⟩).weaken fun result last reached => ⟨reached.1.1.1, fun dead => ?_⟩
      exact ⟨reached.1.1.1.vacated_of_dead recorded (reached.2 dead), reached.1.1.2⟩

theorem waitForExit_safe (settled : Settled manager (occupant compute :: kept) state) :
    (staffing manager).Safe trackedExec (manager.waitForExit compute)
      (fun result later => Settled manager kept later ∧ (result = .ok () → Vacated compute.id later)) state := by
  refine ask_safe rfl Settled.enduring settled (fun _ _ settled => ⟨settled.tail, nofun⟩)
    fun choice later settled applied => ?_
  dsimp only [applyLocal] at applied ⊢
  cases child : later.world.machine.children compute.id with
  | some processId =>
    have only : Only compute.id processId { later with world := { later.world with
        machine := later.world.machine.setChild compute.id none } } := by
      intro other live
      exact ((settled.attested live).child processId child).symm
    refine answer_safe rfl (Settled.enduring.and Only.enduring) ⟨applied, only⟩
      (fun _ _ holds => ⟨holds.1.tail, nofun⟩) fun choice last holds ended => ⟨ended.1.tail, fun _ other live => ?_⟩
    rw [ended.2 other live] at live
    exact endProcess_dead _ _ live.2
  | none =>
    cases recorded : compute.processId with
    | none => exact ⟨applied.tail, fun _ => applied.vacated_of_no_column recorded⟩
    | some processId =>
      refine untracked_safe Settled.enduring (fun _ settled => settled) () _
        (fun _ _ settled => ⟨settled.tail, nofun⟩) (fun _ settled vacated => ⟨settled.tail, fun _ => vacated⟩)
        recorded (fun file later settled stored => ?_) applied
      have vouched : Enduring fun state => Settled manager (occupant compute :: kept) state ∧
          Vouching manager compute.id processId file state := Settled.enduring.and Vouching.enduring
      refine (waitForUntrackedProcessExit_safe vouched (fun _ holds => holds.2)
        ⟨settled, settled.vouching stored⟩).weaken fun result last reached => ⟨reached.1.1.tail, fun gone => ?_⟩
      exact reached.1.1.vacated_of_dead recorded (reached.2 gone)

end Running

structure Starting (manager : LocalManager) (compute : ComputeInstanceId) (processId : Nat)
    (kept : List Tenant) (state : Tracked) : Prop where
  staffed : Staffed manager (some compute) state
  kept : ∀ row ∈ kept, row ∈ tenants state.world.db
  only : Only compute processId state
  unheld : Unheld compute state

section Starting

variable {manager : LocalManager} {kept : List Tenant} {compute : ComputeInstanceId} {processId : Nat}
  {state : Tracked}

theorem Starting.enduring : Enduring (Starting manager compute processId kept) := by
  intro before after beside starting
  refine ⟨beside.staffed starting.staffed, fun row member => ?_, Only.enduring _ _ beside starting.only,
    Unheld.enduring _ _ beside starting.unheld⟩
  rw [beside.rows]
  exact starting.kept row member

theorem Starting.settled (starting : Starting manager compute processId kept state)
    (vacated : Vacated compute state) : Settled manager kept state := by
  refine ⟨⟨starting.staffed.ids, starting.staffed.known, fun other process live active _ => ?_⟩, starting.kept⟩
  refine starting.staffed.attested other process live active fun same => ?_
  injection same with same
  rw [← same] at live
  exact vacated process live

theorem spawned_live {token : String} {choice : Choice} {other : ComputeInstanceId} {process : Nat}
    (live : Live { world := (applyLocal (.spawnAgent compute token) choice state.world).2
                   owner := Function.update state.owner choice.processId (some compute) } other process) :
    process = choice.processId ∧ other = compute ∨ process ≠ choice.processId ∧ Live state other process := by
  by_cases new : process = choice.processId
  · subst new
    have owned := live.1
    simp only [Function.update_self, Option.some.injEq] at owned
    exact .inl ⟨rfl, owned.symm⟩
  · refine .inr ⟨new, ?_⟩
    simpa [Live, applyLocal, LocalMachine.processMatches, Function.update_of_ne new] using live

theorem spawned_starting (settled : Settled manager kept state) (vacated : Vacated compute state)
    (unheld : Unheld compute state)
    (here : ∃ row ∈ tenants state.world.db, row.id = compute ∧ row.provider = .localProcess) (token : String)
    (choice : Choice) :
    Starting manager compute choice.processId kept
      { world := (applyLocal (.spawnAgent compute token) choice state.world).2
        owner := Function.update state.owner choice.processId (some compute) } := by
  refine ⟨⟨settled.staffed.ids, fun other process live => ?_, fun other process live active different => ?_⟩,
    settled.kept, fun other live => ?_, unheld⟩
  · rcases spawned_live live with ⟨-, rfl⟩ | ⟨-, earlier⟩
    · exact here
    · exact settled.staffed.known other process earlier
  · rcases spawned_live live with ⟨-, rfl⟩ | ⟨old, earlier⟩
    · exact absurd rfl different
    obtain ⟨column, ⟨file, written, vouched⟩, child⟩ :=
      settled.staffed.attested other process earlier active nofun
    refine ⟨column, ⟨file, written, ?_⟩, child⟩
    refine ⟨vouched.version, vouched.process, vouched.owner, vouched.boot, fun found lives => ?_⟩
    refine vouched.ticks found ?_
    simpa [applyLocal, Function.update_of_ne old] using lives
  · rcases spawned_live live with ⟨same, -⟩ | ⟨-, earlier⟩
    · exact same
    · exact absurd earlier (vacated other)

theorem terminateSpawnedChild_safe {A : Type} {post : Except LocalComputeError A → Tracked → Prop}
    (failed : ∀ error later, Settled manager kept later → post (.error error) later)
    (error : LocalComputeError) (starting : Starting manager compute processId kept state) :
    (staffing manager).Safe trackedExec (LocalManager.terminateSpawnedChild processId error) post state := by
  intro later drift _
  have starting := Starting.enduring _ _ drift starting
  refine ⟨nofun, fun choice admitted => failed error _ ?_⟩
  have ended : Settled manager kept { later with
      world := { later.world with machine := later.world.machine.endProcess processId } } := by
    have starting := Starting.enduring _ _ (endProcess_beside later processId) starting
    refine starting.settled fun other live => ?_
    rw [starting.only other live] at live
    exact endProcess_dead _ _ live.2
  simp only [trackedExec, owners, exec, execLocal]
  cases fault : choice.fault with
  | none => exact ended
  | after => exact ended
  | before =>
    rcases admitted with killed | staffed
    · exact absurd fault killed
    · exact ⟨staffed, starting.kept⟩

def Booted (compute : ComputeInstanceId) (processId : Nat) (bootId : String) (state : Tracked) : Prop :=
  Live state compute processId → state.world.machine.bootId = bootId

theorem Booted.enduring {bootId : String} : Enduring (Booted compute processId bootId) := by
  intro before after beside booted live
  obtain ⟨process, lives⟩ := live.process
  rw [(beside.processes processId process lives).2]
  exact booted (beside.live live)

theorem captureRuntimeState_safe {held : Tracked → Prop} (enduring : Enduring held) (holds : held state) :
    (staffing manager).Safe trackedExec (manager.captureRuntimeState processId compute)
      (fun result later => held later ∧
        ∀ file, result = .ok file → Vouching manager compute processId file later) state := by
  refine ask_safe rfl enduring holds (fun _ _ holds => ⟨holds, nofun⟩) fun _ first _ holds => ?_
  have booted : Enduring fun state => held state ∧
      Booted compute processId first.world.machine.bootId state := enduring.and Booted.enduring
  refine ask_safe rfl booted ⟨holds, fun _ => rfl⟩ (fun _ _ holds => ⟨holds.1, nofun⟩) fun _ second _ holds => ?_
  dsimp only [applyLocal] at holds ⊢
  cases found : second.world.machine.processes processId with
  | none => exact ⟨holds.1, nofun⟩
  | some process =>
    refine ⟨holds.1, fun file captured live => ?_⟩
    injection captured with captured
    rw [← captured]
    refine ⟨rfl, rfl, by simp [LocalManager.belongsTo], (holds.2 live).symm, fun other lives => ?_⟩
    dsimp only at lives
    rw [found] at lives
    injection lives with lives
    rw [lives]

theorem Starting.stored (starting : Starting manager compute processId kept state)
    (file : LocalRuntimeState) (choice : Choice) :
    Starting manager compute processId kept { state with
      world := (applyLocal (.storeRuntimeState compute file) choice state.world).2 } := by
  refine ⟨⟨starting.staffed.ids, starting.staffed.known, fun other process live active different => ?_⟩,
    starting.kept, starting.only, starting.unheld⟩
  obtain ⟨column, ⟨old, written, vouched⟩, child⟩ :=
    starting.staffed.attested other process live active different
  refine ⟨column, ⟨old, ?_, vouched.version, vouched.process, vouched.owner, vouched.boot, vouched.ticks⟩, child⟩
  have apart : other ≠ compute := fun same => different (congrArg some same.symm)
  simpa [applyLocal, Function.update_of_ne apart] using written

def Filed (manager : LocalManager) (compute : ComputeInstanceId) (processId : Nat) (state : Tracked) : Prop :=
  ∃ file, state.world.machine.runtimeStates compute = some file ∧ Vouching manager compute processId file state

theorem Filed.enduring : Enduring (Filed manager compute processId) := by
  rintro before after beside ⟨file, written, vouching⟩
  refine ⟨file, ?_, Vouching.enduring _ _ beside vouching⟩
  rw [beside.files]
  exact written

theorem storeRuntimeState_safe {file : LocalRuntimeState}
    (starting : Starting manager compute processId kept state)
    (vouching : Vouching manager compute processId file state) :
    (staffing manager).Safe trackedExec (LocalManager.ask (.storeRuntimeState compute file))
      (fun result later => Starting manager compute processId kept later ∧
        (result = .ok () → Filed manager compute processId later)) state := by
  intro later drift _
  have starting := Starting.enduring _ _ drift starting
  have vouching := Vouching.enduring _ _ drift vouching
  refine ⟨by rintro _ _ ⟨⟩, fun choice _ => ?_⟩
  have stored := starting.stored file choice
  simp only [trackedExec, owners, exec, execLocal]
  cases choice.fault with
  | none =>
    refine ⟨stored, fun _ => ⟨file, Function.update_self .., fun live => ?_⟩⟩
    have vouched := vouching live
    exact ⟨vouched.version, vouched.process, vouched.owner, vouched.boot, vouched.ticks⟩
  | before => exact ⟨starting, by rintro ⟨⟩⟩
  | after => exact ⟨stored, by rintro ⟨⟩⟩

theorem spawnAgent_safe {compute : ComputeInstance} (here : compute.provider = .localProcess)
    (settled : Settled manager (occupant compute :: kept) state) (vacated : Vacated compute.id state)
    (unheld : Unheld compute.id state) :
    (staffing manager).Safe trackedExec (manager.spawnAgent compute) (fun result later => match result with
        | .ok processId => Starting manager compute.id processId kept later ∧ Filed manager compute.id processId later
        | .error _ => Settled manager kept later) state := by
  have enduring : Enduring fun state => Settled manager (occupant compute :: kept) state ∧
      Vacated compute.id state ∧ Unheld compute.id state :=
    Settled.enduring.and (Vacated.enduring.and Unheld.enduring)
  refine ask_safe rfl enduring ⟨settled, vacated, unheld⟩ (fun _ _ holds => holds.1.tail)
    fun choice later _ holds => ?_
  have spawned : (staffing manager).Safe trackedExec
      (LocalManager.ask (.spawnAgent compute.id compute.connectionToken))
      (fun (result : Except LocalComputeError Nat) later => match result with
        | .ok processId => Starting manager compute.id processId kept later
        | .error _ => Settled manager kept later)
      { later with world := (applyLocal (.createStateDirectory compute.id) choice later.world).2 } := by
    intro last drift _
    obtain ⟨settled, vacated, unheld⟩ := enduring _ _ drift holds
    refine ⟨?_, fun choice admitted => ?_⟩
    · rintro _ _ ⟨⟩
      exact vacated
    · have starting := spawned_starting settled.tail vacated unheld
        ⟨occupant compute, settled.kept _ List.mem_cons_self, rfl, here⟩ compute.connectionToken choice
      simp only [trackedExec, owners, exec, execLocal]
      cases fault : choice.fault with
      | none => exact starting
      | before => exact settled.tail
      | after => exact absurd fault admitted
  refine spawned.tryBind (fun _ _ settled => settled) fun processId later starting => ?_
  refine ((captureRuntimeState_safe Starting.enduring starting).weaken fun captured last reached => ?_).bind
  cases captured with
  | error error => exact terminateSpawnedChild_safe (fun _ _ settled => settled) error reached.1
  | ok file =>
    refine ((storeRuntimeState_safe reached.1 (reached.2 file rfl)).weaken fun stored final reached => ?_).bind
    cases stored with
    | error error => exact terminateSpawnedChild_safe (fun _ _ settled => settled) error reached.1
    | ok _ => exact ⟨reached.1, reached.2 rfl⟩

theorem recorded_id (id : ComputeInstanceId) (processId : Nat) (old : Tenant) :
    (old.recorded id processId).id = old.id := by
  unfold Tenant.recorded
  split <;> rfl

theorem recorded_active (id : ComputeInstanceId) (processId : Nat) (old : Tenant) :
    (old.recorded id processId).active = old.active := by
  unfold Tenant.recorded
  split <;> rfl

theorem Starting.recorded {after : Tracked} (starting : Starting manager compute processId kept state)
    (owner : after.owner = state.owner) (machine : after.world.machine = state.world.machine)
    (rows : tenants after.world.db = (tenants state.world.db).map (Tenant.recorded compute processId)) :
    Starting manager compute processId [] after := by
  have ids : Table.Unique Tenant.id (tenants after.world.db) := by
    rw [rows]
    exact mapped_ids starting.staffed.ids (recorded_id compute processId)
  refine ⟨starting.staffed.rewritten owner machine ids (fun old member => ?_) ?_, nofun, ?_, ?_⟩
  · refine ⟨old.recorded compute processId, by rw [rows]; exact List.mem_map_of_mem member,
      recorded_id compute processId old, ?_, fun different => ?_⟩
    · unfold Tenant.recorded
      split <;> rfl
    · unfold Tenant.recorded
      rw [if_neg]
      intro chosen
      simp only [Bool.and_eq_true, decide_eq_true_eq] at chosen
      exact different (congrArg some chosen.1.1.symm)
  · rintro other - ⟨row, present, rfl, active⟩
    rw [rows] at present
    obtain ⟨old, member, rfl⟩ := List.mem_map.mp present
    rw [recorded_active] at active
    exact ⟨old, member, (recorded_id compute processId old).symm, active⟩
  · intro other live
    rw [Live, owner, machine] at live
    exact starting.only other live
  · rw [Unheld, machine]
    exact starting.unheld

theorem Starting.attested {after : Tracked} (starting : Starting manager compute processId kept state)
    (filed : Filed manager compute processId state) (owner : after.owner = state.owner)
    (machine : after.world.machine = state.world.machine)
    (rows : tenants after.world.db = (tenants state.world.db).map (Tenant.recorded compute processId)) :
    Staffed manager none after := by
  have recorded := starting.recorded owner machine rows
  refine ⟨recorded.staffed.ids, recorded.staffed.known, fun other process live active _ => ?_⟩
  by_cases own : other = compute
  case neg =>
    refine recorded.staffed.attested other process live active fun same => own ?_
    injection same with same
    exact same.symm
  subst own
  obtain rfl := recorded.only process live
  have before : Live state other process := by rwa [Live, ← owner, ← machine]
  obtain ⟨old, member, named, here⟩ := starting.staffed.known other process before
  obtain ⟨row, present, same, running⟩ := active
  have image : old.recorded other process ∈ tenants after.world.db := by
    rw [rows]
    exact List.mem_map_of_mem member
  have row_eq : row = old.recorded other process :=
    recorded.staffed.ids.eq_of_key present image (same.trans (named.symm.trans (recorded_id _ _ _).symm))
  have still : old.active = true := by
    rw [row_eq, recorded_active] at running
    exact running
  obtain ⟨file, written, vouching⟩ := filed
  have vouched := vouching before
  refine ⟨⟨_, image, (recorded_id _ _ _).trans named, ?_⟩, ⟨file, by rw [machine]; exact written, ?_⟩,
    fun child held => ?_⟩
  · simp [Tenant.recorded, named, here, still]
  · exact ⟨vouched.version, vouched.process, vouched.owner, by rw [machine]; exact vouched.boot,
      fun found lives => vouched.ticks found (by rw [← machine]; exact lives)⟩
  · rw [recorded.unheld] at held
    cases held

theorem recordProcessId_safe {spawnedAt : UnixTimestampMillis}
    (starting : Starting manager compute processId kept state) (filed : Filed manager compute processId state) :
    (staffing manager).Safe trackedExec
      (db LocalComputeError.repository (.recordProcessId compute processId spawnedAt))
      (fun (result : Except LocalComputeError Bool) later => Starting manager compute processId [] later ∧
        (result = .ok true → Staffed manager none later)) state := by
  intro later drift _
  have starting := Starting.enduring _ _ drift starting
  have filed := Filed.enduring _ _ drift filed
  refine ⟨nofun, fun choice _ => ?_⟩
  have elsewhere : ∀ request, Op.db (.recordProcessId compute processId spawnedAt) ≠ .machine request := nofun
  have machine := exec_machine elsewhere choice later.world
  have unchanged : tenants (execDb (.recordProcessId compute processId spawnedAt) choice later.world).2.db =
      tenants later.world.db → Starting manager compute processId []
        (trackedExec (.db (.recordProcessId compute processId spawnedAt)) choice later).2 := by
    intro same
    obtain ⟨staffed, -, only, unheld⟩ := Starting.enduring later
      (trackedExec (.db (.recordProcessId compute processId spawnedAt)) choice later).2
      (.of_same rfl same machine) starting
    exact ⟨staffed, nofun, only, unheld⟩
  rcases recordProcessId_tenants compute processId spawnedAt later.world.db with ⟨same, refused⟩ | rows
  · refine ⟨unchanged ?_, fun answered => absurd (exec_db_value (mapError_ok answered)).1 refused⟩
    rcases execDb_written (.recordProcessId compute processId spawnedAt) choice later.world with kept | written
    · exact congrArg tenants kept
    · exact (congrArg tenants written).trans same
  · constructor
    · rcases execDb_written (.recordProcessId compute processId spawnedAt) choice later.world with
        kept | written
      · exact unchanged (congrArg tenants kept)
      · exact starting.recorded rfl machine ((congrArg tenants written).trans rows)
    · intro answered
      have written := congrArg (fun world => tenants world.db) (exec_db_value (mapError_ok answered)).2
      exact starting.attested filed rfl machine (written.trans rows)

theorem insertChild_safe (staffed : Staffed manager none state) (only : Only compute processId state) :
    (staffing manager).Safe trackedExec (LocalManager.ask (.insertChild compute processId))
      (fun _ later => Staffed manager none later) state := by
  intro later drift _
  have staffed := drift.staffed staffed
  have only := Only.enduring _ _ drift only
  refine ⟨nofun, fun choice _ => ?_⟩
  have inserted : Staffed manager none { later with world := { later.world with
      machine := later.world.machine.setChild compute (some processId) } } := by
    refine ⟨staffed.ids, staffed.known, fun other process live active _ => ?_⟩
    obtain ⟨column, ⟨file, written, vouched⟩, child⟩ := staffed.attested other process live active nofun
    refine ⟨column, ⟨file, written, vouched.version, vouched.process, vouched.owner, vouched.boot,
      vouched.ticks⟩, fun handle held => ?_⟩
    by_cases own : other = compute
    · subst own
      have same : processId = handle := by simpa [LocalMachine.setChild] using held
      rw [← same]
      exact (only process live).symm
    · refine child handle ?_
      simpa [LocalMachine.setChild, Function.update_of_ne own] using held
  simp only [trackedExec, owners, exec, execLocal]
  cases choice.fault with
  | none => exact inserted
  | before => exact staffed
  | after => exact inserted

theorem recordSpawned_safe {compute : ComputeInstance}
    (starting : Starting manager compute.id processId kept state)
    (filed : Filed manager compute.id processId state) :
    (staffing manager).Safe trackedExec (LocalManager.recordSpawned compute processId)
      (fun _ later => Staffed manager none later) state := by
  have enduring : Enduring fun state => Starting manager compute.id processId kept state ∧
      Filed manager compute.id processId state := Starting.enduring.and Filed.enduring
  have timed : (staffing manager).Safe trackedExec (clock LocalComputeError.timestamp)
      (fun result later => match result with
        | .ok _ => Starting manager compute.id processId kept later ∧ Filed manager compute.id processId later
        | .error _ => Staffed manager none later) state := by
    intro later drift _
    have holds := enduring _ _ drift ⟨starting, filed⟩
    refine ⟨by rintro _ _ ⟨⟩, fun choice admitted => ?_⟩
    simp only [trackedExec, owners, exec]
    cases now : choice.now with
    | ok now => exact holds
    | error error =>
      rcases admitted with read | staffed
      · exact absurd now (read error)
      · exact staffed
  refine timed.tryBind (fun _ _ staffed => staffed) fun spawnedAt later holds => ?_
  refine ((recordProcessId_safe holds.1 holds.2).weaken fun recorded last reached => ?_).bind
  cases recorded with
  | error error => exact terminateSpawnedChild_safe (fun _ _ settled => settled.staffed) error reached.1
  | ok recorded =>
    cases recorded with
    | false => exact terminateSpawnedChild_safe (fun _ _ settled => settled.staffed) _ reached.1
    | true => exact insertChild_safe (reached.2 rfl) reached.1.only

theorem ensureProcess_safe {compute : ComputeInstance} (here : compute.provider = .localProcess)
    (settled : Settled manager (occupant compute :: kept) state) :
    (staffing manager).Safe trackedExec (manager.ensureProcess compute)
      (fun result later => Staffed manager none later ∧ (result = .ok false → Settled manager kept later))
      state := by
  refine (processIsRunning_safe settled).tryBind (fun _ _ reached => ⟨reached.1.staffed, nofun⟩)
    fun running later reached => ?_
  cases running with
  | true => exact ⟨reached.1.staffed, fun _ => reached.1.tail⟩
  | false =>
    obtain ⟨vacated, unheld⟩ := reached.2 rfl
    refine (spawnAgent_safe here reached.1 vacated unheld).tryBind
      (fun _ _ settled => ⟨settled.staffed, nofun⟩) fun processId last reached => ?_
    refine (recordSpawned_safe reached.1 reached.2).tryBind (fun _ _ staffed => ⟨staffed, nofun⟩)
      fun _ final staffed => ⟨staffed, nofun⟩

end Starting

section Computes

variable {E : Type} {manager : LocalManager} {kept : List Tenant} {state : Tracked}

theorem read_safe (op : DbOp) (plain : isPlain (.db op) = true) (into : RepositoryError → E)
    (answer : op.Value → List Tenant → Prop)
    (answers : ∀ value db, (op.query db).1 = .ok value → answer value (tenants db))
    (settled : Settled manager kept state) :
    (staffing manager).Safe trackedExec (db into op) (fun result later => Settled manager kept later ∧
        ∀ value, result = .ok value → answer value (tenants later.world.db)) state := by
  intro later drift _
  refine ⟨nofun, fun choice _ => ?_⟩
  have beside := plain_beside plain choice later
  refine ⟨Settled.enduring _ _ beside (Settled.enduring _ _ drift settled), fun value answered => ?_⟩
  rw [beside.rows]
  exact answers value _ (exec_db_value (mapError_ok answered)).1

theorem getActiveCompute_safe (into : RepositoryError → E) (id : ServerInstanceId)
    (settled : Settled manager kept state) :
    (staffing manager).Safe trackedExec (db into (.getActiveCompute id))
      (fun (result : Except E (Option ComputeInstance)) later => Settled manager kept later ∧
        ∀ compute, result = .ok (some compute) → Settled manager (occupant compute :: kept) later) state := by
  refine (read_safe (.getActiveCompute id) rfl into (fun (existing : Option ComputeInstance) rows =>
    ∀ compute, existing = some compute → occupant compute ∈ rows) ?_ settled).weaken
      fun result later reached => ⟨reached.1, fun compute answered => ?_⟩
  · rintro _ db answered compute rfl
    obtain ⟨row, member, -, running, rfl⟩ := getActiveForInstance_some answered
    refine List.mem_map.mpr ⟨row, member, ?_⟩
    simp [tenant, occupant, running]
  · exact ⟨reached.1.staffed, List.forall_mem_cons.mpr ⟨reached.2 _ answered compute rfl, reached.1.kept⟩⟩

theorem createForInstance_safe (into : RepositoryError → E) (id : ServerInstanceId)
    (provider : ComputeProvider) (token : String) (enrollment : Option String) (now : UnixTimestampMillis)
    (settled : Settled manager kept state) :
    (staffing manager).Safe trackedExec (createForInstance into id provider token enrollment now)
      (fun result later => Settled manager kept later ∧ ∀ compute, result = .ok (some compute) →
        Settled manager (occupant compute :: kept) later ∧ compute.provider = provider) state := by
  refine Watch.Safe.tryBind (modest_newUuid settled_lenient.plain state settled)
    (fun _ _ settled => ⟨settled, fun _ => nofun⟩) fun uuid first settled => ?_
  have inserted : (staffing manager).Safe trackedExec
      (db into (.insertCompute ⟨uuid⟩ id provider token enrollment now) : Flow E Bool)
      (fun (result : Except E Bool) later => Settled manager kept later ∧
        (result = .ok true → ∃ new, Settled manager (new :: kept) later ∧ new.id = ⟨uuid⟩ ∧
          new.provider = provider ∧ new.active = true)) first := by
    intro later drift base
    obtain ⟨guard, onward⟩ := allot_permits ⟨uuid⟩ id provider token enrollment now first later settled drift base
    refine ⟨guard, fun choice admitted => ⟨onward choice admitted, fun answered => ?_⟩⟩
    obtain ⟨accepted, written⟩ := exec_db_value (mapError_ok answered)
    have after := congrArg (fun world => tenants world.db) written
    rcases insertCompute_tenants ⟨uuid⟩ id provider token enrollment now later.world.db with
      ⟨-, refused⟩ | ⟨new, rows, -, described⟩
    · exact absurd accepted refused
    · have settled := onward choice admitted
      refine ⟨new, ⟨settled.staffed, List.forall_mem_cons.mpr ⟨?_, settled.kept⟩⟩, described⟩
      exact (after.trans rows) ▸ List.mem_append_right _ (List.mem_singleton.mpr rfl)
  refine inserted.tryBind (fun _ _ reached => ⟨reached.1, fun _ => nofun⟩) fun (inserted : Bool) later reached => ?_
  cases inserted with
  | false => exact ⟨reached.1, fun _ => nofun⟩
  | true =>
    obtain ⟨new, settled, named, sort, active⟩ := reached.2 rfl
    refine (read_safe (.getCompute ⟨uuid⟩) rfl into (fun (refreshed : Option ComputeInstance) rows =>
      ∀ compute, refreshed = some compute → compute.id = ⟨uuid⟩ ∧
        ∃ row ∈ rows, row = { occupant compute with active := row.active }) ?_ settled).weaken
      fun result last reached => ⟨reached.1.tail, fun compute answered => ?_⟩
    · rintro _ db answered compute rfl
      obtain ⟨row, member, named, rfl⟩ := getCompute_some answered
      exact ⟨named, tenant row, List.mem_map_of_mem member, rfl⟩
    · obtain ⟨named', row, member, same⟩ := reached.2 _ answered compute rfl
      have named'' : row.id = compute.id := by rw [same]; rfl
      have found : row = new := reached.1.staffed.ids.eq_of_key member (reached.1.kept new List.mem_cons_self)
        (named''.trans (named'.trans named.symm))
      have occupied : new = occupant compute := by
        rw [found, active] at same
        exact same
      rw [← sort, occupied]
      exact ⟨occupied ▸ reached.1, rfl⟩

theorem obtainCompute_safe (found : ServerInstance) (now : UnixTimestampMillis)
    (settled : Settled manager kept state) :
    (staffing manager).Safe trackedExec (LocalManager.obtainCompute found now)
      (fun result later => Settled manager kept later ∧ ∀ obtained, result = .ok obtained →
        Settled manager (occupant obtained.1 :: kept) later ∧ obtained.1.provider = .localProcess) state := by
  refine (getActiveCompute_safe _ found.id settled).tryBind (fun _ _ reached => ⟨reached.1, fun _ => nofun⟩)
    fun (existing : Option ComputeInstance) later reached => ?_
  cases existing with
  | some compute =>
    dsimp only
    split
    · rename_i here
      refine ⟨reached.1, fun obtained same => ?_⟩
      injection same with same
      rw [← same]
      exact ⟨reached.2 compute rfl, here⟩
    · exact ⟨reached.1, fun _ => nofun⟩
  | none =>
    refine Watch.Safe.tryBind (newConnectionToken_modest settled_lenient.plain later reached.1)
      (fun _ _ settled => ⟨settled, fun _ => nofun⟩) fun token last settled => ?_
    refine (createForInstance_safe _ found.id .localProcess token none now settled).tryBind
      (fun _ _ reached => ⟨reached.1, fun _ => nofun⟩) fun created final reached => ?_
    cases created with
    | none => exact ⟨reached.1, fun _ => nofun⟩
    | some compute =>
      refine ⟨reached.1, fun obtained same => ?_⟩
      injection same with same
      rw [← same]
      exact reached.2 compute rfl

theorem local_ensureForInstance_safe (found : ServerInstance) (now : UnixTimestampMillis)
    (settled : Settled manager kept state) :
    (staffing manager).Safe trackedExec (manager.ensureForInstance found now)
      (fun result later => Staffed manager none later ∧
        ∀ compute, result = .ok (compute, false) → Settled manager kept later) state := by
  refine (obtainCompute_safe found now settled).tryBind (fun _ _ reached => ⟨reached.1.staffed, fun _ => nofun⟩)
    fun obtained later reached => ?_
  obtain ⟨settled, here⟩ := reached.2 obtained rfl
  refine (ensureProcess_safe here settled).tryBind (fun _ _ reached => ⟨reached.1, fun _ => nofun⟩)
    fun spawned last reached => ?_
  have enduring : Enduring fun state => Staffed manager none state ∧
      (spawned = false → Settled manager kept state) := fun before after beside holds =>
    ⟨beside.staffed holds.1, fun idle => Settled.enduring before after beside (holds.2 idle)⟩
  have holds : Staffed manager none last ∧ (spawned = false → Settled manager kept last) :=
    ⟨reached.1, fun idle => reached.2 (congrArg Except.ok idle)⟩
  refine Watch.Safe.tryBind (modest_db (plain_permits enduring) _ rfl last holds)
    (fun _ _ holds => ⟨holds.1, fun _ => nofun⟩) fun (refreshed : Option ComputeInstance) final holds => ?_
  cases refreshed with
  | none => exact ⟨holds.1, fun _ => nofun⟩
  | some compute =>
    refine ⟨holds.1, fun _ same => holds.2 ?_⟩
    injection same with same
    injection same with _ unchanged
    exact (Bool.or_eq_false_iff.mp unchanged).2

def Unneeded (compute : ComputeInstanceId) (state : Tracked) : Prop :=
  ∀ processId, Live state compute processId → ¬Active state compute

theorem Staffed.removed (staffed : Staffed manager none state) {compute : ComputeInstanceId}
    (unneeded : Unneeded compute state) (choice : Choice) :
    Staffed manager none { state with
      world := (applyLocal (.removeStateDirectory compute) choice state.world).2 } := by
  refine ⟨staffed.ids, staffed.known, fun other process live active _ => ?_⟩
  obtain ⟨column, ⟨file, written, vouched⟩, child⟩ := staffed.attested other process live active nofun
  have apart : other ≠ compute := by
    rintro rfl
    exact unneeded process live active
  refine ⟨column, ⟨file, ?_, vouched.version, vouched.process, vouched.owner, vouched.boot, vouched.ticks⟩, child⟩
  exact (Function.update_of_ne apart _ _).trans written

theorem removeStateDirectory_safe {compute : ComputeInstanceId} {held : Tracked → Prop} (enduring : Enduring held)
    (staffed : ∀ state, held state → Staffed manager none state)
    (unneeded : ∀ state, held state → Unneeded compute state) (holds : held state) :
    (staffing manager).Safe trackedExec (LocalManager.ask (.removeStateDirectory compute))
      (fun _ later => Staffed manager none later ∧ ∃ before, held before ∧
        tenants later.world.db = tenants before.world.db) state := by
  intro later drift _
  have holds := enduring _ _ drift holds
  refine ⟨nofun, fun choice _ => ?_⟩
  have removed := (staffed later holds).removed (unneeded later holds) choice
  simp only [trackedExec, owners, exec, execLocal]
  cases choice.fault with
  | none => exact ⟨removed, later, holds, rfl⟩
  | before => exact ⟨staffed later holds, later, holds, rfl⟩
  | after => exact ⟨removed, later, holds, rfl⟩

theorem local_delete_safe {compute : ComputeInstance} (settled : Settled manager (occupant compute :: kept) state) :
    (staffing manager).Safe trackedExec (manager.delete compute) (fun _ later => Staffed manager none later)
      state := by
  have lenient := @settled_lenient manager (occupant compute :: kept)
  refine Watch.Safe.tryBind (modest_clock lenient.plain _ state settled) (fun _ _ settled => settled.staffed)
    fun requestedAt first settled => ?_
  refine Watch.Safe.tryBind (modest_db lenient.plain _ rfl first settled) (fun _ _ settled => settled.staffed)
    fun (_ : Bool) second settled => ?_
  refine Watch.Safe.tryBind (requestNodeShutdown_modest lenient.plain compute.id second settled)
    (fun _ _ settled => settled.staffed) fun _ third settled => ?_
  refine (waitForExit_safe settled).tryBind (fun _ _ reached => reached.1.staffed) fun _ fourth reached => ?_
  have enduring : Enduring fun state => Settled manager kept state ∧ Vacated compute.id state :=
    Settled.enduring.and Vacated.enduring
  refine Watch.Safe.tryBind (removeStateDirectory_safe enduring (fun _ holds => holds.1.staffed)
    (fun _ holds processId live => absurd live (holds.2 processId)) ⟨reached.1, reached.2 rfl⟩)
    (fun _ _ reached => reached.1) fun (_ : Unit) fifth reached => ?_
  refine Watch.Safe.tryBind (modest_clock (plain_permits Staffed.enduring) _ fifth reached.1)
    (fun _ _ staffed => staffed) fun deletedAt sixth staffed => ?_
  exact modest_raising (Watch.Modest.perform (end_permits _ _ _ _)) sixth staffed

def Listed (active : List (ComputeInstanceId × ServerInstanceId)) (state : Tracked) : Prop :=
  ∀ row ∈ tenants state.world.db, row.active = true → row.provider = .localProcess → active.lookup row.id ≠ none

theorem Listed.enduring {active : List (ComputeInstanceId × ServerInstanceId)} : Enduring (Listed active) := by
  intro before after beside listed
  rw [Listed, beside.rows]
  exact listed

theorem Listed.unneeded {active : List (ComputeInstanceId × ServerInstanceId)} {compute : ComputeInstanceId}
    (staffed : Staffed manager none state) (listed : Listed active state)
    (unowned : active.lookup compute = none) : Unneeded compute state := by
  rintro processId live ⟨row, member, rfl, running⟩
  obtain ⟨other, present, named, here⟩ := staffed.known row.id processId live
  have same : other = row := staffed.ids.eq_of_key present member named
  exact listed row member running (same ▸ here) unowned

theorem reapDirectories_modest (active : List (ComputeInstanceId × ServerInstanceId))
    (directories : List ComputeInstanceId) :
    (staffing manager).Modest trackedExec (fun state => Staffed manager none state ∧ Listed active state)
      (manager.reapDirectories active directories) := by
  have enduring : Enduring fun state => Staffed manager none state ∧ Listed active state :=
    Staffed.enduring.and Listed.enduring
  induction directories with
  | nil => exact modest_done _
  | cons compute rest ih =>
    intro state holds
    unfold LocalManager.reapDirectories
    split
    · rename_i unowned
      rw [Option.isNone_iff_eq_none] at unowned
      refine Watch.Safe.tryBind (stopProcessFromRuntimeState_modest (look_permits enduring) manager compute
        state holds) (fun _ _ holds => holds) fun _ later holds => ?_
      have removed : (staffing manager).Safe trackedExec (LocalManager.ask (.removeStateDirectory compute))
          (fun _ state => Staffed manager none state ∧ Listed active state) later := by
        refine (removeStateDirectory_safe enduring (fun _ holds => holds.1)
          (fun _ holds => holds.2.unneeded holds.1 unowned) holds).weaken ?_
        rintro _ last ⟨staffed, before, holds, rows⟩
        refine ⟨staffed, ?_⟩
        rw [Listed, rows]
        exact holds.2
      exact removed.tryBind (fun _ _ holds => holds) fun (_ : Unit) last holds => ih last holds
    · exact ih state holds

theorem reapOrphans_modest (active : List (ComputeInstanceId × ServerInstanceId)) :
    (staffing manager).Modest trackedExec (fun state => Staffed manager none state ∧ Listed active state)
      (manager.reapOrphans active) := by
  have enduring : Enduring fun state => Staffed manager none state ∧ Listed active state :=
    Staffed.enduring.and Listed.enduring
  refine modest_then (modest_machine (look_permits enduring) rfl) fun (listed : List ContainerListing) => ?_
  refine modest_then (reapContainers_modest (look_permits enduring) active listed) fun _ => ?_
  exact modest_then (modest_machine (look_permits enduring) rfl) fun (found : List ComputeInstanceId) =>
    reapDirectories_modest active found

theorem listActiveLocalOwnership_safe (into : RepositoryError → E) (staffed : Staffed manager none state) :
    (staffing manager).Safe trackedExec (db into .listActiveLocalOwnership)
      (fun (result : Except E (List (ComputeInstanceId × ServerInstanceId))) later =>
        Staffed manager none later ∧ ∀ active, result = .ok active → Listed active later) state := by
  refine (read_safe .listActiveLocalOwnership rfl into
    (fun (active : List (ComputeInstanceId × ServerInstanceId)) rows => ∀ row ∈ rows, row.active = true →
      row.provider = .localProcess → active.lookup row.id ≠ none) ?_ staffed.settled).weaken
    fun result later reached => ⟨reached.1.staffed, reached.2⟩
  intro active db answered row member running here
  obtain ⟨stored, present, rfl⟩ := List.mem_map.mp member
  exact lookup_of_mem (listActiveLocalOwnership_complete answered stored present
    (Option.isNone_iff_eq_none.mp running) here)

end Computes

section Worker

variable {manager : ComputeManager} {kept : List Tenant} {state : Tracked}

theorem rent_modest {host : LocalManager} {held : Tracked → Prop}
    (lenient : Lenient (staffing host) trackedExec held) (enduring : Enduring held) (akamai : AkamaiManager)
    (label : String) (spec : AkamaiSpec) (found : ServerInstance) (compute : ComputeInstance) :
    (staffing host).Modest trackedExec held (akamai.createInstance label spec found compute) :=
  createInstance_modest lenient (fun _ => request_permits enduring _) label spec found compute

theorem ensureForInstance_safe (found : ServerInstance) (now : UnixTimestampMillis)
    (settled : Settled manager.localProcess kept state) :
    (staffing manager.localProcess).Safe trackedExec (manager.ensureForInstance found now)
      (fun result later => Staffed manager.localProcess none later ∧
        ∀ compute, result = .ok (compute, false) → Settled manager.localProcess kept later) state := by
  unfold ComputeManager.ensureForInstance
  cases found.resolvedSpec.compute with
  | «local» =>
    refine ((local_ensureForInstance_safe found now settled).weaken fun result later reached => ?_).bind
    exact ⟨reached.1, fun compute answered => reached.2 compute (mapError_ok answered)⟩
  | akamai region instanceType image firewallId =>
    dsimp only
    cases manager.akamai with
    | none => exact ⟨settled.staffed, fun _ => nofun⟩
    | some akamai =>
      refine Watch.Safe.weaken (modest_raising (akamai_ensureForInstance_modest settled_lenient
        (rent_modest settled_lenient Settled.enduring akamai) found now) state settled) fun _ _ settled => ?_
      exact ⟨settled.staffed, fun _ _ => settled⟩

theorem deleteCompute_safe {compute : ComputeInstance}
    (settled : Settled manager.localProcess (occupant compute :: kept) state) :
    (staffing manager.localProcess).Safe trackedExec (ReconcileWorker.deleteCompute manager compute)
      (fun _ later => Staffed manager.localProcess none later) state := by
  have deleted : (staffing manager.localProcess).Safe trackedExec (manager.delete compute)
      (fun _ later => Staffed manager.localProcess none later) state := by
    unfold ComputeManager.delete
    cases compute.provider with
    | localProcess => exact ((local_delete_safe settled).weaken fun _ _ staffed => staffed).bind
    | akamai =>
      dsimp only
      cases manager.akamai with
      | none => exact settled.staffed
      | some akamai =>
        exact modest_raising (akamai_delete_modest staffed_lenient end_permits compute) state settled.staffed
  have raised : (staffing manager.localProcess).Safe trackedExec
      (Try.raising ReconcileError.compute (manager.delete compute))
      (fun _ later => Staffed manager.localProcess none later) state :=
    (deleted.weaken fun _ _ staffed => staffed).bind
  exact raised.tryBind (fun _ _ staffed => staffed) fun _ _ staffed => staffed

theorem stopConnected_safe (server : Server) (found : ServerInstance) {compute : ComputeInstance}
    (settled : Settled manager.localProcess (occupant compute :: kept) state) :
    (staffing manager.localProcess).Safe trackedExec
      (ReconcileWorker.stopConnected manager server found compute)
      (fun _ later => Staffed manager.localProcess none later) state := by
  have lenient := @settled_lenient manager.localProcess (occupant compute :: kept)
  refine Watch.Safe.tryBind (modest_clock lenient.plain _ state settled) (fun _ _ settled => settled.staffed)
    fun provisionedAt first settled => ?_
  have ensured : (staffing manager.localProcess).Safe trackedExec
      (Try.raising ReconcileError.compute (manager.ensureForInstance found provisionedAt))
      (fun result later => Staffed manager.localProcess none later ∧ ∀ current, result = .ok (current, false) →
        Settled manager.localProcess (occupant compute :: kept) later) first := by
    refine ((ensureForInstance_safe found provisionedAt settled).weaken fun result later reached => ?_).bind
    exact ⟨reached.1, fun current answered => reached.2 current (mapError_ok answered)⟩
  refine ensured.tryBind (fun _ _ reached => reached.1) fun (current, changed) second reached => ?_
  cases changed with
  | true => exact reached.1
  | false =>
    have settled := reached.2 current rfl
    refine Watch.Safe.tryBind (modest_link lenient.plain _ second settled) (fun _ _ settled => settled.staffed)
      fun (connected : Bool) third settled => ?_
    cases connected with
    | false => exact settled.staffed
    | true =>
      refine Watch.Safe.tryBind (inspectAndPersist_modest lenient found compute third settled)
        (fun _ _ settled => settled.staffed) fun (observed, persisted) fourth settled => ?_
      dsimp only
      split
      · exact settled.staffed
      split
      · refine (askAndNote_modest lenient _ _ _ (fun now => .observeProcess found.id false now) (fun _ => rfl)
          (fun _ _ => pure .changed) (fun _ _ => modest_done _) fourth settled).weaken fun _ _ settled => ?_
        exact settled.staffed
      split
      · exact (publish_modest lenient _ _ _ _ fourth settled).weaken fun _ _ settled => settled.staffed
      · refine Watch.Safe.tryBind (modest_ask lenient.plain _ _ _ fourth settled)
          (fun _ _ settled => settled.staffed) fun (changed : Bool) last settled => ?_
        cases changed with
        | true => exact settled.staffed
        | false => exact deleteCompute_safe settled

theorem reconcileStopping_safe (server : Server) (found : ServerInstance)
    (staffed : Staffed manager.localProcess none state) :
    (staffing manager.localProcess).Safe trackedExec (ReconcileWorker.reconcileStopping manager server found)
      (fun _ later => Staffed manager.localProcess none later) state := by
  refine (getActiveCompute_safe _ found.id staffed.settled).tryBind (fun _ _ reached => reached.1.staffed)
    fun (active : Option ComputeInstance) first reached => ?_
  cases active with
  | none => exact complete_modest staffed_lenient found first reached.1.staffed
  | some compute =>
    have settled := reached.2 compute rfl
    refine Watch.Safe.tryBind (mayDelete_modest settled_lenient found compute first settled)
      (fun _ _ settled => settled.staffed) fun (allowed : Bool) last settled => ?_
    cases allowed with
    | true => exact deleteCompute_safe settled
    | false => exact stopConnected_safe server found settled

theorem worker_staffed (setup : Setup) (task : Task) :
    (staffing setup.manager.localProcess).Modest trackedExec (Staffed setup.manager.localProcess none)
      (program setup .worker task) := by
  cases task with
  | startUp =>
    refine (startUp_modest staffed_lenient setup.reapLocal fun next onward state staffed => ?_).bind
      fun _ => modest_done _
    refine (listActiveLocalOwnership_safe _ staffed).tryBind (fun _ _ reached => reached.1)
      fun (active : List (ComputeInstanceId × ServerInstanceId)) first reached => ?_
    refine Watch.Safe.tryBind (modest_raising (reapOrphans_modest active) first
      ⟨reached.1, reached.2 active rfl⟩) (fun _ _ holds => holds.1) fun _ last holds => onward last holds.1
  | reconcile server =>
    refine reconcileAndSchedule_modest staffed_lenient
      (fun akamai _ => rent_modest staffed_lenient Staffed.enduring akamai) (fun found now state staffed => ?_)
      (fun server found state staffed => reconcileStopping_safe server found staffed) server
    exact (local_ensureForInstance_safe found now staffed.settled).weaken fun _ _ reached => reached.1
  | request | connect => exact modest_done _

end Worker

-- The control plane stops only while every agent is on record, and the steps that would lose an agent
-- that was just started do not fail.
def Attended (manager : LocalManager) : Event Thread Task Action Choice → Config Thread Op Op.Res Tracked → Prop
  | .crash, config => Staffed manager none config.state
  | .advance .worker choice, config =>
      ∀ op next, config.threads .worker = .call op next → Benign manager op choice config.state
  | _, _ => True

section Runs

variable {setup : Setup}

theorem others_beside {run : Run} {thread : Thread} (other : thread ≠ .worker) (choice : Choice) :
    Beside (followed setup run).state
      ((tracked setup).step (.advance thread choice) (followed setup run)).state := by
  simp only [Machine.step]
  split
  · exact .refl _
  · rename_i op next waiting
    have same : (reached setup run).threads = (followed setup run).threads :=
      congrArg Config.threads (followed_reached setup run).symm
    have waits : ((machine setup).run run (Machine.idle initial)).threads thread = .call op next :=
      (congrFun same thread).trans waiting
    exact plain_beside (others_plain other waits) choice _

theorem step_beside {run : Run} {event : Event Thread Task Action Choice}
    (other : ∀ choice, event ≠ .advance .worker choice) :
    Beside (followed setup run).state ((tracked setup).step event (followed setup run)).state := by
  cases event with
  | advance thread choice => exact others_beside (fun same => other choice (by rw [same])) choice
  | start thread task =>
    simp only [Machine.step]
    split <;> exact .refl _
  | environment action => exact environment_beside setup action _
  | crash => exact crash_beside _

theorem around_staffed {run : Run} {event : Event Thread Task Action Choice}
    (attended : Attended setup.manager.localProcess event (followed setup run)) :
    (staffing setup.manager.localProcess).Around (tracked setup) .worker event (followed setup run) := by
  refine ⟨trivial, ?_, fun _ _ _ other => step_beside other,
    fun _ other staffed => (step_beside other).staffed staffed, ?_⟩
  · rintro op next choice waiting rfl
    exact attended op next waiting
  · rintro rfl
    exact (crash_beside _).staffed attended

theorem run_staffed {run : Run}
    (attended : (tracked setup).Along (Attended setup.manager.localProcess) run (Machine.idle untracked)) :
    (staffing setup.manager.localProcess).Safe trackedExec ((followed setup run).threads .worker)
      (fun _ => Staffed setup.manager.localProcess none) (followed setup run).state := by
  induction run using List.reverseRecOn with
  | nil => exact ⟨List.nodup_nil, nofun, nofun⟩
  | append_singleton run event ih =>
    obtain ⟨before, last, -⟩ := Machine.along_append.mp attended
    rw [followed, Machine.run_append]
    exact Watch.step_safe (fun _ state => Beside.refl state) (fun _ _ _ _ => Beside.trans)
      (worker_staffed setup) (around_staffed last) (ih before)

theorem exec_live {op : Op} (unspawned : ∀ compute token, op ≠ .machine (.spawnAgent compute token))
    {choice : Choice} {state : Tracked} {compute : ComputeInstanceId} {processId : Nat}
    (live : Live (trackedExec op choice state).2 compute processId) : Live state compute processId := by
  have owned : owners op choice state.owner = state.owner := owners_same unspawned choice state.owner
  suffices fades : (exec op choice state.world).2.machine.processMatches processId = true →
      state.world.machine.processMatches processId = true from ⟨owned ▸ live.1, fades live.2⟩
  by_cases here : ∃ request, op = .machine request
  case neg =>
    have same := exec_machine (fun request same => here ⟨request, same⟩) choice state.world
    exact fun lives => same ▸ lives
  obtain ⟨request, rfl⟩ := here
  by_cases harmless : settles request = false
  · exact fun _ => ((machine_beside harmless choice state).live live).2
  · -- What is left writes files and handles.
    cases request with
    | spawnAgent compute token => exact absurd rfl (unspawned compute token)
    | insertChild | storeRuntimeState | removeStateDirectory =>
      simp only [exec, execLocal]
      cases choice.fault <;> exact fun lives => lives
    | _ => exact absurd rfl harmless

def Single (state : Tracked) : Prop :=
  ∀ compute first second, Live state compute first → Live state compute second → first = second

theorem Single.fades {before after : Tracked} (single : Single before)
    (fades : ∀ compute processId, Live after compute processId → Live before compute processId) :
    Single after :=
  fun compute first second one two => single compute first second (fades _ _ one) (fades _ _ two)

theorem exec_single {op : Op} (choice : Choice) {state : Tracked} (single : Single state)
    (guarded : ∀ compute token, op = .machine (.spawnAgent compute token) → Vacated compute state) :
    Single (trackedExec op choice state).2 := by
  by_cases spawns : ∃ compute token, op = .machine (.spawnAgent compute token)
  case neg => exact single.fades fun _ _ => exec_live fun compute token same => spawns ⟨compute, token, same⟩
  obtain ⟨compute, token, rfl⟩ := spawns
  have vacated := guarded compute token rfl
  have spawned : Single { world := (applyLocal (.spawnAgent compute token) choice state.world).2
                          owner := Function.update state.owner choice.processId (some compute) } := by
    intro other first second one two
    rcases spawned_live one with ⟨rfl, rfl⟩ | ⟨-, one⟩ <;> rcases spawned_live two with ⟨rfl, mine⟩ | ⟨-, two⟩
    · rfl
    · exact absurd two (vacated second)
    · exact absurd (mine ▸ one) (vacated first)
    · exact single other first second one two
  simp only [trackedExec, owners, exec, execLocal]
  cases choice.fault with
  | none => exact spawned
  | before => exact single
  | after => exact spawned

theorem single_agent_per_compute {run : Run}
    (attended : (tracked setup).Along (Attended setup.manager.localProcess) run (Machine.idle untracked)) :
    Single (followed setup run).state := by
  induction run using List.reverseRecOn with
  | nil => exact nofun
  | append_singleton run event ih =>
    obtain ⟨before, last, -⟩ := Machine.along_append.mp attended
    have single := ih before
    have safe := run_staffed before
    rw [followed, Machine.run_append]
    change Single ((tracked setup).step event (followed setup run)).state
    by_cases own : ∃ choice, event = .advance .worker choice
    case neg =>
      have beside := @step_beside setup run event fun choice same => own ⟨choice, same⟩
      exact single.fades fun _ _ => beside.live
    obtain ⟨choice, rfl⟩ := own
    simp only [Machine.step]
    split
    · exact single
    · rename_i op next waiting
      rw [waiting] at safe
      exact exec_single choice single (safe _ (Beside.refl _) trivial).1

def smooth : Event Thread Task Action Choice → Bool
  | .crash => false
  | .advance _ choice => decide (choice.fault = .none) && choice.now.toBool
  | _ => true

theorem smooth_attended {manager : LocalManager} (run : Run) (smooths : ∀ event ∈ run, smooth event = true)
    (config : Config Thread Op Op.Res Tracked) : (tracked setup).Along (Attended manager) run config := by
  induction run generalizing config with
  | nil => trivial
  | cons event rest ih =>
    obtain ⟨now, later⟩ := List.forall_mem_cons.mp smooths
    refine ⟨?_, ih later _⟩
    cases event with
    | advance thread choice =>
      simp only [smooth, Bool.and_eq_true, decide_eq_true_eq] at now
      cases thread with
      | worker =>
        intro op next _
        unfold Benign
        split
        · refine .inl fun error failed => ?_
          rw [failed] at now
          cases now.2
        · exact .inl (by simp [now.1])
        · simp [now.1]
        · trivial
      | client | connection => trivial
    | start | environment => trivial
    | crash => cases now

end Runs

instance (state : Tracked) (compute : ComputeInstanceId) (processId : Nat) :
    Decidable (Live state compute processId) := inferInstanceAs (Decidable (_ ∧ _))

namespace Sample

def starting (steps : Nat) : Run :=
  createAndRun ++ .start .worker (.reconcile serverId) :: advances .worker 2 steps

-- The agent is started, and the control plane stops before that is written down.
def startingTwice : Run :=
  starting 18 ++ .crash :: .start .worker (.reconcile serverId) ::
    List.replicate 8 (.advance .worker { choice 2 with processId := 7 })

end Sample

theorem single_agent_after_start : Live (followed Sample.setup (Sample.starting 24)).state Sample.computeId 1 ∧
      Single (followed Sample.setup (Sample.starting 24)).state :=
  ⟨by decide +kernel, single_agent_per_compute (smooth_attended _ (by decide) _)⟩

theorem two_agents_after_crash : Live (followed Sample.setup Sample.startingTwice).state Sample.computeId 1 ∧
      Live (followed Sample.setup Sample.startingTwice).state Sample.computeId 7 ∧
      (tenants (followed Sample.setup Sample.startingTwice).state.world.db).map
        (fun row => (row.id, row.active)) = [(Sample.computeId, true)] := by
  decide +kernel

end McServer.System
