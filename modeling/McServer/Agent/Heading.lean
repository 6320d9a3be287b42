import McServer.Agent.Behaviour

set_option autoImplicit false

namespace McServer.Agent

open Domain Interleaving Interleaving.Contract

def movesData : AgentOp → Bool
  | .readState | .stateFileExists | .ensureStateDirectory | .resticConfig _ | .resticInit _
  | .resticRestore _ _ | .pathExists _ | .removePath _ | .removePaths _ | .movePath _ _
  | .createDirectory _ => true
  | _ => false

def Node.snapshot (node : Node) (repository snapshotId : String) : Option Directory :=
  (node.repositories repository).bind fun snapshots => snapshots.lookup snapshotId

structure Framed (origin node : Node) : Prop where
  state : node.host.state = origin.host.state
  containers : node.host.containers = origin.host.containers
  snapshot : ∀ repository snapshotId,
    node.snapshot repository snapshotId = origin.snapshot repository snapshotId
  repositories : ∀ repository, (origin.repositories repository).isSome → (node.repositories repository).isSome

theorem Framed.refl (node : Node) : Framed node node := ⟨rfl, rfl, fun _ _ => rfl, fun _ present => present⟩

theorem Framed.trans {first second third : Node} (left : Framed first second)
    (right : Framed second third) : Framed first third :=
  ⟨right.state.trans left.state, right.containers.trans left.containers,
    fun repository snapshotId => (right.snapshot repository snapshotId).trans
      (left.snapshot repository snapshotId),
    fun repository present => right.repositories repository (left.repositories repository present)⟩

theorem Framed.ofHost {node : Node} {host : Host} (state : host.state = node.host.state)
    (containers : host.containers = node.host.containers) : Framed node { node with host } :=
  ⟨state, containers, fun _ _ => rfl, fun _ present => present⟩

theorem remove_frame (place : Place) (host : Host) :
    (host.remove place).state = host.state ∧ (host.remove place).containers = host.containers := by
  cases place <;> exact ⟨rfl, rfl⟩

theorem damage_frame (place : Place) (host : Host) :
    (host.damage place).state = host.state ∧ (host.damage place).containers = host.containers := by
  cases place <;> exact ⟨rfl, rfl⟩

theorem foldl_remove_frame (places : List Place) (host : Host) :
    (places.foldl Host.remove host).state = host.state ∧
      (places.foldl Host.remove host).containers = host.containers := by
  induction places generalizing host with
  | nil => exact ⟨rfl, rfl⟩
  | cons place rest ih =>
    obtain ⟨state, containers⟩ := ih (host.remove place)
    exact ⟨state.trans (remove_frame place host).1, containers.trans (remove_frame place host).2⟩

variable {op : AgentOp}

theorem apply_framed (moves : movesData op = true) (choice : AgentChoice) (node : Node) :
    Framed node (node.apply op choice).2 := by
  cases op with
  | readState | stateFileExists | ensureStateDirectory | resticConfig _ | pathExists _ => exact .refl node
  | resticInit repository =>
    simp only [Node.apply]
    split_ifs with absent
    · rw [Bool.and_eq_true, Option.isNone_iff_eq_none] at absent
      refine ⟨rfl, rfl, fun other snapshotId => ?_, fun other present => ?_⟩
      · by_cases same : other = repository
        · subst same
          simp [Node.snapshot, absent.2]
        · simp [Node.snapshot, Function.update_of_ne same]
      · by_cases same : other = repository
        · subst same
          simp
        · simpa [Function.update_of_ne same] using present
    · exact .refl node
  | resticRestore repository snapshotId =>
    simp only [Node.apply, Node.restore]
    split
    · exact .ofHost rfl rfl
    · exact .refl node
  | removePath place => exact .ofHost (remove_frame place node.host).1 (remove_frame place node.host).2
  | removePaths places =>
    exact .ofHost (foldl_remove_frame places node.host).1 (foldl_remove_frame places node.host).2
  | movePath source destination =>
    simp only [Node.apply, Node.move]
    split
    · exact .refl node
    · cases source <;> cases destination <;> exact .ofHost rfl rfl
  | createDirectory place =>
    simp only [Node.apply, Node.create]
    split
    · exact .refl node
    · cases place <;> exact .ofHost rfl rfl
  | _ => cases moves

theorem cutShort_frame (removed : Nat) (host : Host) : (Node.cutShort op removed host).state = host.state ∧
      (Node.cutShort op removed host).containers = host.containers := by
  refine ⟨Node.cutShort_state op removed host, ?_⟩
  unfold Node.cutShort
  split
  · rfl
  · exact (damage_frame _ host).2
  · dsimp only
    split
    · rw [(damage_frame _ _).2, (foldl_remove_frame _ host).2]
    · exact (foldl_remove_frame _ host).2
  · rfl

theorem exec_node (op : AgentOp) (choice : AgentChoice) (node : Node) :
    (Node.exec op choice node).2 = node ∨ (Node.exec op choice node).2 = (node.apply op choice).2 ∨
      ∃ removed, (Node.exec op choice node).2 = node.mapHost (Node.cutShort op removed) := by
  rcases Node.exec_cases op choice node with done | ⟨error, -, rest⟩
  · exact .inr (.inl (by rw [done]))
  · exact rest

theorem exec_framed (moves : movesData op = true) (choice : AgentChoice) (node : Node) :
    Framed node (Node.exec op choice node).2 := by
  rcases exec_node op choice node with same | applied | ⟨removed, stuck⟩
  · rw [same]
    exact .refl node
  · rw [applied]
    exact apply_framed moves choice node
  · rw [stuck]
    exact .ofHost (cutShort_frame removed node.host).1 (cutShort_frame removed node.host).2

theorem exec_host {holds : Host → Prop} {node : Node} (before : holds node.host)
    (after : ∀ choice, holds (node.apply op choice).2.host)
    (stuck : ∀ removed, holds (Node.cutShort op removed node.host)) (choice : AgentChoice) :
    holds (Node.exec op choice node).2.host := by
  rcases exec_node op choice node with same | applied | ⟨removed, cut⟩
  · rwa [same]
  · rw [applied]
    exact after choice
  · rw [cut]
    exact stuck removed

def AgentChoice.Calm (choice : AgentChoice) : Prop := choice.fault = .none ∧ choice.succeeds = true

theorem remove_exists {host : Host} {place other : Place} (gone : other = place ∨ host.exists other = false) :
    (host.remove place).exists other = false := by
  obtain ⟨state, data, previous, staging, containers⟩ := host
  rcases gone with rfl | gone
  · cases other <;> cases staging <;> rfl
  · cases place <;> cases other <;> cases staging <;> first | rfl | exact gone

theorem damage_exists (host : Host) (place other : Place) :
    (host.damage place).exists other = host.exists other := by
  obtain ⟨state, data, previous, staging, containers⟩ := host
  cases place <;> cases other <;> cases staging <;> simp [Host.damage, Host.exists]

theorem exec_ok {choice : AgentChoice} {node : Node} {value : op.Value}
    (done : (Node.exec op choice node).1 = .ok value) :
    Node.exec op choice node = node.apply op choice := by
  rcases Node.exec_cases op choice node with same | ⟨error, failed, -⟩
  · exact same
  · rw [failed] at done
    cases done

theorem exec_calm {choice : AgentChoice} (calm : choice.Calm) (node : Node) :
    Node.exec op choice node = node.apply op choice := by
  simp only [Node.exec, calm.1]

def Host.loaded (host : Host) : Except ExecutorError AgentState :=
  match host.state with
  | none => .ok .default
  | some state =>
      if state.schemaVersion ≠ agentStateSchemaVersion then
        .error (.unsupportedStateSchemaVersion state.schemaVersion)
      else .ok state

def OntoNothing : AgentOp → Host → Prop
  | .movePath _ destination, host => host.exists destination = false
  | _, _ => True

def heading (inv : Node → Prop) : Contract Unit AgentOp Node :=
  Contract.alone inv fun op node => OntoNothing op node.host ∧ ∀ choice, inv (Node.exec op choice node).2

def looks : AgentOp → Bool
  | .readState | .stateFileExists | .ensureStateDirectory | .containerExists _ | .containerRunning _
  | .resticConfig _ | .pathExists _ => true
  | _ => false

theorem apply_looks (only : looks op = true) (choice : AgentChoice) (node : Node) :
    (node.apply op choice).2 = node := by
  cases op with
  | containerRunning id =>
    simp only [Node.apply]
    split <;> rfl
  | readState | stateFileExists | ensureStateDirectory | containerExists _ | resticConfig _
  | pathExists _ => rfl
  | _ => cases only

theorem exec_looks (only : looks op = true) (choice : AgentChoice) (node : Node) :
    (Node.exec op choice node).2 = node := by
  rcases exec_node op choice node with same | applied | ⟨removed, stuck⟩
  · exact same
  · rw [applied, apply_looks only]
  · rw [stuck]
    cases op <;> first | rfl | cases only

-- What survives the removal of a directory, and its being half removed.
def Survives (places : List Place) (assertion : Node → Prop) : Prop :=
  ∀ node, assertion node → ∀ place ∈ places, assertion (node.mapHost fun host => host.remove place) ∧
      assertion (node.mapHost fun host => host.damage place)

theorem Survives.gone {places : List Place} {assertion : Node → Prop}
    (survives : Survives places assertion) (gone : Place) :
    Survives places fun node => assertion node ∧ node.host.exists gone = false := by
  intro node holds place member
  obtain ⟨removed, damaged⟩ := survives node holds.1 place member
  exact ⟨⟨removed, remove_exists (.inr holds.2)⟩, damaged, (damage_exists node.host place gone).trans holds.2⟩

theorem Survives.foldl {places : List Place} {assertion : Node → Prop}
    (survives : Survives places assertion) {node : Node} (holds : assertion node) :
    assertion (node.mapHost fun host => places.foldl Host.remove host) ∧
      ∀ place ∈ places, (places.foldl Host.remove node.host).exists place = false := by
  induction places generalizing node assertion with
  | nil => exact ⟨holds, nofun⟩
  | cons first rest ih =>
    have removed := (survives node holds first (List.mem_cons_self ..)).1
    have onward : Survives rest assertion := fun node holds place member =>
      survives node holds place (List.mem_cons_of_mem _ member)
    obtain ⟨⟨kept, gone⟩, others⟩ := ih (onward.gone first)
      ⟨removed, @remove_exists node.host first first (.inl rfl)⟩
    refine ⟨kept, fun place member => ?_⟩
    rcases List.mem_cons.mp member with rfl | later
    · exact gone
    · exact others place later

theorem Survives.cutShort {places : List Place} {assertion : Node → Prop}
    (survives : Survives places assertion) {node : Node} (holds : assertion node) (removed : Nat) :
    assertion (node.mapHost (Node.cutShort (.removePaths places) removed)) := by
  have first : Survives (places.take removed) assertion := fun node holds place member =>
    survives node holds place (List.mem_of_mem_take member)
  cases position : places[removed]? with
  | none =>
    have same : Node.cutShort (.removePaths places) removed =
        fun host => (places.take removed).foldl Host.remove host := by
      funext host
      simp only [Node.cutShort, position]
    rw [same]
    exact (first.foldl holds).1
  | some place =>
    have same : Node.cutShort (.removePaths places) removed =
        fun host => ((places.take removed).foldl Host.remove host).damage place := by
      funext host
      simp only [Node.cutShort, position]
    rw [same]
    exact (survives _ (first.foldl holds).1 place (List.mem_of_getElem? position)).2

structure OnCourse (goal : Node → Option Host) (origin node : Node) : Prop where
  steady : goal node = goal origin
  recorded : node.host.state = origin.host.state ∨ goal origin = some node.host

section Heading

variable {Pick : Type} {pick : Pick → AgentChoice} {excused : Prop} {inv : Node → Prop}

variable (pick excused inv) in
abbrev Heads {A : Type} (pre : Node → Prop) (program : AgentM A) (post : A → Node → Prop) : Prop :=
  (heading inv).Attempts (fun op choice => Node.exec op (pick choice)) () (fun _ _ => excused) pre program post

variable (calm : ∀ choice, (pick choice).Calm ∨ excused)

include calm

variable {pre : Node → Prop}

theorem ask_heads (op : AgentOp) {post : op.Value → Node → Prop}
    (free : ∀ node, pre node → OntoNothing op node.host)
    (steady : ∀ node choice, pre node → inv node → inv (Node.exec op choice node).2)
    (effect : ∀ node choice, pre node → choice.Calm ∨ excused → match (node.apply op choice).1 with
      | .ok value => post value (node.apply op choice).2
      | .error _ => excused) :
    Heads pick excused inv pre (ask op) post := by
  refine Triple.perform (Contract.Stable.alone _) fun node kept holds => ?_
  refine ⟨⟨free node holds, fun choice => steady node choice holds kept⟩, fun choice => ?_⟩
  have applied := effect node (pick choice) holds (calm choice)
  cases result : (Node.exec op (pick choice) node).1 with
  | ok value =>
    rw [← exec_ok result, result] at applied
    exact applied
  | error error =>
    rcases calm choice with calm | excuse
    · rw [exec_calm calm] at result
      rw [result] at applied
      exact applied
    · exact excuse

theorem look_heads (op : AgentOp) (only : looks op = true) {post : op.Value → Node → Prop}
    (effect : ∀ node choice, pre node → choice.Calm ∨ excused → match (node.apply op choice).1 with
      | .ok value => post value node
      | .error _ => excused) :
    Heads pick excused inv pre (ask op) post := by
  refine ask_heads calm op (fun node _ => ?_) (fun node choice _ kept => ?_) fun node choice holds calm => ?_
  · cases op <;> trivial
  · rwa [exec_looks only]
  · rw [apply_looks only]
    exact effect node choice holds calm

theorem loadState_heads (refused : ∀ node error, pre node → node.host.loaded = .error error → excused) :
    Heads pick excused inv pre AgentExecutor.loadState
      fun state node => pre node ∧ node.host.loaded = .ok state := by
  unfold AgentExecutor.loadState
  refine Attempts.bind (fun stored node => pre node ∧ node.host.state = stored)
    (look_heads calm .readState rfl fun node _ holds _ => ⟨holds, rfl⟩) fun stored => ?_
  cases stored with
  | none =>
    refine Attempts.pure ?_
    rintro node ⟨holds, same⟩
    exact ⟨holds, by rw [Host.loaded, same]⟩
  | some state =>
    refine Attempts.ite (fun other => ?_) fun supported => ?_
    · refine Attempts.fail ?_
      rintro node ⟨holds, same⟩
      exact refused node _ holds (by rw [Host.loaded, same]; exact if_pos other)
    · refine Attempts.pure ?_
      rintro node ⟨holds, same⟩
      exact ⟨holds, by rw [Host.loaded, same]; exact if_neg supported⟩

theorem pathExists_heads (place : Place) : Heads pick excused inv pre (AgentExecutor.pathExists place)
      fun present node => pre node ∧ node.host.exists place = present :=
  look_heads calm (.pathExists place) rfl fun _ _ holds _ => ⟨holds, rfl⟩

theorem containerExists_heads (id : Uuid) : Heads pick excused inv pre (AgentExecutor.containerExists id)
      fun present node => pre node ∧ (node.host.containers id).isSome = present :=
  look_heads calm (.containerExists id) rfl fun _ _ holds _ => ⟨holds, rfl⟩

theorem containerRunning_heads (id : Uuid) : Heads pick excused inv pre (AgentExecutor.containerRunning id)
      fun running node => pre node ∧ node.host.isRunning id = running := by
  unfold AgentExecutor.containerRunning
  refine Attempts.bind _ (containerExists_heads calm id) fun present => ?_
  refine Attempts.ite (fun yes => ?_) fun no => ?_
  · refine look_heads calm (.containerRunning id) rfl ?_
    rintro node choice ⟨holds, there⟩ -
    rw [yes] at there
    obtain ⟨container, there⟩ := Option.isSome_iff_exists.mp there
    simp only [Node.apply, there]
    exact ⟨holds, by simp [Host.isRunning, there]⟩
  · refine Attempts.pure ?_
    rintro node ⟨holds, absent⟩
    refine ⟨holds, ?_⟩
    have absent : node.host.containers id = none := by simpa [no] using absent
    simp [Host.isRunning, absent]

theorem removeEach_heads {places : List Place} {assertion : Node → Prop}
    (survives : Survives places assertion) (kept : ∀ node, assertion node → inv node) :
    Heads pick excused inv assertion (AgentExecutor.removeEach places)
      fun _ node => assertion node ∧ ∀ place ∈ places, node.host.exists place = false := by
  induction places generalizing assertion with
  | nil => exact Attempts.pure fun _ holds => ⟨holds, nofun⟩
  | cons first rest ih =>
    have onward : Survives rest assertion := fun node holds place member =>
      survives node holds place (List.mem_cons_of_mem _ member)
    refine Attempts.bind (fun _ node => assertion node ∧ node.host.exists first = false) ?_ fun _ => ?_
    · refine ask_heads calm (.removePath first) (fun _ _ => trivial) ?_ ?_
      · intro node choice holds _
        obtain ⟨removed, damaged⟩ := survives node holds first (List.mem_cons_self ..)
        rcases exec_node (.removePath first) choice node with same | same | ⟨count, same⟩
        · rw [same]
          exact kept node holds
        · rw [same]
          exact kept _ removed
        · rw [same]
          exact kept _ damaged
      · intro node choice holds _
        exact ⟨(survives node holds first (List.mem_cons_self ..)).1,
          @remove_exists node.host first first (.inl rfl)⟩
    · refine Attempts.weaken (ih (onward.gone first) fun node holds => kept node holds.1) ?_
      rintro - node ⟨⟨holds, gone⟩, others⟩
      refine ⟨holds, fun place member => ?_⟩
      rcases List.mem_cons.mp member with rfl | later
      · exact gone
      · exact others place later

theorem removePaths_heads (config : AgentConfig) {places : List Place} {assertion : Node → Prop}
    (survives : Survives places assertion) (kept : ∀ node, assertion node → inv node) :
    Heads pick excused inv assertion (AgentExecutor.removePaths config places)
      fun _ node => assertion node ∧ ∀ place ∈ places, node.host.exists place = false := by
  unfold AgentExecutor.removePaths
  cases config.dataAccessMode with
  | host => exact removeEach_heads calm survives kept
  | podmanUserNamespace =>
    refine ask_heads calm (.removePaths places) (fun _ _ => trivial) ?_ ?_
    · intro node choice holds _
      rcases exec_node (.removePaths places) choice node with same | same | ⟨count, same⟩
      · rw [same]
        exact kept node holds
      · rw [same]
        exact kept _ (survives.foldl holds).1
      · rw [same]
        exact kept _ (survives.cutShort holds count)
    · exact fun node choice holds _ => survives.foldl holds

theorem ensureResticRepository_heads {origin : Node}
    (kept : ∀ node, node.host = origin.host → Framed origin node → inv node) (repository : String) :
    Heads pick excused inv (fun node => node.host = origin.host ∧ Framed origin node)
      (AgentExecutor.ensureResticRepository repository)
      fun _ node => node.host = origin.host ∧ Framed origin node := by
  unfold AgentExecutor.ensureResticRepository
  refine Attempts.bind (fun present node => (node.host = origin.host ∧ Framed origin node) ∧
    (present = false → excused ∨ node.repositories repository = none)) ?_ fun present => ?_
  · refine look_heads calm (.resticConfig repository) rfl fun node choice holds calm => ⟨holds, ?_⟩
    intro absent
    rcases calm with calm | excuse
    · simp only [calm.2, Bool.true_and, Option.isSome_eq_false_iff, Option.isNone_iff_eq_none] at absent
      exact .inr absent
    · exact .inl excuse
  refine Attempts.ite (fun _ => Attempts.pure fun _ holds => holds.1) fun absent => ?_
  refine Attempts.bind (fun made node => (node.host = origin.host ∧ Framed origin node) ∧
    (made = false → excused)) ?_ fun made => ?_
  · refine ask_heads calm (.resticInit repository) (fun _ _ => trivial) ?_ ?_
    · rintro node choice ⟨⟨same, framed⟩, -⟩ -
      have host : (Node.exec (.resticInit repository) choice node).2.host = origin.host := by
        refine @exec_host (.resticInit repository) (fun host => host = origin.host) node same
          (fun choice => ?_) (fun _ => same) choice
        simp only [Node.apply]
        split <;> exact same
      exact kept _ host (framed.trans (exec_framed rfl choice node))
    · rintro node choice ⟨⟨same, framed⟩, missing⟩ calm
      have applied := framed.trans (@apply_framed (.resticInit repository) rfl choice node)
      by_cases makes : (choice.succeeds && (node.repositories repository).isNone) = true
      · simp only [Node.apply, if_pos makes] at applied ⊢
        exact ⟨⟨same, applied⟩, by rintro ⟨⟩⟩
      · simp only [Node.apply, if_neg makes] at applied ⊢
        refine ⟨⟨same, applied⟩, fun _ => ?_⟩
        rcases missing (by simpa using absent) with excuse | missing
        · exact excuse
        · rcases calm with calm | excuse
          · exact absurd (by simp [calm.2, missing]) makes
          · exact excuse
  refine Attempts.ite (fun _ => Attempts.pure fun _ holds => holds.1) fun failed => ?_
  refine Attempts.strengthen (Attempts.given fun excuse : excused => ?_)
    fun node holds => ⟨holds.1, holds.2 (by simpa using failed)⟩
  refine Attempts.bind (fun _ (node : Node) => node.host = origin.host ∧ Framed origin node)
    (look_heads calm (.resticConfig repository) rfl fun _ _ holds _ => holds) fun present => ?_
  exact Attempts.ite (fun _ => Attempts.pure fun _ holds => holds) fun _ => Attempts.fail fun _ _ => excuse

end Heading

theorem prefix_of_heads {A : Type} {inv : Node → Prop} {origin : Node} {program : AgentM A}
    {post : A → Node → Prop} (heads : Heads id True inv (fun node => node = origin) program post)
    (initial : inv origin) (choices : List AgentChoice) :
    inv (runPrefix Node.exec choices program origin).2 ∧
      ∀ value, (runPrefix Node.exec choices program origin).1 = .done (.ok value) →
        post value (runPrefix Node.exec choices program origin).2 := by
  obtain ⟨kept, ended⟩ := (heads origin rfl).runPrefix
    (fun op choice node _ guard => guard.2 choice) initial choices
  exact ⟨kept, fun value finished => ended (.ok value) finished⟩

theorem calm_of_heads {A : Type} {inv : Node → Prop} {origin : Node} {program : AgentM A}
    {post : A → Node → Prop}
    (heads : Heads (Subtype.val : { choice : AgentChoice // choice.Calm } → AgentChoice) False inv
      (fun node => node = origin) program post)
    (initial : inv origin) (choices : Nat → AgentChoice) (calm : ∀ count, (choices count).Calm) :
    ∃ value, (runAll Node.exec choices program origin).1 = .ok value ∧
      inv (runAll Node.exec choices program origin).2 ∧
      post value (runAll Node.exec choices program origin).2 := by
  have ended := (heads origin rfl).runAll (fun op choice node _ guard => guard.2 choice.val) initial
    fun count => ⟨choices count, calm count⟩
  have same := runAll_pick Node.exec (Subtype.val : { choice : AgentChoice // choice.Calm } → AgentChoice)
    (fun count => ⟨choices count, calm count⟩) (A := Except ExecutorError A) program origin
  rw [same] at ended
  cases result : (runAll Node.exec choices program origin).1 with
  | ok value =>
    rw [result] at ended
    exact ⟨value, rfl, ended⟩
  | error error =>
    rw [result] at ended
    exact ended.2.elim

end McServer.Agent
