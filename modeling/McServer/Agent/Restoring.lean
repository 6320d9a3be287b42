import McServer.Agent.Heading

set_option autoImplicit false

namespace McServer.Agent

open Domain Interleaving Interleaving.Contract

def Held (kept found : Option Directory) (host : Host) : Prop :=
  (host.data = kept ∧ kept.isSome) ∨ (host.data = none ∧ host.previous = kept) ∨
    (host.data = found ∧ found.isSome)

theorem held_initially (found : Option Directory) (host : Host) :
    Held (host.data.or host.previous) found host := by
  cases present : host.data with
  | none => exact .inr (.inl ⟨present, rfl⟩)
  | some data => exact .inl ⟨present, rfl⟩

section Swap

-- `pick` says which choices the run may meet, `excused` whether it may then fail.
variable {Pick : Type} {pick : Pick → AgentChoice} {excused : Prop} {kept found : Option Directory}
variable {origin : Node}

variable (pick excused kept found origin) in
def Swaps {A : Type} (pre : Host → Prop) (program : AgentM A) (post : A → Host → Prop) : Prop :=
  Heads pick excused (fun node => Held kept found node.host ∧ Framed origin node)
    (fun node => pre node.host ∧ Framed origin node) program
    fun value node => post value node.host ∧ Framed origin node

variable {A : Type} {pre : Host → Prop} {post : A → Host → Prop} {program : AgentM A}

theorem pure_swaps {value : A} (implies : ∀ host, pre host → post value host) :
    Swaps pick excused kept found origin pre (pure value : AgentM A) post :=
  Attempts.pure fun node holds => ⟨implies node.host holds.1, holds.2⟩

theorem bind_swaps {B : Type} {next : A → AgentM B} {post : B → Host → Prop} (middle : A → Host → Prop)
    (first : Swaps pick excused kept found origin pre program middle)
    (second : ∀ value, Swaps pick excused kept found origin (middle value) (next value) post) :
    Swaps pick excused kept found origin pre (Try.bind program next) post :=
  Attempts.bind (fun value (node : Node) => middle value node.host ∧ Framed origin node) first second

theorem ite_swaps {condition : Prop} [Decidable condition] {first second : AgentM A}
    (yes : condition → Swaps pick excused kept found origin pre first post)
    (no : ¬condition → Swaps pick excused kept found origin pre second post) :
    Swaps pick excused kept found origin pre (if condition then first else second) post :=
  Attempts.ite yes no

theorem strengthen_swaps {pre pre' : Host → Prop}
    (swaps : Swaps pick excused kept found origin pre program post)
    (implies : ∀ host, pre' host → pre host) : Swaps pick excused kept found origin pre' program post :=
  Attempts.strengthen swaps fun node holds => ⟨implies node.host holds.1, holds.2⟩

theorem weaken_swaps {post post' : A → Host → Prop}
    (swaps : Swaps pick excused kept found origin pre program post)
    (implies : ∀ value host, post value host → post' value host) :
    Swaps pick excused kept found origin pre program post' :=
  Attempts.weaken swaps fun value node holds => ⟨implies value node.host holds.1, holds.2⟩

theorem given_swaps {fact : Prop} (onward : fact → Swaps pick excused kept found origin pre program post) :
    Swaps pick excused kept found origin (fun host => pre host ∧ fact) program post :=
  fun node holds => onward holds.1.2 node ⟨holds.1.1, holds.2⟩

variable (calm : ∀ choice, (pick choice).Calm ∨ excused)

include calm

-- One operation of the swap: what it does when it succeeds, and that alone it would.
theorem ask_swaps (op : AgentOp) {pre : Host → Prop} {post : op.Value → Host → Prop}
    (moves : movesData op = true) (free : ∀ host, pre host → OntoNothing op host)
    (held : ∀ host, pre host → Held kept found host)
    (stuck : ∀ host removed, pre host → Held kept found (Node.cutShort op removed host))
    (effect : ∀ node choice, Framed origin node → pre node.host →
      Held kept found (node.apply op choice).2.host ∧ match (node.apply op choice).1 with
        | .ok value => post value (node.apply op choice).2.host
        | .error _ => excused) :
    Swaps pick excused kept found origin pre (ask op) post := by
  refine ask_heads calm op (fun node holds => free node.host holds.1) ?_ ?_
  · rintro node choice ⟨holds, framed⟩ -
    exact ⟨exec_host (held node.host holds) (fun choice => (effect node choice framed holds).1)
      (fun removed => stuck node.host removed holds) choice,
      framed.trans (exec_framed moves choice node)⟩
  · rintro node choice ⟨holds, framed⟩ -
    have applied := (effect node choice framed holds).2
    cases result : (node.apply op choice).1 with
    | ok value =>
      rw [result] at applied
      exact ⟨applied, framed.trans (apply_framed moves choice node)⟩
    | error error =>
      rw [result] at applied
      exact applied

theorem pathExists_swaps {pre : Host → Prop} (place : Place) :
    Swaps pick excused kept found origin pre (AgentExecutor.pathExists place)
      fun present host => pre host ∧ host.exists place = present := by
  refine Attempts.weaken (pathExists_heads calm place) ?_
  rintro present node ⟨⟨holds, framed⟩, seen⟩
  exact ⟨⟨holds, seen⟩, framed⟩

omit calm in
theorem Framed.survives {places : List Place} {assertion : Host → Prop}
    (survives : ∀ host, assertion host → ∀ place ∈ places,
      assertion (host.remove place) ∧ assertion (host.damage place)) :
    Survives places fun node => assertion node.host ∧ Framed origin node := by
  rintro node ⟨holds, framed⟩ place member
  obtain ⟨removed, damaged⟩ := survives node.host holds place member
  exact ⟨⟨removed, framed.trans (.ofHost (remove_frame place node.host).1 (remove_frame place node.host).2)⟩,
    damaged, framed.trans (.ofHost (damage_frame place node.host).1 (damage_frame place node.host).2)⟩

theorem removePaths_swaps (config : AgentConfig) {places : List Place} {assertion : Host → Prop}
    (survives : ∀ host, assertion host → ∀ place ∈ places,
      assertion (host.remove place) ∧ assertion (host.damage place))
    (held : ∀ host, assertion host → Held kept found host) :
    Swaps pick excused kept found origin assertion (AgentExecutor.removePaths config places)
      fun _ host => assertion host ∧ ∀ place ∈ places, host.exists place = false := by
  refine Attempts.weaken (removePaths_heads calm config (Framed.survives survives)
    fun node holds => ⟨held node.host holds.1, holds.2⟩) ?_
  rintro - node ⟨⟨holds, framed⟩, gone⟩
  exact ⟨⟨holds, gone⟩, framed⟩

theorem recoverInterruptedSwap_swaps :
    Swaps pick excused kept found origin (fun host => host.data.or host.previous = kept)
      AgentExecutor.recoverInterruptedSwap
      fun _ host => host.data = kept ∧ (kept = none → host.previous = none) := by
  unfold AgentExecutor.recoverInterruptedSwap
  refine bind_swaps _ (pathExists_swaps calm .data) fun present => ?_
  refine ite_swaps (fun yes => ?_) fun no => ?_
  · refine pure_swaps fun host holds => ?_
    obtain ⟨same, found⟩ := holds
    rw [yes] at found
    obtain ⟨data, there⟩ := Option.isSome_iff_exists.mp (found : host.data.isSome = true)
    rw [there] at same ⊢
    exact ⟨same, fun absent => by rw [absent] at same; cases same⟩
  · refine bind_swaps
      (fun more host => (host.data = none ∧ host.previous = kept) ∧ host.exists .previous = more)
      ?_ fun more => ?_
    · refine strengthen_swaps (pathExists_swaps calm .previous) fun host holds => ?_
      obtain ⟨same, absent⟩ := holds
      have absent : host.data = none := by
        simpa [Host.exists, no] using absent
      rw [absent, Option.none_or] at same
      exact ⟨absent, same⟩
    · refine ite_swaps (fun yes => ?_) fun no => ?_
      · refine ask_swaps calm (.movePath .previous .data) rfl ?_ ?_ ?_ ?_
        · intro host holds
          simp [OntoNothing, Host.exists, holds.1.1]
        · exact fun host holds => .inr (.inl holds.1)
        · exact fun host removed holds => .inr (.inl holds.1)
        · intro node choice _ holds
          obtain ⟨⟨-, same⟩, there⟩ := holds
          rw [yes] at there
          obtain ⟨data, there⟩ := Option.isSome_iff_exists.mp (there : node.host.previous.isSome = true)
          rw [there] at same
          simp only [Node.apply, Node.move, there, Host.remove]
          rw [← same]
          exact ⟨.inl ⟨rfl, rfl⟩, rfl, by rintro ⟨⟩⟩
      · refine pure_swaps fun host holds => ?_
        obtain ⟨⟨absent, same⟩, gone⟩ := holds
        have gone : host.previous = none := by
          simpa [Host.exists, no] using gone
        rw [gone] at same
        exact ⟨absent.trans same, fun _ => gone⟩

theorem setDataAside_swaps : Swaps pick excused kept found origin
      (fun host => host.data = kept ∧ host.previous = none ∧ host.staging = some found)
      AgentExecutor.setDataAside
      fun _ host => host.data = none ∧ host.previous = kept ∧ host.staging = some found := by
  have before : ∀ host : Host, host.data = kept ∧ host.previous = none ∧ host.staging = some found →
      Held kept found host := by
    rintro host ⟨same, gone, -⟩
    cases present : kept with
    | none => exact .inr (.inl ⟨same.trans present, gone⟩)
    | some data => exact .inl ⟨same.trans present, rfl⟩
  unfold AgentExecutor.setDataAside
  refine bind_swaps _ (pathExists_swaps calm .data) fun present => ?_
  refine ite_swaps (fun yes => ?_) fun no => ?_
  · refine ask_swaps calm (.movePath .data .previous) rfl ?_ (fun host holds => before host holds.1)
      (fun host removed holds => before host holds.1) ?_
    · rintro host ⟨⟨-, gone, -⟩, -⟩
      simp [OntoNothing, Host.exists, gone]
    · intro node choice _ holds
      obtain ⟨⟨same, -, staged⟩, there⟩ := holds
      rw [yes] at there
      obtain ⟨data, there⟩ := Option.isSome_iff_exists.mp (there : node.host.data.isSome = true)
      rw [there] at same
      simp only [Node.apply, Node.move, there, Host.remove]
      rw [← same]
      exact ⟨.inr (.inl ⟨rfl, rfl⟩), trivial, rfl, staged⟩
  · refine pure_swaps fun host holds => ?_
    obtain ⟨⟨same, gone, staged⟩, absent⟩ := holds
    have absent : host.data = none := by
      simpa [Host.exists, no] using absent
    rw [absent] at same
    exact ⟨absent, gone.trans same, staged⟩

def Halfway (kept found : Option Directory) (origin node : Node) : Prop :=
  ((node.host.data = none ∧ node.host.previous = kept) ∨ (node.host.data = found ∧ found.isSome)) ∧
    Framed origin node

omit calm in
theorem Halfway.inv {node : Node} (halfway : Halfway kept found origin node) :
    Held kept found node.host ∧ Framed origin node := ⟨.inr halfway.1, halfway.2⟩

omit calm in
theorem look_halfway (place : Place) :
    (heading fun node => Held kept found node.host ∧ Framed origin node).Triple
      (fun op choice => Node.exec op (pick choice)) () (Halfway kept found origin)
      (AgentExecutor.pathExists place)
      fun result node => Halfway kept found origin node ∧
        ∀ present, result = .ok present → node.host.exists place = present := by
  refine Triple.perform (Contract.Stable.alone _) fun node inv holds => ?_
  have same : ∀ choice, (Node.exec (.pathExists place) choice node).2 = node :=
    fun choice => exec_looks rfl choice node
  refine ⟨⟨trivial, fun choice => (same choice).symm ▸ inv⟩, fun choice => ?_⟩
  refine ⟨(same (pick choice)).symm ▸ holds, fun present result => ?_⟩
  rw [same]
  rw [exec_ok result] at result
  injection result

omit calm in
theorem recoverSwap_swaps (excuse : excused) (error : ExecutorError) {post : Unit → Node → Prop} :
    Heads pick excused (fun node => Held kept found node.host ∧ Framed origin node)
      (Halfway kept found origin) (AgentExecutor.recoverSwap error) post := by
  have failing : ∀ pre : Node → Prop, Heads pick excused
      (fun node => Held kept found node.host ∧ Framed origin node) pre
      (Try.fail error : AgentM Unit) post :=
    fun pre => Attempts.fail fun _ _ => excuse
  unfold AgentExecutor.recoverSwap
  refine Triple.bind _ (look_halfway .previous) fun previous => ?_
  match previous with
  | .error _ | .ok false => exact failing _
  | .ok true =>
    refine Triple.strengthen (Triple.bind _ (look_halfway .data) fun data => ?_) fun node holds => holds.1
    match data with
    | .error _ | .ok true => exact failing _
    | .ok false =>
      refine Triple.bind (fun _ _ => True) ?_ fun _ => failing _
      refine Triple.perform (Contract.Stable.alone _) fun node inv holds => ?_
      obtain ⟨⟨halfway, framed⟩, absent⟩ := holds
      have free := absent false rfl
      have absent : node.host.data = none := by simpa [Host.exists] using free
      have aside : node.host.data = none ∧ node.host.previous = kept := by
        rcases halfway with aside | ⟨same, present⟩
        · exact aside
        · rw [← same, absent] at present
          cases present
      refine ⟨⟨free, fun choice => ⟨exec_host (.inr (.inl aside)) (fun choice => ?_)
        (fun removed => .inr (.inl aside)) choice,
        framed.trans (exec_framed rfl choice node)⟩⟩, fun _ => trivial⟩
      cases there : kept with
      | none =>
        simp only [Node.apply, Node.move, aside.2, there]
        exact .inr (.inl ⟨absent, aside.2.trans there⟩)
      | some data =>
        simp only [Node.apply, Node.move, aside.2, there]
        exact .inl ⟨rfl, rfl⟩

theorem moveIn_swaps : (heading fun node => Held kept found node.host ∧ Framed origin node).Triple
      (fun op choice => Node.exec op (pick choice)) ()
      (fun node => ((node.host.data = none ∧ node.host.previous = kept ∧
        node.host.staging = some found) ∧ found.isSome) ∧ Framed origin node)
      (AgentExecutor.movePath .restored .data)
      fun result node =>
        match result with
        | .ok _ => (node.host.data = found ∧ found.isSome) ∧ Framed origin node
        | .error _ => excused ∧ Halfway kept found origin node := by
  refine Triple.perform (Contract.Stable.alone _) fun node inv holds => ?_
  obtain ⟨⟨⟨absent, aside, staged⟩, there⟩, framed⟩ := holds
  have applied : ∀ choice, node.apply (.movePath .restored .data) choice =
      (.ok (), { node with host := { node.host with data := found, staging := some none } }) := by
    intro choice
    obtain ⟨tree, there⟩ := Option.isSome_iff_exists.mp there
    simp only [Node.apply, Node.move, staged, there, Host.remove, Option.join_some]
    rfl
  have halfway : ∀ choice, Halfway kept found origin (Node.exec (.movePath .restored .data) choice node).2 := by
    intro choice
    refine ⟨?_, framed.trans (exec_framed rfl choice node)⟩
    rcases exec_node (.movePath .restored .data) choice node with same | same | ⟨removed, same⟩
    · rw [same]
      exact .inl ⟨absent, aside⟩
    · rw [same, applied]
      exact .inr ⟨rfl, there⟩
    · rw [same]
      exact .inl ⟨absent, aside⟩
  refine ⟨⟨by simp [OntoNothing, Host.exists, absent], fun choice => (halfway choice).inv⟩, fun choice => ?_⟩
  cases result : (Node.exec (.movePath .restored .data) (pick choice) node).1 with
  | ok value =>
    refine ⟨?_, (halfway (pick choice)).2⟩
    rw [exec_ok result, applied]
    exact ⟨rfl, there⟩
  | error error =>
    refine ⟨?_, halfway (pick choice)⟩
    rcases calm choice with calm | excuse
    · rw [exec_calm calm, applied] at result
      cases result
    · exact excuse

theorem swapIn_swaps (config : AgentConfig) : Swaps pick excused kept found origin
      (fun host => (host.data = none ∧ host.previous = kept ∧ host.staging = some found) ∧ found.isSome)
      (AgentExecutor.swapIn config)
      fun _ host => (host.data = found ∧ found.isSome) ∧ host.previous = none ∧ host.staging = none := by
  refine Triple.bind _ (moveIn_swaps calm) fun result => ?_
  cases result with
  | error error => exact fun node holds => recoverSwap_swaps holds.1 error node holds.2
  | ok value =>
    have survives : ∀ host : Host, host.data = found ∧ found.isSome → ∀ place ∈ [Place.previous, Place.staging],
          ((host.remove place).data = found ∧ found.isSome) ∧
            (host.damage place).data = found ∧ found.isSome := by
      intro host holds place member
      simp only [List.mem_cons, List.not_mem_nil, or_false] at member
      rcases member with rfl | rfl <;> exact ⟨holds, holds⟩
    refine Attempts.weaken (removePaths_swaps calm config survives fun host holds => .inr (.inr holds)) ?_
    rintro - node ⟨⟨same, gone⟩, framed⟩
    refine ⟨⟨same, ?_, ?_⟩, framed⟩
    · simpa [Host.exists] using gone .previous (by simp)
    · simpa [Host.exists] using gone .staging (by simp)

theorem restoreSnapshot_swaps (config : AgentConfig) (repository snapshotId : String)
    (requested : origin.snapshot repository snapshotId = found) (missing : found = none → excused) :
    Swaps pick excused kept found origin (fun host => host.data.or host.previous = kept)
      (AgentExecutor.restoreSnapshot config repository snapshotId)
      fun _ host => (host.data = found ∧ found.isSome) ∧ host.previous = none ∧ host.staging = none := by
  have kept_held : ∀ host : Host, host.data = kept ∧ (kept = none → host.previous = none) →
      Held kept found host := by
    rintro host ⟨same, gone⟩
    cases present : kept with
    | none => exact .inr (.inl ⟨same.trans present, gone present⟩)
    | some data => exact .inl ⟨same.trans present, rfl⟩
  have alone_held : ∀ host : Host, host.data = kept ∧ host.previous = none → Held kept found host :=
    fun host holds => kept_held host ⟨holds.1, fun _ => holds.2⟩
  unfold AgentExecutor.restoreSnapshot
  refine bind_swaps _ (recoverInterruptedSwap_swaps calm) fun _ => ?_
  refine bind_swaps (fun _ host => host.data = kept ∧ host.previous = none ∧ host.staging = none) ?_ fun _ => ?_
  · have survives : ∀ host : Host, host.data = kept ∧ (kept = none → host.previous = none) →
        ∀ place ∈ [Place.staging, Place.previous],
          ((host.remove place).data = kept ∧ (kept = none → (host.remove place).previous = none)) ∧
            (host.damage place).data = kept ∧ (kept = none → (host.damage place).previous = none) := by
      rintro host ⟨same, gone⟩ place member
      simp only [List.mem_cons, List.not_mem_nil, or_false] at member
      rcases member with rfl | rfl
      · exact ⟨⟨same, gone⟩, same, gone⟩
      · exact ⟨⟨same, fun _ => rfl⟩, same, fun absent => by simp [Host.damage, gone absent]⟩
    refine weaken_swaps (removePaths_swaps calm config survives kept_held) ?_
    rintro - host ⟨⟨same, -⟩, gone⟩
    refine ⟨same, ?_, ?_⟩
    · simpa [Host.exists] using gone .previous (by simp)
    · simpa [Host.exists] using gone .staging (by simp)
  refine bind_swaps (fun _ host => host.data = kept ∧ host.previous = none) ?_ fun _ => ?_
  · refine ask_swaps calm (.createDirectory .staging) rfl (fun _ _ => trivial)
      (fun host holds => alone_held host ⟨holds.1, holds.2.1⟩)
      (fun host _ holds => alone_held host ⟨holds.1, holds.2.1⟩) ?_
    rintro node choice - ⟨same, gone, staging⟩
    have after : (node.create .staging).host.data = kept ∧ (node.create .staging).host.previous = none := by
      simp [Node.create, Host.exists, staging, Node.mapHost, same, gone]
    exact ⟨alone_held _ after, after⟩
  refine bind_swaps
    (fun _ host => (host.data = kept ∧ host.previous = none ∧ host.staging = some found) ∧ found.isSome)
    ?_ fun _ => ?_
  · refine ask_swaps calm (.resticRestore repository snapshotId) rfl (fun _ _ => trivial) alone_held
      (fun host _ holds => alone_held _ holds) ?_
    rintro node choice framed ⟨same, gone⟩
    have requested := (framed.snapshot repository snapshotId).trans requested
    unfold Node.snapshot at requested
    simp only [Node.apply, Node.restore, requested]
    cases present : found with
    | none =>
      rw [present] at alone_held
      exact ⟨alone_held node.host ⟨same, gone⟩, missing present⟩
    | some tree =>
      rw [present] at alone_held
      exact ⟨alone_held _ ⟨same, gone⟩, ⟨same, gone, rfl⟩, rfl⟩
  refine bind_swaps (fun restored host =>
    ((host.data = kept ∧ host.previous = none ∧ host.staging = some found) ∧ found.isSome) ∧
      restored = true) ?_ fun restored => ?_
  · refine weaken_swaps (pathExists_swaps calm .restored) ?_
    rintro restored host ⟨⟨⟨same, gone, staged⟩, there⟩, seen⟩
    refine ⟨⟨⟨same, gone, staged⟩, there⟩, ?_⟩
    rw [← seen]
    simpa [Host.exists, staged] using there
  refine given_swaps fun seen => ?_
  refine given_swaps fun there => ?_
  refine bind_swaps
    (fun _ host => host.data = kept ∧ host.previous = none ∧ host.staging = some found) ?_ fun _ => ?_
  · unfold Try.failIf
    exact ite_swaps (fun failed => absurd seen (by simpa using failed)) fun _ => pure_swaps fun _ holds => holds
  refine bind_swaps _ (setDataAside_swaps calm) fun _ => ?_
  exact strengthen_swaps (swapIn_swaps calm config) fun host holds => ⟨holds, there⟩

end Swap

def prepared (state : AgentState) (assigned : InstanceState) : AgentState :=
  { state with assigned := some { assigned with dataPrepared := true } }

def wanted (params : RestoreDataParams) (node : Node) : Option Host :=
  match params.sourceSnapshotId with
  | none => some { node.host with data := some { content := "", intact := true } }
  | some snapshotId => (node.snapshot params.repository snapshotId).map fun tree =>
      { node.host with data := some tree, previous := none, staging := none }

def restoreGoal (params : RestoreDataParams) (node : Node) : Option Host :=
  match node.host.loaded with
  | .error _ => none
  | .ok state =>
      match ensureInstanceState state params.identity params.serverId params.repository
          params.sourceSnapshotId with
      | .error _ => none
      | .ok assigned =>
          if assigned.dataPrepared then some node.host
          else (wanted params node).map fun host => { host with state := some (prepared state assigned) }

structure Admits (params : RestoreDataParams) (host : Host) (state : AgentState)
    (assigned : InstanceState) : Prop where
  loaded : host.loaded = .ok state
  ensured : ensureInstanceState state params.identity params.serverId params.repository
    params.sourceSnapshotId = .ok assigned

section Goals

variable {state : AgentState} {params : RestoreDataParams} {assigned : InstanceState}

theorem restoreGoal_eq {node : Node} (admits : Admits params node.host state assigned) :
    restoreGoal params node = if assigned.dataPrepared then some node.host
      else (wanted params node).map fun host => { host with state := some (prepared state assigned) } := by
  simp only [restoreGoal, admits.loaded, admits.ensured]

theorem schemaVersion_of_loaded {host : Host} (loaded : host.loaded = .ok state) :
    state.schemaVersion = agentStateSchemaVersion := by
  unfold Host.loaded at loaded
  split at loaded
  · cases loaded
    rfl
  · split_ifs at loaded with other
    cases loaded
    exact not_not.mp other

theorem Admits.ofState {host host' : Host} (admits : Admits params host state assigned)
    (same : host'.state = host.state) : Admits params host' state assigned := by
  refine ⟨?_, admits.ensured⟩
  rw [← admits.loaded, Host.loaded, Host.loaded, same]

theorem Admits.prepare {host host' : Host} (admits : Admits params host state assigned)
    (stored : host'.state = some (prepared state assigned)) :
    Admits params host' (prepared state assigned) { assigned with dataPrepared := true } := by
  constructor
  · rw [Host.loaded, stored]
    exact if_neg (not_not.mpr (schemaVersion_of_loaded admits.loaded))
  · have ensured := admits.ensured
    unfold ensureInstanceState at ensured ⊢
    dsimp only [prepared, Option.getD_some] at ensured ⊢
    generalize state.assigned.getD _ = recorded at ensured
    split at ensured
    · cases ensured
    · next validated =>
      split_ifs at ensured with changed
      cases ensured
      rw [show validateIdentity { assigned with dataPrepared := true } params.identity = .ok () from validated]
      exact if_neg changed

theorem restoreGoal_framed {origin node : Node}
    {snapshotId : String} (admits : Admits params origin.host state assigned)
    (unprepared : ¬assigned.dataPrepared) (requested : params.sourceSnapshotId = some snapshotId)
    (framed : Framed origin node) : restoreGoal params node = restoreGoal params origin := by
  rw [restoreGoal_eq admits, restoreGoal_eq (admits.ofState framed.state), if_neg unprepared, if_neg unprepared]
  simp only [wanted, requested, framed.snapshot, framed.containers, Option.map_map]
  rfl

structure Restoring (params : RestoreDataParams) (origin node : Node) : Prop where
  course : OnCourse (restoreGoal params) origin node
  held : ∀ snapshotId, params.sourceSnapshotId = some snapshotId →
    Held (origin.host.data.or origin.host.previous) (origin.snapshot params.repository snapshotId) node.host
  snapshot : ∀ repository snapshotId,
    node.snapshot repository snapshotId = origin.snapshot repository snapshotId

theorem Restoring.ofSame (params : RestoreDataParams) {origin node : Node}
    (same : node.host = origin.host) (framed : Framed origin node) : Restoring params origin node := by
  refine ⟨⟨?_, .inl (by rw [same])⟩, fun snapshotId _ => ?_, framed.snapshot⟩
  · simp only [restoreGoal, wanted, same, framed.snapshot]
  · rw [same]
    exact held_initially _ origin.host

theorem Restoring.ofData {origin node : Node} (admits : Admits params origin.host state assigned)
    (unprepared : ¬assigned.dataPrepared) (fresh : params.sourceSnapshotId = none)
    {data : Option Directory} (same : node.host = { origin.host with data }) (framed : Framed origin node) :
    Restoring params origin node := by
  refine ⟨⟨?_, .inl framed.state⟩, fun snapshotId requested => ?_, framed.snapshot⟩
  · rw [restoreGoal_eq admits, restoreGoal_eq (admits.ofState framed.state), if_neg unprepared,
      if_neg unprepared]
    simp only [wanted, fresh, same]
  · rw [fresh] at requested
    cases requested

section Restoring

variable {Pick : Type} {pick : Pick → AgentChoice} {excused : Prop}
variable (calm : ∀ choice, (pick choice).Calm ∨ excused)
variable {params : RestoreDataParams} {origin : Node} {state : AgentState} {assigned : InstanceState}

include calm

theorem prepareSnapshot_heads (config : AgentConfig)
    (admits : Admits params origin.host state assigned) (unprepared : ¬assigned.dataPrepared)
    (refused : restoreGoal params origin = none → excused) {snapshotId : String}
    (requested : params.sourceSnapshotId = some snapshotId) :
    Heads pick excused (Restoring params origin) (fun node => node.host = origin.host ∧ Framed origin node)
      (AgentExecutor.restoreSnapshot config params.repository snapshotId)
      fun _ node => node.host.state = origin.host.state ∧ wanted params node = some node.host := by
  rintro node ⟨same, framed⟩
  have missing : origin.snapshot params.repository snapshotId = none → excused := by
    intro absent
    refine refused ?_
    rw [restoreGoal_eq admits, if_neg unprepared]
    simp [wanted, requested, absent]
  have swaps := restoreSnapshot_swaps calm config params.repository snapshotId rfl missing node
    ⟨(by rw [same] : node.host.data.or node.host.previous = origin.host.data.or origin.host.previous), framed⟩
  have initial : Held (origin.host.data.or origin.host.previous)
      (origin.snapshot params.repository snapshotId) node.host := by
    rw [same]
    exact held_initially _ origin.host
  refine (swaps.under (fun op choice node _ guard => guard.2 (pick choice)) ?_ ⟨initial, framed⟩).weaken ?_
  · rintro op node - ⟨free, kept⟩
    refine ⟨free, fun choice => ?_⟩
    obtain ⟨held, framed⟩ := kept choice
    refine ⟨⟨restoreGoal_framed admits unprepared requested framed, .inl framed.state⟩, ?_, framed.snapshot⟩
    intro other again
    rw [requested] at again
    cases again
    exact held
  · rintro result after ⟨-, done⟩
    cases result with
    | error error => exact done
    | ok value =>
      obtain ⟨⟨⟨data, there⟩, previous, staging⟩, framed⟩ := done
      refine ⟨framed.state, ?_⟩
      obtain ⟨tree, there⟩ := Option.isSome_iff_exists.mp there
      simp only [wanted, requested, framed.snapshot, there, Option.map_some]
      rw [there] at data
      rw [← data, ← previous, ← staging]

theorem prepareFresh_heads (config : AgentConfig)
    (admits : Admits params origin.host state assigned) (unprepared : ¬assigned.dataPrepared)
    (fresh : params.sourceSnapshotId = none) :
    Heads pick excused (Restoring params origin) (fun node => node.host = origin.host ∧ Framed origin node)
      (do AgentExecutor.removePaths config [.data]; ask (.createDirectory .data))
      fun _ node => node.host.state = origin.host.state ∧ wanted params node = some node.host := by
  have kept : ∀ node : Node, (∃ data, node.host = { origin.host with data }) ∧ Framed origin node →
      Restoring params origin node := by
    rintro node ⟨⟨data, same⟩, framed⟩
    exact .ofData admits unprepared fresh same framed
  have survives : ∀ host : Host, (∃ data, host = { origin.host with data }) →
      ∀ place ∈ [Place.data], (∃ data, host.remove place = { origin.host with data }) ∧
        ∃ data, host.damage place = { origin.host with data } := by
    rintro host ⟨data, same⟩ place member
    cases List.mem_singleton.mp member
    exact ⟨⟨none, by simp only [same, Host.remove]⟩,
      data.map Directory.damage, by simp only [same, Host.damage]⟩
  refine Attempts.bind
    (fun _ node => node.host = { origin.host with data := none } ∧ Framed origin node) ?_ fun _ => ?_
  · refine Attempts.weaken (Attempts.strengthen (removePaths_heads calm config (Framed.survives survives) kept)
      fun node holds => ⟨⟨origin.host.data, holds.1⟩, holds.2⟩) ?_
    rintro - node ⟨⟨⟨data, same⟩, framed⟩, gone⟩
    have gone := gone .data (by simp)
    rw [same] at gone
    have absent : data = none := by simpa [Host.exists] using gone
    exact ⟨by rw [same, absent], framed⟩
  · have applied : ∀ (node : Node) (choice : AgentChoice), node.host = { origin.host with data := none } →
        (node.apply (.createDirectory .data) choice).2.host =
          { origin.host with data := some { content := "", intact := true } } := by
      intro node choice same
      simp [Node.apply, Node.create, Host.exists, Node.mapHost, same]
    refine ask_heads calm (.createDirectory .data) (fun _ _ => trivial) ?_ ?_
    · rintro node choice ⟨same, framed⟩ -
      refine kept _ ⟨?_, framed.trans (exec_framed rfl choice node)⟩
      rcases exec_node (.createDirectory .data) choice node with after | after | ⟨removed, after⟩
      · exact ⟨none, by rw [after, same]⟩
      · exact ⟨_, by rw [after]; exact applied node choice same⟩
      · exact ⟨none, by rw [after]; exact same⟩
    · rintro node choice ⟨same, -⟩ -
      have after := applied node choice same
      refine ⟨by rw [after], ?_⟩
      simp only [wanted, fresh]
      rw [after]

theorem prepareData_heads (config : AgentConfig)
    (admits : Admits params origin.host state assigned) (unprepared : ¬assigned.dataPrepared)
    (refused : restoreGoal params origin = none → excused) :
    Heads pick excused (Restoring params origin) (fun node => node.host = origin.host ∧ Framed origin node)
      (AgentExecutor.prepareData config params)
      fun _ node => node.host.state = origin.host.state ∧ wanted params node = some node.host := by
  unfold AgentExecutor.prepareData
  split
  · next snapshotId requested =>
    exact prepareSnapshot_heads calm config admits unprepared refused requested
  · next fresh =>
    exact prepareFresh_heads calm config admits unprepared fresh

theorem storePrepared_heads (admits : Admits params origin.host state assigned)
    (unprepared : ¬assigned.dataPrepared) :
    Heads pick excused (Restoring params origin)
      (fun node => node.host.state = origin.host.state ∧ wanted params node = some node.host)
      (AgentExecutor.storeState (prepared state assigned))
      fun _ node => restoreGoal params node = some node.host := by
  have reached : ∀ node : Node, node.host.state = some (prepared state assigned) →
      restoreGoal params node = some node.host := by
    intro node stored
    rw [restoreGoal_eq (admits.prepare stored)]
    exact if_pos rfl
  unfold AgentExecutor.storeState
  refine Attempts.bind
    (fun _ (node : Node) => node.host.state = origin.host.state ∧ wanted params node = some node.host)
    (look_heads calm .ensureStateDirectory rfl fun _ _ holds _ => holds) fun _ => ?_
  refine ask_heads calm (.writeState (prepared state assigned)) (fun _ _ => trivial) ?_ ?_
  · rintro node choice ⟨recorded, there⟩ inv
    rcases exec_node (.writeState (prepared state assigned)) choice node with same | same | ⟨removed, same⟩
    · rw [same]
      exact inv
    · rw [same]
      have goal : restoreGoal params origin =
          some { node.host with state := some (prepared state assigned) } := by
        rw [← inv.course.steady, restoreGoal_eq (admits.ofState recorded), if_neg unprepared, there]
        rfl
      exact ⟨⟨(reached _ rfl).trans goal.symm, .inr goal⟩, inv.held, inv.snapshot⟩
    · rw [same]
      exact inv
  · exact fun node choice _ _ => reached _ rfl

theorem restoreData_heads (config : AgentConfig) (params : RestoreDataParams) (origin : Node)
    (refused : restoreGoal params origin = none → excused) :
    Heads pick excused (Restoring params origin) (fun node => node = origin)
      (AgentExecutor.restoreData config params)
      fun changed node => restoreGoal params node = some node.host ∧
        (restoreGoal params origin = some origin.host → changed = false ∧ node = origin) := by
  unfold AgentExecutor.restoreData
  refine Attempts.bind _ (loadState_heads calm ?_) fun state => ?_
  · rintro node error rfl unreadable
    exact refused (by simp only [restoreGoal, unreadable])
  refine Attempts.bind (fun assigned node => node = origin ∧ Admits params origin.host state assigned)
    (Attempts.ofExcept ?_ ?_) fun assigned => ?_
  · rintro error stale node ⟨rfl, loaded⟩
    exact refused (by simp only [restoreGoal, loaded, stale])
  · rintro assigned ensured node ⟨rfl, loaded⟩
    exact ⟨rfl, loaded, ensured⟩
  refine Attempts.given fun admits => ?_
  refine Attempts.ite (fun already => ?_) fun unprepared => ?_
  · refine Attempts.pure ?_
    rintro node rfl
    rw [restoreGoal_eq admits, if_pos already]
    exact ⟨rfl, fun _ => ⟨rfl, rfl⟩⟩
  refine Attempts.bind (fun _ node => node = origin)
    (look_heads calm .ensureStateDirectory rfl fun _ _ holds _ => holds) fun _ => ?_
  refine Attempts.bind _ (Attempts.strengthen
    (ensureResticRepository_heads calm (fun node => Restoring.ofSame params) params.repository) ?_)
    fun _ => ?_
  · rintro node rfl
    exact ⟨rfl, .refl node⟩
  refine Attempts.bind _ (prepareData_heads calm config admits unprepared refused) fun _ => ?_
  refine Attempts.bind _ (storePrepared_heads calm admits unprepared) fun _ => ?_
  refine Attempts.pure fun node goal => ⟨goal, fun settled => ?_⟩
  -- A machine whose state file says otherwise has not reached the goal.
  rw [restoreGoal_eq admits, if_neg unprepared, Option.map_eq_some_iff] at settled
  obtain ⟨host, -, same⟩ := settled
  have again := admits.prepare (by rw [← same] : origin.host.state = _)
  have states : state = prepared state assigned := Except.ok.inj (admits.loaded.symm.trans again.loaded)
  have both := again.ensured
  rw [← states, admits.ensured] at both
  exact absurd (congrArg InstanceState.dataPrepared (Except.ok.inj both)) unprepared

end Restoring

inductive Reached : Node → Prop where
  | first {node : Node} (whole : node.host.data.all Directory.intact)
      (alone : node.host.previous = none)
      (snapshots : ∀ repository snapshotId, (node.snapshot repository snapshotId).all Directory.intact) :
      Reached node
  | again {node : Node} (reached : Reached node) (config : AgentConfig) (params : RestoreDataParams)
      (requested : params.sourceSnapshotId.isSome) (choices : List AgentChoice) :
      Reached (runPrefix Node.exec choices (AgentExecutor.restoreData config params) node).2

theorem Held.whole {kept found : Option Directory} {host : Host} (held : Held kept found host)
    (before : kept.all Directory.intact) (requested : found.all Directory.intact) :
    (host.data.or host.previous).all Directory.intact := by
  rcases held with ⟨same, there⟩ | ⟨absent, same⟩ | ⟨same, there⟩
  · obtain ⟨directory, there⟩ := Option.isSome_iff_exists.mp there
    rw [same, there, Option.some_or, ← there]
    exact before
  · rw [absent, same]
    exact before
  · obtain ⟨directory, there⟩ := Option.isSome_iff_exists.mp there
    rw [same, there, Option.some_or, ← there]
    exact requested

theorem restoring_everywhere (config : AgentConfig) (params : RestoreDataParams) (node : Node)
    (choices : List AgentChoice) :
    Restoring params node (runPrefix Node.exec choices (AgentExecutor.restoreData config params) node).2 :=
  (prefix_of_heads (restoreData_heads (fun _ => .inr trivial) config params node fun _ => trivial)
    (.ofSame params rfl (.refl node)) choices).1

theorem Reached.whole {node : Node} (reached : Reached node) :
    (node.host.data.or node.host.previous).all Directory.intact ∧
      ∀ repository snapshotId, (node.snapshot repository snapshotId).all Directory.intact := by
  induction reached with
  | first whole alone snapshots =>
    refine ⟨?_, snapshots⟩
    rw [alone, Option.or_none]
    exact whole
  | @again node reached config params requested choices ih =>
    obtain ⟨snapshotId, requested⟩ := Option.isSome_iff_exists.mp requested
    have restoring := restoring_everywhere config params node choices
    refine ⟨(restoring.held snapshotId requested).whole ih.1 (ih.2 _ _), fun repository other => ?_⟩
    rw [restoring.snapshot]
    exact ih.2 repository other

theorem restoreGoal_recorded {params : RestoreDataParams} {node : Node} {host : Host} {snapshotId : String}
    (requested : params.sourceSnapshotId = some snapshotId) (goal : restoreGoal params node = some host) :
    host = node.host ∨ ∃ tree, node.snapshot params.repository snapshotId = some tree ∧
      host.data = some tree ∧ host.previous = none ∧ host.staging = none := by
  unfold restoreGoal at goal
  split at goal
  · cases goal
  · split at goal
    · cases goal
    · split_ifs at goal with already
      · exact .inl (Option.some.inj goal).symm
      · simp only [wanted, requested, Option.map_map, Option.map_eq_some_iff] at goal
        obtain ⟨tree, found, same⟩ := goal
        refine .inr ⟨tree, found, ?_⟩
        rw [← same]
        exact ⟨rfl, rfl, rfl⟩

theorem restore_is_crash_safe {node : Node} (reached : Reached node) (config : AgentConfig)
    (params : RestoreDataParams) {snapshotId : String}
    (requested : params.sourceSnapshotId = some snapshotId) :
    (∀ choices : List AgentChoice,
      let after := (runPrefix Node.exec choices (AgentExecutor.restoreData config params) node).2
      Held (node.host.data.or node.host.previous) (node.snapshot params.repository snapshotId) after.host ∧
        (after.host.data = none → after.host.previous.all Directory.intact) ∧
        (after.host.state = node.host.state ∨ ∃ tree, node.snapshot params.repository snapshotId = some tree ∧
            after.host.data = some tree ∧ after.host.previous = none ∧ after.host.staging = none)) ∧
      ∀ (state : AgentState) (assigned : InstanceState) (tree : Directory) (choices : Nat → AgentChoice),
        Admits params node.host state assigned → assigned.dataPrepared = false →
        node.snapshot params.repository snapshotId = some tree → (∀ count, (choices count).Calm) →
        ∃ changed, (runAll Node.exec choices (AgentExecutor.restoreData config params) node).1 = .ok changed ∧
          (runAll Node.exec choices (AgentExecutor.restoreData config params) node).2.host = { node.host with
              data := some tree, previous := none, staging := none
              state := some (prepared state assigned) } := by
  constructor
  · intro choices after
    have restoring := restoring_everywhere config params node choices
    have held := restoring.held snapshotId requested
    have whole := held.whole reached.whole.1 (reached.whole.2 _ _)
    refine ⟨held, fun absent => ?_, ?_⟩
    · rwa [absent, Option.none_or] at whole
    · rcases restoring.course.recorded with same | goal
      · exact .inl same
      · rcases restoreGoal_recorded requested goal with same | restored
        · exact .inl (congrArg Host.state same)
        · exact .inr restored
  · intro state assigned tree choices admits unprepared found calm
    have goal : restoreGoal params node = some { node.host with
        data := some tree, previous := none, staging := none, state := some (prepared state assigned) } := by
      rw [restoreGoal_eq admits, unprepared]
      simp [wanted, requested, found]
    have heads := @restoreData_heads { choice : AgentChoice // choice.Calm } Subtype.val False
      (fun choice => .inl choice.property) config params node (by rw [goal]; exact nofun)
    obtain ⟨changed, ended, restoring, settled, -⟩ := calm_of_heads heads
      (.ofSame params rfl (.refl node)) choices calm
    rw [restoring.course.steady, goal] at settled
    exact ⟨changed, ended, (Option.some.inj settled).symm⟩

end Goals

namespace Sample

def node : Node :=
  { host := { Host.fresh with data := some { content := "old world", intact := true } }
    repositories := fun _ => some [("first", { content := "world", intact := true })]
    events := [] }

def restoring : RestoreDataParams :=
  { identity := { serverInstanceId := 1, fencingToken := 1 }, serverId := 2, repository := "repository"
    sourceSnapshotId := some "first" }

def assigned : InstanceState :=
  { serverInstanceId := 1, fencingToken := 1, serverId := 2, repository := "repository"
    sourceSnapshotId := some "first", dataPrepared := false, lastSnapshotId := none }

def calm : AgentChoice := { fault := .none, error := .serialization, messages := [], succeeds := true }

def config : AgentConfig :=
  { dataAccessMode := .host, stateDirectory := "/var/lib/mcserver", localScope := "local"
    computeInstanceId := 3 }

end Sample

theorem restore_is_crash_safe_at_sample : Reached Sample.node ∧ ∃ changed,
      (runAll Node.exec (fun _ => Sample.calm)
        (AgentExecutor.restoreData Sample.config Sample.restoring) Sample.node).1 = .ok changed ∧
      (runAll Node.exec (fun _ => Sample.calm)
        (AgentExecutor.restoreData Sample.config Sample.restoring) Sample.node).2.host.data =
          some { content := "world", intact := true } := by
  have reached : Reached Sample.node := by
    refine .first rfl rfl fun repository snapshotId => ?_
    simp only [Node.snapshot, Sample.node, Option.bind_some, List.lookup_cons]
    split <;> rfl
  obtain ⟨changed, ended, host⟩ :=
    (restore_is_crash_safe reached Sample.config Sample.restoring rfl).2 .default Sample.assigned
      { content := "world", intact := true } (fun _ => Sample.calm) ⟨rfl, rfl⟩ rfl rfl
      fun _ => ⟨rfl, rfl⟩
  exact ⟨reached, changed, ended, by rw [host]⟩

end McServer.Agent
