import McServer.System.Steps

set_option autoImplicit false

namespace McServer.System

open Domain Store Agent ControlPlane Interleaving Interleaving.Contract

section Clients

variable {setup : Setup} {policy : Policy setup}

theorem steady_of_extends {thread : Thread} (other : thread ≠ .worker) {assertion : World → Prop}
    (kept : ∀ before after, Extends before after → assertion before → assertion after) :
    (contract setup policy).Stable thread assertion := by
  intro before after holds rely _
  cases thread with
  | worker => exact absurd rfl other
  | client number => exact kept before after rely holds
  | connection number => exact kept before after rely holds

theorem bystander_step {thread : Thread} (other : thread ≠ .worker) {frame : World → Prop}
    (steady : (contract setup policy).Stable thread frame) (op : Op)
    (guard : ∀ world, Inv setup policy world → frame world → (contract setup policy).Guard thread op world)
    (told : op.Res → World → Prop)
    (answer : ∀ world choice, Inv setup policy world → frame world →
      told (exec op choice world).1 (exec op choice world).2) :
    (contract setup policy).Triple exec thread frame (Prog.perform op)
      fun result world => frame world ∧ told result world := by
  refine Triple.perform steady fun world inv held => ?_
  have allowed := guard world inv held
  refine ⟨allowed, fun choice => ⟨?_, answer world choice inv held⟩⟩
  have rely : (contract setup policy).Rely thread world (exec op choice world).2 := by
    cases thread with
    | worker => exact absurd rfl other
    | client number => exact exec_extends world choice op
    | connection number => exact exec_extends world choice op
  exact steady world _ held rely (exec_keeps setup policy thread op choice world inv allowed)

theorem window_extends {before after : World} (extended : Extends before after) {since : Nat}
    (begun : since ≤ before.past.length) :
    ∃ news, after.window since = news ++ before.window since := by
  obtain ⟨news, split⟩ := extended.past
  refine ⟨news, ?_⟩
  have length : after.past.length + 1 - since = news.length + (before.past.length + 1 - since) := by
    rw [← split, List.length_append]
    omega
  rw [World.window, length, ← split, List.take_length_add_append]
  rfl

theorem window_subset (world : World) (since : Nat) : world.window since ⊆ world.past := List.take_subset _ _

theorem past_length {before after : World} (extended : Extends before after) :
    before.past.length ≤ after.past.length :=
  extended.past.length_le

def Begun (since : Nat) (world : World) : Prop := since ≤ world.past.length

def Seen (since : Nat) (server : Server) (world : World) : Prop :=
  Begun since world ∧ ∃ newer state older, world.window since = newer ++ state :: older ∧
    ∃ row ∈ state.servers, row.toServer = server

def Outrun (server : Server) (world : World) : Prop :=
  ∃ state ∈ world.past, ∃ row ∈ state.servers, row.id = server.id ∧ row.name = server.name ∧
    server.generation < row.generation

def Inactive (server : Server) (world : World) : Prop :=
  ∃ state ∈ world.past, state.hasActiveInstance server.id = false ∧ ∃ row ∈ state.servers,
    row.id = server.id ∧ server.generation ≤ row.generation ∧
      (row.generation = server.generation → definition row.toServer = definition server)

theorem ClientTold.prepend {request : ClientRequest} {window : List Database}
    {result : Except ApplicationError Server} (told : ClientTold request window result)
    (news : List Database) : ClientTold request (news ++ window) result := by
  cases result with
  | error error => cases error <;> exact told
  | ok server =>
    intro generation expected
    rcases told generation expected with ⟨state, member, found⟩ |
      ⟨recent, written, between, read, older, split, rest⟩
    · exact .inl ⟨state, List.mem_append_right _ member, found⟩
    · exact .inr ⟨news ++ recent, written, between, read, older, by rw [split, List.append_assoc], rest⟩

theorem Begun.extended {since : Nat} {before after : World} (begun : Begun since before)
    (extended : Extends before after) : Begun since after :=
  le_trans begun (past_length extended)

section Stability

variable {number : Nat}

theorem Begun.steady (since : Nat) : (contract setup policy).Stable (.client number) (Begun since) :=
  steady_of_extends (by simp) fun _ _ extended begun => begun.extended extended

theorem Seen.steady (since : Nat) (server : Server) :
    (contract setup policy).Stable (.client number) (Seen since server) := by
  rintro before after ⟨begun, newer, state, older, split, found⟩ rely inv
  obtain ⟨news, extended⟩ := window_extends rely begun
  refine ⟨Begun.steady since before after begun rely inv, news ++ newer, state, older, ?_, found⟩
  rw [extended, split, List.append_assoc]

theorem Outrun.steady (server : Server) : (contract setup policy).Stable (.client number) (Outrun server) := by
  rintro before after ⟨state, member, found⟩ rely -
  exact ⟨state, rely.past.subset member, found⟩

theorem Inactive.steady (server : Server) :
    (contract setup policy).Stable (.client number) (Inactive server) := by
  rintro before after ⟨state, member, found⟩ rely -
  exact ⟨state, rely.past.subset member, found⟩

theorem told_steady (since : Nat) (request : ClientRequest) (result : Except ApplicationError Server) :
    (contract setup policy).Stable (.client number) fun world =>
      Begun since world ∧ ClientTold request (world.window since) result := by
  rintro before after ⟨begun, told⟩ rely inv
  obtain ⟨news, extended⟩ := window_extends rely begun
  refine ⟨Begun.steady since before after begun rely inv, ?_⟩
  rw [extended]
  exact told.prepend news

end Stability

theorem current_mem {world : World} (inv : Inv setup policy world) : world.db ∈ world.past :=
  List.mem_of_mem_head? inv.history.newest

theorem Seen.row {since : Nat} {server : Server} {world : World} (inv : Inv setup policy world)
    (seen : Seen since server world) :
    ∃ row ∈ world.db.servers, row.id = server.id ∧ row.name = server.name ∧ server.generation ≤ row.generation ∧
      (row.generation = server.generation → definition row.toServer = definition server) := by
  obtain ⟨-, newer, state, older, split, row, member, rfl⟩ := seen
  have kept : state ∈ world.past := window_subset world since (by rw [split]; simp)
  obtain ⟨new, stored, evolved⟩ := (inv.history.since kept).servers row member
  exact ⟨new, stored, evolved.id, evolved.name, evolved.generation, evolved.unchanged⟩

theorem Seen.readBefore {since : Nat} {server : Server} {world : World} {drafted : Server → Prop}
    (seen : Seen since server world) (draft : drafted server) :
    ReadBefore world server.generation drafted := by
  obtain ⟨-, newer, state, older, split, row, member, rfl⟩ := seen
  exact ⟨state, window_subset world since (by rw [split]; simp), row, member, rfl, draft⟩

theorem unchanged_between {world : World} (inv : Inv setup policy world) {newer older : List Database}
    (split : world.past = newer ++ older) {state : Database} (kept : state ∈ older) {row now : ServerRow}
    (member : row ∈ state.servers) (present : now ∈ world.db.servers) (named : now.id = row.id)
    (same : now.generation = row.generation) :
    ∀ between ∈ newer, ∃ middle ∈ between.servers, middle.id = row.id ∧
      middle.generation = row.generation ∧ definition middle.toServer = definition row.toServer := by
  intro between listed
  have ordered := inv.history.evolved
  rw [split] at ordered
  obtain ⟨middle, stored, first⟩ :=
    ((List.pairwise_append.mp ordered).2.2 between listed state kept).servers row member
  have recent : between ∈ world.past := by rw [split]; exact List.mem_append_left _ listed
  obtain ⟨last, stored', second⟩ := (inv.history.since recent).servers middle stored
  obtain rfl := inv.history.current.keyed.serverIds.eq_of_key stored' present
    (second.id.trans (first.id.trans named.symm))
  have equal : middle.generation = row.generation := by
    have lower := first.generation
    have upper := second.generation
    omega
  exact ⟨middle, stored, first.id, equal, first.unchanged equal⟩

theorem Seen.moved {since : Nat} {server updated : Server} {world : World} {written : Database}
    (inv : Inv setup policy world) (seen : Seen since server world)
    (atRead : ∃ row ∈ world.db.servers, row.id = server.id ∧ row.generation = server.generation)
    (generation : updated.generation = server.generation + 1)
    (stored : ∃ new ∈ written.servers, new.id = server.id ∧
      new.generation = server.generation + 1 ∧ definition new.toServer = definition updated) :
    MovedOn server.name.asStr server.generation updated (written :: world.window since) := by
  obtain ⟨-, newer, state, older, split, row, member, rfl⟩ := seen
  obtain ⟨now, present, named, same⟩ := atRead
  refine ⟨[], written, newer, state, older, by rw [split]; rfl, row, member, rfl, rfl, ?_, generation, stored⟩
  have whole : world.past = newer ++ (state :: older ++ world.past.drop (world.past.length + 1 - since)) := by
    rw [← List.append_assoc, ← split]
    exact (List.take_append_drop _ _).symm
  exact unchanged_between inv whole (by simp) member present named same

theorem Seen.outrun {since : Nat} {server : Server} {world : World} (inv : Inv setup policy world)
    (seen : Seen since server world)
    (refused : ∀ row ∈ world.db.servers, row.id = server.id → row.generation = server.generation →
      definition row.toServer ≠ definition server) :
    ∃ row ∈ world.db.servers, row.id = server.id ∧ row.name = server.name ∧
      server.generation < row.generation := by
  obtain ⟨row, member, named, name, generation, unchanged⟩ := seen.row inv
  refine ⟨row, member, named, name, lt_of_le_of_ne generation fun same => ?_⟩
  exact refused row member named same.symm (unchanged same.symm)

theorem Outrun.actual {server current : Server} {world : World} (inv : Inv setup policy world)
    (outrun : Outrun server world)
    (read : ∃ row ∈ world.db.servers, current = row.toServer ∧ (row.id = server.id ∨ row.name = server.name)) :
    server.generation < current.generation := by
  obtain ⟨state, kept, old, member, named, name, passed⟩ := outrun
  obtain ⟨row, present, rfl, same⟩ := read
  obtain ⟨new, stored, evolved⟩ := (inv.history.since kept).servers old member
  have equal : new = row := by
    rcases same with same | same
    · exact inv.history.current.keyed.serverIds.eq_of_key stored present
        ((evolved.id.trans named).trans same.symm)
    · exact inv.history.current.keyed.serverNames.eq_of_key stored present
        ((evolved.name.trans name).trans same.symm)
  rw [equal] at evolved
  exact lt_of_lt_of_le passed evolved.generation

theorem Inactive.later {server : Server} {world : World} (inv : Inv setup policy world)
    (inactive : Inactive server world) (stopped : server.desiredState = .stopped) {row : ServerRow}
    (member : row ∈ world.db.servers) (named : row.id = server.id)
    (same : row.generation = server.generation) : world.db.hasActiveInstance row.id = false := by
  obtain ⟨state, kept, idle, old, present, named', lower, unchanged⟩ := inactive
  obtain ⟨new, stored, evolved⟩ := (inv.history.since kept).servers old present
  obtain rfl := inv.history.current.keyed.serverIds.eq_of_key stored member
    (evolved.id.trans (named'.trans named.symm))
  have upper := evolved.generation
  have equal : old.generation = server.generation := by omega
  have desired : old.desiredState = .stopped := by
    have definitions := unchanged equal
    simp only [definition, Prod.mk.injEq] at definitions
    exact definitions.1.trans stopped
  rw [evolved.id]
  exact evolved.idle (same.trans equal.symm) desired (by rw [named']; exact idle)

def Fair (expected : Option Nat) : ApplicationError → Prop
  | .generationConflict stated actual => stated = expected ∧ stated ≠ some actual
  | _ => True

section Rules

variable {number : Nat} {expected : Option Nat}

abbrev Serves (setup : Setup) (policy : Policy setup) (number : Nat) (expected : Option Nat)
    {A : Type} (pre : World → Prop) (program : Service A) (post : A → World → Prop) : Prop :=
  (contract setup policy).Attempts exec (.client number) (fun error _ => Fair expected error) pre program post

variable {frame : World → Prop} (steady : (contract setup policy).Stable (.client number) frame)

include steady

theorem client_step (op : Op)
    (guard : ∀ world, Inv setup policy world → frame world → clientGuard setup policy world op)
    (told : op.Res → World → Prop)
    (answer : ∀ world choice, Inv setup policy world → frame world →
      told (exec op choice world).1 (exec op choice world).2) :
    (contract setup policy).Triple exec (.client number) frame (Prog.perform op)
      fun result world => frame world ∧ told result world :=
  bystander_step (by simp) steady op guard told answer

theorem clock_serves :
    Serves setup policy number expected frame (clock ApplicationError.timestamp) fun _ => frame :=
  Does.attempts (fun _ _ => trivial) ((client_step steady .clock (fun _ _ _ => trivial)
    (fun _ _ => True) fun _ _ _ _ => trivial).weaken fun _ _ held _ _ => held.1)

theorem newUuid_serves : Serves setup policy number expected frame newUuid fun _ => frame :=
  Attempts.lift ((client_step steady .newUuid (fun _ _ _ => trivial)
    (fun _ _ => True) fun _ _ _ _ => trivial).weaken fun _ _ held => held.1)

omit steady in
theorem validated_serves {frame : World → Prop} {A : Type} (result : Except ValidationError A) :
    Serves setup policy number expected frame (ServerService.validated result)
      fun value world => frame world ∧ result = .ok value :=
  Does.attempts (fun _ _ => trivial) (Does.ofExcept fun _ accepted _ held => ⟨held, accepted⟩)

-- The answer of a statement speaks of the state it leaves behind, which is now on record.
theorem statement_serves (op : DbOp) (guard : ∀ world, Inv setup policy world → frame world →
      Issuable setup policy world op ∧ clientStatement op = true)
    (told : op.Value → World → Prop)
    (answer : ∀ world value, Inv setup policy world → frame world →
      (op.query world.db).1 = .ok value → told value (applied op world)) :
    Serves setup policy number expected frame (db .repository op)
      fun value world => frame world ∧ told value world := by
  refine Does.attempts (fun _ _ => trivial) ((client_step steady (.db op) guard
    (fun result world => ∀ value, result = .ok value → told value world) ?_).weaken
    fun _ _ held value accepted => ⟨held.1, held.2 value accepted⟩)
  intro world choice inv held value accepted
  obtain ⟨answered, after⟩ := exec_db_value accepted
  rw [after]
  exact answer world value inv held answered

end Rules

section Calls

variable {number : Nat} {expected : Option Nat} {since : Nat} {request : ClientRequest}
variable (sameExpected : expectedGeneration request = expected)

abbrev Promised (since : Nat) (request : ClientRequest) (server : Server) (world : World) : Prop :=
  Begun since world ∧ ClientTold request (world.window since) (.ok server)

theorem applied_window {op : DbOp} {world : World} (begun : Begun since world) :
    (applied op world).window since = (op.query world.db).2 :: world.window since := by
  have length : (applied op world).past.length + 1 - since = world.past.length + 1 - since + 1 := by
    simp only [applied, World.store, World.note, List.length_cons]
    have bound : since ≤ world.past.length := begun
    omega
  rw [World.window, length]
  rfl

theorem getByName_serves (name : ServerName) :
    Serves setup policy number expected (Begun since) (ServerService.getByName name)
      fun found world => Begun since world ∧ ∀ server, found = some server →
        Seen since server world ∧ server.name = name ∧ policy.admissible server.name server.spec := by
  refine statement_serves (Begun.steady since) (.getServerByName name)
    (fun world _ _ => ⟨lookup_issuable rfl world, rfl⟩)
    (fun (found : Option Server) world => ∀ server, found = some server →
      Seen since server world ∧ server.name = name ∧ policy.admissible server.name server.spec) ?_
  rintro world found inv begun answered server rfl
  obtain ⟨row, member, named, rfl⟩ := getByName_some answered
  refine ⟨⟨?_, [], world.db, world.window since, applied_window begun, row, member, rfl⟩, named,
    inv.specified.servers row member⟩
  have bound : since ≤ world.past.length := begun
  simp only [Begun, applied, World.store, World.note, List.length_cons]
  omega

theorem found_serves {name : ServerName} (found : Option Server) :
    Serves setup policy number expected (fun world => Begun since world ∧ ∀ server,
        found = some server → Seen since server world ∧ server.name = name ∧
          policy.admissible server.name server.spec) (ServerService.found found)
      fun server world => Seen since server world ∧ server.name = name ∧
        policy.admissible server.name server.spec := by
  cases found with
  | none => exact Attempts.fail fun _ _ => trivial
  | some server => exact Attempts.pure fun _ held => held.2 server rfl

theorem requireGeneration_serves {frame : World → Prop} (server : Server) :
    Serves setup policy number expected frame (Try.ofExcept (ServerService.requireGeneration expected server))
      fun _ world => frame world ∧ ∀ generation, expected = some generation →
        generation = server.generation := by
  refine Attempts.ofExcept (fun error reported _ _ => ?_)
    fun _ accepted world held => ⟨held, ServerService.requireGeneration_ok accepted⟩
  obtain ⟨rfl, different⟩ := ServerService.requireGeneration_error reported
  exact ⟨rfl, different⟩

theorem conflict_serves {server : Server}
    (stated : ∀ generation, expected = some generation → generation = server.generation)
    (current : Option Server) :
    Serves setup policy number expected
      (fun _ => ∀ other, current = some other → server.generation < other.generation)
      (ServerService.conflict expected current) (Promised since request) := by
  cases current with
  | none =>
    exact Attempts.bind (fun _ _ => False) (Attempts.fail fun _ _ => trivial)
      fun _ _ impossible => impossible.elim
  | some other =>
    refine Attempts.bind (fun found _ => server.generation < found.generation)
      (Attempts.pure fun _ held => held other rfl) fun found => ?_
    refine Attempts.fail fun _ passed => ⟨rfl, fun same => ?_⟩
    have equal := stated found.generation same
    omega

include sameExpected

theorem unchanged_promised {server : Server} {world : World} (seen : Seen since server world)
    (named : server.name.asStr = requestedName request)
    (stated : ∀ generation, expected = some generation → generation = server.generation) :
    Promised since request server world := by
  obtain ⟨begun, newer, state, older, split, row, member, same⟩ := seen
  refine ⟨begun, fun generation expects => .inl ⟨state, by rw [split]; simp, row, member, ?_, ?_, same⟩⟩
  · rw [← named, ← same]
  · rw [stated generation (sameExpected.symm.trans expects), ← same]

def Stored (old updated : Server) (before after : Database) : Prop :=
  ∃ row ∈ before.servers, (row.id = old.id ∧ row.generation = old.generation) ∧
    ∃ new ∈ after.servers, (new.id = row.id ∧ new.name = row.name) ∧ new.generation = updated.generation ∧
      (definition row.toServer = definition old → definition new.toServer = definition updated)

theorem wrote_promised {server updated : Server} {world : World} {op : DbOp}
    (inv : Inv setup policy world) (seen : Seen since server world)
    (named : server.name.asStr = requestedName request)
    (stated : ∀ generation, expected = some generation → generation = server.generation)
    (generation : updated.generation = server.generation + 1)
    (stored : Stored server updated world.db (op.query world.db).2) :
    Promised since request updated (applied op world) := by
  obtain ⟨row, member, ⟨sameId, atRead⟩, new, written, ⟨newId, -⟩, newGeneration, same⟩ := stored
  obtain ⟨other, present, otherId, -, -, unchanged⟩ := seen.row inv
  obtain rfl := inv.history.current.keyed.serverIds.eq_of_key member present (sameId.trans otherId.symm)
  refine ⟨?_, fun expects stating => .inr ?_⟩
  · have bound : since ≤ world.past.length := seen.1
    simp only [Begun, applied, World.store, World.note, List.length_cons]
    omega
  · rw [applied_window seen.1, ← named, stated expects (sameExpected.symm.trans stating)]
    exact seen.moved inv ⟨row, member, sameId, atRead⟩ generation ⟨new, written, newId.trans sameId,
      newGeneration.trans generation, same (unchanged atRead)⟩

omit sameExpected in
theorem refused_outrun {server : Server} {world : World} {op : DbOp} (inv : Inv setup policy world)
    (seen : Seen since server world)
    (refused : ∀ row ∈ world.db.servers, row.id = server.id → row.generation = server.generation →
      definition row.toServer ≠ definition server) : Outrun server (applied op world) := by
  obtain ⟨row, member, found⟩ := seen.outrun inv refused
  exact ⟨world.db, List.mem_cons_of_mem _ (current_mem inv), row, member, found⟩

section Stored

omit sameExpected

theorem updateSpec_stored {old : Server} {spec : ServerSpec} {now : UnixTimestampMillis}
    (changed : (old.updateSpec spec now).1 = .ok true) {db : Database}
    (answered : ((DbOp.updateSpec (old.updateSpec spec now).2 old.generation).query db).1 = .ok true) :
    Stored old (old.updateSpec spec now).2 db
      ((DbOp.updateSpec (old.updateSpec spec now).2 old.generation).query db).2 := by
  obtain ⟨-, -, -, written⟩ := (Server.updateSpec_ok changed).resolve_left (by simp)
  generalize (old.updateSpec spec now).2 = updated at written answered ⊢
  subst written
  obtain ⟨row, member, chosen, new⟩ := guarded_stored answered
  simp only [Bool.and_eq_true, decide_eq_true_eq] at chosen
  refine ⟨row, member, chosen.1.1, _, new, ⟨rfl, rfl⟩, rfl, fun same => ?_⟩
  simp only [definition, Prod.mk.injEq] at same ⊢
  exact ⟨same.1, trivial, same.2.2⟩

theorem updateDesiredState_stored {old : Server} {desired : DesiredState} {now : UnixTimestampMillis}
    (changed : (old.setDesiredState desired now).1 = .ok true) {db : Database}
    (answered : ((DbOp.updateDesiredState (old.setDesiredState desired now).2 old.generation).query db).1 =
      .ok true) :
    Stored old (old.setDesiredState desired now).2 db
      ((DbOp.updateDesiredState (old.setDesiredState desired now).2 old.generation).query db).2 := by
  obtain ⟨-, -, -, written⟩ := (Server.setDesiredState_ok changed).resolve_left (by simp)
  generalize (old.setDesiredState desired now).2 = updated at written answered ⊢
  subst written
  obtain ⟨row, member, chosen, new⟩ := guarded_stored answered
  simp only [Bool.and_eq_true, decide_eq_true_eq] at chosen
  refine ⟨row, member, chosen.1, _, new, ⟨rfl, rfl⟩, rfl, fun same => ?_⟩
  simp only [definition, Prod.mk.injEq] at same ⊢
  exact ⟨trivial, same.2.1, same.2.2⟩

theorem archive_stored {old : Server} {now : UnixTimestampMillis}
    (changed : (old.archive now).1 = .ok true) {db : Database}
    (answered : ((DbOp.archiveServer (old.archive now).2 old.generation).query db).1 = .ok true) :
    Stored old (old.archive now).2 db ((DbOp.archiveServer (old.archive now).2 old.generation).query db).2 := by
  obtain ⟨-, -, -, written⟩ := (Server.archive_ok changed).resolve_left (by simp)
  generalize (old.archive now).2 = updated at written answered ⊢
  subst written
  obtain ⟨row, member, chosen, new⟩ := guarded_stored answered
  simp only [Bool.and_eq_true, decide_eq_true_eq] at chosen
  refine ⟨row, member, chosen.1.1.1, _, new, ⟨rfl, rfl⟩, rfl, fun same => ?_⟩
  simp only [definition, Prod.mk.injEq] at same ⊢
  exact ⟨same.1, same.2.1, trivial⟩

end Stored

theorem updateSpec_serves {server : Server} {desired : DesiredServerSpec} {spec : ServerSpec}
    {now : UnixTimestampMillis} (named : server.name.asStr = requestedName request)
    (stated : ∀ generation, expected = some generation → generation = server.generation)
    (admitted : policy.admits desired) (admissible : policy.admissible server.name server.spec)
    (resolved : desired.resolve (some server.spec.data) none = .ok spec)
    (changed : (server.updateSpec spec now).1 = .ok true) :
    Serves setup policy number expected (Seen since server)
      (db .repository (.updateSpec (server.updateSpec spec now).2 server.generation))
      fun (stored : Bool) world => Seen since server world ∧
        ((stored = true → Promised since request (server.updateSpec spec now).2 world) ∧
          (stored = false → Outrun server world)) := by
  obtain ⟨-, unarchived, stopped, written⟩ := (Server.updateSpec_ok changed).resolve_left (by simp)
  generalize drafted : (server.updateSpec spec now).2 = updated at written
  refine statement_serves (Seen.steady since server) (.updateSpec updated server.generation)
    (fun world inv seen => ⟨⟨by rw [DbOp.Allowed, written], fun row member sameId => ?_, ?_⟩, rfl⟩)
    (fun (stored : Bool) world => (stored = true → Promised since request updated world) ∧
      (stored = false → Outrun server world)) fun world stored inv seen answered => ⟨?_, ?_⟩
  all_goals subst written
  · obtain ⟨other, present, otherId, name, -⟩ := seen.row inv
    rw [inv.history.current.keyed.serverIds.eq_of_key member present (sameId.trans otherId.symm), name]
    exact policy.applied server.name desired server.spec spec admitted admissible resolved
  · rw [Drafted]
    exact seen.readBefore ⟨spec, now, DesiredServerSpec.resolve_existing resolved, changed, drafted.symm⟩
  · rintro rfl
    rw [← drafted] at answered ⊢
    exact wrote_promised sameExpected inv seen named stated (by rw [drafted])
      (updateSpec_stored changed answered)
  · rintro rfl
    refine refused_outrun inv seen fun row member sameId atRead same => ?_
    have refused := guarded_refused inv.history.current.keyed.serverIds (fun row chosen => by
      simp only [Bool.and_eq_true, decide_eq_true_eq] at chosen
      exact chosen.1.1.1) answered row member
    simp only [definition, Prod.mk.injEq] at same
    simp [sameId, atRead, same.1, stopped, same.2.2, unarchived] at refused

theorem updateDesiredState_serves {server : Server} {desired : DesiredState}
    {now : UnixTimestampMillis} (named : server.name.asStr = requestedName request)
    (stated : ∀ generation, expected = some generation → generation = server.generation)
    (changed : (server.setDesiredState desired now).1 = .ok true) :
    Serves setup policy number expected (Seen since server)
      (db .repository (.updateDesiredState (server.setDesiredState desired now).2 server.generation))
      fun (stored : Bool) world => Seen since server world ∧
        ((stored = true → Promised since request (server.setDesiredState desired now).2 world) ∧
          (stored = false → Outrun server world)) := by
  obtain ⟨-, unarchived, -, written⟩ := (Server.setDesiredState_ok changed).resolve_left (by simp)
  generalize drafted : (server.setDesiredState desired now).2 = updated at written
  refine statement_serves (Seen.steady since server) (.updateDesiredState updated server.generation)
    (fun world inv seen => ⟨⟨by rw [DbOp.Allowed, written], trivial,
      by rw [Drafted]; exact seen.readBefore ⟨desired, now, changed, drafted.symm⟩⟩, rfl⟩)
    (fun (stored : Bool) world => (stored = true → Promised since request updated world) ∧
      (stored = false → Outrun server world)) fun world stored inv seen answered => ⟨?_, ?_⟩
  all_goals subst written
  · rintro rfl
    rw [← drafted] at answered ⊢
    exact wrote_promised sameExpected inv seen named stated (by rw [drafted])
      (updateDesiredState_stored changed answered)
  · rintro rfl
    refine refused_outrun inv seen fun row member sameId atRead same => ?_
    have refused := guarded_refused inv.history.current.keyed.serverIds (fun row chosen => by
      simp only [Bool.and_eq_true, decide_eq_true_eq] at chosen
      exact chosen.1.1) answered row member
    simp only [definition, Prod.mk.injEq] at same
    simp [sameId, atRead, same.2.2, unarchived] at refused

theorem archiveServer_serves {server : Server} {now : UnixTimestampMillis}
    (named : server.name.asStr = requestedName request)
    (stated : ∀ generation, expected = some generation → generation = server.generation)
    (active : server.archivedAt.isSome = false) {changed : Bool}
    (accepted : (server.archive now).1 = .ok changed) :
    Serves setup policy number expected (fun world => Seen since server world ∧ Inactive server world)
      (db .repository (.archiveServer (server.archive now).2 server.generation))
      fun (stored : Bool) world => Seen since server world ∧
        ((stored = true → Promised since request (server.archive now).2 world) ∧
          (stored = false → Outrun server world)) := by
  obtain ⟨-, -, archived⟩ | ⟨rfl, unarchived, stopped, written⟩ := Server.archive_ok accepted
  · rw [active] at archived
    cases archived
  generalize drafted : (server.archive now).2 = updated at written
  refine Attempts.weaken (statement_serves
    ((Seen.steady since server).and (Inactive.steady server)) (.archiveServer updated server.generation)
    (fun world inv held => ⟨⟨by rw [DbOp.Allowed, written], trivial,
      by rw [Drafted]; exact held.1.readBefore ⟨now, accepted, drafted.symm⟩⟩, rfl⟩)
    (fun (stored : Bool) world => (stored = true → Promised since request updated world) ∧
      (stored = false → Outrun server world)) fun world stored inv held answered => ⟨?_, ?_⟩)
    fun _ _ held => ⟨held.1.1, held.2⟩
  · subst written
    rintro rfl
    rw [← drafted] at answered ⊢
    exact wrote_promised sameExpected inv held.1 named stated (by rw [drafted])
      (archive_stored accepted answered)
  · subst written
    rintro rfl
    refine refused_outrun inv held.1 fun row member sameId atRead same => ?_
    have refused := guarded_refused inv.history.current.keyed.serverIds (fun row chosen => by
      simp only [Bool.and_eq_true, decide_eq_true_eq] at chosen
      exact chosen.1.1.1.1) answered row member
    have idle := held.2.later inv stopped member sameId atRead
    simp only [definition, Prod.mk.injEq] at same
    simp [sameId, atRead, same.1, stopped, same.2.2, unarchived] at refused
    rw [sameId, refused] at idle
    cases idle

variable {name : ServerName} (named : name.asStr = requestedName request)

omit sameExpected in
theorem create_serves {name : String} {desired : DesiredServerSpec} (admitted : policy.admits desired)
    (unconditional : expectedGeneration request = none) :
    Serves setup policy number expected (Begun since)
      (ServerService.create setup.r2RepositoryBase name desired) (Promised since request) := by
  have steady : ∀ fact : Prop, (contract setup policy).Stable (.client number)
      fun world => Begun since world ∧ fact := fun fact =>
    (Begun.steady since).and (Contract.Stable.const fact)
  refine Attempts.bind _ (clock_serves (Begun.steady since)) fun now => ?_
  refine Attempts.bind _ (validated_serves _) fun name => ?_
  refine Attempts.bind _ (newUuid_serves (steady _)) fun uuid => ?_
  refine Attempts.bind _ (validated_serves _) fun spec => ?_
  refine Attempts.given fun resolved => ?_
  refine Attempts.bind _ (validated_serves _) fun server => ?_
  refine Attempts.given fun made => ?_
  have fields := (Server.new_ok made).2
  refine Attempts.bind _ (statement_serves (steady _) (.createServer server)
    (fun world _ _ => ⟨⟨by rw [DbOp.Allowed, fields], ?_, _, name, spec, now, made⟩, rfl⟩) (fun _ _ => True)
    fun _ _ _ _ _ => trivial) fun _ => ?_
  · rw [Legitimate, fields]
    exact policy.created name desired spec admitted resolved
  · refine Attempts.pure fun world held => ⟨held.1.1, fun generation stated => ?_⟩
    rw [unconditional] at stated
    cases stated

omit sameExpected named in
theorem reread_serves {server : Server} (sameName : server.name = name)
    (stated : ∀ generation, expected = some generation → generation = server.generation) :
    Serves setup policy number expected (fun world => Seen since server world ∧ Outrun server world)
      (Try.bind (ServerService.getByName name) fun current => ServerService.conflict expected current)
      (Promised since request) := by
  refine Attempts.bind _ (statement_serves
    ((Seen.steady since server).and (Outrun.steady server)) (.getServerByName name)
    (fun world _ _ => ⟨lookup_issuable rfl world, rfl⟩)
    (fun (current : Option Server) _ => ∀ other, current = some other →
      server.generation < other.generation) ?_) fun (current : Option Server) => ?_
  · rintro world current inv held answered other rfl
    obtain ⟨row, member, rowName, same⟩ := getByName_some answered
    exact held.2.actual inv ⟨row, member, same, .inr (rowName.trans sameName.symm)⟩
  · exact (conflict_serves stated current).strengthen fun world held => held.2

include named

theorem setDesiredStateTurns_serves (desired : DesiredState) (turns : Nat) :
    Serves setup policy number expected (Begun since)
      (ServerService.setDesiredStateTurns name desired expected turns) (Promised since request) := by
  induction turns with
  | zero => exact Attempts.fail fun _ _ => trivial
  | succ turns ih =>
    refine Attempts.bind _ (getByName_serves name) fun found => ?_
    refine Attempts.bind _ (found_serves found) fun server => ?_
    refine Attempts.given fun known => ?_
    refine Attempts.bind _ (requireGeneration_serves server) fun _ => ?_
    refine Attempts.given fun stated => ?_
    have sameName : server.name.asStr = requestedName request := by rw [known.1, named]
    refine Attempts.bind _ (clock_serves (Seen.steady since server)) fun now => ?_
    refine Attempts.bind _ (validated_serves (server.setDesiredState desired now).1) fun changed => ?_
    refine Attempts.given fun accepted => ?_
    refine Attempts.ite (fun unchanged => Attempts.pure fun world seen => ?_) fun moved => ?_
    · obtain ⟨-, same, -⟩ | ⟨rfl, -⟩ := Server.setDesiredState_ok accepted
      · have promised : Promised since request (server.setDesiredState desired now).2 world := by
          rw [same]
          exact unchanged_promised sameExpected seen sameName stated
        exact promised
      · cases unchanged
    · obtain rfl : changed = true := by simpa using moved
      refine Attempts.bind _ (updateDesiredState_serves sameExpected sameName stated accepted)
        fun (stored : Bool) => ?_
      refine Attempts.ite (fun done => Attempts.pure fun world held => held.2.1 done) fun refused => ?_
      refine Attempts.ite (fun _ => (reread_serves known.1 stated).strengthen
        fun world held => ⟨held.1, held.2.2 (by simpa using refused)⟩)
        fun _ => ih.strengthen fun world held => held.1.1

theorem applyTurns_serves {desired : DesiredServerSpec} (admitted : policy.admits desired) (turns : Nat) :
    Serves setup policy number expected (Begun since)
      (ServerService.applyTurns setup.r2RepositoryBase name desired expected turns)
      (Promised since request) := by
  induction turns with
  | zero => exact Attempts.fail fun _ _ => trivial
  | succ turns ih =>
    refine Attempts.bind _ (getByName_serves name) fun found => ?_
    match found with
    | none =>
      refine Attempts.ite (fun _ => Attempts.fail fun _ _ => trivial) fun free => ?_
      refine (create_serves admitted ?_).strengthen fun world held => held.1
      rw [sameExpected]
      simpa using free
    | some server =>
      refine Attempts.strengthen ?_ fun world held => held.2 server rfl
      refine Attempts.given fun known => ?_
      refine Attempts.bind _ (requireGeneration_serves server) fun _ => ?_
      refine Attempts.given fun stated => ?_
      have sameName : server.name.asStr = requestedName request := by rw [known.1, named]
      refine Attempts.bind _ (validated_serves _) fun spec => ?_
      refine Attempts.given fun resolved => ?_
      refine Attempts.bind _ (clock_serves (Seen.steady since server)) fun now => ?_
      refine Attempts.bind _ (validated_serves (server.updateSpec spec now).1) fun changed => ?_
      refine Attempts.given fun accepted => ?_
      refine Attempts.ite (fun unchanged => Attempts.pure fun world seen => ?_) fun moved => ?_
      · obtain ⟨-, same, -⟩ | ⟨rfl, -⟩ := Server.updateSpec_ok accepted
        · have promised : Promised since request (server.updateSpec spec now).2 world := by
            rw [same]
            exact unchanged_promised sameExpected seen sameName stated
          exact promised
        · cases unchanged
      · obtain rfl : changed = true := by simpa using moved
        refine Attempts.bind _ (updateSpec_serves sameExpected sameName stated admitted known.2
          resolved accepted) fun (stored : Bool) => ?_
        refine Attempts.ite (fun done => Attempts.pure fun world held => held.2.1 done) fun refused => ?_
        refine Attempts.ite (fun _ => ?_) fun _ => ih.strengthen fun world held => held.1.1
        refine (Attempts.bind _ (statement_serves (Outrun.steady server) (.getServer server.id)
          (fun world _ _ => ⟨lookup_issuable rfl world, rfl⟩)
          (fun (current : Option Server) _ => ∀ other, current = some other →
            server.generation < other.generation) ?_) fun (current : Option Server) =>
          (conflict_serves stated current).strengthen fun world held => held.2).strengthen
          fun world held => held.2.2 (by simpa using refused)
        rintro world current inv outrun answered other rfl
        obtain ⟨row, member, rowId, same⟩ := getServer_some answered
        exact outrun.actual inv ⟨row, member, same, .inl rowId⟩

theorem archiveTurns_serves (turns : Nat) : Serves setup policy number expected (Begun since)
      (ServerService.archiveTurns name expected turns) (Promised since request) := by
  induction turns with
  | zero => exact Attempts.fail fun _ _ => trivial
  | succ turns ih =>
    refine Attempts.bind _ (getByName_serves name) fun found => ?_
    refine Attempts.bind _ (found_serves found) fun server => ?_
    refine Attempts.given fun known => ?_
    refine Attempts.bind _ (requireGeneration_serves server) fun _ => ?_
    refine Attempts.given fun stated => ?_
    have sameName : server.name.asStr = requestedName request := by rw [known.1, named]
    refine Attempts.ite (fun _ => Attempts.pure fun world seen =>
      unchanged_promised sameExpected seen sameName stated) fun active => ?_
    refine Attempts.bind (fun busy world => Seen since server world ∧
      (busy = false → Inactive server world)) ?_ fun (busy : Bool) => ?_
    · refine statement_serves (Seen.steady since server) (.hasActiveInstance server.id)
        (fun world _ _ => ⟨lookup_issuable rfl world, rfl⟩)
        (fun (busy : Bool) world => busy = false → Inactive server world) ?_
      rintro world busy inv seen answered rfl
      obtain ⟨row, member, rowId, -, lower, unchanged⟩ := seen.row inv
      injection answered with idle
      exact ⟨world.db, List.mem_cons_of_mem _ (current_mem inv), idle, row, member, rowId, lower, unchanged⟩
    · have steady : (contract setup policy).Stable (.client number) fun world =>
          Seen since server world ∧ Inactive server world :=
        (Seen.steady since server).and (Inactive.steady server)
      refine Attempts.bind (fun _ world => Seen since server world ∧ Inactive server world)
        (Attempts.ite (fun _ => Attempts.fail fun _ _ => trivial) fun idle =>
          Attempts.pure fun world held => ⟨held.1, held.2 (by simpa using idle)⟩) fun _ => ?_
      refine Attempts.bind _ (clock_serves steady) fun now => ?_
      refine Attempts.bind _ (validated_serves (server.archive now).1) fun changed => ?_
      refine Attempts.given fun accepted => ?_
      refine Attempts.bind _ (archiveServer_serves sameExpected sameName stated
        (by simpa using active) accepted) fun (stored : Bool) => ?_
      refine Attempts.ite (fun done => Attempts.pure fun world held => held.2.1 done) fun refused => ?_
      exact Attempts.ite (fun _ => (reread_serves known.1 stated).strengthen
        fun world held => ⟨held.1, held.2.2 (by simpa using refused)⟩)
        fun _ => ih.strengthen fun world held => held.1.1

end Calls

theorem handle_serves {number since : Nat} {request : ClientRequest}
    (admitted : policy.admitsTask (.client number) (.request request)) :
    Serves setup policy number (expectedGeneration request) (Begun since)
      (ServerService.handle setup.r2RepositoryBase request) (Promised since request) := by
  cases request with
  | create name desired => exact create_serves admitted rfl
  | apply name desired expected =>
    refine Attempts.bind _ (validated_serves (ServerName.new name)) fun parsed => ?_
    refine Attempts.given fun accepted => ?_
    exact @applyTurns_serves setup policy number expected since (.apply name desired expected) rfl
      parsed (ServerName.new_ok accepted) desired admitted 3
  | setDesiredState name desired expected =>
    refine Attempts.bind _ (validated_serves (ServerName.new name)) fun parsed => ?_
    refine Attempts.given fun accepted => ?_
    exact @setDesiredStateTurns_serves setup policy number expected since
      (.setDesiredState name desired expected) rfl parsed (ServerName.new_ok accepted) desired 3
  | archive name expected =>
    refine Attempts.bind _ (validated_serves (ServerName.new name)) fun parsed => ?_
    refine Attempts.given fun accepted => ?_
    exact @archiveTurns_serves setup policy number expected since (.archive name expected) rfl
      parsed (ServerName.new_ok accepted) 3

theorem serve_works {number : Nat} {request : ClientRequest}
    (admitted : policy.admitsTask (.client number) (.request request)) :
    (contract setup policy).Triple exec (.client number) (fun _ => True)
      (ServerService.serve setup.r2RepositoryBase request) fun _ _ => True := by
  refine Triple.bind (fun (since : Nat) world => Begun since world) ?_ fun since => ?_
  · exact (client_step (Contract.Stable.const True) .begin (fun _ _ _ => trivial)
      (fun (since : Nat) world => Begun since world) fun world _ _ _ => le_refl _).weaken
      fun _ _ held => held.2
  · refine Triple.bind _ (handle_serves admitted) fun result => ?_
    cases result with
    | ok server =>
      exact Triple.perform (told_steady since request (.ok server)) fun world _ held =>
        ⟨held.2, fun _ => trivial⟩
    | error error =>
      refine Triple.perform (Contract.Stable.const (Fair (expectedGeneration request) error))
        fun world _ fair => ⟨?_, fun _ => trivial⟩
      cases error with
      | generationConflict stated actual => exact fair
      | _ => trivial

end Clients

end McServer.System
