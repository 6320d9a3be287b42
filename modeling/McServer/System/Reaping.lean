import McServer.System.Limit

set_option autoImplicit false

namespace McServer.System

open Domain Store Agent ControlPlane Interleaving

abbrev Exchange : Type := (op : Op) × op.Res

def Succeeded : (op : Op) → op.Res → Prop
  | .db op, result => ∃ value : op.Value, result = .ok value
  | .clock, result => ∃ now : UnixTimestampMillis, result = .ok now
  | .provider op, result => ∃ value : op.Value, result = .ok value
  | _, _ => True

def Ran {E A : Type} (program : Flow E A) (trace : List Exchange) (result : Except E A) : Prop :=
  Prog.Performs (fun op (_ : Unit) answer _ => Succeeded op answer) program () trace result ()

namespace Ran

variable {E A B : Type} {trace : List Exchange}

theorem of_pure {value : A} {result : Except E A} (ran : Ran (pure value : Flow E A) trace result) :
    trace = [] ∧ result = .ok value := by
  cases ran
  exact ⟨rfl, rfl⟩

theorem of_bind {program : Flow E A} {next : A → Flow E B} {result : Except E B}
    (ran : Ran (program >>= next) trace result) :
    ∃ middle first, Ran program first middle ∧
      ∀ value, middle = .ok value → ∃ second, trace = first ++ second ∧ Ran (next value) second result := by
  rcases Try.performs_bind ran with ⟨error, -, early⟩ | ⟨value, _, first, second, early, late, rfl⟩
  · exact ⟨_, trace, early, nofun⟩
  · refine ⟨_, first, early, ?_⟩
    rintro _ ⟨⟩
    exact ⟨second, rfl, late⟩

theorem of_ite {condition : Prop} [Decidable condition] {first second : Flow E A} {result : Except E A}
    (ran : Ran (if condition then first else second) trace result) :
    (condition ∧ Ran first trace result) ∨ (¬condition ∧ Ran second trace result) := by
  by_cases holds : condition
  · exact .inl ⟨holds, by simpa only [holds, if_true] using ran⟩
  · exact .inr ⟨holds, by simpa only [holds, if_false] using ran⟩

theorem of_request {op : ProviderOp} {result : Except AkamaiComputeError op.Value}
    (ran : Ran (AkamaiClient.request op) trace result) :
    ∃ value : op.Value, trace = [⟨.provider op, .ok value⟩] ∧ result = .ok value := by
  cases ran with
  | call answer taken later =>
    obtain ⟨value, rfl⟩ := taken
    cases later
    exact ⟨value, rfl, rfl⟩

theorem of_db {into : RepositoryError → E} {op : DbOp} {result : Except E op.Value}
    (ran : Ran (db into op) trace result) :
    ∃ value : op.Value, trace = [⟨.db op, .ok value⟩] ∧ result = .ok value := by
  cases ran with
  | call answer taken later =>
    obtain ⟨value, rfl⟩ := taken
    cases later
    exact ⟨value, rfl, rfl⟩

theorem of_clock {into : TimestampError → E} {result : Except E UnixTimestampMillis}
    (ran : Ran (clock into) trace result) :
    ∃ now : UnixTimestampMillis, trace = [⟨.clock, .ok now⟩] ∧ result = .ok now := by
  cases ran with
  | call answer taken later =>
    obtain ⟨now, rfl⟩ := taken
    cases later
    exact ⟨now, rfl, rfl⟩

theorem returned (value : A) : Ran (pure value : Flow E A) [] (.ok value) :=
  .done (Except.ok value) ()

theorem bind {program : Flow E A} {next : A → Flow E B} {first second : List Exchange} {value : A}
    {result : Except E B} (before : Ran program first (.ok value)) (after : Ran (next value) second result) :
    Ran (program >>= next) (first ++ second) result :=
  Prog.Performs.then before after

theorem request {op : ProviderOp} (value : op.Value) :
    Ran (AkamaiClient.request op) [⟨.provider op, .ok value⟩] (.ok value) :=
  @Prog.Performs.call _ Op.Res _ _ _ (.provider op) _ _ _ () () () (Except.ok value) ⟨value, rfl⟩
    (.done (Except.ok value) ())

theorem db {into : RepositoryError → E} {op : DbOp} (value : op.Value) :
    Ran (ControlPlane.db into op) [⟨.db op, .ok value⟩] (.ok value) :=
  @Prog.Performs.call _ Op.Res _ _ _ (.db op) _ _ _ () () () (Except.ok value) ⟨value, rfl⟩
    (.done (Except.ok value) ())

theorem clock {into : TimestampError → E} (now : UnixTimestampMillis) :
    Ran (ControlPlane.clock into) [⟨.clock, .ok now⟩] (.ok now) :=
  @Prog.Performs.call _ Op.Res _ _ _ .clock _ _ _ () () () (Except.ok now) ⟨now, rfl⟩
    (.done (Except.ok now) ())

end Ran

def shown : Exchange → List ProviderInstance
  | ⟨.provider (.listInstances _ _), .ok body⟩ => body.data
  | _ => []

def IsListing : Exchange → Prop
  | ⟨.provider (.listInstances _ _), _⟩ => True
  | _ => False

theorem listFrom_shows {filter : InstanceFilter} {keeps : ProviderInstance → Bool} {remaining : Nat}
    {found : List ProviderInstance} {trace : List Exchange}
    {result : Except AkamaiComputeError (List ProviderInstance)}
    (ran : Ran (AkamaiClient.listFrom filter keeps remaining found) trace result) :
    (∀ exchange ∈ trace, IsListing exchange) ∧
      result = .ok (found ++ (trace.flatMap shown).filter keeps) := by
  induction remaining generalizing found trace with
  | zero =>
    rw [AkamaiClient.listFrom] at ran
    obtain ⟨_, _, asked, next⟩ := ran.of_bind
    obtain ⟨body, rfl, rfl⟩ := asked.of_request
    obtain ⟨second, rfl, last⟩ := next body rfl
    obtain ⟨rfl, rfl⟩ := last.of_pure
    exact ⟨by simp [IsListing], by simp [shown]⟩
  | succ remaining ih =>
    rw [AkamaiClient.listFrom] at ran
    obtain ⟨_, _, asked, next⟩ := ran.of_bind
    obtain ⟨body, rfl, rfl⟩ := asked.of_request
    obtain ⟨second, rfl, after⟩ := next body rfl
    rcases after.of_ite with ⟨-, last⟩ | ⟨-, more⟩
    · obtain ⟨rfl, rfl⟩ := last.of_pure
      exact ⟨by simp [IsListing], by simp [shown]⟩
    · obtain ⟨only, rfl⟩ := ih more
      refine ⟨?_, by simp [shown]⟩
      simp only [List.singleton_append, List.forall_mem_cons]
      exact ⟨trivial, only⟩

def managed (manager : AkamaiManager) (trace : List Exchange) : List ProviderInstance :=
  (trace.flatMap shown).filter (inScope manager.config.scope)

structure ActiveComputes where
  computes : List ComputeInstance
  distinct : (computes.map (·.id)).Nodup

def RecordAgrees (vm : ProviderInstance) (compute : ComputeInstance) : Prop :=
  ∀ text, compute.providerInstanceId = some text → Text.parseU64 text = some vm.id

inductive Treated (owner : ProviderInstance → ComputeInstance → Prop) (active : ActiveComputes)
    (vm : ProviderInstance) : List Exchange → Prop
  | deleted (answer : Except RequestError Unit)
      (orphan : ∀ compute ∈ active.computes, owner vm compute → ¬RecordAgrees vm compute) :
      Treated owner active vm [⟨.provider (.deleteInstance vm.id), answer⟩]
  | kept (compute : ComputeInstance) (member : compute ∈ active.computes) (owned : owner vm compute)
      (text : String) (recorded : compute.providerInstanceId = some text)
      (same : Text.parseU64 text = some vm.id) : Treated owner active vm []
  | adopted (compute : ComputeInstance) (member : compute ∈ active.computes) (owned : owner vm compute)
      (unrecorded : compute.providerInstanceId = none) (now : UnixTimestampMillis)
      (answers : Except TimestampError UnixTimestampMillis × Except RepositoryError Bool) :
      Treated owner active vm
        [⟨.clock, answers.1⟩,
          ⟨.db (.recordProviderInstance compute.id (toString vm.id) vm.publicIpv4 now), answers.2⟩]

def Labelled (vm : ProviderInstance) (compute : ComputeInstance) : Prop :=
  AkamaiManager.labelledCompute vm = some compute.id.uuid

def Owned (manager : AkamaiManager) (vm : ProviderInstance) (compute : ComputeInstance) : Prop :=
  vm.isOwnedBy (providerLabel compute.id) manager.tag = true

namespace ActiveComputes

variable {active : ActiveComputes} {vm : ProviderInstance} {uuid : Uuid}

theorem find_mem {compute : ComputeInstance}
    (found : active.computes.find? (fun compute => compute.id.uuid = uuid) = some compute) :
    compute ∈ active.computes ∧ compute.id.uuid = uuid :=
  ⟨List.mem_of_find?_eq_some found, by simpa using List.find?_some found⟩

theorem unique {first second : ComputeInstance} (member : first ∈ active.computes)
    (member' : second ∈ active.computes) (same : first.id.uuid = second.id.uuid) : first = second := by
  have ids : first.id = second.id :=
    match first.id, second.id, same with
    | ⟨_⟩, ⟨_⟩, rfl => rfl
  exact List.inj_on_of_nodup_map active.distinct member member' ids

end ActiveComputes

variable {active : ActiveComputes} {vm : ProviderInstance} {turn : List Exchange}

theorem reapOne_treats {trace : List Exchange}
    {result : Except AkamaiComputeError Unit} (ran : Ran (AkamaiManager.reapOne active.computes vm) trace result) :
    Treated Labelled active vm trace ∧ result = .ok () := by
  rw [AkamaiManager.reapOne.eq_def] at ran
  have orphaned : ∀ orphan : ∀ compute ∈ active.computes, Labelled vm compute → ¬RecordAgrees vm compute,
      Ran (AkamaiClient.request (.deleteInstance vm.id)) trace result →
      Treated Labelled active vm trace ∧ result = .ok () := by
    intro orphan asked
    obtain ⟨value, rfl, rfl⟩ := asked.of_request
    exact ⟨.deleted _ orphan, rfl⟩
  cases label : AkamaiManager.labelledCompute vm with
  | none =>
    rw [label] at ran
    exact orphaned (fun compute _ labelled => by simp [Labelled, label] at labelled) ran
  | some uuid =>
    simp only [label] at ran
    cases found : active.computes.find? (fun compute => compute.id.uuid = uuid) with
    | none =>
      simp only [found] at ran
      refine orphaned (fun compute member labelled => ?_) ran
      have differs := List.find?_eq_none.mp found compute member
      simp only [Labelled, label, Option.some.injEq] at labelled
      simp [labelled] at differs
    | some compute =>
      simp only [found] at ran
      obtain ⟨member, named⟩ := ActiveComputes.find_mem found
      have labelled : Labelled vm compute := by rw [Labelled, label, named]
      cases recorded : compute.providerInstanceId with
      | none =>
        simp only [recorded] at ran
        obtain ⟨_, _, asked, next⟩ := ran.of_bind
        obtain ⟨now, rfl, rfl⟩ := asked.of_clock
        obtain ⟨_, rfl, after⟩ := next now rfl
        obtain ⟨_, _, stored, last⟩ := after.of_bind
        obtain ⟨value, rfl, rfl⟩ := stored.of_db
        obtain ⟨_, rfl, ended⟩ := last value rfl
        obtain ⟨rfl, rfl⟩ := ended.of_pure
        exact ⟨.adopted compute member labelled recorded now (.ok now, .ok value), rfl⟩
      | some text =>
        simp only [recorded] at ran
        rcases ran.of_ite with ⟨same, ended⟩ | ⟨differs, asked⟩
        · obtain ⟨rfl, rfl⟩ := ended.of_pure
          exact ⟨.kept compute member labelled text recorded same, rfl⟩
        · refine orphaned (fun other there labelled' agrees => ?_) asked
          obtain rfl : other = compute := by
            refine ActiveComputes.unique there member ?_
            rw [Labelled, label] at labelled'
            exact (Option.some.inj labelled').symm.trans named.symm
          exact differs (agrees text recorded)

structure Reaped (manager : AkamaiManager) (active : ActiveComputes) (trace : List Exchange)
    (turns : List (List Exchange)) : Prop where
  split : ∃ listing, (∀ exchange ∈ listing, IsListing exchange) ∧ trace = listing ++ turns.flatten
  turn : List.Forall₂ (fun vm turn => Ran (AkamaiManager.reapOne active.computes vm) turn (.ok ()))
    (managed manager trace) turns

theorem Treated.shows_nothing {owner : ProviderInstance → ComputeInstance → Prop}
    (treated : Treated owner active vm turn) :
    turn.flatMap shown = [] := by
  cases treated <;> rfl

theorem reapEach_turns {vms : List ProviderInstance} {trace : List Exchange}
    {result : Except AkamaiComputeError Unit}
    (ran : Ran (AkamaiManager.reapEach active.computes vms) trace result) :
    result = .ok () ∧ trace.flatMap shown = [] ∧ ∃ turns, trace = turns.flatten ∧
      List.Forall₂ (fun vm turn => Ran (AkamaiManager.reapOne active.computes vm) turn (.ok ())) vms turns := by
  induction vms generalizing trace with
  | nil =>
    obtain ⟨rfl, rfl⟩ := ran.of_pure
    exact ⟨rfl, rfl, [], rfl, .nil⟩
  | cons vm rest ih =>
    obtain ⟨_, first, one, next⟩ := ran.of_bind
    obtain ⟨treated, rfl⟩ := reapOne_treats one
    obtain ⟨second, rfl, others⟩ := next () rfl
    obtain ⟨rfl, quiet, turns, rfl, each⟩ := ih others
    refine ⟨rfl, ?_, first :: turns, rfl, .cons one each⟩
    rw [List.flatMap_append, treated.shows_nothing, quiet, List.append_nil]

theorem reapOrphans_turns {manager : AkamaiManager} {trace : List Exchange}
    {result : Except AkamaiComputeError Unit} (enabled : manager.config.mutationsEnabled = true)
    (ran : Ran (manager.reapOrphans active.computes) trace result) :
    result = .ok () ∧ ∃ turns, Reaped manager active trace turns := by
  have live : manager.requireLiveOperationsEnabled = .ok () := by
    simp [AkamaiManager.requireLiveOperationsEnabled, enabled]
  rw [AkamaiManager.reapOrphans, live] at ran
  obtain ⟨_, _, allowed, next⟩ := ran.of_bind
  obtain ⟨rfl, rfl⟩ := allowed.of_pure
  obtain ⟨_, rfl, after⟩ := next () rfl
  obtain ⟨_, listing, listed, each⟩ := after.of_bind
  obtain ⟨only, rfl⟩ := listFrom_shows listed
  obtain ⟨_, rfl, others⟩ := each _ rfl
  obtain ⟨rfl, quiet, turns, rfl, turn⟩ := reapEach_turns others
  refine ⟨rfl, turns, ⟨listing, only, rfl⟩, ?_⟩
  -- The turns list nothing, so the virtual machines shown are those of the listing.
  have same : managed manager (listing ++ turns.flatten) =
      [] ++ (listing.flatMap shown).filter (inScope manager.config.scope) := by
    rw [managed, List.flatMap_append, quiet, List.append_nil, List.nil_append]
  rw [same]
  exact turn

theorem Treated.congr {first second : ProviderInstance → ComputeInstance → Prop}
    (alike : ∀ compute ∈ active.computes, RecordAgrees vm compute → (first vm compute ↔ second vm compute))
    (treated : Treated first active vm turn) : Treated second active vm turn := by
  cases treated with
  | deleted answer orphan =>
    refine .deleted answer fun compute member owned agrees => ?_
    exact orphan compute member ((alike compute member agrees).mpr owned) agrees
  | kept compute member owned text recorded same =>
    have agrees : RecordAgrees vm compute := fun other given => by
      rw [recorded] at given
      exact Option.some.inj given ▸ same
    exact .kept compute member ((alike compute member agrees).mp owned) text recorded same
  | adopted compute member owned unrecorded now answers =>
    have agrees : RecordAgrees vm compute := fun other given => by simp [unrecorded] at given
    exact .adopted compute member ((alike compute member agrees).mp owned) unrecorded now answers

theorem labelled_of_text {compute : ComputeInstance}
    (label : vm.label = providerLabel compute.id) : Labelled vm compute := by
  rw [Labelled, AkamaiManager.labelledCompute, label]
  exact parse_providerLabel compute.id

theorem owned_iff {manager : AkamaiManager} {compute : ComputeInstance}
    (tagged : inScope manager.config.scope vm = true) :
    Owned manager vm compute ↔ vm.label = providerLabel compute.id := by
  simp only [inScope, Bool.and_eq_true] at tagged
  simp only [Owned, ProviderInstance.isOwnedBy, AkamaiManager.tag, tagged.1, tagged.2, Bool.and_true, decide_eq_true_eq]

-- A virtual machine that is labelled for an active compute, and not at odds with what the compute has
-- recorded, carries the very label that the provider code writes.
def CanonicallyLabelled (active : ActiveComputes) (vm : ProviderInstance) : Prop :=
  ∀ compute ∈ active.computes, Labelled vm compute → RecordAgrees vm compute →
    vm.label = providerLabel compute.id

theorem treated_owned_iff {manager : AkamaiManager}
    (tagged : inScope manager.config.scope vm = true) (treated : Treated Labelled active vm turn) :
    Treated (Owned manager) active vm turn ↔ CanonicallyLabelled active vm := by
  constructor
  · intro respected compute member labelled agrees
    -- Both readings of the turn name the compute; two active computes of one UUID are the same.
    have owner : ∃ other ∈ active.computes, Owned manager vm other := by
      cases respected with
      | deleted answer orphan =>
        cases treated with
        | deleted _ orphan' => exact absurd agrees (orphan' compute member labelled)
      | kept other there owned text recorded same => exact ⟨other, there, owned⟩
      | adopted other there owned unrecorded now answers => exact ⟨other, there, owned⟩
    obtain ⟨other, there, owned⟩ := owner
    have text := (owned_iff tagged).mp owned
    have uuid : other.id.uuid = compute.id.uuid :=
      Option.some.inj ((labelled_of_text text).symm.trans labelled)
    rwa [ActiveComputes.unique there member uuid] at text
  · intro canonical
    refine treated.congr fun compute member agrees => ?_
    rw [owned_iff tagged]
    exact ⟨fun labelled => canonical compute member labelled agrees, labelled_of_text⟩

theorem toString_injective {first second : Nat} (same : toString first = toString second) :
    first = second := by
  have digits : ∀ value : Nat, (toString value).toList = Nat.toDigits 10 value := fun _ => Nat.toList_repr
  have equal : Nat.toDigits 10 first = Nat.toDigits 10 second := by rw [← digits, ← digits, same]
  rw [← @Nat.ofDigitChars_toDigits 10 first (by decide) (by decide), equal,
    Nat.ofDigitChars_toDigits (by decide) (by decide)]

def AdoptsOnce (trace : List Exchange) : Prop :=
  ∀ (compute : ComputeInstanceId) (id id' : String) (address address' : Option String)
    (now now' : UnixTimestampMillis) (answer answer' : Except RepositoryError Bool),
    ⟨.db (.recordProviderInstance compute id address now), answer⟩ ∈ trace →
    ⟨.db (.recordProviderInstance compute id' address' now'), answer'⟩ ∈ trace → id = id'

def Unrivalled (active : ActiveComputes) (vms : List ProviderInstance) : Prop :=
  ∀ first ∈ vms, ∀ second ∈ vms, ∀ compute ∈ active.computes, compute.providerInstanceId = none →
    Labelled first compute → Labelled second compute → first.id = second.id

theorem Treated.adoption
    (treated : Treated Labelled active vm turn) {compute : ComputeInstanceId} {id : String}
    {address : Option String} {now : UnixTimestampMillis} {answer : Except RepositoryError Bool}
    (member : ⟨.db (.recordProviderInstance compute id address now), answer⟩ ∈ turn) :
    id = toString vm.id ∧ ∃ owner ∈ active.computes, owner.id = compute ∧
      owner.providerInstanceId = none ∧ Labelled vm owner := by
  cases treated with
  | deleted answer orphan =>
    cases member with
    | tail _ rest => cases rest
  | kept => cases member
  | adopted owner there labelled unrecorded =>
    cases member with
    | tail _ rest =>
      cases rest with
      | head => exact ⟨rfl, owner, there, rfl, unrecorded, labelled⟩
      | tail _ none => cases none

theorem Treated.adopts (treated : Treated Labelled active vm turn) {compute : ComputeInstance}
    (member : compute ∈ active.computes) (unrecorded : compute.providerInstanceId = none)
    (labelled : Labelled vm compute) :
    ∃ now answer,
      ⟨.db (.recordProviderInstance compute.id (toString vm.id) vm.publicIpv4 now), answer⟩ ∈ turn := by
  have only : ∀ other ∈ active.computes, Labelled vm other → other = compute := fun other there named =>
    ActiveComputes.unique there member (Option.some.inj (named.symm.trans labelled))
  cases treated with
  | deleted answer orphan =>
    exact absurd (fun text given => by simp [unrecorded] at given) (orphan compute member labelled)
  | kept other there named text recorded =>
    rw [only other there named, unrecorded] at recorded
    cases recorded
  | adopted other there named _ now answers =>
    obtain rfl := only other there named
    exact ⟨now, answers.2, by simp⟩

section Whole

variable {manager : AkamaiManager} {active : ActiveComputes} {trace : List Exchange}
  {turns : List (List Exchange)}

theorem Reaped.turn_of_mem (reaped : Reaped manager active trace turns) {exchange : Exchange}
    (member : exchange ∈ trace) (other : ¬IsListing exchange) :
    ∃ vm ∈ managed manager trace, ∃ turn, exchange ∈ turn ∧ Treated Labelled active vm turn := by
  obtain ⟨listing, only, same⟩ := reaped.split
  have late : exchange ∈ turns.flatten := by
    rw [same, List.mem_append] at member
    exact member.resolve_left fun early => other (only exchange early)
  have each := reaped.turn
  clear same reaped
  generalize managed manager trace = vms at each
  induction each with
  | nil => simp at late
  | cons one _ ih =>
    rw [List.flatten_cons, List.mem_append] at late
    rcases late with here | there
    · exact ⟨_, by simp, _, here, (reapOne_treats one).1⟩
    · obtain ⟨vm, listed, found⟩ := ih there
      exact ⟨vm, by simp [listed], found⟩

theorem Reaped.turn_of_vm (reaped : Reaped manager active trace turns) {vm : ProviderInstance}
    (member : vm ∈ managed manager trace) :
    ∃ turn, (∀ exchange ∈ turn, exchange ∈ trace) ∧ Treated Labelled active vm turn := by
  obtain ⟨listing, -, same⟩ := reaped.split
  have each := reaped.turn
  have within : ∀ exchange ∈ turns.flatten, exchange ∈ trace := fun exchange there => by simp [same, there]
  clear same reaped
  generalize managed manager trace = vms at each member
  induction each with
  | nil => simp at member
  | cons one _ ih =>
    simp only [List.flatten_cons, List.forall_mem_append] at within
    rcases List.mem_cons.mp member with rfl | there
    · exact ⟨_, within.1, (reapOne_treats one).1⟩
    · exact ih within.2 there

theorem adoptsOnce_iff (reaped : Reaped manager active trace turns) :
    AdoptsOnce trace ↔ Unrivalled active (managed manager trace) := by
  constructor
  · intro once first member second member' compute there unrecorded labelled labelled'
    obtain ⟨turn, within, treated⟩ := reaped.turn_of_vm member
    obtain ⟨turn', within', treated'⟩ := reaped.turn_of_vm member'
    obtain ⟨now, answer, adopts⟩ := treated.adopts there unrecorded labelled
    obtain ⟨now', answer', adopts'⟩ := treated'.adopts there unrecorded labelled'
    exact toString_injective (once _ _ _ _ _ _ _ _ _ (within _ adopts) (within' _ adopts'))
  · intro single compute id id' address address' now now' answer answer' here here'
    obtain ⟨vm, listed, turn, member, treated⟩ := reaped.turn_of_mem here (fun listing => listing)
    obtain ⟨vm', listed', turn', member', treated'⟩ := reaped.turn_of_mem here' (fun listing => listing)
    obtain ⟨rfl, owner, there, named, unrecorded, labelled⟩ := treated.adoption member
    obtain ⟨rfl, owner', there', named', -, labelled'⟩ := treated'.adoption member'
    have same : owner' = owner := ActiveComputes.unique there' there (by rw [named, named'])
    exact congrArg toString (single vm listed vm' listed' owner there unrecorded labelled (same ▸ labelled'))

def RespectsOwnership (manager : AkamaiManager) (active : ActiveComputes) (trace : List Exchange)
    (turns : List (List Exchange)) : Prop :=
  List.Forall₂ (Treated (Owned manager) active) (managed manager trace) turns ∧ AdoptsOnce trace

theorem Reaped.canonical_iff (reaped : Reaped manager active trace turns) :
    List.Forall₂ (Treated (Owned manager) active) (managed manager trace) turns ↔
      ∀ vm ∈ managed manager trace, CanonicallyLabelled active vm := by
  have tagged : ∀ vm ∈ managed manager trace, inScope manager.config.scope vm = true := fun vm member =>
    (List.mem_filter.mp member).2
  have each := reaped.turn
  clear reaped
  generalize managed manager trace = vms at each tagged
  induction each with
  | nil => simp
  | cons one _ ih =>
    rw [List.forall_mem_cons] at tagged
    rw [List.forall₂_cons, List.forall_mem_cons]
    exact and_congr (treated_owned_iff tagged.1 (reapOne_treats one).1) (ih tagged.2)

end Whole

theorem reapOne_runs (active : List ComputeInstance) (vm : ProviderInstance) :
    ∃ turn, Ran (AkamaiManager.reapOne active vm) turn (.ok ()) := by
  have gone : Ran (AkamaiClient.request (.deleteInstance vm.id))
      [⟨.provider (.deleteInstance vm.id), .ok ()⟩] (.ok ()) := Ran.request _
  rw [AkamaiManager.reapOne.eq_def]
  cases AkamaiManager.labelledCompute vm with
  | none => exact ⟨_, gone⟩
  | some uuid =>
    cases found : active.find? (fun compute => compute.id.uuid = uuid) with
    | none =>
      simp only [found]
      exact ⟨_, gone⟩
    | some compute =>
      simp only [found]
      cases compute.providerInstanceId with
      | none =>
        have stored := @Ran.db _ AkamaiComputeError.repository
          (.recordProviderInstance compute.id (toString vm.id) vm.publicIpv4 0) true
        exact ⟨_, (Ran.clock 0).bind (stored.bind (Ran.returned ()))⟩
      | some text =>
        by_cases same : Text.parseU64 text = some vm.id
        · simp only [same]
          exact ⟨_, Ran.returned ()⟩
        · simp only [same]
          exact ⟨_, gone⟩

theorem reapEach_runs (active : List ComputeInstance) (vms : List ProviderInstance) :
    ∃ trace, Ran (AkamaiManager.reapEach active vms) trace (.ok ()) := by
  induction vms with
  | nil => exact ⟨[], Ran.returned ()⟩
  | cons vm rest ih =>
    obtain ⟨first, one⟩ := reapOne_runs active vm
    obtain ⟨second, others⟩ := ih
    exact ⟨_, one.bind others⟩

theorem listManagedInstances_runs (scope : String) (vms : List ProviderInstance) :
    ∃ listing, Ran (AkamaiClient.listManagedInstances scope) listing (.ok (vms.filter (inScope scope))) := by
  have page : ∀ remaining, maximumU64 - (remaining + 1) = 1 →
      ∃ listing, Ran (AkamaiClient.listFrom .managed (inScope scope) (remaining + 1) []) listing
        (.ok ([] ++ vms.filter (inScope scope))) := by
    intro remaining start
    rw [AkamaiClient.listFrom, start]
    have asked := @Ran.request (.listInstances .managed 1) { data := vms, pages := 1 }
    exact ⟨_, asked.bind (Ran.returned _)⟩
  obtain ⟨remaining, start⟩ : ∃ remaining, maximumU64 - 1 = remaining + 1 := ⟨maximumU64 - 2, by decide⟩
  unfold AkamaiClient.listManagedInstances AkamaiClient.listAll
  rw [start]
  refine page remaining ?_
  have bound : (2 : Nat) ≤ maximumU64 := by decide
  omega

theorem reapOrphans_runs {manager : AkamaiManager} (enabled : manager.config.mutationsEnabled = true)
    (active : ActiveComputes) (vms : List ProviderInstance) :
    ∃ trace, Ran (manager.reapOrphans active.computes) trace (.ok ()) ∧
      managed manager trace = vms.filter (inScope manager.config.scope) := by
  obtain ⟨listing, listed⟩ := listManagedInstances_runs manager.config.scope vms
  obtain ⟨rest, each⟩ := reapEach_runs active.computes (vms.filter (inScope manager.config.scope))
  have live : manager.requireLiveOperationsEnabled = .ok () := by
    simp [AkamaiManager.requireLiveOperationsEnabled, enabled]
  refine ⟨[] ++ (listing ++ rest), ?_, ?_⟩
  · rw [AkamaiManager.reapOrphans, live]
    exact (Ran.returned ()).bind (listed.bind each)
  · have shows := (listFrom_shows listed).2
    have quiet := (reapEach_turns each).2.1
    rw [managed, List.nil_append, List.flatMap_append, quiet, List.append_nil]
    exact (Except.ok.inj shows).symm

theorem reaping_respects_ownership_iff (manager : AkamaiManager)
    (enabled : manager.config.mutationsEnabled = true) (active : ActiveComputes) (trace : List Exchange)
    (result : Except AkamaiComputeError Unit) (ran : Ran (manager.reapOrphans active.computes) trace result) :
    result = .ok () ∧ ∃ turns, Reaped manager active trace turns ∧
      (RespectsOwnership manager active trace turns ↔
        (∀ vm ∈ managed manager trace, CanonicallyLabelled active vm) ∧
          Unrivalled active (managed manager trace)) := by
  obtain ⟨ended, turns, reaped⟩ := reapOrphans_turns enabled ran
  exact ⟨ended, turns, reaped, and_congr reaped.canonical_iff (adoptsOnce_iff reaped)⟩

namespace Sample

def reapingManager : AkamaiManager :=
  { managerFor ["jp-osa"] with config := { (managerFor ["jp-osa"]).config with liveEnabled := true } }

def reapingComputes : ActiveComputes where
  computes := [haltingCompute.toComputeInstance]
  distinct := List.nodup_singleton _

def strayVm : ProviderInstance :=
  { haltingVm with id := 8, label := "mcserver-" ++ haltingCompute.id.uuid.simple }

def orphanVm : ProviderInstance := { haltingVm with id := 9, label := providerLabel ⟨6⟩ }

theorem orphan_unlabelled : ∀ compute ∈ reapingComputes.computes, ¬Labelled orphanVm compute :=
  List.forall_mem_singleton.mpr (by unfold Labelled; decide)

end Sample

open Sample in
theorem reaping_adopts_and_deletes :
    ∃ trace turns adoption answer, managed reapingManager trace = [haltingVm, orphanVm] ∧
      Reaped reapingManager reapingComputes trace turns ∧
      RespectsOwnership reapingManager reapingComputes trace turns ∧
      turns = [adoption, [⟨.provider (.deleteInstance orphanVm.id), answer⟩]] := by
  have live : reapingManager.config.mutationsEnabled = true := rfl
  obtain ⟨trace, ran, only⟩ := reapOrphans_runs live reapingComputes [haltingVm, orphanVm]
  obtain ⟨-, turns, reaped, respects⟩ :=
    reaping_respects_ownership_iff reapingManager live reapingComputes trace _ ran
  rw [show [haltingVm, orphanVm].filter _ = [haltingVm, orphanVm] by decide] at only
  have each := reaped.turn
  rw [only] at each
  obtain ⟨adoption, _, -, second, rfl⟩ := List.forall₂_cons_left_iff.mp each
  obtain ⟨deletion, _, one, none, rfl⟩ := List.forall₂_cons_left_iff.mp second
  obtain rfl := List.forall₂_nil_left_iff.mp none
  have alone : ∀ vm ∈ [haltingVm, orphanVm], ∀ compute ∈ reapingComputes.computes, Labelled vm compute →
      vm = haltingVm := by
    intro vm listed compute member labelled
    rcases List.mem_pair.mp listed with rfl | rfl
    · rfl
    · exact absurd labelled (orphan_unlabelled compute member)
  cases (reapOne_treats one).1 with
  | deleted answer =>
    refine ⟨trace, _, adoption, answer, only, reaped, respects.mpr ?_, rfl⟩
    rw [only]
    refine ⟨fun vm listed compute member labelled _ => ?_,
      fun first here second here' compute member _ mine yours => ?_⟩
    · rw [alone vm listed compute member labelled, List.mem_singleton.mp member]
      rfl
    · rw [alone first here compute member mine, alone second here' compute member yours]
  | kept compute member owned => exact absurd owned (orphan_unlabelled compute member)
  | adopted compute member owned => exact absurd owned (orphan_unlabelled compute member)

open Sample in
theorem reaping_adopts_stray_machine :
    strayVm.isOwnedBy (providerLabel haltingCompute.id) reapingManager.tag = false ∧
      ∃ trace turns, Ran (reapingManager.reapOrphans reapingComputes.computes) trace (.ok ()) ∧
        managed reapingManager trace = [haltingVm, strayVm] ∧
        Reaped reapingManager reapingComputes trace turns ∧ ¬AdoptsOnce trace ∧
        ¬List.Forall₂ (Treated (Owned reapingManager) reapingComputes) (managed reapingManager trace) turns := by
  have live : reapingManager.config.mutationsEnabled = true := rfl
  obtain ⟨trace, ran, only⟩ := reapOrphans_runs live reapingComputes [haltingVm, strayVm]
  obtain ⟨-, turns, reaped⟩ := reapOrphans_turns live ran
  rw [show [haltingVm, strayVm].filter _ = [haltingVm, strayVm] by decide] at only
  have here : haltingCompute.toComputeInstance ∈ reapingComputes.computes := List.mem_singleton_self _
  have labelled : Labelled strayVm haltingCompute.toComputeInstance := by
    unfold Labelled
    decide
  refine ⟨by decide, trace, turns, ran, only, reaped, fun once => ?_, fun treated => ?_⟩
  · have single := (adoptsOnce_iff reaped).mp once
    rw [only] at single
    exact absurd (single haltingVm (by simp) strayVm (by simp) _ here rfl (labelled_of_text rfl) labelled)
      (by decide)
  · have canonical := reaped.canonical_iff.mp treated
    rw [only] at canonical
    exact absurd (canonical strayVm (by simp) _ here labelled nofun) (by decide)

end McServer.System
