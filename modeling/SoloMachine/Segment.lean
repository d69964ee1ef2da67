import SoloMachine.Chain

/-!
Contract: what a stretch of a factory call between two `.await` points runs in, and the chain
service it shares with every other call.

Owns:
- `Error`, the `anyhow::Error`s of the builder: a message it raises, a failure it propagates
  with `?`, or either under a `.context(..)`;
- `Action σ`, a computation over a state `σ` that ends with a value or an error and keeps the
  state it reached either way, with its bind inversion lemmas and their converses
  (`bind_of_ok`, `context_of_ok`, `lift_of_ok`);
- `Fallible`, code that touches no store: every step of it that may fail reads the next entry
  of a fault schedule, so every choice of failing steps is one schedule;
- `Segment`, code that also reads and writes the chain service's store, and the service's two
  operations `get` and `increment_sequence`;
- `Bumps`, the frame condition of a segment: it leaves the store as it found it but for at
  most so many increments of one chain's sequence.

`ChainService` is not under src/: `increment_sequence` is modelled from the spec (a
compare-and-return primitive that stores and returns the record with its sequence one larger,
and changes nothing when it fails).
-/

set_option autoImplicit false

namespace SoloMachine

/-- An `anyhow::Error`: a message the builder raises (`anyhow!`, `ensure!`), a failure it
propagates from a collaborator with `?`, or an error under `.context(text)`. -/
inductive Error
  | msg (text : String)
  | failed (step : String)
  | context (text : String) (cause : Error)
deriving DecidableEq, Repr

/-- A computation over a state `σ`: it ends with a value or an error and keeps the state it
reached either way, so a failure does not roll back what came before it. -/
def Action (σ α : Type) : Type := σ → Except Error α × σ

namespace Action

variable {σ α β : Type}

/-- Return `value` and leave the state alone. -/
protected def pure (value : α) : Action σ α := fun state => (.ok value, state)

/-- Run `action`, then `next` on its value; an error stops the computation. -/
protected def bind (action : Action σ α) (next : α → Action σ β) : Action σ β := fun state =>
  match action state with
  | (.ok value, reached) => next value reached
  | (.error error, reached) => (.error error, reached)

instance : Monad (Action σ) where
  pure := Action.pure
  bind := Action.bind

instance : LawfulMonad (Action σ) := LawfulMonad.mk' (Action σ)
  (fun action => funext fun state => by
    show Action.bind action (fun value => Action.pure (id value)) state = action state
    unfold Action.bind Action.pure
    split <;> simp_all)
  (fun _ _ => rfl)
  (fun action first second => funext fun state => by
    show Action.bind (Action.bind action first) second state =
      Action.bind action (fun value => Action.bind (first value) second) state
    unfold Action.bind
    rcases action state with ⟨_ | _, _⟩ <;> rfl)

/-- Fail with `error`. -/
def throw (error : Error) : Action σ α := fun state => (.error error, state)

/-- The current state. -/
def get : Action σ σ := fun state => (.ok state, state)

/-- Change the state. -/
def modify (change : σ → σ) : Action σ Unit := fun state => (.ok (), change state)

/-- `.context(text)`: an error of `action` comes back under `text`. -/
def context (text : String) (action : Action σ α) : Action σ α := fun state =>
  match action state with
  | (.error error, reached) => (.error (.context text error), reached)
  | result => result

/-- `.ok_or_else(|| error)?`. -/
def okOr (error : Error) : Option α → Action σ α
  | some value => Action.pure value
  | none => throw error

/-- `result?` on a `Result` already in hand. -/
def ofExcept : Except Error α → Action σ α
  | .ok value => Action.pure value
  | .error error => throw error

@[simp] theorem pure_apply (value : α) (state : σ) :
    (pure value : Action σ α) state = (.ok value, state) := rfl

@[simp] theorem get_apply (state : σ) : (get : Action σ σ) state = (.ok state, state) := rfl

@[simp] theorem bind_apply (action : Action σ α) (next : α → Action σ β) (state : σ) :
    (action >>= next) state = match action state with
      | (.ok value, reached) => next value reached
      | (.error error, reached) => (.error error, reached) := rfl

/-- A bind that succeeds ran both halves successfully. -/
theorem bind_eq_ok {action : Action σ α} {next : α → Action σ β} {state final : σ} {result : β}
    (ran : (action >>= next) state = (.ok result, final)) :
    ∃ value middle, action state = (.ok value, middle) ∧ next value middle = (.ok result, final) := by
  rw [bind_apply] at ran
  split at ran
  · exact ⟨_, _, ‹_›, ran⟩
  · cases ran

/-- A first step that succeeds hands its value and state to the rest. -/
theorem bind_of_ok {action : Action σ α} {next : α → Action σ β} {state middle : σ} {value : α}
    (ran : action state = (.ok value, middle)) : (action >>= next) state = next value middle := by
  rw [bind_apply, ran]

/-- An `ok_or` that lets the rest succeed found a value. -/
theorem okOr_bind_eq_ok {error : Error} {option : Option α} {next : α → Action σ β}
    {state final : σ} {result : β}
    (ran : (okOr error option >>= next) state = (.ok result, final)) :
    ∃ value, option = some value ∧ next value state = (.ok result, final) := by
  cases option with
  | none => cases ran
  | some value => exact ⟨value, rfl, ran⟩

/-- A step that fails ends the bind with its error and state. -/
theorem bind_error {action : Action σ α} {next : α → Action σ β} {state final : σ} {error : Error}
    (failed : action state = (.error error, final)) : (action >>= next) state = (.error error, final) := by
  rw [bind_apply, failed]

/-- Two binds on one first step: when the first bind fails, the second fails the same way,
provided it does wherever the first bind's continuation fails. -/
theorem bind_error_of {γ : Type} {action : Action σ α} {first : α → Action σ β}
    {second : α → Action σ γ} {state final : σ} {error : Error}
    (failed : (action >>= first) state = (.error error, final))
    (follows : ∀ value middle, first value middle = (.error error, final) →
      second value middle = (.error error, final)) :
    (action >>= second) state = (.error error, final) := by
  rw [bind_apply] at failed ⊢
  rcases reached : action state with ⟨_ | value, middle⟩ <;> rw [reached] at failed
  · simpa using failed
  · exact follows value middle failed

/-- A `?` on a resolved future that lets the rest succeed found it `Ok`. -/
theorem ofExcept_bind_eq_ok {result : Except Error α} {next : α → Action σ β}
    {state final : σ} {value : β}
    (ran : (ofExcept result >>= next) state = (.ok value, final)) :
    ∃ resolved, result = .ok resolved ∧ next resolved state = (.ok value, final) := by
  cases result with
  | error => cases ran
  | ok resolved => exact ⟨resolved, rfl, ran⟩

theorem okOr_eq_ok {error : Error} {option : Option α} {state final : σ} {value : α}
    (ran : okOr error option state = (.ok value, final)) : option = some value ∧ final = state := by
  cases option <;> simp_all [okOr, throw, Action.pure]

theorem ofExcept_eq_ok {result : Except Error α} {state final : σ} {value : α}
    (ran : ofExcept result state = (.ok value, final)) : result = .ok value ∧ final = state := by
  cases result <;> simp_all [ofExcept, throw, Action.pure]

theorem context_eq_ok {text : String} {action : Action σ α} {state final : σ} {value : α}
    (ran : context text action state = (.ok value, final)) : action state = (.ok value, final) := by
  unfold context at ran
  split at ran <;> simp_all

theorem context_of_ok {text : String} {action : Action σ α} {state final : σ} {value : α}
    (ran : action state = (.ok value, final)) : context text action state = (.ok value, final) := by
  unfold context
  rw [ran]

/-- A `.context(..)` that lets the rest succeed ran its action successfully. -/
theorem context_bind_eq_ok {text : String} {action : Action σ α} {next : α → Action σ β}
    {state final : σ} {result : β}
    (ran : (context text action >>= next) state = (.ok result, final)) :
    ∃ value middle, action state = (.ok value, middle) ∧ next value middle = (.ok result, final) := by
  obtain ⟨value, middle, ran1, ran⟩ := bind_eq_ok ran
  exact ⟨value, middle, context_eq_ok ran1, ran⟩

end Action

/-! ## Code that touches no store -/

/-- Code of the builder that touches no store. The state is the fault schedule: each step
that may fail takes its next entry, and fails when that entry is `true`. -/
abbrev Fallible := Action (List Bool)

/-- A step that may fail, such as `proto_encode(..)?` or a read of the query handler. -/
def fallible {α : Type} (step : String) (value : α) : Fallible α
  | true :: faults => (.error (.failed step), faults)
  | false :: faults => (.ok value, faults)
  | [] => (.ok value, [])

theorem fallible_eq_ok {α : Type} {step : String} {value result : α} {faults rest : List Bool}
    (ran : fallible step value faults = (.ok result, rest)) : result = value := by
  unfold fallible at ran
  split at ran <;> simp_all

/-- A fallible step that lets the rest succeed returned its value. -/
theorem fallible_bind_eq_ok {α β : Type} {step : String} {value : α} {next : α → Fallible β}
    {faults rest : List Bool} {result : β}
    (ran : (fallible step value >>= next) faults = (.ok result, rest)) :
    ∃ middle, next value middle = (.ok result, rest) := by
  match faults, ran with
  | [], ran => exact ⟨_, ran⟩
  | false :: _, ran => exact ⟨_, ran⟩
  | true :: _, ran => cases ran

/-! ## Segments -/

/-- What a segment runs against: the chain service's store, and the fault schedule of the
steps that may fail. -/
structure World where
  chains : ChainStore
  faults : List Bool

/-- A stretch of a factory call between two `.await` points. Nothing else runs during it. -/
abbrev Segment := Action World

instance : MonadLift Fallible Segment := ⟨fun action world =>
  match action world.faults with
  | (result, faults) => (result, { world with faults })⟩

theorem lift_apply {α : Type} (action : Fallible α) (world : World) :
    (monadLift action : Segment α) world =
      ((action world.faults).1, { world with faults := (action world.faults).2 }) := rfl

/-- Lifted code that succeeds leaves the store alone and moves the fault schedule on. -/
theorem lift_of_ok {α : Type} {action : Fallible α} {chains : ChainStore} {faults rest : List Bool}
    {value : α} (ran : action faults = (.ok value, rest)) :
    (monadLift action : Segment α) ⟨chains, faults⟩ = (.ok value, ⟨chains, rest⟩) := by
  rw [lift_apply, ran]

@[simp] theorem lift_chains {α : Type} (action : Fallible α) (world : World) :
    ((monadLift action : Segment α) world).2.chains = world.chains := by
  change (match action world.faults with
    | (result, faults) => (result, { world with faults })).2.chains = _
  split
  rfl

theorem lift_eq_ok {α : Type} {action : Fallible α} {world final : World} {value : α}
    (ran : (monadLift action : Segment α) world = (.ok value, final)) :
    action world.faults = (.ok value, final.faults) ∧ final.chains = world.chains := by
  change (match action world.faults with
    | (result, faults) => (result, { world with faults })) = _ at ran
  split at ran
  · rename_i faults split
    cases ran
    exact ⟨split, rfl⟩

/-- Lifted code that lets the rest succeed ran on the fault schedule alone. -/
theorem lift_bind_eq_ok {α β : Type} {action : Fallible α} {next : α → Segment β}
    {world final : World} {result : β}
    (ran : (monadLift action >>= next) world = (.ok result, final)) :
    ∃ value faults, action world.faults = (.ok value, faults) ∧
      next value { world with faults } = (.ok result, final) := by
  obtain ⟨value, ⟨chains, faults⟩, lifted, ran⟩ := Action.bind_eq_ok ran
  obtain ⟨ok, same⟩ := lift_eq_ok lifted
  subst same
  exact ⟨value, faults, ok, ran⟩

theorem lift_fallible_bind_eq_ok {α β : Type} {step : String} {value : α}
    {next : α → Segment β} {world final : World} {result : β}
    (ran : (monadLift (fallible step value) >>= next) world = (.ok result, final)) :
    ∃ faults, next value { world with faults } = (.ok result, final) := by
  obtain ⟨_, faults, read, ran⟩ := lift_bind_eq_ok ran
  rw [fallible_eq_ok read] at ran
  exact ⟨faults, ran⟩

/-- `ChainService::get`: a read of the store, which may fail. -/
def ChainService.get (chainId : ChainId) : Segment (Option Chain) := do
  let world ← Action.get
  fallible "ChainService::get" (world.chains chainId)

/-- Modelled from the spec: `ChainService::increment_sequence`, the only write to the store.
It stores the chain's record with its sequence one larger and returns that record. It fails,
changing nothing, on a fault of the store, on an unknown chain, or when the new sequence would
not fit in a `u64`. -/
def ChainService.incrementSequence (chainId : ChainId) : Segment Chain := do
  let world ← Action.get
  match ← fallible "ChainService::increment_sequence" (world.chains chainId) with
  | some chain =>
    if chain.sequence + 1 < Nat.pow 2 64 then
      Action.modify fun world => { world with chains := world.chains.bump chainId 1 }
      pure (chain.advance 1)
    else Action.throw (.failed "ChainService::increment_sequence")
  | none => Action.throw (.failed "ChainService::increment_sequence")

theorem ChainService.get_eq_ok {chainId : ChainId} {world final : World} {chain : Option Chain}
    (ran : ChainService.get chainId world = (.ok chain, final)) :
    chain = world.chains chainId ∧ final.chains = world.chains := by
  obtain ⟨_, _, get, ran⟩ := Action.bind_eq_ok ran
  cases get
  obtain ⟨read, same⟩ := lift_eq_ok ran
  exact ⟨fallible_eq_ok read, same⟩

/-- An increment with no fault, of a stored chain whose next sequence fits in a `u64`, stores
and returns the record one sequence on. -/
theorem ChainService.incrementSequence_of_stored {chainId : ChainId} {chains : ChainStore}
    {chain : Chain} (stored : chains chainId = some chain) (room : chain.sequence + 1 < Nat.pow 2 64) :
    ChainService.incrementSequence chainId ⟨chains, []⟩ =
      (.ok (chain.advance 1), ⟨chains.bump chainId 1, []⟩) := by
  simp only [ChainService.incrementSequence, Action.bind_apply, Action.get_apply, lift_apply,
    fallible, stored, room, if_true, Action.modify, Action.pure_apply]

/-- A successful increment returns the stored record with its sequence one larger, and the
store holds that record. -/
theorem ChainService.incrementSequence_eq_ok {chainId : ChainId} {world final : World}
    {chain : Chain} (ran : ChainService.incrementSequence chainId world = (.ok chain, final)) :
    ∃ before, world.chains chainId = some before ∧
      chain = before.advance 1 ∧
      final.chains = world.chains.bump chainId 1 := by
  obtain ⟨_, _, get, ran⟩ := Action.bind_eq_ok ran
  cases get
  obtain ⟨stored, middle, read, ran⟩ := Action.bind_eq_ok ran
  obtain ⟨read, same⟩ := lift_eq_ok read
  cases stored with
  | none => cases ran
  | some before =>
    simp only at ran
    split at ran
    · cases ran
      exact ⟨before, (fallible_eq_ok read).symm, rfl, by simp [same]⟩
    · cases ran

/-- An increment followed by code that succeeds: the store held a record, and the rest ran on
that record one sequence larger, against the store that now holds it. -/
theorem ChainService.incrementSequence_bind_eq_ok {β : Type} {chainId : ChainId}
    {next : Chain → Segment β} {world final : World} {result : β}
    (ran : (ChainService.incrementSequence chainId >>= next) world = (.ok result, final)) :
    ∃ before middle, world.chains chainId = some before ∧
      middle.chains = world.chains.bump chainId 1 ∧
      next (before.advance 1) middle = (.ok result, final) := by
  obtain ⟨_, middle, incremented, ran⟩ := Action.bind_eq_ok ran
  obtain ⟨before, stored, rfl, bumped⟩ := ChainService.incrementSequence_eq_ok incremented
  exact ⟨before, middle, stored, bumped, ran⟩

/-! ## Frame condition -/

/-- From any world, `segment` leaves the store as it found it but for at most `count`
increments of the sequence of chain `chainId`, whether it succeeds or fails. -/
def Bumps {α : Type} (chainId : ChainId) (count : Nat) (segment : Segment α) : Prop :=
  ∀ world, ∃ done ≤ count, (segment world).2.chains = world.chains.bump chainId done

namespace Bumps

variable {α β : Type} {chainId : ChainId}

theorem bind {first second : Nat} {action : Segment α} {next : α → Segment β}
    (actionBumps : Bumps chainId first action) (nextBumps : ∀ value, Bumps chainId second (next value)) :
    Bumps chainId (first + second) (action >>= next) := by
  intro world
  obtain ⟨done, doneLe, reached⟩ := actionBumps world
  rw [Action.bind_apply]
  split
  · rename_i value middle ran
    obtain ⟨more, moreLe, final⟩ := nextBumps value middle
    rw [ran] at reached
    exact ⟨done + more, by omega, by rw [final, reached, ChainStore.bump_bump]⟩
  · rename_i error middle ran
    rw [ran] at reached
    exact ⟨done, by omega, reached⟩

/-- A step that writes nothing, then the rest. -/
theorem bind_frame {count : Nat} {action : Segment α} {next : α → Segment β}
    (actionBumps : Bumps chainId 0 action) (nextBumps : ∀ value, Bumps chainId count (next value)) :
    Bumps chainId count (action >>= next) := by
  simpa using bind actionBumps nextBumps

/-- A segment that writes nothing leaves the store as it found it. -/
theorem chains_eq {segment : Segment α} (bumps : Bumps chainId 0 segment) {world final : World}
    {result : Except Error α} (ran : segment world = (result, final)) :
    final.chains = world.chains := by
  obtain ⟨done, doneLe, reached⟩ := bumps world
  rw [ran] at reached
  rw [reached, Nat.le_zero.mp doneLe, ChainStore.bump_zero]

theorem mono {small large : Nat} {segment : Segment α} (bumps : Bumps chainId small segment)
    (le : small ≤ large) : Bumps chainId large segment := fun world =>
  let ⟨done, doneLe, reached⟩ := bumps world
  ⟨done, by omega, reached⟩

theorem of_chains {segment : Segment α}
    (same : ∀ world, (segment world).2.chains = world.chains) : Bumps chainId 0 segment :=
  fun world => ⟨0, Nat.le_refl 0, by rw [same, ChainStore.bump_zero]⟩

theorem lift (action : Fallible α) : Bumps chainId 0 (monadLift action : Segment α) :=
  of_chains (lift_chains action)

theorem pure (value : α) : Bumps chainId 0 (Pure.pure value : Segment α) :=
  of_chains fun _ => rfl

theorem throw (error : Error) : Bumps chainId 0 (Action.throw error : Segment α) :=
  of_chains fun _ => rfl

theorem getState : Bumps chainId 0 (Action.get : Segment World) :=
  of_chains fun _ => rfl

theorem okOr (error : Error) (option : Option α) :
    Bumps chainId 0 (Action.okOr error option : Segment α) := by
  cases option
  · exact throw error
  · exact pure _

theorem ofExcept (result : Except Error α) : Bumps chainId 0 (Action.ofExcept result : Segment α) := by
  cases result
  · exact throw _
  · exact pure _

theorem context {count : Nat} (text : String) {segment : Segment α}
    (bumps : Bumps chainId count segment) : Bumps chainId count (Action.context text segment) := by
  intro world
  obtain ⟨done, doneLe, reached⟩ := bumps world
  refine ⟨done, doneLe, ?_⟩
  unfold Action.context
  split <;> simp_all

theorem get (other : ChainId) : Bumps chainId 0 (ChainService.get other) :=
  bind_frame getState fun _ => lift _

theorem incrementSequence : Bumps chainId 1 (ChainService.incrementSequence chainId) := by
  unfold ChainService.incrementSequence
  refine bind_frame getState fun world => bind_frame (lift _) fun stored => ?_
  rcases stored with _ | chain
  · exact (throw _).mono (Nat.zero_le 1)
  · simp only
    split
    · have stores : Bumps chainId 1 (Action.modify fun world : World =>
          {world with chains := world.chains.bump chainId 1}) := fun world => ⟨1, Nat.le_refl 1, rfl⟩
      exact (stores.bind fun _ => pure _ : Bumps chainId (1 + 0) _)
    · exact (throw _).mono (Nat.zero_le 1)

/-- An increment, then the rest. -/
theorem bind_increment {count : Nat} {next : Chain → Segment β}
    (nextBumps : ∀ chain, Bumps chainId count (next chain)) :
    Bumps chainId (count + 1) (ChainService.incrementSequence chainId >>= next) := by
  simpa [Nat.add_comm] using bind incrementSequence nextBumps

end Bumps

end SoloMachine
