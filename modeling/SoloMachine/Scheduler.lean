import Mathlib.Logic.Relation
import Mathlib.Data.List.Nodup
import Mathlib.Data.List.Perm.Basic
import SoloMachine.Sequence

/-!
Contract: factory calls on one chain run together: the executor polls them in any order, one
segment at a time, with any value at each `.await` and any step failing.

Owns:
- `System`, the chain service's store and the calls in flight, and `Step`, one segment of one
  call;
- `FreshBelow`, the shape of the sequences the calls hold: no two equal, each below a bound;
  and the two ways a step changes them (`FreshBelow.sublist`, `FreshBelow.append_range'`);
- `System.Fresh`, the invariant: the sequences of the proofs the calls hold are fresh below
  the stored sequence; `Fresh.step`, one segment keeps it, and `Fresh.run`, every run does;
- `interleaved_calls_emit_fresh_proofs`: along every run the stored sequence only moves on,
  and the proofs of the returned transactions carry distinct sequences below it.

The invariant holds because each call reads the chain, signs and increments in one segment,
with no `.await` between (`TransactionBuilder.poll_sequences`).

Does not own: what one poll does (`SoloMachine.Poll`).
-/

set_option autoImplicit false

namespace SoloMachine

/-- One factory call in flight: the mnemonic and memo of its builder, and its future. -/
structure Process where
  mnemonic : Mnemonic
  memo : String
  task : Task

/-- The builder of a call on chain `chainId`. -/
def Process.builder (chainId : ChainId) (process : Process) : TransactionBuilder :=
  ⟨chainId, process.mnemonic, process.memo⟩

@[simp] theorem Process.builder_chainId (chainId : ChainId) (process : Process) :
    (process.builder chainId).chainId = chainId := rfl

/-- The proofs in the transaction a task returned, if it returned one. -/
def Task.returned : Task → List TimestampedSignatureData
  | .txDone (.ok txRaw) => txRaw.bodyBytes.proofs
  | _ => []

theorem Task.returned_sublist (task : Task) :
    (task.returned.map (·.sequence?)).Sublist task.sequences := by
  cases task with
  | txDone result =>
    cases result with
    | ok => exact List.Sublist.refl _
    | error => exact List.nil_sublist _
  | _ => exact List.nil_sublist _

/-- The chain service's store and the factory calls in flight. -/
structure System where
  chains : ChainStore
  processes : List Process

namespace System

/-- The system before any call is polled: each call with the mnemonic and memo of its
builder. -/
def init (chains : ChainStore) (calls : List (Mnemonic × String × Call)) : System :=
  ⟨chains, calls.map fun (mnemonic, memo, call) => ⟨mnemonic, memo, .start call⟩⟩

/-- The sequences of the proofs the calls hold. -/
def sequences (system : System) : List (Option Nat) :=
  system.processes.flatMap (·.task.sequences)

/-- The proofs of the transactions the calls returned. -/
def emitted (system : System) : List TimestampedSignatureData :=
  system.processes.flatMap (·.task.returned)

theorem sequences_split (chains : ChainStore) (before after : List Process) (process : Process) :
    (⟨chains, before ++ process :: after⟩ : System).sequences =
      before.flatMap (·.task.sequences) ++ process.task.sequences ++
        after.flatMap (·.task.sequences) := by
  simp [sequences, List.flatMap_append]

theorem emitted_sublist (system : System) :
    (system.emitted.map (·.sequence?)).Sublist system.sequences := by
  obtain ⟨chains, processes⟩ := system
  unfold emitted sequences
  induction processes with
  | nil => exact List.Sublist.slnil
  | cons process processes inductionHypothesis =>
    simp only [List.flatMap_cons, List.map_append]
    exact process.task.returned_sublist.append inductionHypothesis

end System

/-- One segment of one call on chain `chainId`: the executor picks the call, what its `.await`
resolved to and which of its steps fail, and the segment runs against the store with nothing
else between. -/
inductive Step (chainId : ChainId) : System → System → Prop
  | poll (chains : ChainStore) (before after : List Process) (process : Process)
      (responses : Responses) (faults : List Bool) :
      Step chainId ⟨chains, before ++ process :: after⟩
        ⟨((process.builder chainId).poll responses faults process.task chains).2,
          before ++ { process with
            task := ((process.builder chainId).poll responses faults process.task chains).1 } ::
            after⟩

/-! ## Fresh sequences -/

/-- Sequences no two of which are equal, each below `top`. -/
structure FreshBelow (sequences : List (Option Nat)) (top : Nat) : Prop where
  distinct : sequences.Nodup
  below : ∀ sequence ∈ sequences, ∃ signed, sequence = some signed ∧ signed < top

namespace FreshBelow

variable {sequences : List (Option Nat)} {top : Nat}

/-- Dropping proofs, with the bound moved up. -/
theorem sublist {kept : List (Option Nat)} {higher : Nat} (fresh : FreshBelow sequences top)
    (sublist : kept.Sublist sequences) (le : top ≤ higher) : FreshBelow kept higher where
  distinct := fresh.distinct.sublist sublist
  below sequence member := by
    obtain ⟨signed, rfl, lt⟩ := fresh.below sequence (sublist.subset member)
    exact ⟨signed, rfl, Nat.lt_of_lt_of_le lt le⟩

theorem perm {reordered : List (Option Nat)} (fresh : FreshBelow sequences top)
    (perm : sequences.Perm reordered) : FreshBelow reordered top where
  distinct := perm.nodup_iff.mp fresh.distinct
  below sequence member := fresh.below sequence (perm.mem_iff.mpr member)

/-- Signing at the `count` sequences from `top` on, and moving the bound past them. -/
theorem append_range' (fresh : FreshBelow sequences top) (count : Nat) :
    FreshBelow (sequences ++ (List.range' top count).map some) (top + count) where
  distinct := by
    refine fresh.distinct.append ((List.nodup_range' _ _).map fun _ _ => Option.some.inj) ?_
    intro sequence old new
    obtain ⟨signed, rfl, lt⟩ := fresh.below _ old
    obtain ⟨same, sameMember, equal⟩ := List.mem_map.mp new
    rw [Option.some.inj equal] at sameMember
    have := (List.mem_range'_1.mp sameMember).1
    omega
  below sequence member := by
    rcases List.mem_append.mp member with old | new
    · obtain ⟨signed, rfl, lt⟩ := fresh.below _ old
      exact ⟨signed, rfl, by omega⟩
    · obtain ⟨signed, signedMember, rfl⟩ := List.mem_map.mp new
      exact ⟨signed, rfl, (List.mem_range'_1.mp signedMember).2⟩

end FreshBelow

namespace System

variable (chainId : ChainId)

/-- The proofs the calls hold were signed at distinct sequences, each below the stored
sequence of the chain. -/
def Fresh (system : System) : Prop :=
  FreshBelow system.sequences (system.chains.storedSequence chainId)

theorem fresh_init (chains : ChainStore) (calls : List (Mnemonic × String × Call)) :
    (init chains calls).Fresh chainId := by
  have empty : (init chains calls).sequences = [] :=
    List.flatMap_eq_nil_iff.mpr fun process member => by
      obtain ⟨_, _, rfl⟩ := List.mem_map.mp member
      rfl
  exact ⟨empty ▸ List.nodup_nil, by simp [empty]⟩

variable {chainId}

/-- One segment keeps the sequences fresh: it keeps or drops the proofs its call held, or it
is the first segment of a call, which signed at the sequences it took from the store. -/
theorem Fresh.step {system next : System} (fresh : system.Fresh chainId)
    (step : Step chainId system next) : next.Fresh chainId := by
  cases step with
  | poll chains before after process responses faults =>
    unfold Fresh at fresh ⊢
    rw [sequences_split] at fresh ⊢
    have polled := (process.builder chainId).poll_sequences responses faults process.task chains
    rw [Process.builder_chainId] at polled
    obtain ⟨count, bumped, kept | ⟨chain, stored, grown⟩⟩ := polled
    · refine fresh.sublist ((kept.append_left _).append (List.Sublist.refl _)) ?_
      rw [bumped]
      exact ChainStore.storedSequence_le_bump _ _ _
    · rw [ChainStore.storedSequence_of_stored _ _ stored] at fresh
      rw [bumped, ChainStore.storedSequence_of_stored _ _
        (ChainStore.bump_of_stored _ _ stored count), Chain.advance_sequence]
      dsimp only
      rw [grown]
      refine (fresh.append_range' count).perm ?_
      simp only [List.append_assoc]
      exact List.Perm.append_left _ (List.Perm.append_left _ List.perm_append_comm)

/-- Every run keeps the sequences fresh. -/
theorem Fresh.run {system later : System} (fresh : system.Fresh chainId)
    (steps : Relation.ReflTransGen (Step chainId) system later) : later.Fresh chainId := by
  induction steps with
  | refl => exact fresh
  | tail _ step inductionHypothesis => exact inductionHypothesis.step step

/-- A segment writes nothing to the store but increments of the chain's sequence. -/
theorem step_bumps {system next : System} (step : Step chainId system next) :
    ∃ count, next.chains = system.chains.bump chainId count := by
  cases step with
  | poll chains before after process responses faults =>
    obtain ⟨count, -, bumped⟩ :=
      (process.builder chainId).poll_bumps responses faults process.task chains
    exact ⟨count, bumped⟩

/-- Nor does a run. -/
theorem run_bumps {system later : System}
    (steps : Relation.ReflTransGen (Step chainId) system later) :
    ∃ count, later.chains = system.chains.bump chainId count := by
  induction steps with
  | refl => exact ⟨0, (ChainStore.bump_zero _ _).symm⟩
  | tail _ step inductionHypothesis =>
    obtain ⟨first, reached⟩ := inductionHypothesis
    obtain ⟨more, bumped⟩ := step_bumps step
    exact ⟨first + more, by rw [bumped, reached, ChainStore.bump_bump]⟩

end System

/-- What a run from `system` to `later` keeps, on chain `chainId`. -/
structure FreshEmission (chainId : ChainId) (system later : System) : Prop where
  /-- The store changed by increments of the chain's sequence alone. -/
  onlyIncrements : ∃ count, later.chains = system.chains.bump chainId count
  /-- The stored sequence never went back. -/
  neverDecreases : system.chains.storedSequence chainId ≤ later.chains.storedSequence chainId
  /-- Every proof of a transaction returned by `system` carries a sequence below the stored
  one of `later`. -/
  emittedBelow : ∀ proof ∈ system.emitted, ∃ sequence, proof.sequence? = some sequence ∧
    sequence < later.chains.storedSequence chainId
  /-- No two proofs of the transactions returned by `system`, of one call or of two, carry the
  same sequence. -/
  emittedDistinct : (system.emitted.map (·.sequence?)).Nodup

/-- Factory calls on one chain, their segments interleaved in any order, with any value at
each `.await` and any step failing: between any point of the run and any later one, the store
only moves the chain's sequence on, and the proofs of the transactions returned so far carry
distinct sequences, each below the stored sequence from then on. -/
theorem interleaved_calls_emit_fresh_proofs {chainId : ChainId} {chains : ChainStore}
    {calls : List (Mnemonic × String × Call)} {system later : System}
    (reached : Relation.ReflTransGen (Step chainId) (System.init chains calls) system)
    (continued : Relation.ReflTransGen (Step chainId) system later) :
    FreshEmission chainId system later := by
  have fresh := (System.fresh_init chainId chains calls).run reached
  obtain ⟨count, bumped⟩ := System.run_bumps continued
  have neverDecreases : system.chains.storedSequence chainId ≤
      later.chains.storedSequence chainId := by
    rw [bumped]
    exact ChainStore.storedSequence_le_bump _ _ _
  refine ⟨⟨count, bumped⟩, neverDecreases, fun proof member => ?_,
    fresh.distinct.sublist system.emitted_sublist⟩
  obtain ⟨sequence, signed, lt⟩ :=
    fresh.below _ (system.emitted_sublist.subset (List.mem_map_of_mem _ member))
  exact ⟨sequence, signed, Nat.lt_of_lt_of_le lt neverDecreases⟩

/-! ## An interleaved run of the scenario -/

/-- A connection-open-ack and a channel-open-ack of the scenario's builder. -/
def scenarioCalls : List (Mnemonic × String × Call) :=
  [(scenarioBuilder.mnemonic, "", .msgConnectionOpenAck scenarioQueryHandler ⟨"connection-0"⟩
      ⟨"07-tendermint-0"⟩ ⟨"connection-0"⟩),
    (scenarioBuilder.mnemonic, "", .msgChannelOpenAck scenarioQueryHandler ⟨"channel-0"⟩
      ⟨"channel-0"⟩)]

/-- The channel-open-ack's first segment runs between the connection-open-ack's first and
second; the connection-open-ack returns a transaction with its three proofs, and the
channel-open-ack is polled once more. -/
theorem scenario_interleaved_acks_emit_fresh_proofs :
    ∃ system later,
      Relation.ReflTransGen (Step scenarioChain.id) (System.init scenarioChains scenarioCalls)
        system ∧
      Relation.ReflTransGen (Step scenarioChain.id) system later ∧ system.emitted.length = 3 ∧
      FreshEmission scenarioChain.id system later :=
  let reached : Relation.ReflTransGen (Step scenarioChain.id)
      (System.init scenarioChains scenarioCalls) _ := ((((Relation.ReflTransGen.refl).tail
    (Step.poll _ [] [_] _ scenarioResponses [])).tail
    (Step.poll _ [_] [] _ scenarioResponses [])).tail
    (Step.poll _ [] [_] _ scenarioResponses [])).tail
    (Step.poll _ [] [_] _ scenarioResponses [])
  let continued := Relation.ReflTransGen.single (Step.poll _ [_] [] _ scenarioResponses [])
  ⟨_, _, reached, continued, by decide, interleaved_calls_emit_fresh_proofs reached continued⟩

end SoloMachine
