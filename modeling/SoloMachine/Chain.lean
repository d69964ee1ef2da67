import Mathlib.Logic.Function.Basic
import SoloMachine.Proto

/-!
Contract: the identifiers, ICS-24 paths and chain records the builder works with, and the
chain service's store of chain records.

Owns: the ids of `ibc::core::ics24_host::identifier` with their `to_string`; the revision
number `ChainId::version`; the four ICS-24 paths and `apply_prefix`; the `Chain` record of
`crate::service::chain`; the chain store and `ChainStore.bump`, the store after `k`
increments of one chain's sequence, with its algebra, and `ChainStore.storedSequence`.

The `ibc` crate and `crate::service::chain` are not under src/. Their parts used here are
modelled from the spec: paths render as in its table of proof factories, a chain id is a name
with a numeric revision suffix, and a chain record holds the fields of its data model that the
builder reads.

Does not own: the validation of identifiers (a parse that may fail is a fallible step of
`SoloMachine.Segment`), or the chain fields no builder function reads (`unbonding_period`).
-/

set_option autoImplicit false

namespace SoloMachine

/-! ## Identifiers -/

/-- Modelled from the spec: `ChainId`, an identifier with a numeric revision suffix. -/
structure ChainId where
  id : String
deriving DecidableEq, Repr

instance : ToString ChainId := ⟨ChainId.id⟩

/-- The revision number read from the reversed characters of a chain id: the digits before the
first `-`, or `0` when there are none or no `-` follows them. -/
def revisionOfReversed : List Char → Nat → Nat → Nat
  | [], _, _ => 0
  | character :: rest, value, place =>
    if character = '-' then (if place = 1 then 0 else value)
    else if character.isDigit then
      revisionOfReversed rest (value + (character.toNat - '0'.toNat) * place) (place * 10)
    else 0

/-- Modelled from the spec: `ChainId::version`, the revision number after the id's last `-`. -/
def ChainId.version (chainId : ChainId) : Nat := revisionOfReversed chainId.id.toList.reverse 0 1

example : ChainId.version ⟨"cosmoshub-4"⟩ = 4 := by decide

/-- `ClientId`. -/
structure ClientId where
  id : String
deriving DecidableEq, Repr

/-- `ConnectionId`. -/
structure ConnectionId where
  id : String
deriving DecidableEq, Repr

/-- `ChannelId`. -/
structure ChannelId where
  id : String
deriving DecidableEq, Repr

/-- `PortId`. -/
structure PortId where
  id : String
deriving DecidableEq, Repr

instance : ToString ClientId := ⟨ClientId.id⟩
instance : ToString ConnectionId := ⟨ConnectionId.id⟩
instance : ToString ChannelId := ⟨ChannelId.id⟩
instance : ToString PortId := ⟨PortId.id⟩

/-! ## ICS-24 paths -/

/-- Modelled from the spec: an ICS-24 path of `ibc::core::ics24_host::path`. -/
structure Path where
  path : String
deriving DecidableEq, Repr

/-- `ClientStatePath::new`. -/
def ClientStatePath.new (clientId : ClientId) : Path := ⟨s!"/clients/{clientId}/clientState"⟩

/-- `ConsensusStatePath::new`. -/
def ConsensusStatePath.new (clientId : ClientId) (height : Height) : Path :=
  ⟨s!"/clients/{clientId}/consensusStates/{height}"⟩

/-- `ConnectionPath::new`. -/
def ConnectionPath.new (connectionId : ConnectionId) : Path := ⟨s!"/connections/{connectionId}"⟩

/-- `ChannelPath::new`. -/
def ChannelPath.new (portId : PortId) (channelId : ChannelId) : Path :=
  ⟨s!"/channelEnds/ports/{portId}/channels/{channelId}"⟩

/-- `apply_prefix`: the commitment prefix's raw bytes go in front, with no separator of its own. -/
def Path.applyPrefix (path : Path) (commitmentPrefix : String) : Path :=
  ⟨commitmentPrefix ++ path.path⟩

/-- `into_bytes`. -/
def Path.intoBytes (path : Path) : String := path.path

example : ((ConnectionPath.new ⟨"connection-0"⟩).applyPrefix "ibc").intoBytes =
    "ibc/connections/connection-0" := by decide

/-! ## Chain records -/

/-- Modelled from the spec: the fee of a chain's configuration. -/
structure Chain.Fee where
  amount : Nat
  denom : String
  gasLimit : Nat
deriving DecidableEq, Repr

/-- `num_rational::Ratio<u64>`, the trust level of a chain's configuration. -/
structure Ratio where
  numer : Nat
  denom : Nat
deriving DecidableEq, Repr

/-- Modelled from the spec: `crate::service::chain::Chain`, one counterparty's record. Only
`sequence` ever changes. -/
structure Chain where
  id : ChainId
  grpcAddr : String
  rpcAddr : String
  accountPrefix : String
  fee : Chain.Fee
  trustLevel : Ratio
  trustingPeriod : Duration
  maxClockDrift : Duration
  portId : PortId
  diversifier : String
  consensusTimestamp : Nat
  sequence : Nat
deriving DecidableEq, Repr

/-- The record after `count` increments of its sequence. -/
def Chain.advance (chain : Chain) (count : Nat) : Chain :=
  { chain with sequence := chain.sequence + count }

@[simp] theorem Chain.advance_sequence (chain : Chain) (count : Nat) :
    (chain.advance count).sequence = chain.sequence + count := rfl

@[simp] theorem Chain.advance_accountPrefix (chain : Chain) (count : Nat) :
    (chain.advance count).accountPrefix = chain.accountPrefix := rfl

@[simp] theorem Chain.advance_zero (chain : Chain) : chain.advance 0 = chain := rfl

@[simp] theorem Chain.advance_advance (chain : Chain) (first second : Nat) :
    (chain.advance first).advance second = chain.advance (first + second) := by
  simp [Chain.advance, Nat.add_assoc]

/-- The chain service's store: the record of each chain id it knows. -/
abbrev ChainStore := ChainId → Option Chain

/-- The store after `count` increments of the sequence of chain `chainId`. -/
def ChainStore.bump (chains : ChainStore) (chainId : ChainId) (count : Nat) : ChainStore :=
  Function.update chains chainId ((chains chainId).map (·.advance count))

namespace ChainStore

variable (chains : ChainStore) (chainId : ChainId)

@[simp] theorem bump_zero : chains.bump chainId 0 = chains := by
  funext other
  by_cases same : other = chainId
  · subst same
    cases found : chains other <;> simp [bump, found]
  · simp [bump, same]

@[simp] theorem bump_bump (first second : Nat) :
    (chains.bump chainId first).bump chainId second = chains.bump chainId (first + second) := by
  funext other
  by_cases same : other = chainId
  · subst same
    cases found : chains other <;> simp [bump, found]
  · simp [bump, same]

@[simp] theorem bump_self (count : Nat) :
    chains.bump chainId count chainId = (chains chainId).map (·.advance count) := by
  simp [bump]

theorem bump_of_stored {chain : Chain} (stored : chains chainId = some chain) (count : Nat) :
    chains.bump chainId count chainId = some (chain.advance count) := by
  simp [stored]

theorem bump_ne (count : Nat) {other : ChainId} (different : other ≠ chainId) :
    chains.bump chainId count other = chains other := by
  simp [bump, different]

/-- The stored sequence of chain `chainId`, `0` when the store does not hold it. -/
def storedSequence : Nat := ((chains chainId).map (·.sequence)).getD 0

theorem storedSequence_of_stored {chain : Chain} (stored : chains chainId = some chain) :
    chains.storedSequence chainId = chain.sequence := by
  simp [storedSequence, stored]

theorem storedSequence_le_bump (count : Nat) :
    chains.storedSequence chainId ≤ (chains.bump chainId count).storedSequence chainId := by
  cases stored : chains chainId <;> simp [storedSequence, stored]

end ChainStore

end SoloMachine
