/-!
Contract: the wire messages of the solo-machine transaction builder
(`solo-machine/src/transaction_builder.rs`).

Owns: the protobuf messages the builder builds or reads, with the fields it sets or reads,
and the symbolic reading of their bytes. Bytes made by `proto_encode` are kept as the message
they encode, an `Any` keeps the message it packs, and a signature keeps its key and the
message whose encoding it signs. Decoding such bytes is a projection, so a solo-machine proof
can be read back to the `SignBytes` it was signed over.

Does not own: the protobuf byte layout, ECDSA, or the fields of the proto types that no
function of the builder sets or reads (those are left out).
-/

set_option autoImplicit false

namespace SoloMachine

/-! ## Shared values -/

/-- `ibc.core.client.v1.Height`. -/
structure Height where
  revisionNumber : Nat
  revisionHeight : Nat
deriving DecidableEq, Repr

/-- `Height::new` of the `IHeight` trait. -/
def Height.new (revisionNumber revisionHeight : Nat) : Height := ⟨revisionNumber, revisionHeight⟩

/-- `Height::zero` of the `IHeight` trait. -/
def Height.zero : Height := ⟨0, 0⟩

instance : ToString Height := ⟨fun height => s!"{height.revisionNumber}-{height.revisionHeight}"⟩

/-- `prost_types::Duration`. -/
structure Duration where
  seconds : Int
  nanos : Int
deriving DecidableEq, Repr

/-- `ibc.lightclients.tendermint.v1.Fraction`. -/
structure Fraction where
  numerator : Nat
  denominator : Nat
deriving DecidableEq, Repr

/-- `prost_types::Any`: `value` is the encoding of a message of type `α`, kept as that
message. -/
structure Any (α : Type) where
  typeUrl : String
  value : α
deriving DecidableEq, Repr

/-- The `AnyConvert` trait: the type URL a message is packed under. -/
class AnyConvert (α : Type) where
  typeUrl : α → String

/-- What a successful `to_any` returns. -/
def Any.pack {α : Type} [AnyConvert α] (value : α) : Any α := ⟨AnyConvert.typeUrl value, value⟩

@[simp] theorem Any.pack_value {α : Type} [AnyConvert α] (value : α) : (Any.pack value).value = value :=
  rfl

/-! ## Keys and signatures -/

/-- A secp256k1 signing key. -/
structure SigningKey where
  scalar : Nat
deriving DecidableEq, Repr

/-- The compressed public key of `signingKey`, kept as the key it is derived from. -/
structure PublicKey where
  signingKey : SigningKey
deriving DecidableEq, Repr

instance : AnyConvert PublicKey := ⟨fun _ => "/cosmos.crypto.secp256k1.PubKey"⟩

/-- A raw 64-byte `r||s` ECDSA signature by `signer` over the encoding of `message`. -/
structure Signature (α : Type) where
  signer : SigningKey
  message : α
deriving DecidableEq, Repr

/-! ## Client and consensus states -/

/-- `ibc.lightclients.solomachine.v1.ConsensusState`. -/
structure SoloMachineConsensusState where
  publicKey : Option (Any PublicKey)
  diversifier : String
  timestamp : Nat
deriving DecidableEq, Repr

/-- `ibc.lightclients.solomachine.v1.ClientState`. -/
structure SoloMachineClientState where
  sequence : Nat
  frozenSequence : Nat
  consensusState : Option SoloMachineConsensusState
  allowUpdateAfterProposal : Bool
deriving DecidableEq, Repr

/-- The canonical ICS-23 proof specs returned by `proof_specs()`. -/
inductive ProofSpec
  | iavl
  | tendermint
deriving DecidableEq, Repr

/-- `ibc.lightclients.tendermint.v1.ClientState`. -/
structure TendermintClientState where
  chainId : String
  trustLevel : Option Fraction
  trustingPeriod : Option Duration
  unbondingPeriod : Option Duration
  maxClockDrift : Option Duration
  frozenHeight : Option Height
  latestHeight : Option Height
  proofSpecs : List ProofSpec
  upgradePath : List String
  allowUpdateAfterExpiry : Bool
  allowUpdateAfterMisbehaviour : Bool
deriving DecidableEq, Repr

/-- `ibc.lightclients.tendermint.v1.ConsensusState`. -/
structure TendermintConsensusState where
  timestamp : Nat
  root : String
  nextValidatorsHash : String
deriving DecidableEq, Repr

instance : AnyConvert SoloMachineConsensusState :=
  ⟨fun _ => "/ibc.lightclients.solomachine.v1.ConsensusState"⟩
instance : AnyConvert SoloMachineClientState :=
  ⟨fun _ => "/ibc.lightclients.solomachine.v1.ClientState"⟩
instance : AnyConvert TendermintClientState :=
  ⟨fun _ => "/ibc.lightclients.tendermint.v1.ClientState"⟩
instance : AnyConvert TendermintConsensusState :=
  ⟨fun _ => "/ibc.lightclients.tendermint.v1.ConsensusState"⟩

/-! ## Connections and channels -/

/-- `ibc.core.commitment.v1.MerklePrefix`; `keyPrefix` holds the prefix's bytes. -/
structure MerklePrefix where
  keyPrefix : String
deriving DecidableEq, Repr

/-- `ibc.core.connection.v1.Counterparty`. -/
structure ConnectionCounterparty where
  clientId : String
  connectionId : String
  prefix_ : Option MerklePrefix
deriving DecidableEq, Repr

/-- `ibc.core.connection.v1.Version`. -/
structure ConnectionVersion where
  identifier : String
  features : List String
deriving DecidableEq, Repr

/-- `ibc.core.connection.v1.ConnectionEnd`, as the query handler stores it. -/
structure ConnectionEnd where
  clientId : String
  versions : List ConnectionVersion
  state : Int
  counterparty : Option ConnectionCounterparty
  delayPeriod : Nat
deriving DecidableEq, Repr

/-- `ibc.core.channel.v1.State`. -/
inductive ChannelState
  | uninitialized
  | init
  | tryOpen
  | «open»
  | closed
deriving DecidableEq, Repr

/-- `ibc.core.channel.v1.Order`. -/
inductive ChannelOrder
  | none
  | unordered
  | ordered
deriving DecidableEq, Repr

/-- `ibc.core.channel.v1.Counterparty`. -/
structure ChannelCounterparty where
  portId : String
  channelId : String
deriving DecidableEq, Repr

/-- `ibc.core.channel.v1.Channel`. -/
structure Channel where
  state : ChannelState
  ordering : ChannelOrder
  counterparty : Option ChannelCounterparty
  connectionHops : List String
  version : String
deriving DecidableEq, Repr

/-! ## Solo-machine proofs -/

/-- `ibc.lightclients.solomachine.v1.DataType`, the kinds of object a proof attests to. -/
inductive DataType
  | clientState
  | consensusState
  | connectionState
  | channelState
deriving DecidableEq, Repr

/-- `ibc.lightclients.solomachine.v1.ClientStateData`. -/
structure ClientStateData where
  path : String
  clientState : Option (Any TendermintClientState)
deriving DecidableEq, Repr

/-- `ibc.lightclients.solomachine.v1.ConsensusStateData`. -/
structure ConsensusStateData where
  path : String
  consensusState : Option (Any TendermintConsensusState)
deriving DecidableEq, Repr

/-- `ibc.lightclients.solomachine.v1.ConnectionStateData`. -/
structure ConnectionStateData where
  path : String
  connection : Option ConnectionEnd
deriving DecidableEq, Repr

/-- `ibc.lightclients.solomachine.v1.ChannelStateData`. -/
structure ChannelStateData where
  path : String
  channel : Option Channel
deriving DecidableEq, Repr

/-- The bytes of `SignBytes.data`: one of the four state-data messages, encoded. -/
inductive StateData
  | clientState (data : ClientStateData)
  | consensusState (data : ConsensusStateData)
  | connectionState (data : ConnectionStateData)
  | channelState (data : ChannelStateData)
deriving DecidableEq, Repr

/-- `ibc.lightclients.solomachine.v1.SignBytes`, the preimage of a proof's signature. -/
structure SignBytes where
  sequence : Nat
  timestamp : Nat
  diversifier : String
  dataType : DataType
  data : StateData
deriving DecidableEq, Repr

/-- `cosmos.tx.signing.v1beta1.SignMode`. -/
inductive SignMode
  | unspecified
  | direct
deriving DecidableEq, Repr

/-- `SignatureDescriptor.Data.Single`. -/
structure SingleSignatureData where
  signature : Signature SignBytes
  mode : SignMode
deriving DecidableEq, Repr

/-- The `sum` of `SignatureDescriptor.Data`. -/
inductive SignatureDataInner
  | single (data : SingleSignatureData)
deriving DecidableEq, Repr

/-- `SignatureDescriptor.Data`. -/
structure SignatureData where
  sum : Option SignatureDataInner
deriving DecidableEq, Repr

/-- `ibc.lightclients.solomachine.v1.TimestampedSignatureData`: the bytes of a solo-machine
proof. -/
structure TimestampedSignatureData where
  signatureData : SignatureData
  timestamp : Nat
deriving DecidableEq, Repr

/-- The `SignBytes` a proof's signature was made over, read back from its bytes. -/
def TimestampedSignatureData.signBytes? (proof : TimestampedSignatureData) : Option SignBytes :=
  match proof.signatureData.sum with
  | some (.single data) => some data.signature.message
  | none => none

/-- The `SignBytes.sequence` a proof was signed at. -/
def TimestampedSignatureData.sequence? (proof : TimestampedSignatureData) : Option Nat :=
  proof.signBytes?.map (·.sequence)

/-! ## Payload messages -/

/-- `ibc.core.client.v1.MsgCreateClient`. -/
structure MsgCreateClient where
  clientState : Option (Any SoloMachineClientState)
  consensusState : Option (Any SoloMachineConsensusState)
  signer : String
deriving DecidableEq, Repr

/-- `ibc.core.connection.v1.MsgConnectionOpenInit`. -/
structure MsgConnectionOpenInit where
  clientId : String
  counterparty : Option ConnectionCounterparty
  version : Option ConnectionVersion
  delayPeriod : Nat
  signer : String
deriving DecidableEq, Repr

/-- `ibc.core.connection.v1.MsgConnectionOpenAck`. -/
structure MsgConnectionOpenAck where
  connectionId : String
  counterpartyConnectionId : String
  version : Option ConnectionVersion
  clientState : Option (Any TendermintClientState)
  proofHeight : Option Height
  proofTry : TimestampedSignatureData
  proofClient : TimestampedSignatureData
  proofConsensus : TimestampedSignatureData
  consensusHeight : Option Height
  signer : String
deriving DecidableEq, Repr

/-- `ibc.core.channel.v1.MsgChannelOpenInit`. -/
structure MsgChannelOpenInit where
  portId : String
  channel : Option Channel
  signer : String
deriving DecidableEq, Repr

/-- `ibc.core.channel.v1.MsgChannelOpenAck`. -/
structure MsgChannelOpenAck where
  portId : String
  channelId : String
  counterpartyChannelId : String
  counterpartyVersion : String
  proofHeight : Option Height
  proofTry : TimestampedSignatureData
  signer : String
deriving DecidableEq, Repr

/-- The payload messages the factories hand to the generic `build<T: AnyConvert>`. -/
inductive Msg
  | createClient (message : MsgCreateClient)
  | connectionOpenInit (message : MsgConnectionOpenInit)
  | connectionOpenAck (message : MsgConnectionOpenAck)
  | channelOpenInit (message : MsgChannelOpenInit)
  | channelOpenAck (message : MsgChannelOpenAck)
deriving DecidableEq, Repr

instance : AnyConvert Msg := ⟨fun
  | .createClient _ => "/ibc.core.client.v1.MsgCreateClient"
  | .connectionOpenInit _ => "/ibc.core.connection.v1.MsgConnectionOpenInit"
  | .connectionOpenAck _ => "/ibc.core.connection.v1.MsgConnectionOpenAck"
  | .channelOpenInit _ => "/ibc.core.channel.v1.MsgChannelOpenInit"
  | .channelOpenAck _ => "/ibc.core.channel.v1.MsgChannelOpenAck"⟩

/-- The solo-machine proofs a payload message carries. -/
def Msg.proofs : Msg → List TimestampedSignatureData
  | .connectionOpenAck message => [message.proofTry, message.proofClient, message.proofConsensus]
  | .channelOpenAck message => [message.proofTry]
  | _ => []

/-! ## Transactions -/

/-- `cosmos.tx.v1beta1.TxBody`. -/
structure TxBody where
  messages : List (Any Msg)
  memo : String
  timeoutHeight : Nat
  extensionOptions : List (Any Msg)
  nonCriticalExtensionOptions : List (Any Msg)
deriving DecidableEq, Repr

/-- The solo-machine proofs carried by the messages of a transaction body. -/
def TxBody.proofs (body : TxBody) : List TimestampedSignatureData :=
  body.messages.flatMap fun message => message.value.proofs

/-- `cosmos.base.v1beta1.Coin`. -/
structure Coin where
  denom : String
  amount : String
deriving DecidableEq, Repr

/-- `cosmos.tx.v1beta1.Fee`. -/
structure Fee where
  amount : List Coin
  gasLimit : Nat
  payer : String
  granter : String
deriving DecidableEq, Repr

/-- `cosmos.tx.v1beta1.ModeInfo.Single` (`mode_info::Single`). -/
structure ModeInfo.Single where
  mode : Int
deriving DecidableEq, Repr

/-- The `sum` of `cosmos.tx.v1beta1.ModeInfo` (`mode_info::Sum`). -/
inductive ModeInfo.Sum
  | single (single : ModeInfo.Single)
deriving DecidableEq, Repr

/-- `cosmos.tx.v1beta1.ModeInfo`. -/
structure ModeInfo where
  sum : Option ModeInfo.Sum
deriving DecidableEq, Repr

/-- `cosmos.tx.v1beta1.SignerInfo`. -/
structure SignerInfo where
  publicKey : Option (Any PublicKey)
  modeInfo : Option ModeInfo
  sequence : Nat
deriving DecidableEq, Repr

/-- `cosmos.tx.v1beta1.AuthInfo`. -/
structure AuthInfo where
  signerInfos : List SignerInfo
  fee : Option Fee
deriving DecidableEq, Repr

/-- `cosmos.tx.v1beta1.SignDoc`, the preimage of a transaction's signature. -/
structure SignDoc where
  bodyBytes : TxBody
  authInfoBytes : AuthInfo
  chainId : String
  accountNumber : Nat
deriving DecidableEq, Repr

/-- `cosmos.tx.v1beta1.TxRaw`, what every factory but `msg_create_tendermint_client` returns. -/
structure TxRaw where
  bodyBytes : TxBody
  authInfoBytes : AuthInfo
  signatures : List (Signature SignDoc)
deriving DecidableEq, Repr

/-! ## Responses of the remote chain -/

/-- `cosmos.auth.v1beta1.BaseAccount`: the two fields `get_account_details` reads. -/
structure BaseAccount where
  accountNumber : Nat
  sequence : Nat
deriving DecidableEq, Repr

/-- `cosmos.staking.v1beta1.Params`: the field `get_unbonding_period` reads. -/
structure Params where
  unbondingTime : Option Duration
deriving DecidableEq, Repr

/-- The `node_info` of a Tendermint RPC `status` response. -/
structure NodeInfo where
  network : String
deriving DecidableEq, Repr

/-- The `sync_info` of a Tendermint RPC `status` response. -/
structure SyncInfo where
  latestBlockHeight : Nat
  catchingUp : Bool
deriving DecidableEq, Repr

/-- A Tendermint RPC `status` response. -/
structure Status where
  nodeInfo : NodeInfo
  syncInfo : SyncInfo
deriving DecidableEq, Repr

/-- A Tendermint block header: the fields a consensus state is made from. -/
structure Header where
  time : Nat
  appHash : String
  nextValidatorsHash : String
deriving DecidableEq, Repr

/-- A Tendermint RPC `block` response. -/
structure Block where
  header : Header
deriving DecidableEq, Repr

end SoloMachine
