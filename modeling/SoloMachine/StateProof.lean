import SoloMachine.Segment

/-!
Contract: the proof signer of `transaction_builder.rs`, lines 516-683.

Owns: `get_channel_proof`, `get_connection_proof`, `get_client_proof`,
`get_consensus_proof` and `sign`, with the collaborators they read: the query handler's
store of counterparty objects, the mnemonic's key and address, `proto_encode` and `to_any`.
All of it is `Fallible`: none of it reads or writes the chain service's store, and every
step with a `?` may fail.

The four factories share one tail, `signStateData`: encode the state data and sign it at the
chain record's `sequence`, under its `consensus_timestamp` and `diversifier`. Each factory is
its own lookups followed by that tail, and `signStateData_eq_ok` is the one lemma about it;
`signStateData_of_ok` and the factories' `_of_found` lemmas say what they return when the
objects they look up are present and no step fails.

Does not own: which sequence the chain record passed in carries (that is the callers'
protocol, `SoloMachine.Sequence`).
-/

set_option autoImplicit false

namespace SoloMachine

/-! ## Collaborators -/

/-- `crate::handler::query_handler::QueryHandler` (not under src/): the solo machine's store
of the counterparty's IBC objects. Every read of it may fail. -/
structure QueryHandler where
  clientStates : ClientId → Option TendermintClientState
  consensusStates : ClientId → Height → Option TendermintConsensusState
  connections : ConnectionId → Option ConnectionEnd
  channels : PortId → ChannelId → Option Channel

namespace QueryHandler

variable (queryHandler : QueryHandler)

/-- `QueryHandler::get_client_state`. -/
def getClientState (clientId : ClientId) : Fallible (Option TendermintClientState) :=
  fallible "QueryHandler::get_client_state" (queryHandler.clientStates clientId)

/-- `QueryHandler::get_consensus_state`. -/
def getConsensusState (clientId : ClientId) (height : Height) :
    Fallible (Option TendermintConsensusState) :=
  fallible "QueryHandler::get_consensus_state" (queryHandler.consensusStates clientId height)

/-- `QueryHandler::get_connection`. -/
def getConnection (connectionId : ConnectionId) : Fallible (Option ConnectionEnd) :=
  fallible "QueryHandler::get_connection" (queryHandler.connections connectionId)

/-- `QueryHandler::get_channel`. -/
def getChannel (portId : PortId) (channelId : ChannelId) : Fallible (Option Channel) :=
  fallible "QueryHandler::get_channel" (queryHandler.channels portId channelId)

end QueryHandler

/-- A `bip39::Mnemonic` through the `Crypto` trait (not under src/): the secp256k1 key it
derives, and the bech32 address of that key's public key under an account prefix. -/
structure Mnemonic where
  signingKey : SigningKey
  address : String → String

namespace Mnemonic

variable (mnemonic : Mnemonic)

/-- `Crypto::to_signing_key`. -/
def toSigningKey : Fallible SigningKey := fallible "to_signing_key" mnemonic.signingKey

/-- `Crypto::to_public_key`. -/
def toPublicKey : Fallible PublicKey := fallible "to_public_key" ⟨mnemonic.signingKey⟩

/-- `Crypto::account_address`. -/
def accountAddress (accountPrefix : String) : Fallible String :=
  fallible "account_address" (mnemonic.address accountPrefix)

end Mnemonic

/-- `proto_encode`: the bytes are kept as the message they encode. -/
def protoEncode {α : Type} (message : α) : Fallible α := fallible "proto_encode" message

/-- `AnyConvert::to_any`. -/
def toAny {α : Type} [AnyConvert α] (message : α) : Fallible (Any α) :=
  fallible "to_any" (Any.pack message)

/-! ## Signing -/

/-- The proof a successful `sign` returns: the mnemonic's signature over `signBytes`, in
single mode `SIGN_MODE_UNSPECIFIED`, stamped with the chain's consensus timestamp. -/
def signedProof (mnemonic : Mnemonic) (chain : Chain) (signBytes : SignBytes) :
    TimestampedSignatureData :=
  ⟨⟨some (.single ⟨⟨mnemonic.signingKey, signBytes⟩, .unspecified⟩)⟩, chain.consensusTimestamp⟩

@[simp] theorem signBytes?_signedProof (mnemonic : Mnemonic) (chain : Chain)
    (signBytes : SignBytes) : (signedProof mnemonic chain signBytes).signBytes? = some signBytes :=
  rfl

@[simp] theorem sequence?_signedProof (mnemonic : Mnemonic) (chain : Chain)
    (signBytes : SignBytes) :
    (signedProof mnemonic chain signBytes).sequence? = some signBytes.sequence := rfl

/-- `sign`. -/
def sign (chain : Chain) (mnemonic : Mnemonic) (signBytes : SignBytes) :
    Fallible TimestampedSignatureData := do
  let signBytes ← protoEncode signBytes
  let signature : Signature SignBytes := ⟨← mnemonic.toSigningKey, signBytes⟩
  let signatureData : SignatureData := ⟨some (.single ⟨signature, .unspecified⟩)⟩
  let signatureDataBytes ← protoEncode signatureData
  let timestampedSignatureData : TimestampedSignatureData :=
    ⟨signatureDataBytes, chain.consensusTimestamp⟩
  protoEncode timestampedSignatureData

section Specs

variable {chain : Chain} {mnemonic : Mnemonic} {faults rest : List Bool}
  {proof : TimestampedSignatureData}

theorem sign_eq_ok {signBytes : SignBytes}
    (ran : sign chain mnemonic signBytes faults = (.ok proof, rest)) :
    proof = signedProof mnemonic chain signBytes := by
  obtain ⟨_, ran⟩ := fallible_bind_eq_ok ran
  obtain ⟨_, ran⟩ := fallible_bind_eq_ok ran
  obtain ⟨_, ran⟩ := fallible_bind_eq_ok ran
  exact fallible_eq_ok ran

end Specs

/-- The tail of the four proof factories: encode the state data, then sign it at the chain
record's current sequence, under its consensus timestamp and diversifier. -/
def signStateData (chain : Chain) (mnemonic : Mnemonic) (dataType : DataType)
    (stateData : StateData) : Fallible TimestampedSignatureData := do
  let stateDataBytes ← protoEncode stateData
  let signBytes : SignBytes := {
    sequence := chain.sequence
    timestamp := chain.consensusTimestamp
    diversifier := chain.diversifier
    dataType := dataType
    data := stateDataBytes }
  sign chain mnemonic signBytes

/-- The `SignBytes` of a proof made from the chain record `chain`. -/
def Chain.signBytes (chain : Chain) (dataType : DataType) (data : StateData) : SignBytes :=
  ⟨chain.sequence, chain.consensusTimestamp, chain.diversifier, dataType, data⟩

@[simp] theorem Chain.signBytes_sequence (chain : Chain) (dataType : DataType) (data : StateData) :
    (chain.signBytes dataType data).sequence = chain.sequence := rfl

theorem signStateData_eq_ok {chain : Chain} {mnemonic : Mnemonic} {dataType : DataType}
    {stateData : StateData} {faults rest : List Bool} {proof : TimestampedSignatureData}
    (ran : signStateData chain mnemonic dataType stateData faults = (.ok proof, rest)) :
    proof = signedProof mnemonic chain (chain.signBytes dataType stateData) := by
  obtain ⟨_, ran⟩ := fallible_bind_eq_ok ran
  exact sign_eq_ok ran

/-! ## The four proof factories -/

/-- `get_channel_proof`. -/
def getChannelProof (chain : Chain) (queryHandler : QueryHandler) (mnemonic : Mnemonic)
    (portId : PortId) (channelId : ChannelId) : Fallible TimestampedSignatureData := do
  let channel ← Action.okOr
    (.msg s!"channel with port id {portId} and channel id {channelId} not found")
    (← queryHandler.getChannel portId channelId)
  let channelPath := (ChannelPath.new portId channelId).applyPrefix "ibc"
  signStateData chain mnemonic .channelState (.channelState ⟨channelPath.intoBytes, some channel⟩)

/-- `get_connection_proof`. -/
def getConnectionProof (chain : Chain) (queryHandler : QueryHandler) (mnemonic : Mnemonic)
    (connectionId : ConnectionId) : Fallible TimestampedSignatureData := do
  let connection ← Action.okOr (.msg s!"connection with id {connectionId} not found")
    (← queryHandler.getConnection connectionId)
  let connectionPath := (ConnectionPath.new connectionId).applyPrefix "ibc"
  signStateData chain mnemonic .connectionState
    (.connectionState ⟨connectionPath.intoBytes, some connection⟩)

/-- `get_client_proof`. -/
def getClientProof (chain : Chain) (queryHandler : QueryHandler) (mnemonic : Mnemonic)
    (clientId : ClientId) : Fallible TimestampedSignatureData := do
  let clientState ← toAny (← Action.okOr (.msg s!"client with id {clientId} not found")
    (← queryHandler.getClientState clientId))
  let clientStatePath := (ClientStatePath.new clientId).applyPrefix "ibc"
  signStateData chain mnemonic .clientState
    (.clientState ⟨clientStatePath.intoBytes, some clientState⟩)

/-- `get_consensus_proof`: the consensus state at the latest height of the client state. -/
def getConsensusProof (chain : Chain) (queryHandler : QueryHandler) (mnemonic : Mnemonic)
    (clientId : ClientId) : Fallible TimestampedSignatureData := do
  let clientState ← Action.okOr (.msg s!"client with id {clientId} not found")
    (← queryHandler.getClientState clientId)
  let height ← Action.okOr (.msg "client state does not contain latest height")
    clientState.latestHeight
  let consensusState ← toAny (← Action.okOr
    (.msg s!"consensus state with id {clientId} and height {height} not found")
    (← queryHandler.getConsensusState clientId height))
  let consensusStatePath := (ConsensusStatePath.new clientId height).applyPrefix "ibc"
  signStateData chain mnemonic .consensusState
    (.consensusState ⟨consensusStatePath.intoBytes, some consensusState⟩)

section Specs

variable {chain : Chain} {queryHandler : QueryHandler} {mnemonic : Mnemonic}
  {faults rest : List Bool} {proof : TimestampedSignatureData}

theorem getChannelProof_eq_ok {portId : PortId} {channelId : ChannelId}
    (ran : getChannelProof chain queryHandler mnemonic portId channelId faults = (.ok proof, rest)) :
    ∃ channel, queryHandler.channels portId channelId = some channel ∧
      proof = signedProof mnemonic chain (chain.signBytes .channelState
        (.channelState ⟨((ChannelPath.new portId channelId).applyPrefix "ibc").intoBytes,
          some channel⟩)) := by
  obtain ⟨_, ran⟩ := fallible_bind_eq_ok ran
  obtain ⟨channel, found, ran⟩ := Action.okOr_bind_eq_ok ran
  exact ⟨channel, found, signStateData_eq_ok ran⟩

theorem getConnectionProof_eq_ok {connectionId : ConnectionId}
    (ran : getConnectionProof chain queryHandler mnemonic connectionId faults = (.ok proof, rest)) :
    ∃ connection, queryHandler.connections connectionId = some connection ∧
      proof = signedProof mnemonic chain (chain.signBytes .connectionState
        (.connectionState ⟨((ConnectionPath.new connectionId).applyPrefix "ibc").intoBytes,
          some connection⟩)) := by
  obtain ⟨_, ran⟩ := fallible_bind_eq_ok ran
  obtain ⟨connection, found, ran⟩ := Action.okOr_bind_eq_ok ran
  exact ⟨connection, found, signStateData_eq_ok ran⟩

theorem getClientProof_eq_ok {clientId : ClientId}
    (ran : getClientProof chain queryHandler mnemonic clientId faults = (.ok proof, rest)) :
    ∃ clientState, queryHandler.clientStates clientId = some clientState ∧
      proof = signedProof mnemonic chain (chain.signBytes .clientState
        (.clientState ⟨((ClientStatePath.new clientId).applyPrefix "ibc").intoBytes,
          some (Any.pack clientState)⟩)) := by
  obtain ⟨_, ran⟩ := fallible_bind_eq_ok ran
  obtain ⟨clientState, found, ran⟩ := Action.okOr_bind_eq_ok ran
  obtain ⟨_, ran⟩ := fallible_bind_eq_ok ran
  exact ⟨clientState, found, signStateData_eq_ok ran⟩

theorem getConsensusProof_eq_ok {clientId : ClientId}
    (ran : getConsensusProof chain queryHandler mnemonic clientId faults = (.ok proof, rest)) :
    ∃ clientState height consensusState,
      queryHandler.clientStates clientId = some clientState ∧
      clientState.latestHeight = some height ∧
      queryHandler.consensusStates clientId height = some consensusState ∧
      proof = signedProof mnemonic chain (chain.signBytes .consensusState
        (.consensusState ⟨((ConsensusStatePath.new clientId height).applyPrefix "ibc").intoBytes,
          some (Any.pack consensusState)⟩)) := by
  obtain ⟨_, ran⟩ := fallible_bind_eq_ok ran
  obtain ⟨clientState, found, ran⟩ := Action.okOr_bind_eq_ok ran
  obtain ⟨height, latest, ran⟩ := Action.okOr_bind_eq_ok ran
  obtain ⟨_, ran⟩ := fallible_bind_eq_ok ran
  obtain ⟨consensusState, foundConsensus, ran⟩ := Action.okOr_bind_eq_ok ran
  obtain ⟨_, ran⟩ := fallible_bind_eq_ok ran
  exact ⟨clientState, height, consensusState, found, latest, foundConsensus,
    signStateData_eq_ok ran⟩

end Specs

/-! ## The four proof factories when nothing fails -/

section Success

variable {chain : Chain} {queryHandler : QueryHandler} {mnemonic : Mnemonic}

/-- With no fault, the tail signs the state data at the record's sequence. -/
theorem signStateData_of_ok (dataType : DataType) (stateData : StateData) :
    signStateData chain mnemonic dataType stateData [] =
      (.ok (signedProof mnemonic chain (chain.signBytes dataType stateData)), []) := rfl

theorem getChannelProof_of_found {portId : PortId} {channelId : ChannelId} {channel : Channel}
    (found : queryHandler.channels portId channelId = some channel) :
    getChannelProof chain queryHandler mnemonic portId channelId [] =
      (.ok (signedProof mnemonic chain (chain.signBytes .channelState
        (.channelState ⟨((ChannelPath.new portId channelId).applyPrefix "ibc").intoBytes,
          some channel⟩))), []) := by
  simp only [getChannelProof, QueryHandler.getChannel, found]
  rfl

theorem getConnectionProof_of_found {connectionId : ConnectionId} {connection : ConnectionEnd}
    (found : queryHandler.connections connectionId = some connection) :
    getConnectionProof chain queryHandler mnemonic connectionId [] =
      (.ok (signedProof mnemonic chain (chain.signBytes .connectionState
        (.connectionState ⟨((ConnectionPath.new connectionId).applyPrefix "ibc").intoBytes,
          some connection⟩))), []) := by
  simp only [getConnectionProof, QueryHandler.getConnection, found]
  rfl

theorem getClientProof_of_found {clientId : ClientId} {clientState : TendermintClientState}
    (found : queryHandler.clientStates clientId = some clientState) :
    getClientProof chain queryHandler mnemonic clientId [] =
      (.ok (signedProof mnemonic chain (chain.signBytes .clientState
        (.clientState ⟨((ClientStatePath.new clientId).applyPrefix "ibc").intoBytes,
          some (Any.pack clientState)⟩))), []) := by
  simp only [getClientProof, QueryHandler.getClientState, found]
  rfl

theorem getConsensusProof_of_found {clientId : ClientId} {clientState : TendermintClientState}
    {height : Height} {consensusState : TendermintConsensusState}
    (found : queryHandler.clientStates clientId = some clientState)
    (latest : clientState.latestHeight = some height)
    (foundConsensus : queryHandler.consensusStates clientId height = some consensusState) :
    getConsensusProof chain queryHandler mnemonic clientId [] =
      (.ok (signedProof mnemonic chain (chain.signBytes .consensusState
        (.consensusState ⟨((ConsensusStatePath.new clientId height).applyPrefix "ibc").intoBytes,
          some (Any.pack consensusState)⟩))), []) := by
  simp only [getConsensusProof, QueryHandler.getClientState, found, Action.bind_apply, fallible,
    Action.okOr, Action.pure, latest, QueryHandler.getConsensusState, foundConsensus]
  rfl

end Success

end SoloMachine
