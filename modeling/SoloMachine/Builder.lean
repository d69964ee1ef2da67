import SoloMachine.StateProof

/-!
Contract: the `TransactionBuilder` of `transaction_builder.rs`, lines 77-514, as the futures its
`async fn`s return.

Owns: the six message factories, `build` with `build_tx_body`, `build_auth_info`,
`build_signature` and `get_account_details`, and `get_unbonding_period`, `get_latest_height`
and `get_header`. Each call is a `Task`, laid out as rustc lays out a future: the call before
its first poll, the locals live across each `.await` it can be suspended at, or its result.
`TransactionBuilder.resume` runs a task from one `.await` to the next as one `Segment`, with
the value the awaited future resolved to; `poll` runs that segment against the chain store
and ends the call when it fails; `run` polls one call alone to its end.

The `.await` points are the only places another call can run. In every factory they lie in
`build` (`AuthQueryClient::connect`, `query_client.account`) or in the RPC and gRPC helpers of
`msg_create_tendermint_client`; every read of the chain record, every proof and every
`increment_sequence` lies before the first of them.

Does not own: the transports (what an `.await` resolves to is an input, `Responses`), the
light-client verification the source leaves commented out.
-/

set_option autoImplicit false

namespace SoloMachine

/-- `TransactionBuilder`: the chain it builds for, the mnemonic it signs with and the memo of
its transactions. The chain service it borrows is the store its segments run against. -/
structure TransactionBuilder where
  chainId : ChainId
  mnemonic : Mnemonic
  memo : String

/-- What the future a suspended call awaits has resolved to when the call is next polled. The
scheduler chooses all of them; a call reads the one its `.await` asks for, for the request it
sent. -/
structure Responses where
  /-- `AuthQueryClient::connect` or `StakingQueryClient::connect`. -/
  connect : Except Error Unit
  /-- `query_client.account(QueryAccountRequest { address }).await?.into_inner().account`, for
  the address asked about. -/
  account : String → Except Error (Option (Any BaseAccount))
  /-- `query_client.params(..).await?.into_inner().params`. -/
  params : Except Error (Option Params)
  /-- `rpc_client.status().await`. -/
  status : Except Error Status
  /-- `rpc_client.block(height).await`, for the block height asked for. -/
  block : Nat → Except Error Block

/-- A factory call with its arguments. -/
inductive Call
  | msgCreateSoloMachineClient
  | msgCreateTendermintClient
  | msgConnectionOpenInit (soloMachineClientId tendermintClientId : ClientId)
  | msgConnectionOpenAck (queryHandler : QueryHandler) (soloMachineConnectionId : ConnectionId)
      (tendermintClientId : ClientId) (tendermintConnectionId : ConnectionId)
  | msgChannelOpenInit (soloMachineConnectionId : ConnectionId)
  | msgChannelOpenAck (queryHandler : QueryHandler)
      (soloMachineChannelId tendermintChannelId : ChannelId)

/-- The future of a factory call: the call before its first poll, the locals live across the
`.await` it is suspended at, or what it returned. -/
inductive Task
  | start (call : Call)
  /-- In `build`, at `AuthQueryClient::connect(..).await`. -/
  | buildConnect (chain : Chain) (txBodyBytes : TxBody)
  /-- In `build`, at `query_client.account(..).await`. -/
  | buildAccount (chain : Chain) (txBodyBytes : TxBody) (accountAddress : String)
  /-- In `get_unbonding_period`, at `StakingQueryClient::connect(..).await`. -/
  | unbondingConnect (chain : Chain) (trustLevel : Option Fraction)
  /-- In `get_unbonding_period`, at `query_client.params(..).await`. -/
  | unbondingParams (chain : Chain) (trustLevel : Option Fraction)
  /-- In `get_latest_height`, at `rpc_client.status().await`. -/
  | latestHeightStatus (chain : Chain) (trustLevel : Option Fraction)
      (unbondingPeriod : Option Duration)
  /-- In `get_header`, at `rpc_client.block(height).await`, with the block height it asked
  for. -/
  | headerBlock (clientState : TendermintClientState) (height : Nat)
  /-- What a factory returning `Result<TxRaw>` returned. -/
  | txDone (result : Except Error TxRaw)
  /-- What `msg_create_tendermint_client` returned. -/
  | clientsDone (result : Except Error (TendermintClientState × TendermintConsensusState))

/-- The end of a call whose segment failed with `error`: `msg_create_tendermint_client`
returns its error in place of a pair, every other factory in place of a `TxRaw`. -/
def Task.fail (error : Error) : Task → Task
  | .start .msgCreateTendermintClient | .unbondingConnect .. | .unbondingParams ..
  | .latestHeightStatus .. | .headerBlock .. | .clientsDone _ => .clientsDone (.error error)
  | _ => .txDone (.error error)

/-- Modelled from the spec: `"..".parse::<ChainId>()`, whose validation is not under src/ and
may fail. -/
def ChainId.parse (text : String) : Fallible ChainId := fallible "ChainId::from_str" ⟨text⟩

/-- Tendermint's `block::Height::try_from(u64)`, which refuses heights above `i64::MAX`. -/
def blockHeightTryFrom (height : Nat) : Fallible Nat :=
  if height < Nat.pow 2 63 then pure height else Action.throw (.failed "BlockHeight::try_from")

/-- Modelled from the spec: `TendermintConsensusState::from_block_header`. -/
def TendermintConsensusState.fromBlockHeader (header : Header) : TendermintConsensusState :=
  ⟨header.time, header.appHash, header.nextValidatorsHash⟩

/-- The canonical ICS-23 specs, `proof_specs()`. -/
def proofSpecs : List ProofSpec := [.iavl, .tendermint]

namespace TransactionBuilder

variable (self : TransactionBuilder)

/-- `self.chain_service.get(&self.chain_id)?.ok_or_else(..)?`, the first step of every
factory. -/
def getChain : Segment Chain := do
  Action.okOr (.msg s!"chain with id {self.chainId} not found") (← ChainService.get self.chainId)

/-! ## `build` -/

/-- `build_tx_body`. -/
def buildTxBody (messages : List Msg) : Fallible TxBody := do
  let messages ← messages.mapM toAny
  pure {
    messages := messages
    memo := self.memo
    timeoutHeight := 0
    extensionOptions := []
    nonCriticalExtensionOptions := [] }

/-- `build_auth_info`. -/
def buildAuthInfo (chain : Chain) (accountSequence : Nat) : Fallible AuthInfo := do
  let signerInfo : SignerInfo := {
    publicKey := some (← toAny (← self.mnemonic.toPublicKey))
    modeInfo := some ⟨some (.single ⟨1⟩)⟩
    sequence := accountSequence }
  let fee : Fee := {
    amount := [⟨chain.fee.denom, toString chain.fee.amount⟩]
    gasLimit := chain.fee.gasLimit
    payer := ""
    granter := "" }
  pure ⟨[signerInfo], some fee⟩

/-- `build_signature`. -/
def buildSignature (bodyBytes : TxBody) (authInfoBytes : AuthInfo) (chainId : String)
    (accountNumber : Nat) : Fallible (Signature SignDoc) := do
  let signDoc : SignDoc := ⟨bodyBytes, authInfoBytes, chainId, accountNumber⟩
  let signDocBytes ← protoEncode signDoc
  pure ⟨← self.mnemonic.toSigningKey, signDocBytes⟩

/-- `build` up to its first `.await`, `AuthQueryClient::connect(..)` in
`get_account_details`. -/
def build (chain : Chain) (messages : List Msg) : Segment Task := do
  let txBody ← Action.context "unable to build transaction body" (self.buildTxBody messages)
  let txBodyBytes ← protoEncode txBody
  pure (.buildConnect chain txBodyBytes)

/-- `get_account_details` once `connect(..)` has resolved, up to `query_client.account(..)`. -/
def buildConnected (connected : Except Error Unit) (chain : Chain) (txBodyBytes : TxBody) :
    Fallible Task := do
  Action.context s!"unable to connect to grpc query client at {chain.grpcAddr}"
    (Action.ofExcept connected)
  let accountAddress ← self.mnemonic.accountAddress chain.accountPrefix
  pure (.buildAccount chain txBodyBytes accountAddress)

/-- The rest of `build` once the account query has resolved. -/
def buildAccountFetched (account : Except Error (Option (Any BaseAccount))) (chain : Chain)
    (txBodyBytes : TxBody) (accountAddress : String) : Fallible Task := do
  let response ← Action.okOr (.msg s!"unable to find account with address: {accountAddress}")
    (← Action.ofExcept account)
  let account ← fallible "BaseAccount::decode" response.value
  let authInfo ← Action.context "unable to build auth info"
    (self.buildAuthInfo chain account.sequence)
  let authInfoBytes ← protoEncode authInfo
  let signature ← Action.context "unable to sign transaction"
    (self.buildSignature txBodyBytes authInfoBytes (toString chain.id) account.accountNumber)
  pure (.txDone (.ok ⟨txBodyBytes, authInfoBytes, [signature]⟩))

/-! ## Factories -/

/-- `msg_create_solo_machine_client` up to its first `.await`. -/
def msgCreateSoloMachineClient : Segment Task := do
  let chain ← self.getChain
  let anyPublicKey ← toAny (← self.mnemonic.toPublicKey)
  let consensusState : SoloMachineConsensusState := {
    publicKey := some anyPublicKey
    diversifier := chain.diversifier
    timestamp := chain.consensusTimestamp }
  let anyConsensusState ← toAny consensusState
  let clientState : SoloMachineClientState := {
    sequence := chain.sequence
    frozenSequence := 0
    consensusState := some consensusState
    allowUpdateAfterProposal := true }
  let anyClientState ← toAny clientState
  let message : MsgCreateClient := {
    clientState := some anyClientState
    consensusState := some anyConsensusState
    signer := ← self.mnemonic.accountAddress chain.accountPrefix }
  self.build chain [.createClient message]

/-- `msg_create_tendermint_client` up to its first `.await`, in `get_unbonding_period`. -/
def msgCreateTendermintClient : Segment Task := do
  let chain ← self.getChain
  let trustLevel : Option Fraction := some ⟨chain.trustLevel.numer, chain.trustLevel.denom⟩
  pure (.unbondingConnect chain trustLevel)

/-- `get_unbonding_period` once `connect(..)` has resolved, up to `query_client.params(..)`. -/
def unbondingConnected (connected : Except Error Unit) (chain : Chain)
    (trustLevel : Option Fraction) : Fallible Task := do
  Action.context s!"unable to connect to grpc query client at {chain.grpcAddr}"
    (Action.ofExcept connected)
  pure (.unbondingParams chain trustLevel)

/-- The rest of `get_unbonding_period` once the staking params have resolved, up to
`rpc_client.status()` in `get_latest_height`. -/
def unbondingParamsFetched (params : Except Error (Option Params)) (chain : Chain)
    (trustLevel : Option Fraction) : Fallible Task := do
  let params ← Action.okOr (.msg "staking params are empty") (← Action.ofExcept params)
  let unbondingPeriod ← Action.okOr (.msg "missing unbonding period in staking params")
    params.unbondingTime
  pure (.latestHeightStatus chain trustLevel (some unbondingPeriod))

/-- The rest of `get_latest_height` once the status has resolved, the client state, and
`get_header` up to `rpc_client.block(..)`. -/
def latestHeightFetched (status : Except Error Status) (chain : Chain)
    (trustLevel : Option Fraction) (unbondingPeriod : Option Duration) : Fallible Task := do
  let response ← Action.ofExcept status
  if response.syncInfo.catchingUp then
    Action.throw (.msg s!"node at {chain.rpcAddr} running chain {chain.id} not caught up")
  let revisionNumber := (← ChainId.parse response.nodeInfo.network).version
  let revisionHeight := response.syncInfo.latestBlockHeight
  let latestHeight : Height := ⟨revisionNumber, revisionHeight⟩
  let clientState : TendermintClientState := {
    chainId := toString chain.id
    trustLevel := trustLevel
    trustingPeriod := some chain.trustingPeriod
    unbondingPeriod := unbondingPeriod
    maxClockDrift := some chain.maxClockDrift
    frozenHeight := some Height.zero
    latestHeight := some latestHeight
    proofSpecs := proofSpecs
    upgradePath := ["upgrade", "upgradedIBCState"]
    allowUpdateAfterExpiry := false
    allowUpdateAfterMisbehaviour := false }
  let height ← blockHeightTryFrom latestHeight.revisionHeight
  pure (.headerBlock clientState height)

/-- The rest of `msg_create_tendermint_client` once the block has resolved. -/
def headerFetched (block : Except Error Block) (clientState : TendermintClientState) :
    Fallible Task := do
  let response ← Action.ofExcept block
  let consensusState := TendermintConsensusState.fromBlockHeader response.header
  pure (.clientsDone (.ok (clientState, consensusState)))

/-- `msg_connection_open_init` up to its first `.await`, in `build`. -/
def msgConnectionOpenInit (soloMachineClientId tendermintClientId : ClientId) :
    Segment Task := do
  let chain ← self.getChain
  let message : MsgConnectionOpenInit := {
    clientId := toString soloMachineClientId
    counterparty := some ⟨toString tendermintClientId, "", some ⟨"ibc"⟩⟩
    version := some ⟨"1", ["ORDER_ORDERED", "ORDER_UNORDERED"]⟩
    delayPeriod := 0
    signer := ← self.mnemonic.accountAddress chain.accountPrefix }
  self.build chain [.connectionOpenInit message]

/-- `msg_connection_open_ack` up to its first `increment_sequence`: the chain lookup, the
client-state lookup and `proof_try`, signed at the sequence of the record read. -/
def connectionOpenAckProofTry (queryHandler : QueryHandler) (tendermintClientId : ClientId)
    (tendermintConnectionId : ConnectionId) :
    Segment (TendermintClientState × TimestampedSignatureData) := do
  let chain ← self.getChain
  let tendermintClientState ← Action.okOr
    (.msg s!"client for client id {tendermintClientId} not found")
    (← queryHandler.getClientState tendermintClientId)
  let proofTry ← getConnectionProof chain queryHandler self.mnemonic tendermintConnectionId
  pure (tendermintClientState, proofTry)

/-- `msg_connection_open_ack` up to its first `.await`, in `build`: three proofs, each at the
sequence of the record in hand, each followed by an increment that returns the next record. -/
def msgConnectionOpenAck (queryHandler : QueryHandler) (soloMachineConnectionId : ConnectionId)
    (tendermintClientId : ClientId) (tendermintConnectionId : ConnectionId) : Segment Task := do
  let (tendermintClientState, proofTry) ←
    self.connectionOpenAckProofTry queryHandler tendermintClientId tendermintConnectionId
  let chain ← ChainService.incrementSequence self.chainId
  let proofClient ← getClientProof chain queryHandler self.mnemonic tendermintClientId
  let chain ← ChainService.incrementSequence self.chainId
  let proofConsensus ← getConsensusProof chain queryHandler self.mnemonic tendermintClientId
  let chain ← ChainService.incrementSequence self.chainId
  let message : MsgConnectionOpenAck := {
    connectionId := toString soloMachineConnectionId
    counterpartyConnectionId := toString tendermintConnectionId
    version := some ⟨"1", ["ORDER_ORDERED", "ORDER_UNORDERED"]⟩
    clientState := some (← toAny tendermintClientState)
    proofHeight := some (Height.new 0 chain.sequence)
    proofTry := proofTry
    proofClient := proofClient
    proofConsensus := proofConsensus
    consensusHeight := tendermintClientState.latestHeight
    signer := ← self.mnemonic.accountAddress chain.accountPrefix }
  self.build chain [.connectionOpenAck message]

/-- `msg_channel_open_init` up to its first `.await`, in `build`. -/
def msgChannelOpenInit (soloMachineConnectionId : ConnectionId) : Segment Task := do
  let chain ← self.getChain
  let message : MsgChannelOpenInit := {
    portId := toString chain.portId
    channel := some {
      state := .init
      ordering := .unordered
      counterparty := some ⟨toString chain.portId, ""⟩
      connectionHops := [toString soloMachineConnectionId]
      version := "ics20-1" }
    signer := ← self.mnemonic.accountAddress chain.accountPrefix }
  self.build chain [.channelOpenInit message]

/-- `msg_channel_open_ack` up to its `increment_sequence`: the chain lookup and `proof_try`,
signed at the sequence of the record read, over the channel end under that record's port. -/
def channelOpenAckProofTry (queryHandler : QueryHandler) (tendermintChannelId : ChannelId) :
    Segment TimestampedSignatureData := do
  let chain ← self.getChain
  let proofTry ← getChannelProof chain queryHandler self.mnemonic chain.portId tendermintChannelId
  pure proofTry

/-- `msg_channel_open_ack` up to its first `.await`, in `build`: one proof at the sequence of
the record in hand, then an increment that returns the next record. -/
def msgChannelOpenAck (queryHandler : QueryHandler)
    (soloMachineChannelId tendermintChannelId : ChannelId) : Segment Task := do
  let proofTry ← self.channelOpenAckProofTry queryHandler tendermintChannelId
  let chain ← ChainService.incrementSequence self.chainId
  let message : MsgChannelOpenAck := {
    portId := toString chain.portId
    channelId := toString soloMachineChannelId
    counterpartyChannelId := toString tendermintChannelId
    counterpartyVersion := "ics20-1"
    proofHeight := some (Height.new 0 chain.sequence)
    proofTry := proofTry
    signer := ← self.mnemonic.accountAddress chain.accountPrefix }
  self.build chain [.channelOpenAck message]

/-! ## Polling -/

/-- The first poll of a call: its factory up to its first `.await`. -/
def start : Call → Segment Task
  | .msgCreateSoloMachineClient => self.msgCreateSoloMachineClient
  | .msgCreateTendermintClient => self.msgCreateTendermintClient
  | .msgConnectionOpenInit soloMachineClientId tendermintClientId =>
    self.msgConnectionOpenInit soloMachineClientId tendermintClientId
  | .msgConnectionOpenAck queryHandler soloMachineConnectionId tendermintClientId
      tendermintConnectionId =>
    self.msgConnectionOpenAck queryHandler soloMachineConnectionId tendermintClientId
      tendermintConnectionId
  | .msgChannelOpenInit soloMachineConnectionId => self.msgChannelOpenInit soloMachineConnectionId
  | .msgChannelOpenAck queryHandler soloMachineChannelId tendermintChannelId =>
    self.msgChannelOpenAck queryHandler soloMachineChannelId tendermintChannelId

/-- A task from the `.await` it is suspended at to its next one, given what that `.await`
resolved to. A finished task stays as it is. -/
def resume (responses : Responses) : Task → Segment Task
  | .start call => self.start call
  | .buildConnect chain txBodyBytes =>
    monadLift (self.buildConnected responses.connect chain txBodyBytes)
  | .buildAccount chain txBodyBytes accountAddress =>
    monadLift (self.buildAccountFetched (responses.account accountAddress) chain txBodyBytes
      accountAddress)
  | .unbondingConnect chain trustLevel =>
    monadLift (unbondingConnected responses.connect chain trustLevel)
  | .unbondingParams chain trustLevel =>
    monadLift (unbondingParamsFetched responses.params chain trustLevel)
  | .latestHeightStatus chain trustLevel unbondingPeriod =>
    monadLift (latestHeightFetched responses.status chain trustLevel unbondingPeriod)
  | .headerBlock clientState height =>
    monadLift (headerFetched (responses.block height) clientState)
  | .txDone result => pure (.txDone result)
  | .clientsDone result => pure (.clientsDone result)

/-- Polls a task once: its next segment runs against the store, with `faults` deciding its
fallible steps. A segment that fails ends the call with its error, keeping what it wrote. -/
def poll (responses : Responses) (faults : List Bool) (task : Task) (chains : ChainStore) :
    Task × ChainStore :=
  match self.resume responses task ⟨chains, faults⟩ with
  | (.ok next, world) => (next, world.chains)
  | (.error error, world) => (task.fail error, world.chains)

/-- Runs a call with no other call between its segments: each entry of `polls` is what one
`.await` resolved to and the fault schedule of the segment after it. -/
def run : List (Responses × List Bool) → Task → ChainStore → Task × ChainStore
  | [], task, chains => (task, chains)
  | (responses, faults) :: polls, task, chains =>
    match self.poll responses faults task chains with
    | (task, chains) => run polls task chains

end TransactionBuilder

end SoloMachine
