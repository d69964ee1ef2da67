import SoloMachine.Scheduler

/-!
Contract: what the transactions a builder returns attest and who signed them.

Owns:
- `TimestampedSignatureData.Attests`, a proof's data type and state data, and
  `OpenAckAttestation`: when `msg_connection_open_ack` or `msg_channel_open_ack` returns a
  transaction, each proof in it attests, at the path the message names, the object the query
  handler stores there, and the client state and consensus height the message asserts are
  those its proofs attest;
- `returned_proofs_carry_chain_envelope`: every proof of a returned transaction is the
  builder's signature over `SignBytes` carrying the chain's consensus timestamp and
  diversifier, stamped with that timestamp;
- `returned_tx_signs_its_own_bytes`: the one signature of a returned transaction is the
  builder's over the `SignDoc` of exactly that transaction's body and auth info, for the account
  the node returned, on the call's third poll, for the signer's own address;
- `returned_body_holds_one_call_message`: that body is the one `build_tx_body` made from the
  one message the call built, of the call's message type.

The client state is read three times by `msg_connection_open_ack` (for the message, for
`proof_client` and for `proof_consensus`) and the ids of the message and of the proofs come
from different arguments; these results say the reads and the paths agree.

Does not own: the sequences the proofs were signed at (`SoloMachine.Sequence`).
-/

set_option autoImplicit false

namespace SoloMachine

/-- A proof attests `data` of type `dataType`: the `SignBytes` it signs carry both. -/
def TimestampedSignatureData.Attests (proof : TimestampedSignatureData) (dataType : DataType)
    (data : StateData) : Prop :=
  proof.signBytes?.map (fun signBytes => (signBytes.dataType, signBytes.data)) =
    some (dataType, data)

instance (proof : TimestampedSignatureData) (dataType : DataType) (data : StateData) :
    Decidable (proof.Attests dataType data) :=
  inferInstanceAs (Decidable (_ = _))

namespace TransactionBuilder

/-- What the proofs of the acknowledgements a builder returns attest, for a query handler
`queryHandler` and a store `chains`. -/
structure OpenAckAttestation (self : TransactionBuilder) (queryHandler : QueryHandler)
    (chains : ChainStore) : Prop where
  /-- `proof_try` attests the connection end stored under the message's counterparty
  connection id; `proof_client` attests the message's client state, which is the one stored
  under the Tendermint client id; `proof_consensus` attests the consensus state stored at the
  message's consensus height, which is that client state's latest height. -/
  connectionOpenAck : ∀ soloMachineConnectionId tendermintClientId tendermintConnectionId polls
      txRaw chains',
    self.run polls (.start (.msgConnectionOpenAck queryHandler soloMachineConnectionId
      tendermintClientId tendermintConnectionId)) chains = (.txDone (.ok txRaw), chains') →
    ∃ message clientState connection height consensusState,
      txRaw.bodyBytes.messages = [Any.pack (.connectionOpenAck message)] ∧
      queryHandler.connections ⟨message.counterpartyConnectionId⟩ = some connection ∧
      message.proofTry.Attests .connectionState (.connectionState
        ⟨((ConnectionPath.new ⟨message.counterpartyConnectionId⟩).applyPrefix "ibc").intoBytes,
          some connection⟩) ∧
      queryHandler.clientStates tendermintClientId = some clientState ∧
      message.clientState = some (Any.pack clientState) ∧
      message.proofClient.Attests .clientState (.clientState
        ⟨((ClientStatePath.new tendermintClientId).applyPrefix "ibc").intoBytes,
          message.clientState⟩) ∧
      message.consensusHeight = some height ∧ clientState.latestHeight = some height ∧
      queryHandler.consensusStates tendermintClientId height = some consensusState ∧
      message.proofConsensus.Attests .consensusState (.consensusState
        ⟨((ConsensusStatePath.new tendermintClientId height).applyPrefix "ibc").intoBytes,
          some (Any.pack consensusState)⟩)
  /-- `proof_try` attests the channel end stored under the message's port id and counterparty
  channel id, and that port id is the one of the builder's chain. -/
  channelOpenAck : ∀ soloMachineChannelId tendermintChannelId polls txRaw chains',
    self.run polls (.start (.msgChannelOpenAck queryHandler soloMachineChannelId
      tendermintChannelId)) chains = (.txDone (.ok txRaw), chains') →
    ∃ message chain channel, chains self.chainId = some chain ∧
      txRaw.bodyBytes.messages = [Any.pack (.channelOpenAck message)] ∧
      message.portId = toString chain.portId ∧
      queryHandler.channels ⟨message.portId⟩ ⟨message.counterpartyChannelId⟩ = some channel ∧
      message.proofTry.Attests .channelState (.channelState
        ⟨((ChannelPath.new ⟨message.portId⟩ ⟨message.counterpartyChannelId⟩).applyPrefix
          "ibc").intoBytes, some channel⟩)

/-- The proofs of every acknowledgement a builder returns attest what its message asserts, for
every query handler and every store. -/
theorem open_ack_proofs_attest_message (self : TransactionBuilder) (queryHandler : QueryHandler)
    (chains : ChainStore) : OpenAckAttestation self queryHandler chains where
  connectionOpenAck soloMachineConnectionId tendermintClientId tendermintConnectionId _ _ _ ran := by
    obtain ⟨chain, clientState, connection, height, consensusState, -, foundClient,
      foundConnection, latest, foundConsensus, body, -⟩ := run_msgConnectionOpenAck_eq_txDone ran
    exact ⟨self.connectionOpenAckMessage soloMachineConnectionId tendermintClientId
      tendermintConnectionId chain clientState connection height consensusState, clientState,
      connection, height, consensusState, by rw [body]; rfl, foundConnection, rfl, foundClient,
      rfl, rfl, rfl, latest, foundConsensus, rfl⟩
  channelOpenAck soloMachineChannelId tendermintChannelId _ _ _ ran := by
    obtain ⟨chain, channel, stored, foundChannel, body, -⟩ := run_msgChannelOpenAck_eq_txDone ran
    exact ⟨self.channelOpenAckMessage soloMachineChannelId tendermintChannelId chain channel,
      chain, channel, stored, by rw [body]; rfl, rfl, foundChannel, rfl⟩

end TransactionBuilder

/-- The scenario's two acknowledgements, each run alone to `Ok`: their proofs attest the
connection end, client state and consensus state of `07-tendermint-0`, and the channel end
`channel-0` of port `transfer`. -/
theorem scenario_open_acks_attest_messages :
    (∃ txRaw chains', scenarioConnectionOpenAckRun = (.txDone (.ok txRaw), chains') ∧
      ∃ message clientState connection height consensusState,
        txRaw.bodyBytes.messages = [Any.pack (.connectionOpenAck message)] ∧
        scenarioQueryHandler.connections ⟨message.counterpartyConnectionId⟩ = some connection ∧
        message.proofTry.Attests .connectionState (.connectionState
          ⟨((ConnectionPath.new ⟨message.counterpartyConnectionId⟩).applyPrefix "ibc").intoBytes,
            some connection⟩) ∧
        scenarioQueryHandler.clientStates ⟨"07-tendermint-0"⟩ = some clientState ∧
        message.clientState = some (Any.pack clientState) ∧
        message.proofClient.Attests .clientState (.clientState
          ⟨((ClientStatePath.new ⟨"07-tendermint-0"⟩).applyPrefix "ibc").intoBytes,
            message.clientState⟩) ∧
        message.consensusHeight = some height ∧ clientState.latestHeight = some height ∧
        scenarioQueryHandler.consensusStates ⟨"07-tendermint-0"⟩ height = some consensusState ∧
        message.proofConsensus.Attests .consensusState (.consensusState
          ⟨((ConsensusStatePath.new ⟨"07-tendermint-0"⟩ height).applyPrefix "ibc").intoBytes,
            some (Any.pack consensusState)⟩)) ∧
    (∃ txRaw chains', scenarioChannelOpenAckRun = (.txDone (.ok txRaw), chains') ∧
      ∃ message chain channel, scenarioChains scenarioBuilder.chainId = some chain ∧
        txRaw.bodyBytes.messages = [Any.pack (.channelOpenAck message)] ∧
        message.portId = toString chain.portId ∧
        scenarioQueryHandler.channels ⟨message.portId⟩ ⟨message.counterpartyChannelId⟩ =
          some channel ∧
        message.proofTry.Attests .channelState (.channelState
          ⟨((ChannelPath.new ⟨message.portId⟩ ⟨message.counterpartyChannelId⟩).applyPrefix
            "ibc").intoBytes, some channel⟩)) := by
  obtain ⟨connectionAttested, channelAttested⟩ :=
    TransactionBuilder.open_ack_proofs_attest_message scenarioBuilder scenarioQueryHandler
      scenarioChains
  obtain ⟨ackTx, ackChains, ack⟩ : ∃ txRaw chains',
      scenarioConnectionOpenAckRun = (.txDone (.ok txRaw), chains') := ⟨_, _, rfl⟩
  obtain ⟨channelTx, channelChains, channel⟩ : ∃ txRaw chains',
      scenarioChannelOpenAckRun = (.txDone (.ok txRaw), chains') := ⟨_, _, rfl⟩
  exact ⟨⟨ackTx, ackChains, ack, connectionAttested _ _ _ _ _ _ ack⟩,
    ⟨channelTx, channelChains, channel, channelAttested _ _ _ _ _ channel⟩⟩

/-! ## The envelope of the proofs -/

namespace TransactionBuilder

variable {self : TransactionBuilder} {call : Call} {polls : List (Responses × List Bool)}
  {chains chains' : ChainStore} {txRaw : TxRaw}

/-- Every proof of a transaction a factory call returns is the builder's signature, stamped
with the consensus timestamp of the builder's chain, over `SignBytes` carrying that timestamp
and the chain's diversifier. -/
theorem returned_proofs_carry_chain_envelope
    (ran : self.run polls (.start call) chains = (.txDone (.ok txRaw), chains')) :
    ∃ chain, chains self.chainId = some chain ∧ ∀ proof ∈ txRaw.bodyBytes.proofs,
      ∃ signBytes, proof = signedProof self.mnemonic chain signBytes ∧
        signBytes.timestamp = chain.consensusTimestamp ∧
        signBytes.diversifier = chain.diversifier := by
  cases call with
  | msgConnectionOpenAck =>
    obtain ⟨chain, _, _, _, _, stored, -, -, -, -, body, -⟩ :=
      run_msgConnectionOpenAck_eq_txDone ran
    refine ⟨chain, stored, fun proof member => ?_⟩
    simp only [body, txBody_proofs, List.flatMap_cons, List.flatMap_nil, Msg.proofs,
      List.append_nil, List.mem_cons, List.not_mem_nil, or_false] at member
    rcases member with rfl | rfl | rfl <;> exact ⟨_, rfl, rfl, rfl⟩
  | msgChannelOpenAck =>
    obtain ⟨chain, _, stored, -, body, -⟩ := run_msgChannelOpenAck_eq_txDone ran
    refine ⟨chain, stored, fun proof member => ?_⟩
    simp only [body, txBody_proofs, List.flatMap_cons, List.flatMap_nil, Msg.proofs,
      List.append_nil, List.mem_singleton] at member
    exact ⟨_, member, rfl, rfl⟩
  | _ =>
    obtain ⟨_, _, task, _, started, -, body, -⟩ := run_start_eq_txDone ran
    obtain ⟨chain, stored, -, unsigned, -⟩ := self.start_eq_ok started
    refine ⟨chain, stored, fun proof member => ?_⟩
    have held : proof.sequence? ∈ task.sequences := by
      simp only [Task.sequences, Task.proofs, body, Option.map_some', Option.getD_some]
      exact List.mem_map_of_mem _ member
    rw [unsigned] at held
    cases held

end TransactionBuilder

theorem scenario_returned_proofs_carry_chain_envelope :
    ∃ txRaw chains', scenarioConnectionOpenAckRun = (.txDone (.ok txRaw), chains') ∧
      txRaw.bodyBytes.proofs.length = 3 ∧
      ∃ chain, scenarioChains scenarioBuilder.chainId = some chain ∧
        ∀ proof ∈ txRaw.bodyBytes.proofs, ∃ signBytes,
          proof = signedProof scenarioBuilder.mnemonic chain signBytes ∧
          signBytes.timestamp = chain.consensusTimestamp ∧
          signBytes.diversifier = chain.diversifier := by
  obtain ⟨txRaw, chains', ran⟩ : ∃ txRaw chains',
      scenarioConnectionOpenAckRun = (.txDone (.ok txRaw), chains') := ⟨_, _, rfl⟩
  exact ⟨txRaw, chains', ran, by cases ran; rfl,
    TransactionBuilder.returned_proofs_carry_chain_envelope ran⟩

/-! ## The signature of the transaction -/

namespace TransactionBuilder

variable {self : TransactionBuilder} {call : Call} {polls : List (Responses × List Bool)}
  {chains chains' : ChainStore} {txRaw : TxRaw}

/-- The one signature of a transaction a factory call returns is the builder's, over the
`SignDoc` of exactly that transaction's body bytes and auth-info bytes, the id of the
builder's chain and the number of the account the node returned, on the call's third poll,
for the address of the builder's own key; the auth info names the builder's public key, that
account's sequence and the chain's fee. -/
theorem returned_tx_signs_its_own_bytes
    (ran : self.run polls (.start call) chains = (.txDone (.ok txRaw), chains')) :
    ∃ chain responses faults, ∃ account : Any BaseAccount, chains self.chainId = some chain ∧
      polls[2]? = some (responses, faults) ∧
      responses.account (self.mnemonic.address chain.accountPrefix) = .ok (some account) ∧
      txRaw.authInfoBytes = self.authInfo chain account.value.sequence ∧
      txRaw.signatures = [⟨self.mnemonic.signingKey, ⟨txRaw.bodyBytes, txRaw.authInfoBytes,
        toString chain.id, account.value.accountNumber⟩⟩] := by
  obtain ⟨_, _, _, _, _, rfl, started, ran⟩ := self.run_of_isOk (by rfl) ran rfl
  obtain ⟨chain, stored, -, -, ⟨_, -, rfl⟩ | ⟨_, rfl⟩⟩ := self.start_eq_ok started
  · obtain ⟨_, _, _, _, _, rfl, connected, ran⟩ := self.run_of_isOk (by rfl) ran rfl
    obtain rfl := buildConnected_eq_ok (lift_eq_ok connected).1
    obtain ⟨responses, faults, _, _, _, rfl, fetched, ran⟩ := self.run_of_isOk (by rfl) ran rfl
    obtain ⟨account, found, rfl⟩ := buildAccountFetched_eq_ok (lift_eq_ok fetched).1
    rw [run_of_isDone (by rfl)] at ran
    cases ran
    exact ⟨chain, responses, faults, account, stored, by simp, found, rfl, rfl⟩
  · cases self.run_body? _ (by rfl) _ (congrArg (·.1.body?) ran)

/-- A transaction a factory call returns carries the body `build_tx_body` made, not rebuilt:
exactly one message, of the type that call builds, packed under that type's URL, with the
builder's memo, timeout height 0 and no extension options. -/
theorem returned_body_holds_one_call_message
    (ran : self.run polls (.start call) chains = (.txDone (.ok txRaw), chains')) :
    ∃ message, call.buildsMessage message ∧ txRaw.bodyBytes = self.txBody [message] := by
  obtain ⟨_, _, _, _, started, -, body, -⟩ := run_start_eq_txDone ran
  obtain ⟨_, -, -, -, ⟨message, builds, rfl⟩ | ⟨_, rfl⟩⟩ := self.start_eq_ok started
  · exact ⟨message, builds, (Option.some.inj body).symm⟩
  · cases body

end TransactionBuilder

theorem scenario_returned_tx_signs_its_own_bytes :
    ∃ txRaw chains', scenarioConnectionOpenAckRun = (.txDone (.ok txRaw), chains') ∧
      ∃ chain responses, ∃ faults : List Bool, ∃ account : Any BaseAccount,
        scenarioChains scenarioBuilder.chainId = some chain ∧
        (List.replicate 3 (scenarioResponses, []))[2]? = some (responses, faults) ∧
        responses.account (scenarioBuilder.mnemonic.address chain.accountPrefix) =
          .ok (some account) ∧
        txRaw.authInfoBytes = scenarioBuilder.authInfo chain account.value.sequence ∧
        txRaw.signatures = [⟨scenarioBuilder.mnemonic.signingKey, ⟨txRaw.bodyBytes,
          txRaw.authInfoBytes, toString chain.id, account.value.accountNumber⟩⟩] := by
  obtain ⟨txRaw, chains', ran⟩ : ∃ txRaw chains',
      scenarioConnectionOpenAckRun = (.txDone (.ok txRaw), chains') := ⟨_, _, rfl⟩
  exact ⟨txRaw, chains', ran, TransactionBuilder.returned_tx_signs_its_own_bytes ran⟩

theorem scenario_returned_body_holds_one_call_message :
    ∃ txRaw chains', scenarioConnectionOpenAckRun = (.txDone (.ok txRaw), chains') ∧
      ∃ message, Call.buildsMessage (.msgConnectionOpenAck scenarioQueryHandler ⟨"connection-0"⟩
          ⟨"07-tendermint-0"⟩ ⟨"connection-0"⟩) message ∧
        txRaw.bodyBytes = scenarioBuilder.txBody [message] := by
  obtain ⟨txRaw, chains', ran⟩ : ∃ txRaw chains',
      scenarioConnectionOpenAckRun = (.txDone (.ok txRaw), chains') := ⟨_, _, rfl⟩
  exact ⟨txRaw, chains', ran, TransactionBuilder.returned_body_holds_one_call_message ran⟩

end SoloMachine
