import SoloMachine.Poll

/-!
Contract: the sequence accounting of each factory call run alone: which sequences its proofs
carry, what its outer `proof_height` says, and where it leaves the stored sequence, on success
and on failure.

Owns: `SequenceAccounting`, one field per factory and outcome, and
`factory_sequence_accounting`, which proves it for every builder and every store holding the
builder's chain. A failure before the first increment (the chain lookup, the client-state
lookup of `msg_connection_open_ack`, `proof_try`) is stated with that part of each
acknowledgement, `connectionOpenAckProofTry` and `channelOpenAckProofTry`: whatever fails there
fails the call and leaves the store as it was. `run_of_isOk` reads a run that returns `Ok` one
poll at a time: each of its segments succeeded. `msgConnectionOpenAck_returns` says when the
acknowledgement does return, composed from the success lemmas of its steps.

Does not own: calls that interleave (`SoloMachine.Scheduler`); what the proofs attest
(`SoloMachine.Attestation`).
-/

set_option autoImplicit false

namespace SoloMachine

namespace TransactionBuilder

variable {self : TransactionBuilder} {polls : List (Responses × List Bool)}
  {chains : ChainStore}

/-- A finished call stays finished and writes nothing. -/
theorem run_of_isDone {task : Task} (done : task.isDone = true) :
    self.run polls task chains = (task, chains) := by
  have stays (responses : Responses) (faults : List Bool) :
      self.resume responses task ⟨chains, faults⟩ = (.ok task, ⟨chains, faults⟩) := by
    cases task <;> first | rfl | cases done
  induction polls with
  | nil => rfl
  | cons entry polls inductionHypothesis =>
    obtain ⟨responses, faults⟩ := entry
    rw [run_cons, self.poll_of_ok responses faults task chains (stays responses faults)]
    exact inductionHypothesis

/-- A call ended by a failed segment stays ended and writes nothing. -/
theorem run_fail (error : Error) (task : Task) :
    self.run polls (task.fail error) chains = (task.fail error, chains) :=
  run_of_isDone (Task.fail_isDone error task)

/-- A run from a call that has not returned, which returns `Ok`, went through its first poll:
that poll's segment succeeded, and the rest of the run went on from where it left the call. -/
theorem run_of_isOk {task final : Task} {chains' : ChainStore} (pending : task.isDone = false)
    (ran : self.run polls task chains = (final, chains')) (succeeded : final.isOk = true) :
    ∃ responses faults rest next world, polls = (responses, faults) :: rest ∧
      self.resume responses task ⟨chains, faults⟩ = (.ok next, world) ∧
      self.run rest next world.chains = (final, chains') := by
  cases polls with
  | nil =>
    cases ran
    rw [Task.isDone_of_isOk succeeded] at pending
    cases pending
  | cons entry rest =>
    obtain ⟨responses, faults⟩ := entry
    rw [run_cons] at ran
    rcases resumed : self.resume responses task ⟨chains, faults⟩ with ⟨_ | next, world⟩
    · rw [self.poll_of_error responses faults task chains resumed, run_fail] at ran
      cases ran
      rw [Task.fail_isOk] at succeeded
      cases succeeded
    · rw [self.poll_of_ok responses faults task chains resumed] at ran
      exact ⟨responses, faults, rest, next, world, rfl, resumed, ran⟩

/-- A call that failed ended with at most its increments made. -/
theorem run_start_eq_error {call : Call} {error : Error} {chains' : ChainStore}
    (ran : self.run polls (.start call) chains = (.txDone (.error error), chains')) :
    ∃ count ≤ call.increments, chains' = chains.bump self.chainId count := by
  obtain ⟨count, le, frame⟩ := self.run_bumps polls (.start call) chains
  rw [ran] at frame
  exact ⟨count, le, frame⟩

variable {responses : Responses} {faults : List Bool} {error : Error} {world : World}

/-- `msg_connection_open_ack` failing before its first increment, in its chain lookup, its
client-state lookup or `proof_try`: the call returns that error and the store is as it was. -/
theorem run_msgConnectionOpenAck_early_error {queryHandler : QueryHandler}
    {soloMachineConnectionId : ConnectionId} {tendermintClientId : ClientId}
    {tendermintConnectionId : ConnectionId}
    (failed : self.connectionOpenAckProofTry queryHandler tendermintClientId tendermintConnectionId
      ⟨chains, faults⟩ = (.error error, world)) :
    self.run ((responses, faults) :: polls) (.start (.msgConnectionOpenAck queryHandler
      soloMachineConnectionId tendermintClientId tendermintConnectionId)) chains =
      (.txDone (.error error), chains) := by
  have unchanged : world.chains = chains :=
    Bumps.chains_eq (self.bumps_connectionOpenAckProofTry self.chainId _ _ _) failed
  have segmentFailed : self.msgConnectionOpenAck queryHandler soloMachineConnectionId
      tendermintClientId tendermintConnectionId ⟨chains, faults⟩ = (.error error, world) :=
    Action.bind_error failed
  rw [run_cons, self.poll_of_error responses faults (.start (.msgConnectionOpenAck queryHandler
    soloMachineConnectionId tendermintClientId tendermintConnectionId)) chains segmentFailed,
    unchanged, run_fail]
  rfl

/-- `msg_channel_open_ack` failing before its increment, in its chain lookup or `proof_try`:
the call returns that error and the store is as it was. -/
theorem run_msgChannelOpenAck_early_error {queryHandler : QueryHandler}
    {soloMachineChannelId tendermintChannelId : ChannelId}
    (failed : self.channelOpenAckProofTry queryHandler tendermintChannelId ⟨chains, faults⟩ =
      (.error error, world)) :
    self.run ((responses, faults) :: polls) (.start (.msgChannelOpenAck queryHandler
      soloMachineChannelId tendermintChannelId)) chains = (.txDone (.error error), chains) := by
  have unchanged : world.chains = chains :=
    Bumps.chains_eq (self.bumps_channelOpenAckProofTry self.chainId _ _) failed
  have segmentFailed : self.msgChannelOpenAck queryHandler soloMachineChannelId
      tendermintChannelId ⟨chains, faults⟩ = (.error error, world) :=
    Action.bind_error failed
  rw [run_cons, self.poll_of_error responses faults (.start (.msgChannelOpenAck queryHandler
    soloMachineChannelId tendermintChannelId)) chains segmentFailed, unchanged, run_fail]
  rfl

/-- What every factory call run alone does to the sequence of the builder's chain, from a
store `chains` holding that chain as `chain`, whose sequence is `s`. -/
structure SequenceAccounting (self : TransactionBuilder) (chains : ChainStore) (chain : Chain) :
    Prop where
  /-- `msg_connection_open_ack` returning `Ok`: its proofs were signed at `s`, `s + 1` and
  `s + 2`, its `proof_height` is `{0, s + 3}`, and the store is three increments on. -/
  connectionOpenAckOk : ∀ queryHandler soloMachineConnectionId tendermintClientId
      tendermintConnectionId polls txRaw chains',
    self.run polls (.start (.msgConnectionOpenAck queryHandler soloMachineConnectionId
      tendermintClientId tendermintConnectionId)) chains = (.txDone (.ok txRaw), chains') →
    ∃ message, txRaw.bodyBytes.messages = [Any.pack (.connectionOpenAck message)] ∧
      message.proofTry.sequence? = some chain.sequence ∧
      message.proofClient.sequence? = some (chain.sequence + 1) ∧
      message.proofConsensus.sequence? = some (chain.sequence + 2) ∧
      message.proofHeight = some ⟨0, chain.sequence + 3⟩ ∧
      chains' = chains.bump self.chainId 3
  /-- `msg_channel_open_ack` returning `Ok`: its proof was signed at `s`, its `proof_height` is
  `{0, s + 1}`, and the store is one increment on. -/
  channelOpenAckOk : ∀ queryHandler soloMachineChannelId tendermintChannelId polls txRaw chains',
    self.run polls (.start (.msgChannelOpenAck queryHandler soloMachineChannelId
      tendermintChannelId)) chains = (.txDone (.ok txRaw), chains') →
    ∃ message, txRaw.bodyBytes.messages = [Any.pack (.channelOpenAck message)] ∧
      message.proofTry.sequence? = some chain.sequence ∧
      message.proofHeight = some ⟨0, chain.sequence + 1⟩ ∧
      chains' = chains.bump self.chainId 1
  /-- `msg_connection_open_ack` returning `Err`: at most three increments were made. -/
  connectionOpenAckError : ∀ queryHandler soloMachineConnectionId tendermintClientId
      tendermintConnectionId polls error chains',
    self.run polls (.start (.msgConnectionOpenAck queryHandler soloMachineConnectionId
      tendermintClientId tendermintConnectionId)) chains = (.txDone (.error error), chains') →
    ∃ count ≤ 3, chains' = chains.bump self.chainId count
  /-- `msg_channel_open_ack` returning `Err`: at most one increment was made. -/
  channelOpenAckError : ∀ queryHandler soloMachineChannelId tendermintChannelId polls error
      chains',
    self.run polls (.start (.msgChannelOpenAck queryHandler soloMachineChannelId
      tendermintChannelId)) chains = (.txDone (.error error), chains') →
    ∃ count ≤ 1, chains' = chains.bump self.chainId count
  /-- `msg_connection_open_ack` failing before its first increment (the chain lookup, the
  client-state lookup, `proof_try`): it returns that error and the store is as it was. -/
  connectionOpenAckEarlyError : ∀ queryHandler soloMachineConnectionId tendermintClientId
      tendermintConnectionId responses faults polls error (world : World),
    self.connectionOpenAckProofTry queryHandler tendermintClientId tendermintConnectionId
      ⟨chains, faults⟩ = (.error error, world) →
    self.run ((responses, faults) :: polls) (.start (.msgConnectionOpenAck queryHandler
      soloMachineConnectionId tendermintClientId tendermintConnectionId)) chains =
      (.txDone (.error error), chains)
  /-- `msg_channel_open_ack` failing before its increment (the chain lookup, `proof_try`): it
  returns that error and the store is as it was. -/
  channelOpenAckEarlyError : ∀ queryHandler soloMachineChannelId tendermintChannelId responses
      faults polls error (world : World),
    self.channelOpenAckProofTry queryHandler tendermintChannelId ⟨chains, faults⟩ =
      (.error error, world) →
    self.run ((responses, faults) :: polls) (.start (.msgChannelOpenAck queryHandler
      soloMachineChannelId tendermintChannelId)) chains = (.txDone (.error error), chains)
  /-- The four factories without proofs leave the store as it was, however far they run and
  however they end. -/
  createSoloMachineClientUnchanged : ∀ polls,
    (self.run polls (.start .msgCreateSoloMachineClient) chains).2 = chains
  createTendermintClientUnchanged : ∀ polls,
    (self.run polls (.start .msgCreateTendermintClient) chains).2 = chains
  connectionOpenInitUnchanged : ∀ soloMachineClientId tendermintClientId polls,
    (self.run polls (.start (.msgConnectionOpenInit soloMachineClientId tendermintClientId))
      chains).2 = chains
  channelOpenInitUnchanged : ∀ soloMachineConnectionId polls,
    (self.run polls (.start (.msgChannelOpenInit soloMachineConnectionId)) chains).2 = chains
  /-- `msg_create_solo_machine_client` returning `Ok`: the client state it creates starts at
  `s`. -/
  createSoloMachineClientSequence : ∀ polls txRaw chains',
    self.run polls (.start .msgCreateSoloMachineClient) chains = (.txDone (.ok txRaw), chains') →
    ∃ message, txRaw.bodyBytes.messages = [Any.pack (.createClient message)] ∧
      message.clientState.map (·.value.sequence) = some chain.sequence

/-- Every factory call run alone keeps the sequence accounting, for every builder and every
store holding the builder's chain. -/
theorem factory_sequence_accounting {chain : Chain} (stored : chains self.chainId = some chain) :
    SequenceAccounting self chains chain where
  connectionOpenAckOk _ _ _ _ _ _ _ ran := by
    obtain ⟨read, _, _, _, _, storedRead, -, -, -, -, body, bumped⟩ :=
      run_msgConnectionOpenAck_eq_txDone ran
    obtain rfl := Option.some.inj (storedRead.symm.trans stored)
    exact ⟨_, by rw [body]; rfl, by rfl, by rfl, by rfl, by rfl, bumped⟩
  channelOpenAckOk _ _ _ _ _ _ ran := by
    obtain ⟨read, _, storedRead, -, body, bumped⟩ := run_msgChannelOpenAck_eq_txDone ran
    obtain rfl := Option.some.inj (storedRead.symm.trans stored)
    exact ⟨_, by rw [body]; rfl, by rfl, by rfl, bumped⟩
  connectionOpenAckError _ _ _ _ _ _ _ ran := run_start_eq_error ran
  channelOpenAckError _ _ _ _ _ _ ran := run_start_eq_error ran
  connectionOpenAckEarlyError _ _ _ _ _ _ _ _ _ failed := run_msgConnectionOpenAck_early_error failed
  channelOpenAckEarlyError _ _ _ _ _ _ _ _ failed := run_msgChannelOpenAck_early_error failed
  createSoloMachineClientUnchanged polls := self.run_unchanged polls (by rfl) chains
  createTendermintClientUnchanged polls := self.run_unchanged polls (by rfl) chains
  connectionOpenInitUnchanged _ _ polls := self.run_unchanged polls (by rfl) chains
  channelOpenInitUnchanged _ polls := self.run_unchanged polls (by rfl) chains
  createSoloMachineClientSequence _ _ _ ran := by
    obtain ⟨read, storedRead, body⟩ := run_msgCreateSoloMachineClient_eq_txDone ran
    obtain rfl := Option.some.inj (storedRead.symm.trans stored)
    exact ⟨_, by rw [body]; rfl, by rfl⟩

end TransactionBuilder

/-! ## The spec's scenario -/

/-- The chain of the spec's end-to-end scenarios, at the start sequence of its
connection-open-ack scenario. -/
def scenarioChain : Chain where
  id := ⟨"test-1"⟩
  grpcAddr := "http://0.0.0.0:9090"
  rpcAddr := "http://0.0.0.0:26657"
  accountPrefix := "cosmos"
  fee := ⟨1000, "stake", 300000⟩
  trustLevel := ⟨1, 3⟩
  trustingPeriod := ⟨1209600, 0⟩
  maxClockDrift := ⟨3, 0⟩
  portId := ⟨"transfer"⟩
  diversifier := "solo"
  consensusTimestamp := 1000
  sequence := 10

/-- A store holding only the scenario's chain. -/
def scenarioChains : ChainStore := fun chainId =>
  if chainId = scenarioChain.id then some scenarioChain else none

/-- A builder for the scenario's chain, with a fixed key and an empty memo. -/
def scenarioBuilder : TransactionBuilder :=
  ⟨scenarioChain.id, ⟨⟨1⟩, fun accountPrefix => accountPrefix ++ "1solo"⟩, ""⟩

/-- The client state of Tendermint client `07-tendermint-0`, at height `{4, 5}`. -/
def scenarioClientState : TendermintClientState :=
  ⟨"cosmoshub-4", some ⟨1, 3⟩, some ⟨1209600, 0⟩, some ⟨1814400, 0⟩, some ⟨3, 0⟩,
    some Height.zero, some ⟨4, 5⟩, proofSpecs, ["upgrade", "upgradedIBCState"], false, false⟩

/-- Its consensus state at that height. -/
def scenarioConsensusState : TendermintConsensusState := ⟨1000, "root", "validators"⟩

/-- The connection end `connection-0` of the Tendermint side. -/
def scenarioConnection : ConnectionEnd :=
  ⟨"07-tendermint-0", [⟨"1", ["ORDER_ORDERED", "ORDER_UNORDERED"]⟩], 2,
    some ⟨"06-solomachine-0", "connection-0", some ⟨"ibc"⟩⟩, 0⟩

/-- The Tendermint side of the scenario: client `07-tendermint-0` with its consensus state,
connection `connection-0`, and channel `channel-0` of port `transfer`. -/
def scenarioQueryHandler : QueryHandler where
  clientStates clientId := if clientId = ⟨"07-tendermint-0"⟩ then some scenarioClientState else none
  consensusStates clientId height := if clientId = ⟨"07-tendermint-0"⟩ ∧ height = ⟨4, 5⟩ then
    some scenarioConsensusState else none
  connections connectionId := if connectionId = ⟨"connection-0"⟩ then some scenarioConnection
    else none
  channels portId channelId := if portId = ⟨"transfer"⟩ ∧ channelId = ⟨"channel-0"⟩ then
    some ⟨.tryOpen, .unordered, some ⟨"transfer", "channel-0"⟩, ["connection-0"], "ics20-1"⟩
    else none

/-- The account of the scenario's signer. -/
def scenarioAccount : Any BaseAccount := ⟨"/cosmos.auth.v1beta1.BaseAccount", ⟨7, 0⟩⟩

/-- What every `.await` of the scenario resolves to: the gRPC connection succeeds, and the
node holds the account of the scenario's signer, `cosmos1solo`, and of no other address. -/
def scenarioResponses : Responses :=
  ⟨.ok (), fun address => if address = "cosmos1solo" then .ok (some scenarioAccount) else .ok none,
    .ok none, .error (.msg "no status"), fun _ => .error (.msg "no block")⟩

/-- The scenario's connection-open-ack run alone: three polls, every `.await` resolving and no
step failing. -/
def scenarioConnectionOpenAckRun : Task × ChainStore :=
  scenarioBuilder.run (List.replicate 3 (scenarioResponses, []))
    (.start (.msgConnectionOpenAck scenarioQueryHandler ⟨"connection-0"⟩ ⟨"07-tendermint-0"⟩
      ⟨"connection-0"⟩)) scenarioChains

/-- The scenario's channel-open-ack of `channel-0` run alone the same way. -/
def scenarioChannelOpenAckRun : Task × ChainStore :=
  scenarioBuilder.run (List.replicate 3 (scenarioResponses, []))
    (.start (.msgChannelOpenAck scenarioQueryHandler ⟨"channel-0"⟩ ⟨"channel-0"⟩)) scenarioChains

/-- The scenario's solo-machine client creation run alone the same way. -/
def scenarioCreateClientRun : Task × ChainStore :=
  scenarioBuilder.run (List.replicate 3 (scenarioResponses, [])) (.start .msgCreateSoloMachineClient)
    scenarioChains

/-- The accounting on the spec's scenarios, from sequence 10: the connection-open-ack signs
at 10, 11 and 12, reports proof height `{0, 13}` and leaves the store three increments on; the
channel-open-ack signs at 10 and reports `{0, 11}`; the solo-machine client starts at 10. -/
theorem scenario_sequence_accounting :
    (∃ txRaw chains', scenarioConnectionOpenAckRun = (.txDone (.ok txRaw), chains') ∧
      ∃ message, txRaw.bodyBytes.messages = [Any.pack (.connectionOpenAck message)] ∧
        message.proofTry.sequence? = some 10 ∧ message.proofClient.sequence? = some 11 ∧
        message.proofConsensus.sequence? = some 12 ∧ message.proofHeight = some ⟨0, 13⟩ ∧
        chains' = scenarioChains.bump scenarioBuilder.chainId 3) ∧
    (∃ txRaw chains', scenarioChannelOpenAckRun = (.txDone (.ok txRaw), chains') ∧
      ∃ message, txRaw.bodyBytes.messages = [Any.pack (.channelOpenAck message)] ∧
        message.proofTry.sequence? = some 10 ∧ message.proofHeight = some ⟨0, 11⟩ ∧
        chains' = scenarioChains.bump scenarioBuilder.chainId 1) ∧
    (∃ txRaw chains', scenarioCreateClientRun = (.txDone (.ok txRaw), chains') ∧
      ∃ message, txRaw.bodyBytes.messages = [Any.pack (.createClient message)] ∧
        message.clientState.map (·.value.sequence) = some 10) := by
  obtain ⟨ackOk, channelOk, -, -, -, -, -, -, -, -, clientSequence⟩ :
      TransactionBuilder.SequenceAccounting scenarioBuilder scenarioChains scenarioChain :=
    TransactionBuilder.factory_sequence_accounting rfl
  obtain ⟨ackTx, ackChains, ack⟩ : ∃ txRaw chains',
      scenarioConnectionOpenAckRun = (.txDone (.ok txRaw), chains') := ⟨_, _, rfl⟩
  obtain ⟨channelTx, channelChains, channel⟩ : ∃ txRaw chains',
      scenarioChannelOpenAckRun = (.txDone (.ok txRaw), chains') := ⟨_, _, rfl⟩
  obtain ⟨clientTx, clientChains, client⟩ : ∃ txRaw chains',
      scenarioCreateClientRun = (.txDone (.ok txRaw), chains') := ⟨_, _, rfl⟩
  exact ⟨⟨ackTx, ackChains, ack, ackOk _ _ _ _ _ _ _ ack⟩,
    ⟨channelTx, channelChains, channel, channelOk _ _ _ _ _ _ channel⟩,
    ⟨clientTx, clientChains, client, clientSequence _ _ _ client⟩⟩

/-! ## An acknowledgement that returns -/

namespace TransactionBuilder

variable {self : TransactionBuilder} {chains : ChainStore}

/-- `msg_connection_open_ack` returns its transaction when every step can go on: the builder's
chain is stored with room for three more sequences, the query handler holds the Tendermint
client state, the connection end and the consensus state at the client's latest height, no
step fails, and the gRPC connection and the account query resolve. The transaction carries the
message built from the records read, signed for the account found, and the store is three
increments on. -/
theorem msgConnectionOpenAck_returns {queryHandler : QueryHandler}
    {soloMachineConnectionId : ConnectionId} {tendermintClientId : ClientId}
    {tendermintConnectionId : ConnectionId} {chain : Chain} {clientState : TendermintClientState}
    {connection : ConnectionEnd} {height : Height} {consensusState : TendermintConsensusState}
    {responses : Responses} {account : Any BaseAccount}
    (stored : chains self.chainId = some chain) (room : chain.sequence + 3 < Nat.pow 2 64)
    (foundClient : queryHandler.clientStates tendermintClientId = some clientState)
    (foundConnection : queryHandler.connections tendermintConnectionId = some connection)
    (latest : clientState.latestHeight = some height)
    (foundConsensus : queryHandler.consensusStates tendermintClientId height = some consensusState)
    (connected : responses.connect = .ok ())
    (found : responses.account (self.mnemonic.address chain.accountPrefix) = .ok (some account)) :
    self.run (List.replicate 3 (responses, [])) (.start (.msgConnectionOpenAck queryHandler
      soloMachineConnectionId tendermintClientId tendermintConnectionId)) chains =
      (.txDone (.ok (self.signedTx (chain.advance 3) (self.txBody [.connectionOpenAck
        (self.connectionOpenAckMessage soloMachineConnectionId tendermintClientId
          tendermintConnectionId chain clientState connection height consensusState)])
        account.value)), chains.bump self.chainId 3) := by
  rw [List.replicate_succ, run_cons, poll_of_ok _ _ [] (.start (.msgConnectionOpenAck queryHandler
      soloMachineConnectionId tendermintClientId tendermintConnectionId)) chains
      (msgConnectionOpenAck_of_found stored room foundClient foundConnection latest foundConsensus),
    List.replicate_succ, run_cons,
    poll_of_ok _ _ _ _ _ (resume_buildConnect_of_connected connected _ _),
    Chain.advance_accountPrefix, List.replicate_succ, run_cons,
    poll_of_ok _ _ _ _ _ (resume_buildAccount_of_found found _ _)]
  rfl

end TransactionBuilder

theorem scenario_connection_open_ack_returns :
    scenarioBuilder.run (List.replicate 3 (scenarioResponses, []))
      (.start (.msgConnectionOpenAck scenarioQueryHandler ⟨"connection-0"⟩ ⟨"07-tendermint-0"⟩
        ⟨"connection-0"⟩)) scenarioChains =
      (.txDone (.ok (scenarioBuilder.signedTx (scenarioChain.advance 3) (scenarioBuilder.txBody
        [.connectionOpenAck (scenarioBuilder.connectionOpenAckMessage ⟨"connection-0"⟩
          ⟨"07-tendermint-0"⟩ ⟨"connection-0"⟩ scenarioChain scenarioClientState
          scenarioConnection ⟨4, 5⟩ scenarioConsensusState)]) scenarioAccount.value)),
        scenarioChains.bump scenarioBuilder.chainId 3) :=
  TransactionBuilder.msgConnectionOpenAck_returns rfl (by decide) rfl rfl rfl rfl rfl rfl

/-! ## Taken sequences stay taken -/

namespace TransactionBuilder

variable {self : TransactionBuilder} {polls : List (Responses × List Bool)} {chains : ChainStore}
  {responses : Responses} {faults : List Bool}

/-- Once the first segment of a call has succeeded, the sequences it took stay taken: however
its later polls go, a failed gRPC connection or a missing account included, the call ends
with the store exactly its increments on. Nothing is rolled back. -/
theorem run_keeps_taken_sequences {call : Call} {task : Task} {world : World}
    (started : self.start call ⟨chains, faults⟩ = (.ok task, world)) :
    (self.run ((responses, faults) :: polls) (.start call) chains).2 =
      chains.bump self.chainId call.increments := by
  obtain ⟨_, -, bumped, -⟩ := self.start_eq_ok started
  rw [run_cons, self.poll_of_ok responses faults (.start call) chains started,
    self.run_unchanged polls (Task.increments_of_not_isStart (self.start_isStart started)), bumped]

end TransactionBuilder

/-- What the scenario's `.await`s resolve to when the node holds no account for the signer. -/
def noAccountResponses : Responses := { scenarioResponses with account := fun _ => .ok none }

theorem scenario_failed_ack_keeps_taken_sequences :
    (scenarioBuilder.run
      [(scenarioResponses, []), (noAccountResponses, []), (noAccountResponses, [])]
      (.start (.msgConnectionOpenAck scenarioQueryHandler ⟨"connection-0"⟩
        ⟨"07-tendermint-0"⟩ ⟨"connection-0"⟩)) scenarioChains).1 =
      .txDone (.error (.msg "unable to find account with address: cosmos1solo")) ∧
    (scenarioBuilder.run
      [(scenarioResponses, []), (noAccountResponses, []), (noAccountResponses, [])]
      (.start (.msgConnectionOpenAck scenarioQueryHandler ⟨"connection-0"⟩
        ⟨"07-tendermint-0"⟩ ⟨"connection-0"⟩)) scenarioChains).2 =
      scenarioChains.bump scenarioBuilder.chainId 3 := by
  obtain ⟨task, world, started⟩ : ∃ task world,
      scenarioBuilder.start (.msgConnectionOpenAck scenarioQueryHandler ⟨"connection-0"⟩
        ⟨"07-tendermint-0"⟩ ⟨"connection-0"⟩) ⟨scenarioChains, []⟩ =
        (.ok task, world) :=
    ⟨_, _, rfl⟩
  exact ⟨rfl, TransactionBuilder.run_keeps_taken_sequences started⟩

end SoloMachine
