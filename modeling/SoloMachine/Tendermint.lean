import SoloMachine.Sequence

/-!
Contract: what `msg_create_tendermint_client` returns, traced to the chain record and the
responses it was built from.

Owns: `TransactionBuilder.ClientStateFrom`, the client state built from the stored chain
record, the unbonding period of the staking params response of the call's third poll and the
status of its fourth, of a node that was caught up and whose height fits a Tendermint height;
`TransactionBuilder.ConsensusStateFrom`, the consensus state of the header of the block its
fifth poll delivered, at the client state's latest height; `tendermint_clients_from_responses`,
the pair the call returns is those two, and `msgCreateTendermintClient_returns`, it returns
them whenever every step can go on; and `tendermint_client_height_from_status`: the chain id is
the configured one, and the latest height is the version of the network the fourth poll's
status reported with that status's latest block height. The two revisions need not agree:
`tendermint_client_revision_can_differ` runs the call against a node that reports another
network.

Does not own: the light-client verification of the header, which the source leaves commented
out; the consensus state is the header as the node reported it.
-/

set_option autoImplicit false

namespace SoloMachine

namespace TransactionBuilder

variable (polls : List (Responses × List Bool))

/-- The client state `msg_create_tendermint_client` builds from the chain record `chain`: the
record's trust level, the unbonding period of the staking params response of the third of
`polls` (the one resuming `query_client.params`), and the status of the fourth (the one
resuming `rpc_client.status`), of a node that was caught up and whose latest block height fits
a Tendermint height. -/
def ClientStateFrom (chain : Chain) (clientState : TendermintClientState) : Prop :=
  ∃ (params : Params) (unbondingPeriod : Duration) (status : Status),
    polls[2]?.map (·.1.params) = some (.ok (some params)) ∧
    params.unbondingTime = some unbondingPeriod ∧
    polls[3]?.map (·.1.status) = some (.ok status) ∧ status.syncInfo.catchingUp = false ∧
    status.syncInfo.latestBlockHeight < Nat.pow 2 63 ∧
    clientState = tendermintClientState chain
      (some ⟨chain.trustLevel.numer, chain.trustLevel.denom⟩) (some unbondingPeriod) status

/-- The consensus state `msg_create_tendermint_client` builds beside `clientState`: the one of
the header of the block the fifth of `polls` delivered (the one resuming `rpc_client.block`),
asked for at the client state's latest height. -/
def ConsensusStateFrom (clientState : TendermintClientState)
    (consensusState : TendermintConsensusState) : Prop :=
  ∃ (height : Height) (block : Block), clientState.latestHeight = some height ∧
    polls[4]?.map (fun entry => entry.1.block height.revisionHeight) = some (.ok block) ∧
    consensusState = TendermintConsensusState.fromBlockHeader block.header

variable {self : TransactionBuilder} {polls}

/-- `msg_create_tendermint_client` returning `Ok((client_state, consensus_state))`: the
builder's chain was stored, and each of the call's five stages read its own poll's response. -/
theorem run_msgCreateTendermintClient_eq_clientsDone {chains chains' : ChainStore}
    {clientState : TendermintClientState}
    {consensusState : TendermintConsensusState}
    (ran : self.run polls (.start .msgCreateTendermintClient) chains =
      (.clientsDone (.ok (clientState, consensusState)), chains')) :
    ∃ chain, chains self.chainId = some chain ∧ ClientStateFrom polls chain clientState ∧
      ConsensusStateFrom polls clientState consensusState := by
  obtain ⟨_, _, _, _, _, rfl, started, ran⟩ := self.run_of_isOk (by rfl) ran rfl
  obtain ⟨chain, stored, rfl⟩ := msgCreateTendermintClient_eq_ok started
  obtain ⟨_, _, _, _, _, rfl, connected, ran⟩ := self.run_of_isOk (by rfl) ran rfl
  obtain rfl := unbondingConnected_eq_ok (lift_eq_ok connected).1
  obtain ⟨_, _, _, _, _, rfl, staking, ran⟩ := self.run_of_isOk (by rfl) ran rfl
  obtain ⟨params, unbondingPeriod, fetchedParams, period, rfl⟩ :=
    unbondingParamsFetched_eq_ok (lift_eq_ok staking).1
  obtain ⟨_, _, _, _, _, rfl, reporting, ran⟩ := self.run_of_isOk (by rfl) ran rfl
  obtain ⟨status, reported, caughtUp, bounded, rfl⟩ :=
    latestHeightFetched_eq_ok (lift_eq_ok reporting).1
  obtain ⟨_, _, _, _, _, rfl, fetching, ran⟩ := self.run_of_isOk (by rfl) ran rfl
  obtain ⟨block, fetchedBlock, rfl⟩ := headerFetched_eq_ok (lift_eq_ok fetching).1
  rw [run_of_isDone (by rfl)] at ran
  cases ran
  exact ⟨chain, stored,
    ⟨params, unbondingPeriod, status, by simp [fetchedParams], period, by simp [reported],
      caughtUp, bounded, rfl⟩,
    ⟨_, block, rfl, by simp [fetchedBlock], rfl⟩⟩

end TransactionBuilder

/-- `msg_create_tendermint_client` returning `Ok((client_state, consensus_state))`: the client
state is the one built from the stored chain record, the unbonding period of the staking params
response of the call's third poll and the status of its fourth, of a caught-up node whose height
fits a Tendermint height, and the consensus state is that of the header of the block its fifth
poll delivered, at the client state's latest height. -/
theorem tendermint_clients_from_responses {self : TransactionBuilder}
    {polls : List (Responses × List Bool)} {chains chains' : ChainStore}
    {clientState : TendermintClientState} {consensusState : TendermintConsensusState}
    (ran : self.run polls (.start .msgCreateTendermintClient) chains =
      (.clientsDone (.ok (clientState, consensusState)), chains')) :
    ∃ chain, chains self.chainId = some chain ∧
      TransactionBuilder.ClientStateFrom polls chain clientState ∧
      TransactionBuilder.ConsensusStateFrom polls clientState consensusState :=
  TransactionBuilder.run_msgCreateTendermintClient_eq_clientsDone ran

/-- `msg_create_tendermint_client` returning `Ok((client_state, _))`: the client state names
the configured chain id, and its latest height is the version of the network of the status the
RPC node reported on the call's fourth poll, with that status's latest block height. -/
theorem tendermint_client_height_from_status {self : TransactionBuilder}
    {polls : List (Responses × List Bool)} {chains chains' : ChainStore}
    {clientState : TendermintClientState} {consensusState : TendermintConsensusState}
    (ran : self.run polls (.start .msgCreateTendermintClient) chains =
      (.clientsDone (.ok (clientState, consensusState)), chains')) :
    ∃ chain, chains self.chainId = some chain ∧ clientState.chainId = toString chain.id ∧
      ∃ responses faults status, polls[3]? = some (responses, faults) ∧
        responses.status = .ok status ∧
        clientState.latestHeight =
          some ⟨ChainId.version ⟨status.nodeInfo.network⟩, status.syncInfo.latestBlockHeight⟩ := by
  obtain ⟨chain, stored, ⟨_, _, status, -, -, reported, -, -, rfl⟩, -⟩ :=
    TransactionBuilder.run_msgCreateTendermintClient_eq_clientsDone ran
  obtain ⟨⟨responses, faults⟩, found, fetched⟩ := Option.map_eq_some'.mp reported
  exact ⟨chain, stored, rfl, responses, faults, status, found, fetched, rfl⟩

/-! ## A node that reports another network -/

/-- A status of a node of the scenario's chain that reports the network `test-2`, as a node
does once the chain has moved to a revision the configuration does not name. -/
def otherNetworkStatus : Status := ⟨⟨"test-2"⟩, ⟨5, false⟩⟩

/-- Five polls of `msg_create_tendermint_client` against that node: every `.await` resolves
and no step fails. -/
def otherNetworkPolls : List (Responses × List Bool) :=
  List.replicate 5 (⟨.ok (), fun _ => .ok none, .ok (some ⟨some ⟨1814400, 0⟩⟩),
    .ok otherNetworkStatus, fun _ => .ok ⟨⟨1000, "app", "validators"⟩⟩⟩, [])

/-- The client state the call returns against that node: chain id `test-1`, latest height
`{2, 5}`. -/
def otherNetworkClientState : TendermintClientState :=
  TransactionBuilder.tendermintClientState scenarioChain (some ⟨1, 3⟩) (some ⟨1814400, 0⟩)
    otherNetworkStatus

theorem otherNetwork_client_height :
    scenarioBuilder.run otherNetworkPolls (.start .msgCreateTendermintClient) scenarioChains =
      (.clientsDone (.ok (otherNetworkClientState, ⟨1000, "app", "validators"⟩)), scenarioChains) ∧
    ∃ chain, scenarioChains scenarioBuilder.chainId = some chain ∧
      otherNetworkClientState.chainId = toString chain.id ∧
      ∃ responses faults status, otherNetworkPolls[3]? = some (responses, faults) ∧
        responses.status = .ok status ∧
        otherNetworkClientState.latestHeight =
          some ⟨ChainId.version ⟨status.nodeInfo.network⟩, status.syncInfo.latestBlockHeight⟩ :=
  ⟨rfl, tendermint_client_height_from_status rfl⟩

theorem otherNetwork_clients_from_responses :
    scenarioBuilder.run otherNetworkPolls (.start .msgCreateTendermintClient) scenarioChains =
      (.clientsDone (.ok (otherNetworkClientState, ⟨1000, "app", "validators"⟩)), scenarioChains) ∧
    ∃ chain, scenarioChains scenarioBuilder.chainId = some chain ∧
      TransactionBuilder.ClientStateFrom otherNetworkPolls chain otherNetworkClientState ∧
      TransactionBuilder.ConsensusStateFrom otherNetworkPolls otherNetworkClientState
        ⟨1000, "app", "validators"⟩ :=
  ⟨rfl, tendermint_clients_from_responses rfl⟩

/-- The revision number of the client state need not be the version of its chain id: against
a node reporting `test-2`, the client state for the configured chain `test-1` has revision
number `2`. -/
theorem tendermint_client_revision_can_differ :
    ¬ ∀ (self : TransactionBuilder) polls chains clientState consensusState chains',
      self.run polls (.start .msgCreateTendermintClient) chains =
        (.clientsDone (.ok (clientState, consensusState)), chains') →
      clientState.latestHeight.map (·.revisionNumber) =
        some (ChainId.version ⟨clientState.chainId⟩) := by
  intro claimed
  have revision := claimed scenarioBuilder otherNetworkPolls scenarioChains otherNetworkClientState
    ⟨1000, "app", "validators"⟩ scenarioChains rfl
  exact absurd revision (by decide)

/-! ## A client pair that returns -/

namespace TransactionBuilder

variable {self : TransactionBuilder} {chains : ChainStore}

/-- `msg_create_tendermint_client` returns its pair when every step can go on: the builder's
chain is stored, the staking connection resolves and the params carry an unbonding time, the
node is caught up and its height fits a Tendermint height, the block resolves, and no step
fails. It returns after its five polls, the first of which reads no response, with the client
state built from that record, that unbonding time and that status, the consensus state of
the header of that block, asked for at that status's height, and the store as it was. With
`tendermint_clients_from_responses` this says exactly when the call returns `Ok`. -/
theorem msgCreateTendermintClient_returns {chain : Chain}
    {first connecting staking reporting fetching : Responses} {params : Params}
    {unbondingPeriod : Duration} {status : Status} {block : Block}
    (stored : chains self.chainId = some chain) (connected : connecting.connect = .ok ())
    (fetchedParams : staking.params = .ok (some params))
    (period : params.unbondingTime = some unbondingPeriod)
    (reported : reporting.status = .ok status) (caughtUp : status.syncInfo.catchingUp = false)
    (bounded : status.syncInfo.latestBlockHeight < Nat.pow 2 63)
    (fetchedBlock : fetching.block status.syncInfo.latestBlockHeight = .ok block) :
    self.run [(first, []), (connecting, []), (staking, []), (reporting, []), (fetching, [])]
      (.start .msgCreateTendermintClient) chains =
      (.clientsDone (.ok (tendermintClientState chain
        (some ⟨chain.trustLevel.numer, chain.trustLevel.denom⟩) (some unbondingPeriod) status,
        TendermintConsensusState.fromBlockHeader block.header)), chains) := by
  rw [run_cons, poll_of_ok _ _ [] (.start .msgCreateTendermintClient) chains
      (msgCreateTendermintClient_of_stored stored),
    run_cons, poll_of_ok _ _ _ _ _ (resume_unbondingConnect_of_connected connected _ _),
    run_cons, poll_of_ok _ _ _ _ _ (resume_unbondingParams_of_found fetchedParams period _ _),
    run_cons, poll_of_ok _ _ _ _ _ (resume_latestHeightStatus_of_caughtUp reported caughtUp bounded
      _ _ _),
    run_cons, poll_of_ok _ _ _ _ _ (resume_headerBlock_of_found fetchedBlock _)]
  rfl

end TransactionBuilder

theorem otherNetwork_client_pair_returns :
    scenarioBuilder.run otherNetworkPolls (.start .msgCreateTendermintClient) scenarioChains =
      (.clientsDone (.ok (TransactionBuilder.tendermintClientState scenarioChain
        (some ⟨scenarioChain.trustLevel.numer, scenarioChain.trustLevel.denom⟩)
        (some ⟨1814400, 0⟩) otherNetworkStatus,
        TendermintConsensusState.fromBlockHeader ⟨1000, "app", "validators"⟩)), scenarioChains) :=
  TransactionBuilder.msgCreateTendermintClient_returns rfl rfl rfl rfl rfl rfl (by decide) rfl

end SoloMachine
