import SoloMachine.Builder

/-!
Contract: one spec lemma per segment of the builder, and the frame condition of each first
segment.

Owns:
- for every first segment, `Bumps`: how many increments of the builder's chain it can make
  (three for `msg_connection_open_ack`, one for `msg_channel_open_ack`, none for any other);
- for every segment, its `_eq_ok` lemma: when it succeeds, the task it suspends with or the
  result it returns, built from the records it read, and for a first segment the store it
  leaves. The messages, auth info, transaction and client state these lemmas name are
  definitions here (`connectionOpenAckMessage`, `signedTx`, `tendermintClientState`, ...),
  each the value the source builds;
- for the first segments and `build`, their success lemmas (`_of_found`, `_of_stored`,
  `_of_ok`): with the records present and no step failing, the value and store they end with;
  a call that returns is shown to by composing them with those of the later segments
  (`SoloMachine.Poll`);
- `connectionOpenAckProofTry` and `channelOpenAckProofTry`, the steps of the two
  acknowledgements up to their first increment, with their own spec, success and frame lemmas.

Every later lemma reads the segments through these and never unfolds them again.

Does not own: the failing paths beyond their frame condition; those are read off `Bumps` and
`Task.fail` in `SoloMachine.Poll`.
-/

set_option autoImplicit false

namespace SoloMachine

namespace TransactionBuilder

variable (self : TransactionBuilder)

/-- The body a successful `build_tx_body` returns. -/
def txBody (messages : List Msg) : TxBody := ⟨messages.map Any.pack, self.memo, 0, [], []⟩

@[simp] theorem txBody_proofs (messages : List Msg) :
    (self.txBody messages).proofs = messages.flatMap Msg.proofs := by
  simp [txBody, TxBody.proofs, List.flatMap_map]

section Specs

variable {self} {β : Type} {world final : World}

theorem getChain_bind_eq_ok {next : Chain → Segment β} {result : β}
    (ran : (self.getChain >>= next) world = (.ok result, final)) :
    ∃ chain faults, world.chains self.chainId = some chain ∧
      next chain { world with faults } = (.ok result, final) := by
  obtain ⟨chain, ⟨chains, faults⟩, got, ran⟩ := Action.bind_eq_ok ran
  obtain ⟨_, _, read, found⟩ := Action.bind_eq_ok got
  obtain ⟨rfl, same⟩ := ChainService.get_eq_ok read
  obtain ⟨stored, rfl⟩ := Action.okOr_eq_ok found
  subst same
  exact ⟨chain, faults, stored, ran⟩

theorem getChain_of_stored {chains : ChainStore} {chain : Chain}
    (stored : chains self.chainId = some chain) :
    self.getChain ⟨chains, []⟩ = (.ok chain, ⟨chains, []⟩) := by
  simp only [getChain, ChainService.get, Action.bind_apply, Action.get_apply, lift_apply, fallible,
    stored, Action.okOr, Action.pure_apply]
  rfl

theorem mapM_toAny_eq_ok {messages : List Msg} {faults rest : List Bool} {anys : List (Any Msg)}
    (ran : messages.mapM toAny faults = (.ok anys, rest)) : anys = messages.map Any.pack := by
  induction messages generalizing faults anys with
  | nil => cases ran; rfl
  | cons message messages inductionHypothesis =>
    rw [List.mapM_cons] at ran
    obtain ⟨_, ran⟩ := fallible_bind_eq_ok ran
    obtain ⟨packed, _, mapped, ran⟩ := Action.bind_eq_ok ran
    cases ran
    rw [inductionHypothesis mapped, List.map_cons]

theorem mapM_toAny_of_ok (messages : List Msg) :
    messages.mapM toAny [] = (.ok (messages.map Any.pack), []) := by
  induction messages with
  | nil => rfl
  | cons message messages inductionHypothesis =>
    have packed : toAny message [] = (.ok (Any.pack message), []) := rfl
    rw [List.mapM_cons, Action.bind_of_ok packed, Action.bind_of_ok inductionHypothesis]
    rfl

/-- With no fault, `build` encodes the body of `messages` and suspends at the gRPC
connection. -/
theorem build_of_ok (chain : Chain) (messages : List Msg) (chains : ChainStore) :
    self.build chain messages ⟨chains, []⟩ =
      (.ok (.buildConnect chain (self.txBody messages)), ⟨chains, []⟩) := by
  have body : self.buildTxBody messages [] = (.ok (self.txBody messages), []) := by
    rw [buildTxBody, Action.bind_of_ok (mapM_toAny_of_ok messages)]
    rfl
  have encoded : protoEncode (self.txBody messages) [] = (.ok (self.txBody messages), []) := rfl
  simp only [build, Action.bind_of_ok (Action.context_of_ok (lift_of_ok body)),
    Action.bind_of_ok (lift_of_ok encoded)]
  rfl

theorem build_eq_ok {chain : Chain} {messages : List Msg} {task : Task}
    (ran : self.build chain messages world = (.ok task, final)) :
    task = .buildConnect chain (self.txBody messages) := by
  obtain ⟨body, _, built, ran⟩ := Action.bind_eq_ok ran
  obtain ⟨bodyOk, -⟩ := lift_eq_ok (Action.context_eq_ok built)
  obtain ⟨_, _, mapped, bodyOk⟩ := Action.bind_eq_ok bodyOk
  cases bodyOk
  obtain ⟨_, ran⟩ := lift_fallible_bind_eq_ok ran
  cases ran
  rw [mapM_toAny_eq_ok mapped]
  rfl

end Specs

/-! ## Frame conditions -/

theorem bumps_getChain (chainId : ChainId) : Bumps chainId 0 self.getChain :=
  Bumps.bind_frame (Bumps.get _) fun _ => Bumps.okOr _ _

theorem bumps_build (chainId : ChainId) (chain : Chain) (messages : List Msg) :
    Bumps chainId 0 (self.build chain messages) :=
  Bumps.bind_frame (Bumps.context _ (Bumps.lift _)) fun _ =>
    Bumps.bind_frame (Bumps.lift _) fun _ => Bumps.pure _

theorem bumps_connectionOpenAckProofTry (chainId : ChainId) (queryHandler : QueryHandler)
    (tendermintClientId : ClientId) (tendermintConnectionId : ConnectionId) :
    Bumps chainId 0
      (self.connectionOpenAckProofTry queryHandler tendermintClientId tendermintConnectionId) :=
  Bumps.bind_frame (self.bumps_getChain _) fun _ => Bumps.bind_frame (Bumps.lift _) fun _ =>
    Bumps.bind_frame (Bumps.okOr _ _) fun _ => Bumps.bind_frame (Bumps.lift _) fun _ =>
      Bumps.pure _

theorem bumps_channelOpenAckProofTry (chainId : ChainId) (queryHandler : QueryHandler)
    (tendermintChannelId : ChannelId) :
    Bumps chainId 0 (self.channelOpenAckProofTry queryHandler tendermintChannelId) :=
  Bumps.bind_frame (self.bumps_getChain _) fun _ =>
    Bumps.bind_frame (Bumps.lift _) fun _ => Bumps.pure _

/-! ## The acknowledgements up to their first increment -/

section Specs

variable {self} {world final : World} {queryHandler : QueryHandler}

/-- `msg_connection_open_ack` before its first increment, when it succeeds: it read the
builder's chain and the Tendermint client state, signed `proof_try` over the connection end
stored under `tendermintConnectionId` at that record's sequence, and wrote nothing. -/
theorem connectionOpenAckProofTry_eq_ok {tendermintClientId : ClientId}
    {tendermintConnectionId : ConnectionId} {clientState : TendermintClientState}
    {proofTry : TimestampedSignatureData}
    (ran : self.connectionOpenAckProofTry queryHandler tendermintClientId tendermintConnectionId
      world = (.ok (clientState, proofTry), final)) :
    ∃ chain connection, world.chains self.chainId = some chain ∧
      queryHandler.clientStates tendermintClientId = some clientState ∧
      queryHandler.connections tendermintConnectionId = some connection ∧
      proofTry = signedProof self.mnemonic chain (chain.signBytes .connectionState
        (.connectionState ⟨((ConnectionPath.new tendermintConnectionId).applyPrefix "ibc").intoBytes,
          some connection⟩)) ∧
      final.chains = world.chains := by
  have unchanged := Bumps.chains_eq (self.bumps_connectionOpenAckProofTry self.chainId _ _ _) ran
  obtain ⟨chain, _, stored, ran⟩ := getChain_bind_eq_ok ran
  obtain ⟨_, ran⟩ := lift_fallible_bind_eq_ok ran
  obtain ⟨found, foundClient, ran⟩ := Action.okOr_bind_eq_ok ran
  obtain ⟨_, _, tryOk, ran⟩ := lift_bind_eq_ok ran
  obtain ⟨connection, foundConnection, signed⟩ := getConnectionProof_eq_ok tryOk
  cases ran
  exact ⟨chain, connection, stored, foundClient, foundConnection, signed, unchanged⟩

/-- With no fault, the part before the first increment signs `proof_try` once the chain, the
client state and the connection end are stored. -/
theorem connectionOpenAckProofTry_of_found {tendermintClientId : ClientId}
    {tendermintConnectionId : ConnectionId} {chains : ChainStore} {chain : Chain}
    {clientState : TendermintClientState} {connection : ConnectionEnd}
    (stored : chains self.chainId = some chain)
    (foundClient : queryHandler.clientStates tendermintClientId = some clientState)
    (foundConnection : queryHandler.connections tendermintConnectionId = some connection) :
    self.connectionOpenAckProofTry queryHandler tendermintClientId tendermintConnectionId
      ⟨chains, []⟩ = (.ok (clientState, signedProof self.mnemonic chain (chain.signBytes
        .connectionState (.connectionState
          ⟨((ConnectionPath.new tendermintConnectionId).applyPrefix "ibc").intoBytes,
            some connection⟩))), ⟨chains, []⟩) := by
  have read : queryHandler.getClientState tendermintClientId [] = (.ok (some clientState), []) := by
    rw [QueryHandler.getClientState, foundClient]
    rfl
  simp only [connectionOpenAckProofTry, Action.bind_apply, getChain_of_stored stored, lift_apply,
    read, Action.okOr, Action.pure, getConnectionProof_of_found foundConnection, Action.pure_apply]

/-- `msg_channel_open_ack` before its increment, when it succeeds: it read the builder's
chain and signed `proof_try` over the channel end stored under that record's port, at its
sequence, and wrote nothing. -/
theorem channelOpenAckProofTry_eq_ok {tendermintChannelId : ChannelId}
    {proofTry : TimestampedSignatureData}
    (ran : self.channelOpenAckProofTry queryHandler tendermintChannelId world =
      (.ok proofTry, final)) :
    ∃ chain channel, world.chains self.chainId = some chain ∧
      queryHandler.channels chain.portId tendermintChannelId = some channel ∧
      proofTry = signedProof self.mnemonic chain (chain.signBytes .channelState
        (.channelState ⟨((ChannelPath.new chain.portId tendermintChannelId).applyPrefix
          "ibc").intoBytes, some channel⟩)) ∧
      final.chains = world.chains := by
  have unchanged := Bumps.chains_eq (self.bumps_channelOpenAckProofTry self.chainId _ _) ran
  obtain ⟨chain, _, stored, ran⟩ := getChain_bind_eq_ok ran
  obtain ⟨_, _, tryOk, ran⟩ := lift_bind_eq_ok ran
  obtain ⟨channel, foundChannel, signed⟩ := getChannelProof_eq_ok tryOk
  cases ran
  exact ⟨chain, channel, stored, foundChannel, signed, unchanged⟩

theorem channelOpenAckProofTry_of_found {tendermintChannelId : ChannelId} {chains : ChainStore}
    {chain : Chain} {channel : Channel} (stored : chains self.chainId = some chain)
    (foundChannel : queryHandler.channels chain.portId tendermintChannelId = some channel) :
    self.channelOpenAckProofTry queryHandler tendermintChannelId ⟨chains, []⟩ =
      (.ok (signedProof self.mnemonic chain (chain.signBytes .channelState (.channelState
        ⟨((ChannelPath.new chain.portId tendermintChannelId).applyPrefix "ibc").intoBytes,
          some channel⟩))), ⟨chains, []⟩) := by
  simp only [channelOpenAckProofTry, Action.bind_of_ok (getChain_of_stored stored),
    Action.bind_of_ok (lift_of_ok (getChannelProof_of_found foundChannel))]
  rfl

end Specs

/-- The message `msg_connection_open_ack` builds from the record `chain` it read first, the
client state, connection end and consensus state it read, and that consensus state's
height. -/
def connectionOpenAckMessage (soloMachineConnectionId : ConnectionId) (tendermintClientId : ClientId)
    (tendermintConnectionId : ConnectionId) (chain : Chain) (clientState : TendermintClientState)
    (connection : ConnectionEnd) (height : Height) (consensusState : TendermintConsensusState) :
    MsgConnectionOpenAck where
  connectionId := toString soloMachineConnectionId
  counterpartyConnectionId := toString tendermintConnectionId
  version := some ⟨"1", ["ORDER_ORDERED", "ORDER_UNORDERED"]⟩
  clientState := some (Any.pack clientState)
  proofHeight := some (Height.new 0 (chain.sequence + 3))
  proofTry := signedProof self.mnemonic chain (chain.signBytes .connectionState
    (.connectionState ⟨((ConnectionPath.new tendermintConnectionId).applyPrefix "ibc").intoBytes,
      some connection⟩))
  proofClient := signedProof self.mnemonic (chain.advance 1) ((chain.advance 1).signBytes
    .clientState (.clientState ⟨((ClientStatePath.new tendermintClientId).applyPrefix "ibc").intoBytes,
      some (Any.pack clientState)⟩))
  proofConsensus := signedProof self.mnemonic (chain.advance 2) ((chain.advance 2).signBytes
    .consensusState (.consensusState
      ⟨((ConsensusStatePath.new tendermintClientId height).applyPrefix "ibc").intoBytes,
        some (Any.pack consensusState)⟩))
  consensusHeight := some height
  signer := self.mnemonic.address chain.accountPrefix

section Specs

variable {self} {world final : World} {task : Task}

/-- The first segment of `msg_connection_open_ack`, when it succeeds: it read the builder's
chain record, signed its three proofs at that record's sequence and the two after it, each time
with the record `increment_sequence` returned, and left the store three increments on. Every
read of the client state saw the same one. -/
theorem msgConnectionOpenAck_eq_ok {queryHandler : QueryHandler}
    {soloMachineConnectionId : ConnectionId} {tendermintClientId : ClientId}
    {tendermintConnectionId : ConnectionId}
    (ran : self.msgConnectionOpenAck queryHandler soloMachineConnectionId tendermintClientId
      tendermintConnectionId world = (.ok task, final)) :
    ∃ chain clientState connection height consensusState,
      world.chains self.chainId = some chain ∧
      queryHandler.clientStates tendermintClientId = some clientState ∧
      queryHandler.connections tendermintConnectionId = some connection ∧
      clientState.latestHeight = some height ∧
      queryHandler.consensusStates tendermintClientId height = some consensusState ∧
      final.chains = world.chains.bump self.chainId 3 ∧
      task = .buildConnect (chain.advance 3) (self.txBody [.connectionOpenAck
        (self.connectionOpenAckMessage soloMachineConnectionId tendermintClientId
          tendermintConnectionId chain clientState connection height consensusState)]) := by
  obtain ⟨⟨clientState, _⟩, world0, prefixOk, ran⟩ := Action.bind_eq_ok ran
  obtain ⟨chain, connection, stored, foundClient, foundConnection, rfl, unchanged⟩ :=
    connectionOpenAckProofTry_eq_ok prefixOk
  obtain ⟨first, world1, stored1, bumped1, ran⟩ := ChainService.incrementSequence_bind_eq_ok ran
  rw [unchanged] at stored1 bumped1
  obtain ⟨_, _, clientOk, ran⟩ := lift_bind_eq_ok ran
  obtain ⟨clientState1, foundClient1, rfl⟩ := getClientProof_eq_ok clientOk
  obtain ⟨second, world2, stored2, bumped2, ran⟩ := ChainService.incrementSequence_bind_eq_ok ran
  obtain ⟨_, _, consensusOk, ran⟩ := lift_bind_eq_ok ran
  obtain ⟨clientState2, height, consensusState, foundClient2, latest, foundConsensus, rfl⟩ :=
    getConsensusProof_eq_ok consensusOk
  obtain ⟨third, world3, stored3, bumped3, ran⟩ := ChainService.incrementSequence_bind_eq_ok ran
  obtain ⟨_, ran⟩ := lift_fallible_bind_eq_ok ran
  obtain ⟨_, ran⟩ := lift_fallible_bind_eq_ok ran
  obtain rfl := Option.some.inj (foundClient.symm.trans foundClient1)
  obtain rfl := Option.some.inj (foundClient.symm.trans foundClient2)
  obtain rfl := Option.some.inj (stored.symm.trans stored1)
  have holds1 : world1.chains self.chainId = some (chain.advance 1) := by
    rw [bumped1]
    exact ChainStore.bump_of_stored _ _ stored 1
  obtain rfl := Option.some.inj (holds1.symm.trans stored2)
  have holds2 : world2.chains self.chainId = some (chain.advance 2) := by
    rw [bumped2]
    exact ChainStore.bump_of_stored _ _ holds1 1
  obtain rfl := Option.some.inj (holds2.symm.trans stored3)
  refine ⟨chain, clientState, connection, height, consensusState, stored, foundClient,
    foundConnection, latest, foundConsensus, ?_, ?_⟩
  · rw [Bumps.chains_eq (bumps_build _ self.chainId _ _) ran]
    simp [bumped1, bumped2, bumped3]
  · rw [build_eq_ok ran, latest]
    rfl

/-- The converse: with no fault, the first segment of `msg_connection_open_ack` succeeds once
the builder's chain is stored with room for three more sequences below `2^64` and the query
handler holds the client state, the connection end and the consensus state at the client's
latest height. -/
theorem msgConnectionOpenAck_of_found {queryHandler : QueryHandler}
    {soloMachineConnectionId : ConnectionId} {tendermintClientId : ClientId}
    {tendermintConnectionId : ConnectionId} {chains : ChainStore} {chain : Chain}
    {clientState : TendermintClientState} {connection : ConnectionEnd} {height : Height}
    {consensusState : TendermintConsensusState}
    (stored : chains self.chainId = some chain) (room : chain.sequence + 3 < Nat.pow 2 64)
    (foundClient : queryHandler.clientStates tendermintClientId = some clientState)
    (foundConnection : queryHandler.connections tendermintConnectionId = some connection)
    (latest : clientState.latestHeight = some height)
    (foundConsensus : queryHandler.consensusStates tendermintClientId height = some consensusState) :
    self.msgConnectionOpenAck queryHandler soloMachineConnectionId tendermintClientId
      tendermintConnectionId ⟨chains, []⟩ =
      (.ok (.buildConnect (chain.advance 3) (self.txBody [.connectionOpenAck
        (self.connectionOpenAckMessage soloMachineConnectionId tendermintClientId
          tendermintConnectionId chain clientState connection height consensusState)])),
        ⟨chains.bump self.chainId 3, []⟩) := by
  have stored1 := ChainStore.bump_of_stored _ _ stored 1
  have stored2 := ChainStore.bump_of_stored _ _ stored1 1
  have room1 : chain.sequence + 1 < Nat.pow 2 64 := by omega
  have room2 : (chain.advance 1).sequence + 1 < Nat.pow 2 64 := by
    simp only [Chain.advance_sequence]; omega
  have room3 : ((chain.advance 1).advance 1).sequence + 1 < Nat.pow 2 64 := by
    simp only [Chain.advance_sequence]; omega
  simp only [msgConnectionOpenAck, Action.bind_apply,
    connectionOpenAckProofTry_of_found stored foundClient foundConnection,
    ChainService.incrementSequence_of_stored stored room1,
    ChainService.incrementSequence_of_stored stored1 room2,
    ChainService.incrementSequence_of_stored stored2 room3, lift_apply,
    getClientProof_of_found foundClient,
    getConsensusProof_of_found foundClient latest foundConsensus,
    toAny, Mnemonic.accountAddress, fallible, build_of_ok]
  simp only [Chain.advance_advance, ChainStore.bump_bump, latest]
  rfl

end Specs

/-- The message `msg_channel_open_ack` builds from the record `chain` it read first and the
channel end it read. -/
def channelOpenAckMessage (soloMachineChannelId tendermintChannelId : ChannelId) (chain : Chain)
    (channel : Channel) : MsgChannelOpenAck where
  portId := toString chain.portId
  channelId := toString soloMachineChannelId
  counterpartyChannelId := toString tendermintChannelId
  counterpartyVersion := "ics20-1"
  proofHeight := some (Height.new 0 (chain.sequence + 1))
  proofTry := signedProof self.mnemonic chain (chain.signBytes .channelState
    (.channelState ⟨((ChannelPath.new chain.portId tendermintChannelId).applyPrefix "ibc").intoBytes,
      some channel⟩))
  signer := self.mnemonic.address chain.accountPrefix

/-- The message `msg_create_solo_machine_client` builds from the record `chain`. -/
def createClientMessage (chain : Chain) : MsgCreateClient :=
  let consensusState : SoloMachineConsensusState :=
    ⟨some (Any.pack ⟨self.mnemonic.signingKey⟩), chain.diversifier, chain.consensusTimestamp⟩
  { clientState := some (Any.pack ⟨chain.sequence, 0, some consensusState, true⟩)
    consensusState := some (Any.pack consensusState)
    signer := self.mnemonic.address chain.accountPrefix }

/-- The message `msg_connection_open_init` builds from the record `chain`. -/
def connectionOpenInitMessage (soloMachineClientId tendermintClientId : ClientId) (chain : Chain) :
    MsgConnectionOpenInit where
  clientId := toString soloMachineClientId
  counterparty := some ⟨toString tendermintClientId, "", some ⟨"ibc"⟩⟩
  version := some ⟨"1", ["ORDER_ORDERED", "ORDER_UNORDERED"]⟩
  delayPeriod := 0
  signer := self.mnemonic.address chain.accountPrefix

/-- The message `msg_channel_open_init` builds from the record `chain`. -/
def channelOpenInitMessage (soloMachineConnectionId : ConnectionId) (chain : Chain) :
    MsgChannelOpenInit where
  portId := toString chain.portId
  channel := some ⟨.init, .unordered, some ⟨toString chain.portId, ""⟩,
    [toString soloMachineConnectionId], "ics20-1"⟩
  signer := self.mnemonic.address chain.accountPrefix

section Specs

variable {self} {world final : World} {task : Task}

/-- The first segment of `msg_channel_open_ack`, when it succeeds: one proof at the sequence of
the record it read, over the channel end stored under that record's port, and one increment. -/
theorem msgChannelOpenAck_eq_ok {queryHandler : QueryHandler}
    {soloMachineChannelId tendermintChannelId : ChannelId}
    (ran : self.msgChannelOpenAck queryHandler soloMachineChannelId tendermintChannelId world =
      (.ok task, final)) :
    ∃ chain channel, world.chains self.chainId = some chain ∧
      queryHandler.channels chain.portId tendermintChannelId = some channel ∧
      final.chains = world.chains.bump self.chainId 1 ∧
      task = .buildConnect (chain.advance 1) (self.txBody [.channelOpenAck
        (self.channelOpenAckMessage soloMachineChannelId tendermintChannelId chain channel)]) := by
  obtain ⟨_, world0, prefixOk, ran⟩ := Action.bind_eq_ok ran
  obtain ⟨chain, channel, stored, foundChannel, rfl, unchanged⟩ :=
    channelOpenAckProofTry_eq_ok prefixOk
  obtain ⟨first, world1, stored1, bumped1, ran⟩ := ChainService.incrementSequence_bind_eq_ok ran
  rw [unchanged] at stored1 bumped1
  obtain rfl := Option.some.inj (stored.symm.trans stored1)
  obtain ⟨_, ran⟩ := lift_fallible_bind_eq_ok ran
  refine ⟨chain, channel, stored, foundChannel, ?_, ?_⟩
  · rw [Bumps.chains_eq (bumps_build _ self.chainId _ _) ran, bumped1]
  · rw [build_eq_ok ran]
    rfl

theorem msgCreateSoloMachineClient_eq_ok
    (ran : self.msgCreateSoloMachineClient world = (.ok task, final)) :
    ∃ chain, world.chains self.chainId = some chain ∧
      task = .buildConnect chain (self.txBody [.createClient (self.createClientMessage chain)]) := by
  obtain ⟨chain, _, stored, ran⟩ := getChain_bind_eq_ok ran
  obtain ⟨_, ran⟩ := lift_fallible_bind_eq_ok ran
  obtain ⟨_, ran⟩ := lift_fallible_bind_eq_ok ran
  obtain ⟨_, ran⟩ := lift_fallible_bind_eq_ok ran
  obtain ⟨_, ran⟩ := lift_fallible_bind_eq_ok ran
  obtain ⟨_, ran⟩ := lift_fallible_bind_eq_ok ran
  exact ⟨chain, stored, build_eq_ok ran⟩

theorem msgConnectionOpenInit_eq_ok {soloMachineClientId tendermintClientId : ClientId}
    (ran : self.msgConnectionOpenInit soloMachineClientId tendermintClientId world =
      (.ok task, final)) :
    ∃ chain, world.chains self.chainId = some chain ∧
      task = .buildConnect chain (self.txBody [.connectionOpenInit
        (self.connectionOpenInitMessage soloMachineClientId tendermintClientId chain)]) := by
  obtain ⟨chain, _, stored, ran⟩ := getChain_bind_eq_ok ran
  obtain ⟨_, ran⟩ := lift_fallible_bind_eq_ok ran
  exact ⟨chain, stored, build_eq_ok ran⟩

theorem msgChannelOpenInit_eq_ok {soloMachineConnectionId : ConnectionId}
    (ran : self.msgChannelOpenInit soloMachineConnectionId world = (.ok task, final)) :
    ∃ chain, world.chains self.chainId = some chain ∧
      task = .buildConnect chain (self.txBody [.channelOpenInit
        (self.channelOpenInitMessage soloMachineConnectionId chain)]) := by
  obtain ⟨chain, _, stored, ran⟩ := getChain_bind_eq_ok ran
  obtain ⟨_, ran⟩ := lift_fallible_bind_eq_ok ran
  exact ⟨chain, stored, build_eq_ok ran⟩

theorem msgCreateTendermintClient_eq_ok
    (ran : self.msgCreateTendermintClient world = (.ok task, final)) :
    ∃ chain, world.chains self.chainId = some chain ∧
      task = .unbondingConnect chain (some ⟨chain.trustLevel.numer, chain.trustLevel.denom⟩) := by
  obtain ⟨chain, _, stored, ran⟩ := getChain_bind_eq_ok ran
  cases ran
  exact ⟨chain, stored, rfl⟩

/-- With no fault, the first segment of `msg_create_tendermint_client` suspends at the staking
connection once the builder's chain is stored. -/
theorem msgCreateTendermintClient_of_stored {chains : ChainStore} {chain : Chain}
    (stored : chains self.chainId = some chain) :
    self.msgCreateTendermintClient ⟨chains, []⟩ = (.ok (.unbondingConnect chain
      (some ⟨chain.trustLevel.numer, chain.trustLevel.denom⟩)), ⟨chains, []⟩) := by
  simp only [msgCreateTendermintClient, Action.bind_of_ok (getChain_of_stored stored)]
  rfl

end Specs

/-! ## Frame conditions of the first segments -/

theorem bumps_msgConnectionOpenAck (queryHandler : QueryHandler)
    (soloMachineConnectionId : ConnectionId) (tendermintClientId : ClientId)
    (tendermintConnectionId : ConnectionId) :
    Bumps self.chainId 3 (self.msgConnectionOpenAck queryHandler soloMachineConnectionId
      tendermintClientId tendermintConnectionId) := by
  unfold msgConnectionOpenAck
  refine Bumps.bind_frame (self.bumps_connectionOpenAckProofTry _ _ _ _)
    fun ⟨tendermintClientState, proofTry⟩ => ?_
  refine Bumps.bind_increment fun chain => ?_
  refine Bumps.bind_frame (Bumps.lift _) fun proofClient => ?_
  refine Bumps.bind_increment fun chain => ?_
  refine Bumps.bind_frame (Bumps.lift _) fun proofConsensus => ?_
  refine Bumps.bind_increment fun chain => ?_
  refine Bumps.bind_frame (Bumps.lift _) fun _ => ?_
  exact Bumps.bind_frame (Bumps.lift _) fun _ => self.bumps_build _ _ _

theorem bumps_msgChannelOpenAck (queryHandler : QueryHandler)
    (soloMachineChannelId tendermintChannelId : ChannelId) :
    Bumps self.chainId 1 (self.msgChannelOpenAck queryHandler soloMachineChannelId
      tendermintChannelId) := by
  unfold msgChannelOpenAck
  refine Bumps.bind_frame (self.bumps_channelOpenAckProofTry _ _ _) fun proofTry => ?_
  refine Bumps.bind_increment fun chain => ?_
  exact Bumps.bind_frame (Bumps.lift _) fun _ => self.bumps_build _ _ _

variable (chainId : ChainId)

theorem bumps_msgCreateSoloMachineClient : Bumps chainId 0 self.msgCreateSoloMachineClient := by
  unfold msgCreateSoloMachineClient
  refine Bumps.bind_frame (self.bumps_getChain _) fun chain => ?_
  refine Bumps.bind_frame (Bumps.lift _) fun _ => Bumps.bind_frame (Bumps.lift _) fun _ => ?_
  refine Bumps.bind_frame (Bumps.lift _) fun _ => Bumps.bind_frame (Bumps.lift _) fun _ => ?_
  exact Bumps.bind_frame (Bumps.lift _) fun _ => self.bumps_build _ _ _

theorem bumps_msgCreateTendermintClient : Bumps chainId 0 self.msgCreateTendermintClient :=
  Bumps.bind_frame (self.bumps_getChain _) fun _ => Bumps.pure _

theorem bumps_msgConnectionOpenInit (soloMachineClientId tendermintClientId : ClientId) :
    Bumps chainId 0 (self.msgConnectionOpenInit soloMachineClientId tendermintClientId) :=
  Bumps.bind_frame (self.bumps_getChain _) fun _ =>
    Bumps.bind_frame (Bumps.lift _) fun _ => self.bumps_build _ _ _

theorem bumps_msgChannelOpenInit (soloMachineConnectionId : ConnectionId) :
    Bumps chainId 0 (self.msgChannelOpenInit soloMachineConnectionId) :=
  Bumps.bind_frame (self.bumps_getChain _) fun _ =>
    Bumps.bind_frame (Bumps.lift _) fun _ => self.bumps_build _ _ _

/-! ## Later segments -/

/-- The auth info a successful `build_auth_info` returns. -/
def authInfo (chain : Chain) (accountSequence : Nat) : AuthInfo :=
  ⟨[⟨some (Any.pack ⟨self.mnemonic.signingKey⟩), some ⟨some (.single ⟨1⟩)⟩,
      accountSequence⟩],
    some ⟨[⟨chain.fee.denom, toString chain.fee.amount⟩], chain.fee.gasLimit, "", ""⟩⟩

/-- The transaction `build` returns for `body` once the account query found `account`: one
signature, the mnemonic's, over the body, the auth info, the chain id and the account
number. -/
def signedTx (chain : Chain) (body : TxBody) (account : BaseAccount) : TxRaw :=
  ⟨body, self.authInfo chain account.sequence, [⟨self.mnemonic.signingKey,
    ⟨body, self.authInfo chain account.sequence, toString chain.id, account.accountNumber⟩⟩]⟩

/-- The client state `msg_create_tendermint_client` builds from the status the RPC node
reported: its chain id is the configured one, its revision number comes from the node's
network. -/
def tendermintClientState (chain : Chain) (trustLevel : Option Fraction)
    (unbondingPeriod : Option Duration) (status : Status) : TendermintClientState where
  chainId := toString chain.id
  trustLevel := trustLevel
  trustingPeriod := some chain.trustingPeriod
  unbondingPeriod := unbondingPeriod
  maxClockDrift := some chain.maxClockDrift
  frozenHeight := some Height.zero
  latestHeight :=
    some ⟨ChainId.version ⟨status.nodeInfo.network⟩, status.syncInfo.latestBlockHeight⟩
  proofSpecs := proofSpecs
  upgradePath := ["upgrade", "upgradedIBCState"]
  allowUpdateAfterExpiry := false
  allowUpdateAfterMisbehaviour := false

section Later

variable {self} {faults rest : List Bool} {chain : Chain}

theorem buildAuthInfo_eq_ok {accountSequence : Nat} {authInfo : AuthInfo}
    (ran : self.buildAuthInfo chain accountSequence faults = (.ok authInfo, rest)) :
    authInfo = self.authInfo chain accountSequence := by
  obtain ⟨_, ran⟩ := fallible_bind_eq_ok ran
  obtain ⟨_, ran⟩ := fallible_bind_eq_ok ran
  cases ran
  rfl

theorem buildSignature_eq_ok {body : TxBody} {authInfo : AuthInfo} {chainId : String}
    {accountNumber : Nat} {signature : Signature SignDoc}
    (ran : self.buildSignature body authInfo chainId accountNumber faults =
      (.ok signature, rest)) :
    signature = ⟨self.mnemonic.signingKey, ⟨body, authInfo, chainId, accountNumber⟩⟩ := by
  obtain ⟨_, ran⟩ := fallible_bind_eq_ok ran
  obtain ⟨_, ran⟩ := fallible_bind_eq_ok ran
  cases ran
  rfl

variable {task : Task} {body : TxBody}

theorem buildConnected_eq_ok {connected : Except Error Unit}
    (ran : self.buildConnected connected chain body faults = (.ok task, rest)) :
    task = .buildAccount chain body (self.mnemonic.address chain.accountPrefix) := by
  obtain ⟨_, _, _, ran⟩ := Action.context_bind_eq_ok ran
  obtain ⟨_, ran⟩ := fallible_bind_eq_ok ran
  cases ran
  rfl

/-- The end of `build`: the account query found an account, and the transaction returned is
`signedTx` of the body the first segment built. -/
theorem buildAccountFetched_eq_ok {account : Except Error (Option (Any BaseAccount))}
    {accountAddress : String}
    (ran : self.buildAccountFetched account chain body accountAddress faults = (.ok task, rest)) :
    ∃ response, account = .ok (some response) ∧
      task = .txDone (.ok (self.signedTx chain body response.value)) := by
  obtain ⟨_, fetched, ran⟩ := Action.ofExcept_bind_eq_ok ran
  obtain ⟨response, found, ran⟩ := Action.okOr_bind_eq_ok ran
  obtain ⟨_, ran⟩ := fallible_bind_eq_ok ran
  obtain ⟨authInfo, _, built, ran⟩ := Action.context_bind_eq_ok ran
  obtain ⟨_, ran⟩ := fallible_bind_eq_ok ran
  obtain ⟨signature, _, signed, ran⟩ := Action.context_bind_eq_ok ran
  cases ran
  rw [buildSignature_eq_ok signed, buildAuthInfo_eq_ok built]
  exact ⟨response, found ▸ fetched, rfl⟩

variable {trustLevel : Option Fraction}

theorem unbondingConnected_eq_ok {connected : Except Error Unit}
    (ran : unbondingConnected connected chain trustLevel faults = (.ok task, rest)) :
    task = .unbondingParams chain trustLevel := by
  obtain ⟨_, _, _, ran⟩ := Action.context_bind_eq_ok ran
  cases ran
  rfl

theorem unbondingParamsFetched_eq_ok {params : Except Error (Option Params)}
    (ran : unbondingParamsFetched params chain trustLevel faults = (.ok task, rest)) :
    ∃ found unbondingPeriod, params = .ok (some found) ∧ found.unbondingTime = some unbondingPeriod ∧
      task = .latestHeightStatus chain trustLevel (some unbondingPeriod) := by
  obtain ⟨_, fetched, ran⟩ := Action.ofExcept_bind_eq_ok ran
  obtain ⟨found, nonEmpty, ran⟩ := Action.okOr_bind_eq_ok ran
  obtain ⟨unbondingPeriod, period, ran⟩ := Action.okOr_bind_eq_ok ran
  cases ran
  exact ⟨found, unbondingPeriod, nonEmpty ▸ fetched, period, rfl⟩

/-- The end of `get_latest_height`: the node was caught up, its height fits a Tendermint
height, and the client state is built from its status. -/
theorem latestHeightFetched_eq_ok {status : Except Error Status}
    {unbondingPeriod : Option Duration}
    (ran : latestHeightFetched status chain trustLevel unbondingPeriod faults = (.ok task, rest)) :
    ∃ response, status = .ok response ∧ response.syncInfo.catchingUp = false ∧
      response.syncInfo.latestBlockHeight < Nat.pow 2 63 ∧
      task = .headerBlock (tendermintClientState chain trustLevel unbondingPeriod response)
        response.syncInfo.latestBlockHeight := by
  obtain ⟨response, fetched, ran⟩ := Action.ofExcept_bind_eq_ok ran
  refine ⟨response, fetched, ?_⟩
  cases caughtUp : response.syncInfo.catchingUp
  · simp only [caughtUp, Bool.false_eq_true, if_false] at ran
    obtain ⟨_, _, _, ran⟩ := Action.bind_eq_ok ran
    obtain ⟨_, ran⟩ := fallible_bind_eq_ok ran
    obtain ⟨_, _, bounded, ran⟩ := Action.bind_eq_ok ran
    unfold blockHeightTryFrom at bounded
    split at bounded
    · cases bounded
      cases ran
      exact ⟨rfl, ‹_›, rfl⟩
    · cases bounded
  · simp only [caughtUp, if_true] at ran
    obtain ⟨_, _, thrown, -⟩ := Action.bind_eq_ok ran
    cases thrown

theorem headerFetched_eq_ok {block : Except Error Block} {clientState : TendermintClientState}
    (ran : headerFetched block clientState faults = (.ok task, rest)) :
    ∃ response, block = .ok response ∧
      task = .clientsDone (.ok (clientState,
        TendermintConsensusState.fromBlockHeader response.header)) := by
  obtain ⟨response, fetched, ran⟩ := Action.ofExcept_bind_eq_ok ran
  cases ran
  exact ⟨response, fetched, rfl⟩

end Later

end TransactionBuilder

end SoloMachine
