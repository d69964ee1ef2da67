import SoloMachine.Segments

/-!
Contract: what one poll of a call does, and what a run of polls does, stated over the whole
task: how far it moves the builder's chain, and which transaction body it carries.

Owns:
- `Task.body?`, the body a task holds (the one it is building, or the one of the transaction
  it returned), with `Task.proofs` and `Task.sequences`, the proofs in that body and the
  sequences they were signed at;
- `Call.increments`: three for `msg_connection_open_ack`, one for `msg_channel_open_ack`,
  none for any other factory;
- `Call.buildsMessage`, the message type each factory hands to `build`;
- the first poll of a call (`start_eq_ok`): when it succeeds, the builder's chain was stored,
  the store moved on by the call's increments, and the body is that of one message of the
  call's type and holds one proof at each sequence the call used;
- every later poll (`resume_cases`): the next stage of the same call, built from the response
  it consumed; it writes nothing and keeps the body (`resume_eq_ok`); and the converses, one
  per stage (`resume_buildConnect_of_connected`, ..., `resume_headerBlock_of_found`): with no
  fault, it goes on whenever the response it reads lets it;
- `poll_bumps`, `poll_sequences` and `run_bumps`, `run_body?`: the same for one poll, which
  may fail, and for a run of polls;
- `poll_later` and `run_later`: a poll of a call past its first segment neither reads nor
  writes the store;
- `Task.isOk`, a call that returned `Ok`: only a run whose every poll succeeded ends there, so
  such a run can be read one poll at a time (`run_of_isOk` in `SoloMachine.Sequence`).

Does not own: the interleaving of several calls (`SoloMachine.Scheduler`).
-/

set_option autoImplicit false

namespace SoloMachine

/-- The transaction body a task holds: the one it is building, or the one of the transaction
it returned. -/
def Task.body? : Task → Option TxBody
  | .buildConnect _ txBodyBytes | .buildAccount _ txBodyBytes _ => some txBodyBytes
  | .txDone (.ok txRaw) => some txRaw.bodyBytes
  | _ => none

/-- The solo-machine proofs a task holds. -/
def Task.proofs (task : Task) : List TimestampedSignatureData :=
  (task.body?.map TxBody.proofs).getD []

/-- The sequences the proofs a task holds were signed at. -/
def Task.sequences (task : Task) : List (Option Nat) := task.proofs.map (·.sequence?)

/-- Whether a task is a call not yet polled. -/
def Task.isStart : Task → Bool
  | .start _ => true
  | _ => false

/-- How many increments of the builder's chain a call's first segment may make. -/
def Call.increments : Call → Nat
  | .msgConnectionOpenAck .. => 3
  | .msgChannelOpenAck .. => 1
  | _ => 0

/-- Whether `message` is of the type a call's factory hands to `build`: `MsgCreateClient` for
`msg_create_solo_machine_client`, `MsgConnectionOpenInit` for `msg_connection_open_init`, and
so on. None is for `msg_create_tendermint_client`, which builds no transaction. -/
def Call.buildsMessage : Call → Msg → Bool
  | .msgCreateSoloMachineClient, .createClient _ | .msgConnectionOpenInit .., .connectionOpenInit _
  | .msgConnectionOpenAck .., .connectionOpenAck _ | .msgChannelOpenInit _, .channelOpenInit _
  | .msgChannelOpenAck .., .channelOpenAck _ => true
  | _, _ => false

/-- Whether a task is a call that returned. -/
def Task.isDone : Task → Bool
  | .txDone _ | .clientsDone _ => true
  | _ => false

/-- Whether a task is a call that returned `Ok`. -/
def Task.isOk : Task → Bool
  | .txDone (.ok _) | .clientsDone (.ok _) => true
  | _ => false

theorem Task.isDone_of_isOk {task : Task} (ok : task.isOk = true) : task.isDone = true := by
  cases task with
  | txDone | clientsDone => rfl
  | _ => cases ok

/-- How many increments of the builder's chain a task's next segment may make. -/
def Task.increments : Task → Nat
  | .start call => call.increments
  | _ => 0

@[simp] theorem Task.sequences_of_body?_none {task : Task} (none : task.body? = none) :
    task.sequences = [] := by
  simp [Task.sequences, Task.proofs, none]

theorem Task.sequences_congr {task other : Task} (same : task.body? = other.body?) :
    task.sequences = other.sequences := by
  simp [Task.sequences, Task.proofs, same]

theorem Task.increments_of_not_isStart {task : Task} (later : task.isStart = false) :
    task.increments = 0 := by
  cases task <;> simp_all [Task.isStart, Task.increments]

@[simp] theorem Task.fail_body? (error : Error) (task : Task) : (task.fail error).body? = none := by
  unfold Task.fail
  split <;> rfl

@[simp] theorem Task.fail_isStart (error : Error) (task : Task) :
    (task.fail error).isStart = false := by
  unfold Task.fail
  split <;> rfl

theorem Task.fail_isDone (error : Error) (task : Task) : (task.fail error).isDone = true := by
  unfold Task.fail
  split <;> rfl

theorem Task.fail_isOk (error : Error) (task : Task) : (task.fail error).isOk = false := by
  unfold Task.fail
  split <;> rfl

namespace TransactionBuilder

variable (self : TransactionBuilder)

/-! ## Segments -/

theorem bumps_start (call : Call) : Bumps self.chainId call.increments (self.start call) := by
  cases call with
  | msgCreateSoloMachineClient => exact self.bumps_msgCreateSoloMachineClient _
  | msgCreateTendermintClient => exact self.bumps_msgCreateTendermintClient _
  | msgConnectionOpenInit => exact self.bumps_msgConnectionOpenInit _ _ _
  | msgConnectionOpenAck => exact self.bumps_msgConnectionOpenAck _ _ _ _
  | msgChannelOpenInit => exact self.bumps_msgChannelOpenInit _ _
  | msgChannelOpenAck => exact self.bumps_msgChannelOpenAck _ _ _

theorem bumps_resume (responses : Responses) (task : Task) :
    Bumps self.chainId task.increments (self.resume responses task) := by
  cases task with
  | start call => exact self.bumps_start call
  | txDone | clientsDone => exact Bumps.pure _
  | _ => exact Bumps.lift _

/-- The first segment of every call, when it succeeds: the builder's chain was stored, the
store moved on by the call's increments, the body holds one proof at each sequence the call
used, in order, and the call is suspended in `build` with the record it holds after its
increments and the body of one message of the call's type, or in `get_unbonding_period`. -/
theorem start_eq_ok {call : Call} {world final : World} {task : Task}
    (ran : self.start call world = (.ok task, final)) :
    ∃ chain, world.chains self.chainId = some chain ∧
      final.chains = world.chains.bump self.chainId call.increments ∧
      task.sequences = (List.range' chain.sequence call.increments).map some ∧
      ((∃ message, call.buildsMessage message ∧
          task = .buildConnect (chain.advance call.increments) (self.txBody [message])) ∨
        ∃ trustLevel, task = .unbondingConnect chain trustLevel) := by
  have unchanged (none : call.increments = 0) :
      final.chains = world.chains.bump self.chainId call.increments := by
    rw [none, ChainStore.bump_zero]
    exact Bumps.chains_eq (none ▸ self.bumps_start call) ran
  cases call with
  | msgCreateSoloMachineClient =>
    obtain ⟨chain, stored, rfl⟩ := msgCreateSoloMachineClient_eq_ok ran
    exact ⟨chain, stored, unchanged rfl, rfl, .inl ⟨_, by rfl, rfl⟩⟩
  | msgCreateTendermintClient =>
    obtain ⟨chain, stored, rfl⟩ := msgCreateTendermintClient_eq_ok ran
    exact ⟨chain, stored, unchanged rfl, rfl, .inr ⟨_, rfl⟩⟩
  | msgConnectionOpenInit =>
    obtain ⟨chain, stored, rfl⟩ := msgConnectionOpenInit_eq_ok ran
    exact ⟨chain, stored, unchanged rfl, rfl, .inl ⟨_, by rfl, rfl⟩⟩
  | msgConnectionOpenAck =>
    obtain ⟨chain, -, -, -, -, stored, -, -, -, -, bumped, rfl⟩ := msgConnectionOpenAck_eq_ok ran
    refine ⟨chain, stored, bumped, ?_, .inl ⟨_, by rfl, rfl⟩⟩
    simp [Task.sequences, Task.proofs, Task.body?, Msg.proofs, connectionOpenAckMessage,
      List.range', Nat.add_assoc]
  | msgChannelOpenInit =>
    obtain ⟨chain, stored, rfl⟩ := msgChannelOpenInit_eq_ok ran
    exact ⟨chain, stored, unchanged rfl, rfl, .inl ⟨_, by rfl, rfl⟩⟩
  | msgChannelOpenAck =>
    obtain ⟨chain, -, stored, -, bumped, rfl⟩ := msgChannelOpenAck_eq_ok ran
    refine ⟨chain, stored, bumped, ?_, .inl ⟨_, by rfl, rfl⟩⟩
    simp [Task.sequences, Task.proofs, Task.body?, Msg.proofs, channelOpenAckMessage,
      List.range']

theorem start_isStart {call : Call} {world final : World} {task : Task}
    (ran : self.start call world = (.ok task, final)) : task.isStart = false := by
  obtain ⟨_, -, -, -, ⟨_, -, rfl⟩ | ⟨_, rfl⟩⟩ := self.start_eq_ok ran <;> rfl

/-- What every later segment can return: the next `.await` of the same call with the locals
live across it, or the call's result. A finished call stays as it is. -/
theorem resume_cases {responses : Responses} {task next : Task} {world final : World}
    (later : task.isStart = false) (ran : self.resume responses task world = (.ok next, final)) :
    (∃ chain body, task = .buildConnect chain body ∧
      next = .buildAccount chain body (self.mnemonic.address chain.accountPrefix)) ∨
    (∃ chain body accountAddress, ∃ response : Any BaseAccount,
      task = .buildAccount chain body accountAddress ∧
      responses.account accountAddress = .ok (some response) ∧
      next = .txDone (.ok (self.signedTx chain body response.value))) ∨
    (∃ chain trustLevel, task = .unbondingConnect chain trustLevel ∧
      next = .unbondingParams chain trustLevel) ∨
    (∃ chain trustLevel, ∃ params : Params, ∃ unbondingPeriod,
      task = .unbondingParams chain trustLevel ∧ responses.params = .ok (some params) ∧
      params.unbondingTime = some unbondingPeriod ∧
      next = .latestHeightStatus chain trustLevel (some unbondingPeriod)) ∨
    (∃ chain trustLevel unbondingPeriod status,
      task = .latestHeightStatus chain trustLevel unbondingPeriod ∧ responses.status = .ok status ∧
      status.syncInfo.catchingUp = false ∧ status.syncInfo.latestBlockHeight < Nat.pow 2 63 ∧
      next = .headerBlock (tendermintClientState chain trustLevel unbondingPeriod status)
        status.syncInfo.latestBlockHeight) ∨
    (∃ clientState height, ∃ block : Block, task = .headerBlock clientState height ∧
      responses.block height = .ok block ∧
      next = .clientsDone
        (.ok (clientState, TendermintConsensusState.fromBlockHeader block.header))) ∨
    (task.isDone = true ∧ next = task) := by
  cases task with
  | start => cases later
  | buildConnect chain body =>
    obtain ⟨ran, -⟩ := lift_eq_ok ran
    exact .inl ⟨chain, body, rfl, buildConnected_eq_ok ran⟩
  | buildAccount chain body accountAddress =>
    obtain ⟨ran, -⟩ := lift_eq_ok ran
    obtain ⟨response, found, rfl⟩ := buildAccountFetched_eq_ok ran
    exact .inr (.inl ⟨chain, body, accountAddress, response, rfl, found, rfl⟩)
  | unbondingConnect chain trustLevel =>
    obtain ⟨ran, -⟩ := lift_eq_ok ran
    exact .inr (.inr (.inl ⟨chain, trustLevel, rfl, unbondingConnected_eq_ok ran⟩))
  | unbondingParams chain trustLevel =>
    obtain ⟨ran, -⟩ := lift_eq_ok ran
    obtain ⟨params, unbondingPeriod, fetched, period, rfl⟩ := unbondingParamsFetched_eq_ok ran
    exact .inr (.inr (.inr (.inl ⟨chain, trustLevel, params, unbondingPeriod, rfl, fetched, period,
      rfl⟩)))
  | latestHeightStatus chain trustLevel unbondingPeriod =>
    obtain ⟨ran, -⟩ := lift_eq_ok ran
    obtain ⟨status, reported, caughtUp, bounded, rfl⟩ := latestHeightFetched_eq_ok ran
    exact .inr (.inr (.inr (.inr (.inl
      ⟨chain, trustLevel, unbondingPeriod, status, rfl, reported, caughtUp, bounded, rfl⟩))))
  | headerBlock clientState height =>
    obtain ⟨ran, -⟩ := lift_eq_ok ran
    obtain ⟨block, fetched, rfl⟩ := headerFetched_eq_ok ran
    exact .inr (.inr (.inr (.inr (.inr (.inl ⟨clientState, height, block, rfl, fetched, rfl⟩)))))
  | txDone | clientsDone =>
    cases ran
    exact .inr (.inr (.inr (.inr (.inr (.inr ⟨rfl, rfl⟩)))))

/-- Every later segment, when it succeeds, suspends again or returns with the body it was
given. -/
theorem resume_eq_ok {responses : Responses} {task next : Task} {world final : World}
    (later : task.isStart = false) (ran : self.resume responses task world = (.ok next, final)) :
    next.isStart = false ∧ next.body? = task.body? := by
  rcases self.resume_cases later ran with ⟨_, _, rfl, rfl⟩ | ⟨_, _, _, _, rfl, -, rfl⟩ |
    ⟨_, _, rfl, rfl⟩ | ⟨_, _, _, _, rfl, -, -, rfl⟩ | ⟨_, _, _, _, rfl, -, -, -, rfl⟩ |
    ⟨_, _, _, rfl, -, rfl⟩ | ⟨-, rfl⟩
  all_goals exact ⟨by assumption, rfl⟩

/-! ## Later segments that go on

The converses of `resume_cases`: with no fault, a later segment goes on whenever the response
it reads lets it. -/

section Converses

variable {self} {responses : Responses} {chains : ChainStore}

theorem resume_buildConnect_of_connected (connected : responses.connect = .ok ()) (chain : Chain)
    (body : TxBody) :
    self.resume responses (.buildConnect chain body) ⟨chains, []⟩ =
      (.ok (.buildAccount chain body (self.mnemonic.address chain.accountPrefix)),
        ⟨chains, []⟩) := by
  simp only [resume, connected]
  rfl

theorem resume_buildAccount_of_found {accountAddress : String} {account : Any BaseAccount}
    (found : responses.account accountAddress = .ok (some account)) (chain : Chain)
    (body : TxBody) :
    self.resume responses (.buildAccount chain body accountAddress) ⟨chains, []⟩ =
      (.ok (.txDone (.ok (self.signedTx chain body account.value))), ⟨chains, []⟩) := by
  simp only [resume, found]
  rfl

theorem resume_unbondingConnect_of_connected (connected : responses.connect = .ok ())
    (chain : Chain) (trustLevel : Option Fraction) :
    self.resume responses (.unbondingConnect chain trustLevel) ⟨chains, []⟩ =
      (.ok (.unbondingParams chain trustLevel), ⟨chains, []⟩) := by
  simp only [resume, connected]
  rfl

theorem resume_unbondingParams_of_found {params : Params} {unbondingPeriod : Duration}
    (fetched : responses.params = .ok (some params))
    (period : params.unbondingTime = some unbondingPeriod) (chain : Chain)
    (trustLevel : Option Fraction) :
    self.resume responses (.unbondingParams chain trustLevel) ⟨chains, []⟩ =
      (.ok (.latestHeightStatus chain trustLevel (some unbondingPeriod)), ⟨chains, []⟩) := by
  simp only [resume, lift_apply, unbondingParamsFetched, fetched, Action.ofExcept,
    Action.bind_apply, Action.okOr, Action.pure, Action.pure_apply, period]

theorem resume_latestHeightStatus_of_caughtUp {status : Status}
    (reported : responses.status = .ok status) (caughtUp : status.syncInfo.catchingUp = false)
    (bounded : status.syncInfo.latestBlockHeight < Nat.pow 2 63) (chain : Chain)
    (trustLevel : Option Fraction) (unbondingPeriod : Option Duration) :
    self.resume responses (.latestHeightStatus chain trustLevel unbondingPeriod) ⟨chains, []⟩ =
      (.ok (.headerBlock (tendermintClientState chain trustLevel unbondingPeriod status)
        status.syncInfo.latestBlockHeight), ⟨chains, []⟩) := by
  simp only [resume, lift_apply, latestHeightFetched, reported, Action.ofExcept, caughtUp,
    Bool.false_eq_true, if_false, blockHeightTryFrom, bounded, if_true, ChainId.parse, fallible,
    Action.bind_apply, Action.pure_apply, Action.pure]
  rfl

theorem resume_headerBlock_of_found {height : Nat} {block : Block}
    (fetched : responses.block height = .ok block) (clientState : TendermintClientState) :
    self.resume responses (.headerBlock clientState height) ⟨chains, []⟩ =
      (.ok (.clientsDone (.ok (clientState, TendermintConsensusState.fromBlockHeader
        block.header))), ⟨chains, []⟩) := by
  simp only [resume, fetched]
  rfl

end Converses

/-! ## One poll -/

variable (responses : Responses) (faults : List Bool) (task : Task) (chains : ChainStore)

theorem poll_isStart : (self.poll responses faults task chains).1.isStart = false := by
  unfold poll
  split
  · rename_i ran
    cases task with
    | start => exact self.start_isStart ran
    | _ => exact self.resume_eq_ok (by rfl) ran |>.1
  · exact Task.fail_isStart _ _

/-- A poll leaves the store at most the task's increments on, whether it succeeds or fails. -/
theorem poll_bumps : ∃ count ≤ task.increments,
    (self.poll responses faults task chains).2 = chains.bump self.chainId count := by
  obtain ⟨count, le, bumped⟩ := self.bumps_resume responses task ⟨chains, faults⟩
  refine ⟨count, le, ?_⟩
  unfold poll
  split <;> simp_all

/-- A later poll keeps the body, or ends the call with none. -/
theorem poll_body? (later : task.isStart = false) :
    (self.poll responses faults task chains).1.body? = task.body? ∨
      (self.poll responses faults task chains).1.body? = none := by
  unfold poll
  split
  · exact .inl (self.resume_eq_ok later ‹_›).2
  · exact .inr (Task.fail_body? _ _)

/-- What one poll does to the proofs a task holds: it keeps some of them and writes nothing,
or it is the first poll of a call that found the chain stored, signed one proof at each
sequence it took and moved the store on by as many. -/
theorem poll_sequences : ∃ count,
    (self.poll responses faults task chains).2 = chains.bump self.chainId count ∧
    ((self.poll responses faults task chains).1.sequences.Sublist task.sequences ∨
      ∃ chain, chains self.chainId = some chain ∧
        (self.poll responses faults task chains).1.sequences =
          task.sequences ++ (List.range' chain.sequence count).map some) := by
  obtain ⟨count, -, bumped⟩ := self.bumps_resume responses task ⟨chains, faults⟩
  unfold poll
  split
  · rename_i next world ran
    rw [ran] at bumped
    cases task with
    | start call =>
      obtain ⟨chain, stored, final, sequences, -⟩ := self.start_eq_ok ran
      exact ⟨call.increments, final, .inr ⟨chain, stored, sequences⟩⟩
    | _ =>
      refine ⟨count, bumped, .inl ?_⟩
      exact Task.sequences_congr (self.resume_eq_ok (by rfl) ran).2 ▸ List.Sublist.refl _
  · rename_i world ran
    rw [ran] at bumped
    exact ⟨count, bumped, .inl (by simp)⟩

theorem poll_of_ok {next : Task} {world : World}
    (ran : self.resume responses task ⟨chains, faults⟩ = (.ok next, world)) :
    self.poll responses faults task chains = (next, world.chains) := by
  simp only [poll, ran]

theorem poll_of_error {error : Error} {world : World}
    (ran : self.resume responses task ⟨chains, faults⟩ = (.error error, world)) :
    self.poll responses faults task chains = (task.fail error, world.chains) := by
  simp only [poll, ran]

/-! ## Runs -/

theorem run_cons (polls : List (Responses × List Bool)) :
    self.run ((responses, faults) :: polls) task chains =
      self.run polls (self.poll responses faults task chains).1
        (self.poll responses faults task chains).2 := rfl

/-- A run leaves the store at most the task's increments on: every increment is made by the
first poll of a call. -/
theorem run_bumps (polls : List (Responses × List Bool)) (task : Task) (chains : ChainStore) :
    ∃ count ≤ task.increments, (self.run polls task chains).2 = chains.bump self.chainId count := by
  induction polls generalizing task chains with
  | nil => exact ⟨0, Nat.zero_le _, (ChainStore.bump_zero _ _).symm⟩
  | cons entry polls inductionHypothesis =>
    obtain ⟨responses, faults⟩ := entry
    obtain ⟨first, firstLe, polled⟩ := self.poll_bumps responses faults task chains
    obtain ⟨more, moreLe, ran⟩ := inductionHypothesis (self.poll responses faults task chains).1
      (self.poll responses faults task chains).2
    rw [Task.increments_of_not_isStart (self.poll_isStart ..), Nat.le_zero] at moreLe
    refine ⟨first, firstLe, ?_⟩
    rw [run_cons, ran, polled, moreLe, ChainStore.bump_zero]

/-- A run from a task whose next segment makes no increment writes nothing. -/
theorem run_unchanged (polls : List (Responses × List Bool)) {task : Task}
    (none : task.increments = 0) (chains : ChainStore) : (self.run polls task chains).2 = chains := by
  obtain ⟨count, le, frame⟩ := self.run_bumps polls task chains
  rw [none, Nat.le_zero] at le
  rw [frame, le, ChainStore.bump_zero]

/-- A run from a later task ends with the body it started with, or with none. -/
theorem run_body? (polls : List (Responses × List Bool)) {task : Task}
    (later : task.isStart = false) (chains : ChainStore) {body : TxBody}
    (holds : (self.run polls task chains).1.body? = some body) : task.body? = some body := by
  induction polls generalizing task chains with
  | nil => exact holds
  | cons entry polls inductionHypothesis =>
    obtain ⟨responses, faults⟩ := entry
    rw [run_cons] at holds
    have polled := inductionHypothesis (self.poll_isStart ..) _ holds
    rcases self.poll_body? responses faults task chains later with same | none
    · rwa [← same]
    · rw [none] at polled
      cases polled

/-! ## Later polls -/

/-- Every segment after the first is a fallible computation lifted into the store: it runs
its own steps and nothing else. -/
theorem resume_eq_lift {task : Task} (later : task.isStart = false) :
    ∃ action : Fallible Task, self.resume responses task = monadLift action := by
  cases task with
  | start => cases later
  | txDone result => exact ⟨pure (.txDone result), rfl⟩
  | clientsDone result => exact ⟨pure (.clientsDone result), rfl⟩
  | _ => exact ⟨_, rfl⟩

/-- A poll of a call past its first segment neither reads nor writes the store: what it does
to the task is the same against every store, and the store stays as it was. -/
theorem poll_later {task : Task} (later : task.isStart = false) (chains other : ChainStore) :
    self.poll responses faults task chains =
      ((self.poll responses faults task other).1, chains) := by
  obtain ⟨action, lifted⟩ := self.resume_eq_lift responses later
  unfold poll
  rw [lifted, lift_apply, lift_apply]
  rcases action faults with ⟨_ | _, _⟩ <;> rfl

/-- Nor does a run of such polls. -/
theorem run_later (polls : List (Responses × List Bool)) {task : Task}
    (later : task.isStart = false) (chains other : ChainStore) :
    self.run polls task chains = ((self.run polls task other).1, chains) := by
  induction polls generalizing task chains other with
  | nil => rfl
  | cons entry polls inductionHypothesis =>
    obtain ⟨responses, faults⟩ := entry
    rw [run_cons, run_cons, self.poll_later responses faults later chains other,
      inductionHypothesis (self.poll_isStart ..) chains]

/-- Running some polls and then more is running them all. -/
theorem run_append (polls more : List (Responses × List Bool)) (task : Task)
    (chains : ChainStore) :
    self.run (polls ++ more) task chains =
      self.run more (self.run polls task chains).1 (self.run polls task chains).2 := by
  induction polls generalizing task chains with
  | nil => rfl
  | cons entry polls inductionHypothesis =>
    obtain ⟨responses, faults⟩ := entry
    exact inductionHypothesis _ _

/-- After at least one poll a call is past its first segment. -/
theorem run_isStart {polls : List (Responses × List Bool)} (polled : polls ≠ []) (task : Task)
    (chains : ChainStore) : (self.run polls task chains).1.isStart = false := by
  induction polls generalizing task chains with
  | nil => exact absurd rfl polled
  | cons entry polls inductionHypothesis =>
    obtain ⟨responses, faults⟩ := entry
    rw [run_cons]
    cases polls with
    | nil => exact self.poll_isStart ..
    | cons => exact inductionHypothesis (List.cons_ne_nil _ _) _ _

variable {self}

/-- A call that returned a transaction: its first poll succeeded with a task holding that
transaction's body, the rest of the run went from that task, and no later poll wrote to the
store. -/
theorem run_start_eq_txDone {polls : List (Responses × List Bool)} {call : Call}
    {chains chains' : ChainStore} {txRaw : TxRaw}
    (ran : self.run polls (.start call) chains = (.txDone (.ok txRaw), chains')) :
    ∃ faults rest task world, self.start call ⟨chains, faults⟩ = (.ok task, world) ∧
      self.run rest task world.chains = (.txDone (.ok txRaw), chains') ∧
      task.body? = some txRaw.bodyBytes ∧ chains' = world.chains := by
  cases polls with
  | nil => cases ran
  | cons entry polls =>
    obtain ⟨responses, faults⟩ := entry
    rw [run_cons] at ran
    rcases started : self.start call ⟨chains, faults⟩ with ⟨_ | task, world⟩
    · rw [self.poll_of_error responses faults (.start call) chains started] at ran
      have failed := self.run_body? polls (Task.fail_isStart _ _) _ (by rw [ran]; rfl)
      rw [Task.fail_body?] at failed
      cases failed
    · rw [self.poll_of_ok responses faults (.start call) chains started] at ran
      have later := self.start_isStart started
      obtain ⟨count, le, frame⟩ := self.run_bumps polls task world.chains
      rw [Task.increments_of_not_isStart later, Nat.le_zero] at le
      rw [ran, le, ChainStore.bump_zero] at frame
      exact ⟨faults, polls, task, world, started, ran,
        self.run_body? polls later _ (by rw [ran]; rfl), frame⟩

variable {polls : List (Responses × List Bool)} {chains chains' : ChainStore} {txRaw : TxRaw}

/-- `msg_connection_open_ack` run alone to a transaction: the builder's chain was stored as
some `chain`, the body is the message built from `chain` and what the query handler holds,
and the store is three increments on. -/
theorem run_msgConnectionOpenAck_eq_txDone {queryHandler : QueryHandler}
    {soloMachineConnectionId : ConnectionId} {tendermintClientId : ClientId}
    {tendermintConnectionId : ConnectionId}
    (ran : self.run polls (.start (.msgConnectionOpenAck queryHandler soloMachineConnectionId
      tendermintClientId tendermintConnectionId)) chains = (.txDone (.ok txRaw), chains')) :
    ∃ chain clientState connection height consensusState,
      chains self.chainId = some chain ∧
      queryHandler.clientStates tendermintClientId = some clientState ∧
      queryHandler.connections tendermintConnectionId = some connection ∧
      clientState.latestHeight = some height ∧
      queryHandler.consensusStates tendermintClientId height = some consensusState ∧
      txRaw.bodyBytes = self.txBody [.connectionOpenAck (self.connectionOpenAckMessage
        soloMachineConnectionId tendermintClientId tendermintConnectionId chain clientState
        connection height consensusState)] ∧
      chains' = chains.bump self.chainId 3 := by
  obtain ⟨_, _, _, world, started, -, body, rfl⟩ := run_start_eq_txDone ran
  obtain ⟨chain, clientState, connection, height, consensusState, stored, foundClient,
    foundConnection, latest, foundConsensus, bumped, rfl⟩ := msgConnectionOpenAck_eq_ok started
  exact ⟨chain, clientState, connection, height, consensusState, stored, foundClient,
    foundConnection, latest, foundConsensus, (Option.some.inj body).symm, bumped⟩

/-- `msg_channel_open_ack` run alone to a transaction: the builder's chain was stored as some
`chain`, the body is the message built from `chain` and the channel end stored under its
port, and the store is one increment on. -/
theorem run_msgChannelOpenAck_eq_txDone {queryHandler : QueryHandler}
    {soloMachineChannelId tendermintChannelId : ChannelId}
    (ran : self.run polls (.start (.msgChannelOpenAck queryHandler soloMachineChannelId
      tendermintChannelId)) chains = (.txDone (.ok txRaw), chains')) :
    ∃ chain channel, chains self.chainId = some chain ∧
      queryHandler.channels chain.portId tendermintChannelId = some channel ∧
      txRaw.bodyBytes = self.txBody [.channelOpenAck
        (self.channelOpenAckMessage soloMachineChannelId tendermintChannelId chain channel)] ∧
      chains' = chains.bump self.chainId 1 := by
  obtain ⟨_, _, _, world, started, -, body, rfl⟩ := run_start_eq_txDone ran
  obtain ⟨chain, channel, stored, foundChannel, bumped, rfl⟩ := msgChannelOpenAck_eq_ok started
  exact ⟨chain, channel, stored, foundChannel, (Option.some.inj body).symm, bumped⟩

/-- `msg_create_solo_machine_client` run alone to a transaction: the body is the message
built from the stored chain. -/
theorem run_msgCreateSoloMachineClient_eq_txDone
    (ran : self.run polls (.start .msgCreateSoloMachineClient) chains =
      (.txDone (.ok txRaw), chains')) :
    ∃ chain, chains self.chainId = some chain ∧
      txRaw.bodyBytes = self.txBody [.createClient (self.createClientMessage chain)] := by
  obtain ⟨_, _, _, world, started, -, body, -⟩ := run_start_eq_txDone ran
  obtain ⟨chain, stored, rfl⟩ := msgCreateSoloMachineClient_eq_ok started
  exact ⟨chain, stored, (Option.some.inj body).symm⟩

end TransactionBuilder

end SoloMachine
