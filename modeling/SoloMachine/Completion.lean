import SoloMachine.Serializability

/-!
Contract: how many polls a factory call takes to return, whatever its `.await`s resolve to and
whichever of its steps fail.

Owns: `Call.awaits`, the `.await`s on a call's path; `Task.pollsLeft`, at most how many more
polls a task takes, which every poll lowers by one (`TransactionBuilder.poll_pollsLeft`) and a
run by its length (`TransactionBuilder.run_pollsLeft`); and `calls_return_within_their_awaits`:
no call retries or loops, each has returned after one poll more than it has `.await`s.
Across calls: `System.pollsLeftAt`, the same count for the call at an index, which a poll of
that call lowers and a poll of any other leaves alone (`System.pollsLeftAt_runAt`,
`System.pollsLeftAt_runAt_ne`), so a schedule lowers it by the polls it gives that call
(`System.pollsLeftAt_interleave`); and `interleaved_calls_return_within_their_awaits`: no call
waits for another, each has returned once the executor has polled it one time more than it
has `.await`s, whatever the other calls' segments between.

Does not own: which result the call returns (`SoloMachine.Sequence`, `SoloMachine.Tendermint`).
-/

set_option autoImplicit false

namespace SoloMachine

/-- The `.await`s on a call's path: `AuthQueryClient::connect` and `query_client.account` of
`build` for the five factories that build a transaction; the staking connection, the params
query, `rpc_client.status()` and `rpc_client.block(..)` for `msg_create_tendermint_client`. -/
def Call.awaits : Call → Nat
  | .msgCreateTendermintClient => 4
  | _ => 2

/-- At most how many more polls a task takes to return: one for each `.await` still ahead of
it, and one for the segment after the last. -/
def Task.pollsLeft : Task → Nat
  | .start call => call.awaits + 1
  | .unbondingConnect .. => 4
  | .unbondingParams .. => 3
  | .buildConnect .. | .latestHeightStatus .. => 2
  | .buildAccount .. | .headerBlock .. => 1
  | .txDone _ | .clientsDone _ => 0

theorem Task.pollsLeft_eq_zero {task : Task} : task.pollsLeft = 0 ↔ task.isDone = true := by
  cases task <;> simp [Task.pollsLeft, Task.isDone]

namespace TransactionBuilder

variable (self : TransactionBuilder)

theorem start_pollsLeft {call : Call} {world final : World} {task : Task}
    (ran : self.start call world = (.ok task, final)) : task.pollsLeft = call.awaits := by
  cases call with
  | msgCreateSoloMachineClient =>
    obtain ⟨_, -, rfl⟩ := msgCreateSoloMachineClient_eq_ok ran; rfl
  | msgCreateTendermintClient => obtain ⟨_, -, rfl⟩ := msgCreateTendermintClient_eq_ok ran; rfl
  | msgConnectionOpenInit => obtain ⟨_, -, rfl⟩ := msgConnectionOpenInit_eq_ok ran; rfl
  | msgConnectionOpenAck =>
    obtain ⟨_, _, _, _, _, -, -, -, -, -, -, rfl⟩ := msgConnectionOpenAck_eq_ok ran; rfl
  | msgChannelOpenInit => obtain ⟨_, -, rfl⟩ := msgChannelOpenInit_eq_ok ran; rfl
  | msgChannelOpenAck => obtain ⟨_, _, -, -, -, rfl⟩ := msgChannelOpenAck_eq_ok ran; rfl

/-- Every poll brings a task one poll nearer its return, or ends it. -/
theorem poll_pollsLeft (responses : Responses) (faults : List Bool) (task : Task)
    (chains : ChainStore) :
    (self.poll responses faults task chains).1.pollsLeft ≤ task.pollsLeft - 1 := by
  rcases resumed : self.resume responses task ⟨chains, faults⟩ with ⟨_ | next, world⟩
  · rw [self.poll_of_error responses faults task chains resumed,
      Task.pollsLeft_eq_zero.mpr (Task.fail_isDone _ _)]
    exact Nat.zero_le _
  · rw [self.poll_of_ok responses faults task chains resumed]
    cases started : task.isStart
    · rcases self.resume_cases started resumed with ⟨_, _, rfl, rfl⟩ |
        ⟨_, _, _, _, rfl, -, rfl⟩ | ⟨_, _, rfl, rfl⟩ | ⟨_, _, _, _, rfl, -, -, rfl⟩ |
        ⟨_, _, _, _, rfl, -, -, -, rfl⟩ | ⟨_, _, _, rfl, -, rfl⟩ | ⟨done, rfl⟩
      all_goals try exact Nat.le_refl _
      simp only [Task.pollsLeft_eq_zero.mpr done, Nat.zero_le]
    · cases task with
      | start call =>
        rw [self.start_pollsLeft resumed]
        exact Nat.le_refl _
      | _ => cases started

/-- A run brings a task as many polls nearer its return as it has polls. -/
theorem run_pollsLeft (polls : List (Responses × List Bool)) (task : Task) (chains : ChainStore) :
    (self.run polls task chains).1.pollsLeft ≤ task.pollsLeft - polls.length := by
  induction polls generalizing task chains with
  | nil => exact Nat.le_refl _
  | cons entry polls inductionHypothesis =>
    obtain ⟨responses, faults⟩ := entry
    have polled := self.poll_pollsLeft responses faults task chains
    have rest := inductionHypothesis (self.poll responses faults task chains).1
      (self.poll responses faults task chains).2
    rw [run_cons, List.length_cons]
    omega

end TransactionBuilder

/-- No factory call retries or loops: it passes each of its `.await`s at most once, so
whatever they resolve to and whichever steps fail, it has returned after one poll more than it
has `.await`s: three polls for the five factories that build a transaction, five for
`msg_create_tendermint_client`. -/
theorem calls_return_within_their_awaits {self : TransactionBuilder} {call : Call}
    {polls : List (Responses × List Bool)} (enough : call.awaits + 1 ≤ polls.length)
    (chains : ChainStore) : (self.run polls (.start call) chains).1.isDone = true := by
  have left : _ ≤ call.awaits + 1 - polls.length := self.run_pollsLeft polls (.start call) chains
  exact Task.pollsLeft_eq_zero.mp (by omega)

theorem scenario_failed_ack_returns_within_its_awaits :
    (scenarioBuilder.run
      [(scenarioResponses, []), (noAccountResponses, []), (noAccountResponses, [])]
      (.start (.msgConnectionOpenAck scenarioQueryHandler ⟨"connection-0"⟩
        ⟨"07-tendermint-0"⟩ ⟨"connection-0"⟩)) scenarioChains).1.isDone = true :=
  calls_return_within_their_awaits (by decide) scenarioChains

/-! ## Across interleaved calls -/

namespace System

variable {chainId : ChainId}

/-- At most how many more polls the call at `index` takes to return; none where there is no
call. -/
def pollsLeftAt (system : System) (index : Nat) : Nat :=
  (system.processes[index]?.map (·.task.pollsLeft)).getD 0

theorem pollsLeftAt_of_some {system : System} {index : Nat} {process : Process}
    (found : system.processes[index]? = some process) :
    system.pollsLeftAt index = process.task.pollsLeft := by
  simp only [pollsLeftAt, found, Option.map_some', Option.getD_some]

theorem length_runAt (system : System) (index : Nat) (polls : List (Responses × List Bool)) :
    (system.runAt chainId index polls).processes.length = system.processes.length := by
  cases found : system.processes[index]? with
  | none => rw [runAt_of_none found]
  | some process => rw [runAt_of_some found]; exact List.length_set ..

theorem length_interleave (system : System) (schedule : List ScheduledPoll) :
    (system.interleave chainId schedule).processes.length = system.processes.length := by
  induction schedule generalizing system with
  | nil => rfl
  | cons entry schedule inductionHypothesis =>
    exact (inductionHypothesis _).trans (length_runAt _ _ _)

/-- Running the call at `index` alone brings it as many polls nearer its return as it is
given. -/
theorem pollsLeftAt_runAt (system : System) (index : Nat)
    (polls : List (Responses × List Bool)) :
    (system.runAt chainId index polls).pollsLeftAt index ≤
      system.pollsLeftAt index - polls.length := by
  cases found : system.processes[index]? with
  | none => simp [runAt_of_none found, pollsLeftAt, found]
  | some process =>
    rw [runAt_of_some found, pollsLeftAt_of_some found, pollsLeftAt_of_some
      (List.getElem?_set_self (List.getElem?_eq_some_iff.mp found).1)]
    exact (process.builder chainId).run_pollsLeft polls process.task system.chains

/-- Running another call leaves the call at `other` where it was. -/
theorem pollsLeftAt_runAt_ne {index other : Nat} (ne : index ≠ other) (system : System)
    (polls : List (Responses × List Bool)) :
    (system.runAt chainId index polls).pollsLeftAt other = system.pollsLeftAt other := by
  unfold pollsLeftAt
  rw [runAt_processes_ne ne polls]

/-- A schedule brings the call at `index` as many polls nearer its return as it polls it,
whatever it polls between. -/
theorem pollsLeftAt_interleave (system : System) (schedule : List ScheduledPoll) (index : Nat) :
    (system.interleave chainId schedule).pollsLeftAt index ≤
      system.pollsLeftAt index - (pollsOf schedule index).length := by
  induction schedule using List.reverseRecOn with
  | nil => exact Nat.le_refl _
  | append_singleton schedule entry inductionHypothesis =>
    rw [interleave_append_singleton, pollsOf_append_singleton, List.length_append]
    by_cases same : entry.index = index
    · subst same
      have polled := @pollsLeftAt_runAt chainId (system.interleave chainId schedule) entry.index
        [(entry.responses, entry.faults)]
      rw [if_pos rfl]
      omega
    · rw [if_neg same, pollsLeftAt_runAt_ne same]
      exact inductionHypothesis

end System

/-- No call waits for another: the executor interleaving calls on one chain in any order, with
any value at each `.await` and any step failing, each call has returned once it has been
polled one time more than it has `.await`s, however many segments of other calls ran
between. -/
theorem interleaved_calls_return_within_their_awaits {chainId : ChainId} {chains : ChainStore}
    {calls : List (Mnemonic × String × Call)} {index : Nat} {mnemonic : Mnemonic}
    {memo : String} {call : Call} (member : calls[index]? = some (mnemonic, memo, call))
    {schedule : List ScheduledPoll}
    (enough : call.awaits + 1 ≤ (System.pollsOf schedule index).length) :
    ∃ process, ((System.init chains calls).interleave chainId schedule).processes[index]? =
      some process ∧ process.task.isDone = true := by
  have started : (System.init chains calls).processes[index]? =
      some ⟨mnemonic, memo, .start call⟩ := by
    simp [System.init, member]
  have bound : index < ((System.init chains calls).interleave chainId schedule).processes.length :=
    (System.length_interleave _ schedule).symm ▸ (List.getElem?_eq_some_iff.mp started).1
  have left := @System.pollsLeftAt_interleave chainId (System.init chains calls) schedule index
  rw [System.pollsLeftAt_of_some started,
    System.pollsLeftAt_of_some (List.getElem?_eq_getElem bound)] at left
  have fresh : (⟨mnemonic, memo, .start call⟩ : Process).task.pollsLeft = call.awaits + 1 := rfl
  exact ⟨_, List.getElem?_eq_getElem bound, Task.pollsLeft_eq_zero.mp (by omega)⟩

/-- The scenario's two acks interleaved, each polled three times, the connection-open-ack
first and its node holding no account for the signer: the channel-open-ack has returned. -/
theorem scenario_interleaved_acks_return :
    ∃ process, ((System.init scenarioChains scenarioCalls).interleave scenarioChain.id
      [⟨0, scenarioResponses, []⟩, ⟨1, scenarioResponses, []⟩,
        ⟨0, noAccountResponses, []⟩, ⟨1, scenarioResponses, []⟩,
        ⟨0, noAccountResponses, []⟩, ⟨1, scenarioResponses, []⟩]).processes[1]? =
      some process ∧ process.task.isDone = true :=
  interleaved_calls_return_within_their_awaits rfl (by decide)

end SoloMachine
