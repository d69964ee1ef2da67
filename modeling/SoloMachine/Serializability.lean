import Mathlib.Data.List.Nodup
import SoloMachine.Scheduler

/-!
Contract: calls on one chain, interleaved by the executor in any order, end as if they had run
one after another, each alone, in the order of their first polls.

Owns:
- `ScheduledPoll` and `System.interleave`: the executor's choices as a schedule, each entry
  naming the call it polls, what that call's `.await` resolved to and which steps fail;
  `System.runAt` runs one call alone, and one poll of it is one `Step`
  (`System.step_eq_runAt`, `System.reachable_interleave`);
- `System.serialize`: the calls a schedule polls, one after another in the order of their
  first polls, each run alone (`TransactionBuilder.run`) with the polls the schedule gave it;
- `System.runAt_comm`: a call past its first segment commutes with every other call, since
  it neither reads nor writes the store (`TransactionBuilder.run_later`);
- `System.interleave_eq_serialize`, and `interleaved_calls_run_serially`: every state a run
  of `Step`s reaches is its schedule's serial run, store and tasks alike.

No lock is needed for this. Every `.await` of a factory lies after its last read of the chain
and its last `increment_sequence`, so the first segment of a call is the only one that
touches the store, and it runs whole. What the other modules prove of a call run alone holds
of it in every interleaving.

Does not own: what a call run alone does (`SoloMachine.Sequence`, `SoloMachine.Attestation`,
`SoloMachine.Tendermint`).
-/

set_option autoImplicit false

namespace SoloMachine

/-- One poll the executor makes: the call it polls, by its place among the calls in flight,
what that call's `.await` resolved to, and which steps of its next segment fail. -/
structure ScheduledPoll where
  index : Nat
  responses : Responses
  faults : List Bool

/-- A call's builder does not depend on how far the call has run. -/
@[simp] theorem Process.builder_task (chainId : ChainId) (process : Process) (task : Task) :
    Process.builder chainId { process with task } = process.builder chainId := rfl

namespace System

variable (chainId : ChainId)

/-- Runs the call at `index` alone for `polls`, from the store as it stands; with no call
there, nothing happens. -/
def runAt (system : System) (index : Nat) (polls : List (Responses × List Bool)) : System :=
  match system.processes[index]? with
  | none => system
  | some process =>
    ⟨((process.builder chainId).run polls process.task system.chains).2,
      system.processes.set index { process with
        task := ((process.builder chainId).run polls process.task system.chains).1 }⟩

/-- The executor's run of a schedule: each poll in turn, against the system the polls before
it left. -/
def interleave (system : System) (schedule : List ScheduledPoll) : System :=
  schedule.foldl (fun system entry =>
    system.runAt chainId entry.index [(entry.responses, entry.faults)]) system

/-- The calls at `order` run one after another, each alone with `polls` of its index. -/
def runEach (system : System) (order : List Nat)
    (polls : Nat → List (Responses × List Bool)) : System :=
  order.foldl (fun system index => system.runAt chainId index (polls index)) system

/-- The calls a schedule polls, in the order of their first poll. -/
def firstPolled (schedule : List ScheduledPoll) : List Nat :=
  schedule.foldl (fun order entry =>
    if entry.index ∈ order then order else order ++ [entry.index]) []

/-- The polls a schedule gives the call at `index`, in order. -/
def pollsOf (schedule : List ScheduledPoll) (index : Nat) : List (Responses × List Bool) :=
  (schedule.filter (·.index == index)).map fun entry => (entry.responses, entry.faults)

/-- The serial run of a schedule: the calls it polls, one after another in the order of
their first poll, each run alone with the polls the schedule gives it. -/
def serialize (system : System) (schedule : List ScheduledPoll) : System :=
  system.runEach chainId (firstPolled schedule) (pollsOf schedule)

/-- The call at `index`, if there is one, is past its first segment. -/
def LaterAt (system : System) (index : Nat) : Prop :=
  ∀ process, system.processes[index]? = some process → process.task.isStart = false

/-! ## Running one call -/

variable {chainId} {system : System} {index : Nat}

theorem runAt_of_none (none : system.processes[index]? = none)
    (polls : List (Responses × List Bool)) : system.runAt chainId index polls = system := by
  simp only [runAt, none]

theorem runAt_of_some {process : Process} (found : system.processes[index]? = some process)
    (polls : List (Responses × List Bool)) :
    system.runAt chainId index polls =
      ⟨((process.builder chainId).run polls process.task system.chains).2,
        system.processes.set index { process with
          task := ((process.builder chainId).run polls process.task system.chains).1 }⟩ := by
  simp only [runAt, found]

theorem runAt_processes_ne {other : Nat} (ne : index ≠ other)
    (polls : List (Responses × List Bool)) :
    (system.runAt chainId index polls).processes[other]? = system.processes[other]? := by
  cases found : system.processes[index]? with
  | none => rw [runAt_of_none found]
  | some process => rw [runAt_of_some found]; exact List.getElem?_set_ne ne

theorem runAt_append (polls more : List (Responses × List Bool)) :
    system.runAt chainId index (polls ++ more) =
      (system.runAt chainId index polls).runAt chainId index more := by
  cases found : system.processes[index]? with
  | none => rw [runAt_of_none found, runAt_of_none found, runAt_of_none found]
  | some process =>
    have bound := (List.getElem?_eq_some_iff.mp found).1
    rw [runAt_of_some found, runAt_of_some found]
    simp only [runAt, List.getElem?_set_self bound, Process.builder_task,
      TransactionBuilder.run_append, List.set_set]

theorem laterAt_runAt {polls : List (Responses × List Bool)} (polled : polls ≠ []) :
    (system.runAt chainId index polls).LaterAt index := by
  intro process found
  cases stored : system.processes[index]? with
  | none => rw [runAt_of_none stored, stored] at found; cases found
  | some original =>
    rw [runAt_of_some stored, List.getElem?_set_self (List.getElem?_eq_some_iff.mp stored).1]
      at found
    cases found
    exact (original.builder chainId).run_isStart polled _ _

theorem LaterAt.runAt {other : Nat} (later : system.LaterAt other) (ne : index ≠ other)
    (polls : List (Responses × List Bool)) : (system.runAt chainId index polls).LaterAt other :=
  fun process found => later process (runAt_processes_ne ne polls ▸ found)

/-- A call past its first segment and another call, run alone in either order, end the
same: the first neither reads nor writes the store. -/
theorem runAt_comm {other : Nat} (later : system.LaterAt index) (ne : index ≠ other)
    (polls more : List (Responses × List Bool)) :
    (system.runAt chainId index polls).runAt chainId other more =
      (system.runAt chainId other more).runAt chainId index polls := by
  cases found : system.processes[index]? with
  | none => rw [runAt_of_none found, runAt_of_none ((runAt_processes_ne ne.symm more).trans found)]
  | some process =>
    cases foundOther : system.processes[other]? with
    | none =>
      rw [runAt_of_none foundOther,
        runAt_of_none ((runAt_processes_ne ne polls).trans foundOther)]
    | some otherProcess =>
      have frame := (process.builder chainId).run_later polls (later process found)
      have unchanged := congrArg Prod.snd (frame system.chains system.chains)
      rw [runAt_of_some found, runAt_of_some foundOther]
      simp only [runAt, List.getElem?_set_ne ne, List.getElem?_set_ne ne.symm, found, foundOther,
        Process.builder_task]
      rw [unchanged, frame ((otherProcess.builder chainId).run more otherProcess.task
        system.chains).2 system.chains, List.set_comm _ _ _ ne]

/-! ## Calls run one after another -/

theorem runEach_append (system : System) (order more : List Nat)
    (polls : Nat → List (Responses × List Bool)) :
    system.runEach chainId (order ++ more) polls =
      (system.runEach chainId order polls).runEach chainId more polls :=
  List.foldl_append _ _ _ _

theorem runEach_cons (system : System) (index : Nat) (order : List Nat)
    (polls : Nat → List (Responses × List Bool)) :
    system.runEach chainId (index :: order) polls =
      (system.runAt chainId index (polls index)).runEach chainId order polls := rfl

theorem runEach_congr {order : List Nat} {polls other : Nat → List (Responses × List Bool)}
    (agree : ∀ index ∈ order, polls index = other index) (system : System) :
    system.runEach chainId order polls = system.runEach chainId order other :=
  List.foldl_ext _ _ _ fun _ index member => by rw [agree index member]

/-- A call past its first segment commutes with calls run alone after it, none of them it. -/
theorem runEach_runAt_comm {order : List Nat} {polls : Nat → List (Responses × List Bool)}
    (later : system.LaterAt index) (outside : index ∉ order)
    (more : List (Responses × List Bool)) :
    (system.runAt chainId index more).runEach chainId order polls =
      (system.runEach chainId order polls).runAt chainId index more := by
  induction order generalizing system with
  | nil => rfl
  | cons other order inductionHypothesis =>
    have ne : index ≠ other := fun same => outside (same ▸ List.mem_cons_self _ _)
    rw [runEach_cons, runEach_cons, runAt_comm later ne]
    exact inductionHypothesis (later.runAt ne.symm _)
      fun member => outside (List.mem_cons_of_mem _ member)

/-! ## Schedules -/

theorem interleave_append_singleton (system : System) (schedule : List ScheduledPoll)
    (entry : ScheduledPoll) :
    system.interleave chainId (schedule ++ [entry]) =
      (system.interleave chainId schedule).runAt chainId entry.index
        [(entry.responses, entry.faults)] := by
  simp only [interleave, List.foldl_append, List.foldl_cons, List.foldl_nil]

theorem firstPolled_append_singleton (schedule : List ScheduledPoll) (entry : ScheduledPoll) :
    firstPolled (schedule ++ [entry]) =
      if entry.index ∈ firstPolled schedule then firstPolled schedule
      else firstPolled schedule ++ [entry.index] := by
  simp only [firstPolled, List.foldl_append, List.foldl_cons, List.foldl_nil]

theorem pollsOf_append_singleton (schedule : List ScheduledPoll) (entry : ScheduledPoll)
    (index : Nat) :
    pollsOf (schedule ++ [entry]) index = pollsOf schedule index ++
      if entry.index = index then [(entry.responses, entry.faults)] else [] := by
  by_cases same : entry.index = index <;> simp [pollsOf, same]

/-- The calls a schedule first polls are the ones it gives polls to. -/
theorem mem_firstPolled (schedule : List ScheduledPoll) (index : Nat) :
    index ∈ firstPolled schedule ↔ pollsOf schedule index ≠ [] := by
  induction schedule using List.reverseRecOn with
  | nil => simp [firstPolled, pollsOf]
  | append_singleton schedule entry inductionHypothesis =>
    rw [firstPolled_append_singleton, pollsOf_append_singleton]
    by_cases same : entry.index = index
    · subst same
      split <;> simp_all
    · have other : index ≠ entry.index := Ne.symm same
      split <;> simp_all

theorem nodup_firstPolled (schedule : List ScheduledPoll) : (firstPolled schedule).Nodup := by
  induction schedule using List.reverseRecOn with
  | nil => exact List.nodup_nil
  | append_singleton schedule entry inductionHypothesis =>
    rw [firstPolled_append_singleton]
    split
    · exact inductionHypothesis
    · exact inductionHypothesis.append (List.nodup_singleton _)
        (List.disjoint_singleton.mpr ‹_›)

/-- One more poll at the end of a schedule is one more poll of its call at the end of the
serial run: the call's first poll if the schedule had not polled it yet, else a poll past its
first segment, which commutes with the calls after it. -/
theorem serialize_append_singleton (system : System) (schedule : List ScheduledPoll)
    (entry : ScheduledPoll) :
    system.serialize chainId (schedule ++ [entry]) =
      (system.serialize chainId schedule).runAt chainId entry.index
        [(entry.responses, entry.faults)] := by
  have others (index : Nat) (ne : index ≠ entry.index) :
      pollsOf (schedule ++ [entry]) index = pollsOf schedule index := by
    rw [pollsOf_append_singleton, if_neg (Ne.symm ne), List.append_nil]
  have own : pollsOf (schedule ++ [entry]) entry.index =
      pollsOf schedule entry.index ++ [(entry.responses, entry.faults)] := by
    rw [pollsOf_append_singleton, if_pos rfl]
  unfold serialize
  rw [firstPolled_append_singleton]
  split
  · rename_i polled
    obtain ⟨before, after, split⟩ := List.append_of_mem polled
    have distinct := nodup_firstPolled schedule
    rw [split, List.nodup_append, List.nodup_cons] at distinct
    obtain ⟨-, ⟨outsideAfter, -⟩, disjoint⟩ := distinct
    have outsideBefore : entry.index ∉ before := fun member =>
      disjoint member (List.mem_cons_self _ _)
    rw [split, runEach_append, runEach_append, runEach_cons, runEach_cons, own, runAt_append,
      runEach_congr (fun index member => others index fun same => outsideBefore (same ▸ member)),
      runEach_congr (fun index member => others index fun same => outsideAfter (same ▸ member)),
      runEach_runAt_comm (laterAt_runAt ((mem_firstPolled _ _).mp polled)) outsideAfter]
  · rename_i fresh
    have empty : pollsOf schedule entry.index = [] := by
      by_contra polled
      exact fresh ((mem_firstPolled _ _).mpr polled)
    rw [runEach_append, runEach_congr (fun index member => others index fun same =>
      fresh (same ▸ member)), runEach_cons, own, empty]
    rfl

/-- Every schedule ends as its serial run. -/
theorem interleave_eq_serialize (system : System) (schedule : List ScheduledPoll) :
    system.interleave chainId schedule = system.serialize chainId schedule := by
  induction schedule using List.reverseRecOn with
  | nil => rfl
  | append_singleton schedule entry inductionHypothesis =>
    rw [interleave_append_singleton, inductionHypothesis, serialize_append_singleton]

/-- One `Step` is one poll of a schedule. -/
theorem step_eq_runAt {system next : System} (step : Step chainId system next) :
    ∃ entry : ScheduledPoll,
      next = system.runAt chainId entry.index [(entry.responses, entry.faults)] := by
  cases step with
  | poll chains before after process responses faults =>
    have found : (before ++ process :: after)[before.length]? = some process := by
      rw [List.getElem?_append_right (Nat.le_refl _), Nat.sub_self, List.getElem?_cons_zero]
    refine ⟨⟨before.length, responses, faults⟩, ?_⟩
    simp only [runAt, found, TransactionBuilder.run_cons, TransactionBuilder.run,
      List.set_append_right _ _ (Nat.le_refl _), Nat.sub_self, List.set_cons_zero]

/-- Every run of `Step`s is the run of a schedule. -/
theorem reachable_interleave {system later : System}
    (steps : Relation.ReflTransGen (Step chainId) system later) :
    ∃ schedule, later = system.interleave chainId schedule := by
  induction steps with
  | refl => exact ⟨[], rfl⟩
  | tail _ step inductionHypothesis =>
    obtain ⟨schedule, rfl⟩ := inductionHypothesis
    obtain ⟨entry, rfl⟩ := step_eq_runAt step
    exact ⟨schedule ++ [entry], (interleave_append_singleton _ _ _).symm⟩

end System

/-- Calls on one chain, their segments interleaved by the executor in any order, with any
value at each `.await` and any step failing, end exactly as if they had run one after
another: every state a run of `Step`s reaches is the run of a schedule, and equals that
schedule's serial run, the calls in the order of their first polls, each alone with the polls
it was given. The store and the task of every call agree. -/
theorem interleaved_calls_run_serially {chainId : ChainId} {system later : System}
    (steps : Relation.ReflTransGen (Step chainId) system later) :
    ∃ schedule, later = system.interleave chainId schedule ∧
      later = system.serialize chainId schedule := by
  obtain ⟨schedule, reached⟩ := System.reachable_interleave steps
  exact ⟨schedule, reached, reached.trans (System.interleave_eq_serialize system schedule)⟩

/-- The scenario's two acknowledgements, the channel-open-ack first polled between the
connection-open-ack's first and second polls. -/
theorem scenario_interleaved_acks_run_serially :
    ∃ later, Relation.ReflTransGen (Step scenarioChain.id)
        (System.init scenarioChains scenarioCalls) later ∧
      ∃ schedule, later = (System.init scenarioChains scenarioCalls).interleave
          scenarioChain.id schedule ∧
        later = (System.init scenarioChains scenarioCalls).serialize scenarioChain.id schedule :=
  let reached : Relation.ReflTransGen (Step scenarioChain.id)
      (System.init scenarioChains scenarioCalls) _ := (((Relation.ReflTransGen.refl).tail
    (Step.poll _ [] [_] _ scenarioResponses [])).tail
    (Step.poll _ [_] [] _ scenarioResponses [])).tail
    (Step.poll _ [] [_] _ scenarioResponses [])
  ⟨_, reached, interleaved_calls_run_serially reached⟩

end SoloMachine
