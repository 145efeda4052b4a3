import NodeConsole.Proofs.Input.Loss

/-!
# The queue of events

Keys and ticks wait in one queue, filled by the terminal, by the clock and by whoever else queues an
event, and emptied from its start. `operations_keepKeys` says of every run that at most one tick
waits, that the source knows whether one does, and that the keys come out as they went in. The
invariant of a run is `Ledger.IsBalanced`.
-/

namespace NodeConsole.Input

/-- The key that an event is. -/
def Event.key? : Event → Option Key
  | key pressed => some pressed
  | _ => none

/-- The keys among events. -/
def keysOf (events : List Event) : List Key :=
  events.filterMap Event.key?

namespace Source

/-- Taking the first event of a queue: a tick that is taken waits no longer. -/
theorem next?_cons {source : Source} {event : Event} {rest : List Event}
    (waiting : source.queue = event :: rest) :
    source.next? = some (event,
      { source with queue := rest, tickQueued := source.tickQueued && !event.isTick }) := by
  unfold next?
  rw [waiting]
  cases event with
  | tick => simp [Event.isTick]
  | key pressed => simp [Event.isTick]
  | foreign value => simp [Event.isTick]

/-- What is done with a source: an event is queued, the terminal delivers bytes or is silent, or the
first event is taken. -/
inductive Operation where
  | push (event : Event)
  | hear (arrival : Arrival)
  | take

/-- The source after an operation. Nothing is taken from an empty queue, and bytes that are refused
queue nothing. -/
def perform (source : Source) : Operation → Source
  | .push event => source.push event
  | .hear arrival => source.after arrival
  | .take => (source.next?.map (·.2)).getD source

/-- The events that an operation offers to the queue: the terminal offers the keys of the text that
is released. -/
def offered (source : Source) : Operation → List Event
  | .push event => [event]
  | .hear arrival => (keysIfRead (source.released arrival)).map .key
  | .take => []

/-- The events that an operation takes from the queue. -/
def taken (source : Source) : Operation → List Event
  | .take => (source.next?.map (·.1)).toList
  | _ => []

/-- An arrival leaves it to the clock whether a tick waits. -/
theorem tickQueued_after (source : Source) (arrival : Arrival) :
    (source.after arrival).tickQueued = source.tickQueued := by
  cases arrival with
  | bytes read =>
    simp only [Source.after, Source.receive, Source.feed]
    split <;> rfl
  | silence =>
    simp only [Source.after, Source.receive, Source.flush]
    split <;> rfl

end Source

/-- A source with all events that have been offered to its queue, and all that have been taken. -/
structure Ledger where
  source : Source := {}
  offered : List Event := []
  taken : List Event := []

namespace Ledger

open Source (Operation)

/-- Adds an operation. -/
def add (ledger : Ledger) (operation : Operation) : Ledger where
  source := ledger.source.perform operation
  offered := ledger.offered ++ ledger.source.offered operation
  taken := ledger.taken ++ ledger.source.taken operation

/-- The ledger of a run of operations on a new source. -/
def of (operations : List Operation) : Ledger :=
  operations.foldl add {}

/-- The events that have gone into the queue: those taken from it and those that wait. -/
def queued (ledger : Ledger) : List Event :=
  ledger.taken ++ ledger.source.queue

/-- The source knows whether a tick waits, and no second one does; all keys that were offered have
gone into the queue, in order, and nothing that was not offered. -/
structure IsBalanced (ledger : Ledger) : Prop where
  ticks : ledger.source.queue.countP Event.isTick = if ledger.source.tickQueued then 1 else 0
  keys : keysOf ledger.queued = keysOf ledger.offered
  offered : ledger.queued.Sublist ledger.offered

variable {ledger : Ledger}

/-- Events that are no ticks go into the queue. -/
theorem IsBalanced.append (balanced : ledger.IsBalanced) {next : Source} {events : List Event}
    (noTick : events.countP Event.isTick = 0) (queue : next.queue = ledger.source.queue ++ events)
    (flag : next.tickQueued = ledger.source.tickQueued) :
    IsBalanced ⟨next, ledger.offered ++ events, ledger.taken ++ []⟩ := by
  have queued : queued ⟨next, ledger.offered ++ events, ledger.taken ++ []⟩ =
      ledger.queued ++ events := by
    simp [Ledger.queued, queue]
  constructor
  · rw [queue, flag, List.countP_append, noTick, Nat.add_zero]
    exact balanced.ticks
  · rw [queued, keysOf, keysOf, List.filterMap_append, List.filterMap_append]
    exact congrArg (· ++ _) balanced.keys
  · rw [queued]
    exact balanced.offered.append_right events

/-- A tick goes into the queue, unless one waits there. -/
theorem IsBalanced.push_tick (balanced : ledger.IsBalanced) :
    (ledger.add (.push .tick)).IsBalanced := by
  have noKey : keysOf [Event.tick] = [] := rfl
  cases waits : ledger.source.tickQueued with
  | true =>
    have same : ledger.add (.push .tick) =
        ⟨ledger.source, ledger.offered ++ [.tick], ledger.taken ++ []⟩ := by
      simp [add, Source.perform, Source.push, Source.offered, Source.taken, waits]
    have queued : (ledger.add (.push .tick)).queued = ledger.queued := by
      simp [Ledger.queued, same]
    constructor
    · rw [same]
      exact balanced.ticks
    · rw [queued, balanced.keys, same, keysOf, keysOf, List.filterMap_append]
      exact (List.append_nil _).symm
    · rw [queued, same]
      exact balanced.offered.trans (List.sublist_append_left _ _)
  | false =>
    have pushed : ledger.source.push .tick =
        { ledger.source with queue := ledger.source.queue ++ [.tick], tickQueued := true } := by
      simp [Source.push, waits]
    have queued : (ledger.add (.push .tick)).queued = ledger.queued ++ [.tick] := by
      simp [Ledger.queued, add, Source.perform, Source.taken, pushed]
    constructor
    · have before := balanced.ticks
      simp only [waits, Bool.false_eq_true, if_false] at before
      simp [add, Source.perform, pushed, before, Event.isTick]
    · rw [queued]
      simp only [keysOf, add, Source.offered, List.filterMap_append]
      exact congrArg (· ++ _) balanced.keys
    · rw [queued]
      exact balanced.offered.append_right [.tick]

/-- What is taken has been in the queue. -/
theorem IsBalanced.take (balanced : ledger.IsBalanced) : (ledger.add .take).IsBalanced := by
  cases waiting : ledger.source.queue with
  | nil =>
    have same : ledger.add .take = ledger := by
      simp [Ledger.add, Source.perform, Source.taken, Source.offered, Source.next?, waiting]
    rwa [same]
  | cons event rest =>
    have next := Source.next?_cons waiting
    have offered : (ledger.add .take).offered = ledger.offered := List.append_nil _
    have queued : (ledger.add .take).queued = ledger.queued := by
      simp [Ledger.queued, Ledger.add, Source.perform, Source.taken, next, waiting]
    refine ⟨?_, by rw [queued, offered, balanced.keys],
      by rw [queued, offered]; exact balanced.offered⟩
    have before := balanced.ticks
    rw [waiting, List.countP_cons] at before
    simp only [Ledger.add, Source.perform, next, Option.map_some, Option.getD_some]
    cases isTick : event.isTick with
    | true =>
      -- The tick that is taken is the only one, so that none waits after it.
      rw [isTick] at before
      simp only [Bool.not_true, Bool.and_false, Bool.false_eq_true, if_false, if_true] at before ⊢
      split at before <;> omega
    | false => simpa [isTick] using before

/-- An operation keeps a ledger balanced. -/
theorem IsBalanced.add (balanced : ledger.IsBalanced) (operation : Operation) :
    (ledger.add operation).IsBalanced := by
  cases operation with
  | push event =>
    cases event with
    | tick => exact balanced.push_tick
    | key pressed => exact balanced.append rfl rfl rfl
    | foreign value => exact balanced.append rfl rfl rfl
  | hear arrival =>
    refine balanced.append ?_ (ledger.source.queue_after arrival)
      (ledger.source.tickQueued_after arrival)
    simp [Source.offered, Event.isTick, List.countP_eq_zero]
  | take => exact balanced.take

/-- Every ledger of a run is balanced. -/
theorem isBalanced_of (operations : List Operation) : (of operations).IsBalanced := by
  suffices all : ∀ ledger : Ledger, ledger.IsBalanced →
      (operations.foldl Ledger.add ledger).IsBalanced by
    exact all {} ⟨rfl, rfl, .slnil⟩
  induction operations with
  | nil => exact fun _ balanced => balanced
  | cons operation rest inductionHypothesis =>
    exact fun ledger balanced => inductionHypothesis _ (balanced.add operation)

/-- The source knows whether a tick waits. -/
theorem IsBalanced.tick_mem_iff (balanced : ledger.IsBalanced) :
    Event.tick ∈ ledger.source.queue ↔ ledger.source.tickQueued = true := by
  have counted := balanced.ticks
  constructor
  · intro waits
    have positive : 0 < ledger.source.queue.countP Event.isTick :=
      List.countP_pos_iff.mpr ⟨.tick, waits, rfl⟩
    refine Classical.byContradiction fun unset => ?_
    rw [if_neg unset] at counted
    omega
  · intro set
    rw [if_pos set] at counted
    have positive := Nat.lt_of_lt_of_eq Nat.one_pos counted.symm
    obtain ⟨event, waits, isTick⟩ := List.countP_pos_iff.mp positive
    cases event with
    | tick => exact waits
    | key pressed => contradiction
    | foreign value => contradiction

end Ledger

/-- However events are queued and taken, and bytes arrive or not: at most one tick waits, and the
source knows whether one does; a tick is queued if none waits, and otherwise left out; and the keys
taken and those that wait are the keys offered, in order. Nothing comes out that was not offered. -/
theorem operations_keepKeys (operations : List Source.Operation) :
    let ledger := Ledger.of operations
    let source := ledger.source
    source.queue.countP Event.isTick ≤ 1 ∧
      (source.tickQueued = true ↔ Event.tick ∈ source.queue) ∧
      (Event.tick ∉ source.queue → (source.push .tick).queue = source.queue ++ [.tick]) ∧
      (Event.tick ∈ source.queue → source.push .tick = source) ∧
      keysOf (ledger.taken ++ source.queue) = keysOf ledger.offered ∧
      (ledger.taken ++ source.queue).Sublist ledger.offered := by
  intro ledger source
  have balanced : ledger.IsBalanced := Ledger.isBalanced_of operations
  have waits : Event.tick ∈ source.queue ↔ source.tickQueued = true := balanced.tick_mem_iff
  refine ⟨?_, waits.symm, ?_, ?_, balanced.keys, balanced.offered⟩
  · rw [balanced.ticks]
    split <;> omega
  · intro none
    simp [Source.push, mt waits.mpr none]
  · intro one
    simp [Source.push, waits.mp one]

end NodeConsole.Input
