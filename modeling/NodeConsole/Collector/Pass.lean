import NodeConsole.Collector.Poll

/-!
# Passes over all collectors

All topics are polled in a fixed order. A single pass ends at the first failure; tasks that run on
their own go on without the one that failed.
-/

namespace NodeConsole.Collector

open NodeConsole.Files NodeConsole.Device NodeConsole.Log

/-- A name that is no topic. -/
structure UnknownTopic where
  name : String
  deriving DecidableEq, Repr

/-- The text of the refusal. -/
def UnknownTopic.message (unknown : UnknownTopic) : String :=
  "unknown topic in config: " ++ unknown.name

/-- Where the files of the topics are found, as far as it differs from the default. -/
abbrev Patterns := List (String × String)

/-- The pattern of a topic. -/
def Patterns.of (patterns : Patterns) (topic : Topic) : String :=
  ((patterns.find? (·.1 = topic.name)).map (·.2)).getD topic.defaultPattern

/-- The collectors of all topics, in the order in which they are polled. -/
def collectors (base : Path) (patterns : Patterns) : Except UnknownTopic (List Collector) :=
  match patterns.find? fun entry => (Topic.ofName? entry.1).isNone with
  | some entry => .error ⟨entry.1⟩
  | none =>
    let watch (topic : StatusTopic) := .status topic ⟨base, patterns.of topic.topic, []⟩
    .ok [watch .node, watch .onboarding, watch .summary, watch .network, watch .vault,
      watch .downloader, .apps ⟨base, patterns.of .apps, []⟩ [],
      .kernelLog ⟨base.join (.ofText (patterns.of .kernelLog)), .unopened⟩]

/-- What a pass did: how many collectors changed the model, or why it stopped. -/
structure Passed where
  collectors : List Collector
  model : Model
  log : List Entry
  outcome : Except Failure Nat

/-- Polls collectors in order, up to the first failure. -/
def collectOnce (tree : Tree) (model : Model) : List Collector → Passed
  | [] => ⟨[], model, [], .ok 0⟩
  | collector :: rest =>
    let polled := collector.poll tree model
    match polled.outcome with
    | .error failure => ⟨polled.collector :: rest, polled.model, polled.log, .error failure⟩
    | .ok changed =>
      let others := collectOnce tree polled.model rest
      ⟨polled.collector :: others.collectors, others.model, polled.log ++ others.log,
        others.outcome.map ((if changed then 1 else 0) + ·)⟩

/-- Polls collectors in order, whatever fails; counts those that changed the model. -/
def pollEach (tree : Tree) (model : Model) : List Collector → Passed
  | [] => ⟨[], model, [], .ok 0⟩
  | collector :: rest =>
    let polled := collector.poll tree model
    let changed := match polled.outcome with
      | .ok true => 1
      | _ => 0
    let others := pollEach tree polled.model rest
    ⟨polled.collector :: others.collectors, others.model, polled.log ++ others.log,
      others.outcome.map (changed + ·)⟩

end NodeConsole.Collector
