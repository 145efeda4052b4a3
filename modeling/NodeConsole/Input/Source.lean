import NodeConsole.Input.Token
import NodeConsole.Text.Utf8

/-!
# The event source

Keys and ticks in one queue. Bytes may arrive in any pieces: an unfinished character stays in the
decoder, an unfinished sequence is held back until more arrives or its time is over. At most one
tick waits in the queue.
-/

namespace NodeConsole.Input

open NodeConsole.Text

/-- The state of the event source. -/
structure Source where
  decoder : Utf8.State := .start
  held : List Char := []
  queue : List Event := []
  tickQueued : Bool := false
  timerArmed : Bool := false
  deriving Repr

namespace Source

/-- Queues an event; a tick only if none is waiting. -/
def push (source : Source) (event : Event) : Source :=
  match event with
  | .tick =>
    if source.tickQueued then source
    else { source with queue := source.queue ++ [.tick], tickQueued := true }
  | event => { source with queue := source.queue ++ [event] }

/-- Queues keys. -/
def pushKeys (source : Source) (found : List Key) : Source :=
  { source with queue := source.queue ++ found.map .key }

/-- Takes the first event of the queue. -/
def next? (source : Source) : Option (Event × Source) :=
  match source.queue with
  | [] => none
  | .tick :: rest => some (.tick, { source with queue := rest, tickQueued := false })
  | event :: rest => some (event, { source with queue := rest })

/-- Takes all events of the queue. -/
def drain (source : Source) : List Event × Source :=
  (source.queue,
    { source with queue := [], tickQueued := source.tickQueued && !source.queue.any Event.isTick })

/-- Takes bytes. If a sequence cannot be read, the keys of these bytes are lost; what is held back
stays, but its time does not run. -/
def feed (source : Source) (bytes : List UInt8) : Source × Except TokenFault Unit :=
  let (decoder, items) := Utf8.run source.decoder bytes
  let (ready, held) := splitPartial (source.held ++ items.map Utf8.Item.shown)
  let source := { source with decoder := decoder, held := held, timerArmed := false }
  match keys ready with
  | .error fault => (source, .error fault)
  | .ok found => ({ source.pushKeys found with timerArmed := held ≠ [] }, .ok ())

/-- Releases what is held back: its time is over. -/
def flush (source : Source) : Source × Except TokenFault Unit :=
  let held := source.held
  let source := { source with held := [], timerArmed := false }
  match keys held with
  | .error fault => (source, .error fault)
  | .ok found => (source.pushKeys found, .ok ())

end Source

end NodeConsole.Input
