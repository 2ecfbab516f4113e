import QuestAcademy.Progress

namespace QuestAcademy

structure Channel where
  capacity : Nat
  sent : List ProgressEvent
  positions : List Nat

inductive Delivery
  | event (e : ProgressEvent)
  | empty
  | lagged (missed : Nat)

namespace Channel

/-- A channel whose capacity is rounded up to a power of two. -/
def create (capacity : Nat) : Channel :=
  { capacity := capacity.nextPowerOfTwo, sent := [], positions := [] }

def report (channel : Channel) (event : ProgressEvent) : Channel :=
  { channel with sent := channel.sent ++ [event] }

def subscribe (channel : Channel) : Nat × Channel :=
  (channel.positions.length,
    { channel with positions := channel.positions ++ [channel.sent.length] })

/-- The number of the oldest event that is kept. -/
def oldest (channel : Channel) : Nat :=
  channel.sent.length - channel.capacity

/-- The next event for a subscriber. One that has lagged behind goes on with the oldest event. -/
def receive (channel : Channel) (subscriber : Nat) : Delivery × Channel :=
  let next := (channel.positions[subscriber]?).getD channel.sent.length
  let moveTo (position : Nat) : Channel :=
    { channel with positions := channel.positions.set subscriber position }
  if next < channel.oldest then (.lagged (channel.oldest - next), moveTo channel.oldest)
  else
    match channel.sent[next]? with
    | some e => (.event e, moveTo (next + 1))
    | none => (.empty, channel)

end Channel

end QuestAcademy
