/-
# Stills in a channel

A channel hands stills over to a reader that takes them in its own time.  It holds a limited
number of them; what comes while it is full, or after the reader has left, is dropped.
-/
import SipStills.Bytes

namespace SipStills

/-- A channel of stills. -/
structure ChannelSink where
  /-- The number of stills that it holds at most. -/
  capacity : Nat
  /-- The stills that wait for the reader, the oldest first. -/
  waiting : List (String × Bytes) := []
  /-- The writing end is there. -/
  isOpen : Bool := true
  /-- The reader is there. -/
  hasReader : Bool := true
deriving DecidableEq

/-- What the reader gets. -/
inductive Taken where
  /-- Nothing now. -/
  | pending
  /-- Nothing ever again. -/
  | closed
  /-- A still of a session. -/
  | still (callee : String) (data : Bytes)
deriving DecidableEq

namespace ChannelSink

/-- A channel of the given capacity; it has room for at least one still. -/
def ofCapacity (capacity : Nat) : ChannelSink := { capacity := max capacity 1 }

/-- Puts a still into the channel, if it can be taken. -/
def consume (s : ChannelSink) (callee : String) (data : Bytes) : ChannelSink :=
  if s.isOpen && s.hasReader && decide (s.waiting.length < s.capacity) then
    { s with waiting := s.waiting ++ [(callee, data)] }
  else s

/-- The reader asks for a still. -/
def take (s : ChannelSink) : Taken × ChannelSink :=
  if !s.hasReader then (.pending, s)
  else
    match s.waiting with
    | (callee, data) :: rest => (.still callee data, { s with waiting := rest })
    | [] => (if s.isOpen then .pending else .closed, s)

/-- The writing end leaves; what waits can still be taken. -/
def close (s : ChannelSink) : ChannelSink := { s with isOpen := false }

/-- The reader leaves; what waits is gone. -/
def leave (s : ChannelSink) : ChannelSink := { s with hasReader := false, waiting := [] }

end ChannelSink
end SipStills
