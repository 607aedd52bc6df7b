/-
# Encoded packets

What a still encoder puts out: bytes, a presentation time and the mark of a key packet.
-/
import SipStills.Bytes

namespace SipStills

/-- An encoded packet. -/
structure Packet where
  /-- Its bytes. -/
  data : Bytes
  /-- Its presentation time. -/
  pts : Option Int := none
  /-- It can be decoded on its own. -/
  isKey : Bool := true
deriving DecidableEq

namespace Packet

/-- The packet with another presentation time. -/
def withPts (p : Packet) (pts : Option Int) : Packet := { p with pts }

/-- The number of bytes in the packet. -/
def size (p : Packet) : Nat := p.data.length

end Packet
end SipStills
