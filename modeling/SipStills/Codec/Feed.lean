/-
# Feeding a queueing decoder

Some decoders take packets through one queue and give out pictures through another.  Such a
decoder refuses a packet while its output is full.  `decodeLatest` feeds it one packet and
takes out every picture that is ready; the newest one is the answer.  A packet that is
refused is offered once more after the output has been taken out, and a second refusal is an
error, so no packet is lost without a word.

`recorded` is the decoder that also keeps the list of calls made to it; `scriptedDecoder` is one
whose answers are given in advance.
-/
import SipStills.Bytes

namespace SipStills

/-- The answer of one half of a queueing decoder. -/
inductive Flow (α : Type) where
  /-- It was done, with this result. -/
  | ready (result : α)
  /-- The input is full, or no output is ready. -/
  | again
  /-- The decoder has ended. -/
  | eof
deriving DecidableEq

/-- A decoder with an input and an output queue: states `σ`, pictures `φ`, errors `ε`. -/
structure QueueDecoder (σ φ ε : Type) where
  /-- Offers a packet. -/
  send : Bytes → σ → Except ε (Flow Unit) × σ
  /-- Asks for a picture. -/
  receive : σ → Except ε (Flow φ) × σ

/-- Why feeding a decoder failed. -/
inductive FeedFault (ε : Type) where
  /-- The packet was refused although the output had been taken out. -/
  | refused
  /-- The decoder failed. -/
  | decoder (error : ε)
deriving DecidableEq

/-- The text of a fault. -/
def FeedFault.message : FeedFault String → String
  | .refused => "decoder refused packet after draining output"
  | .decoder error => error

namespace QueueDecoder

variable {σ φ ε : Type}

/-- Takes out pictures until none is ready: the newest one, and whether the decoder ended.
No result stands for a decoder that still gives out pictures after `limit` calls. -/
def takeOut (d : QueueDecoder σ φ ε) :
    Nat → Option φ → σ → Option (Except ε (Option φ × Bool) × σ)
  | 0, _, _ => none
  | limit + 1, latest, s =>
    match d.receive s with
    | (.error e, s) => some (.error e, s)
    | (.ok (.ready picture), s) => takeOut d limit (some picture) s
    | (.ok .again, s) => some (.ok (latest, false), s)
    | (.ok .eof, s) => some (.ok (latest, true), s)

/-- The answer for a packet, from the newest picture and the end of the decoder. -/
def conclude (latest : Option φ) (ended : Bool) : Flow φ :=
  match latest with
  | some picture => .ready picture
  | none => if ended then .eof else .again

/-- Takes out what is left after the packet was accepted. -/
def takeRest (d : QueueDecoder σ φ ε) (limit : Nat) (latest : Option φ) (s : σ) :
    Option (Except (FeedFault ε) (Flow φ) × σ) :=
  match d.takeOut limit latest s with
  | none => none
  | some (.error e, s) => some (.error (.decoder e), s)
  | some (.ok (latest, ended), s) => some (.ok (conclude latest ended), s)

/-- Takes out what is ready and offers the packet a second time. -/
def retry (d : QueueDecoder σ φ ε) (limit : Nat) (packet : Bytes) (s : σ) :
    Option (Except (FeedFault ε) (Flow φ) × σ) :=
  match d.takeOut limit none s with
  | none => none
  | some (.error e, s) => some (.error (.decoder e), s)
  | some (.ok (latest, ended), s) =>
    match d.send packet s with
    | (.error e, s) => some (.error (.decoder e), s)
    | (.ok .again, s) => some (.error .refused, s)
    | (.ok .eof, s) => some (.ok (conclude latest true), s)
    | (.ok (.ready ()), s) =>
      if ended then some (.ok (conclude latest true), s) else d.takeRest limit latest s

/-- Feeds one packet and answers the newest picture. -/
def decodeLatest (d : QueueDecoder σ φ ε) (limit : Nat) (packet : Bytes) (s : σ) :
    Option (Except (FeedFault ε) (Flow φ) × σ) :=
  match d.send packet s with
  | (.error e, s) => some (.error (.decoder e), s)
  | (.ok .eof, s) => some (.ok .eof, s)
  | (.ok .again, s) => d.retry limit packet s
  | (.ok (.ready ()), s) => d.takeRest limit none s

end QueueDecoder

/-- A call made to a decoder. -/
inductive DecoderCall where
  | send (packet : Bytes)
  | receive
deriving DecidableEq

/-- The decoder that also keeps the calls made to it, oldest first. -/
def QueueDecoder.recorded {σ φ ε : Type} (d : QueueDecoder σ φ ε) :
    QueueDecoder (σ × List DecoderCall) φ ε where
  send packet s := let r := d.send packet s.1; (r.1, r.2, s.2 ++ [.send packet])
  receive s := let r := d.receive s.1; (r.1, r.2, s.2 ++ [.receive])

/-- What a decoder will answer: to the next offers of packets, and to the next requests for
pictures. -/
structure DecoderScript (φ ε : Type) where
  /-- The answers to offers; after the last every packet is accepted. -/
  sends : List (Except ε (Flow Unit)) := []
  /-- The answers to requests; after the last no picture is ready. -/
  receives : List (Except ε (Flow φ)) := []

/-- A number of requests that ends every taking out: one more than answers are left. -/
def DecoderScript.limit {φ ε : Type} (s : DecoderScript φ ε) : Nat := s.receives.length + 1

/-- The decoder that follows a script. -/
def scriptedDecoder {φ ε : Type} : QueueDecoder (DecoderScript φ ε) φ ε where
  send _ s := (s.sends.headD (.ok (.ready ())), { s with sends := s.sends.tail })
  receive s := (s.receives.headD (.ok .again), { s with receives := s.receives.tail })

end SipStills
