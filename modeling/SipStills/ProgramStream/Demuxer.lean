/-
# The demuxer

A demuxer takes a program stream in chunks of any size and gives out the video it carries,
one access unit for each pack.  Bytes that do not yet make a whole unit wait for the next
chunk; bytes between units are skipped and counted.

Main definitions: `Demuxer.push`, `Demuxer.finish`.
Main statement: `Demuxer.advance_lt`, by which every push ends.
-/
import SipStills.ProgramStream.StreamMap

namespace SipStills.ProgramStream

/-- The video of one pack. -/
structure AccessUnit where
  /-- The codec announced for it. -/
  codec : CodecId
  /-- Its place among the units given out. -/
  index : UInt32
  /-- The length of the payloads that its packets announce. -/
  expected : Nat
  /-- The payloads, one after the other. -/
  data : Bytes
deriving DecidableEq

/-- The number of announced bytes that never arrived. -/
def AccessUnit.remaining (u : AccessUnit) : Nat := u.expected - u.data.length

/-- A demuxer between two chunks. -/
structure Demuxer where
  /-- The bytes that wait for the rest of their unit. -/
  pending : Bytes := []
  /-- The video codec announced last. -/
  codec : CodecId := .none
  /-- The type of the audio stream announced last. -/
  audio : Option UInt8 := none
  /-- The payloads of the access unit in progress. -/
  payload : Bytes := []
  /-- The length announced for them. -/
  expected : Nat := 0
  /-- The index of the next access unit. -/
  nextIndex : UInt32 := 0
  /-- The number of bytes skipped between units. -/
  skipped : Nat := 0
deriving DecidableEq

namespace Demuxer

/-- A fresh demuxer that assumes a codec until a stream map names one. -/
def withCodec (codec : CodecId) : Demuxer := { codec }

/-- Gives out the access unit in progress, if it holds any data, and starts the next. -/
def flush (d : Demuxer) : Option AccessUnit × Demuxer :=
  if d.payload = [] then (none, { d with expected := 0 })
  else
    (some ⟨d.codec, d.nextIndex, d.expected, d.payload⟩,
      { d with payload := [], expected := 0, nextIndex := d.nextIndex + 1 })

/-- Takes over what a stream map says; where it is silent the old values stay. -/
def announce (d : Demuxer) (a : Announcement) : Demuxer :=
  { d with codec := a.video.getD d.codec, audio := a.audio <|> d.audio }

/-- Adds a payload and the length announced for it to the access unit in progress. -/
def extend (d : Demuxer) (payload : Bytes) (announced : Nat) : Demuxer :=
  { d with payload := d.payload ++ payload, expected := d.expected + announced }

/-- What a portion does to the demuxer, the pending bytes apart. -/
def absorb (d : Demuxer) : Portion → Option AccessUnit × Demuxer
  | .incomplete => (none, d)
  | .garbage n => (none, { d with skipped := d.skipped + n })
  | .other _ => (none, d)
  | .pack _ => d.flush
  | .endCode => d.flush
  | .map n => (none, d.announce (announced (d.pending.take n)))
  | .video n header => (none, d.extend ((d.pending.take n).drop header) (n - header))

@[simp] theorem pending_flush (d : Demuxer) : d.flush.2.pending = d.pending := by
  unfold flush; split <;> rfl

@[simp] theorem pending_absorb (d : Demuxer) (p : Portion) :
    (d.absorb p).2.pending = d.pending := by
  cases p <;> simp [absorb, announce, extend]

/-- Takes one portion off the pending bytes. -/
def advance (d : Demuxer) : Option AccessUnit × Demuxer :=
  let p := portion d.pending
  let r := d.absorb p
  (r.1, { r.2 with pending := d.pending.drop p.size })

theorem advance_lt {d : Demuxer} (h : portion d.pending ≠ .incomplete) :
    d.advance.2.pending.length < d.pending.length := by
  have h1 := portion_size_pos h
  have h2 := portion_size_le d.pending
  simp only [advance, List.length_drop]
  omega

/-- Takes portions off the pending bytes until too few are left. -/
def drain (d : Demuxer) : List AccessUnit × Demuxer :=
  if h : portion d.pending = .incomplete then ([], d)
  else
    have := advance_lt h
    let r := d.advance
    let rest := drain r.2
    (r.1.toList ++ rest.1, rest.2)
termination_by d.pending.length

/-- Takes a chunk and gives out the access units that it completes. -/
def push (d : Demuxer) (chunk : Bytes) : List AccessUnit × Demuxer :=
  drain { d with pending := d.pending ++ chunk }

/-- Adds the part of a video packet that has arrived, if its header is complete and some
payload follows it. -/
def salvage (d : Demuxer) (bytes : Bytes) : Demuxer :=
  match bytes with
  | 0 :: 0 :: 1 :: id :: high :: low :: _ :: _ :: optional :: _ :: _ =>
    let n := 6 + Bytes.word high low
    let header := videoHeaderLength + optional.toNat
    if isVideoId id ∧ header ≤ n ∧ header < bytes.length then
      d.extend ((bytes.take n).drop header) (n - header)
    else d
  | _ => d

/-- Gives out the access unit in progress with the received part of a packet that was cut
off.  The pending bytes are dropped. -/
def finish (d : Demuxer) : Option AccessUnit × Demuxer :=
  (salvage { d with pending := [] } d.pending).flush

/-- Takes chunks one after the other. -/
def pushAll (d : Demuxer) : List Bytes → List AccessUnit × Demuxer
  | [] => ([], d)
  | chunk :: chunks =>
    let r := d.push chunk
    let rest := pushAll r.2 chunks
    (r.1 ++ rest.1, rest.2)

end Demuxer
end SipStills.ProgramStream
