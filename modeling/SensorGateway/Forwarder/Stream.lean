import SensorGateway.Forwarder.Framing
import SensorGateway.Text.Duration

/-!
# `SensorGateway.Forwarder.Stream`: packets on a byte stream

Bytes arrive in chunks that have nothing to do with packets. A reader
keeps what it received until a packet is complete. `readPacket` goes on
reading until it has a packet, the stream ends, a read fails, or no bytes
are there yet; in the last case it may be called again and nothing is
lost.

A stream opens with greetings: both sides send two bytes and wait for
those of the other for a limited time.
-/

set_option autoImplicit false

namespace SensorGateway.Forwarder

/-- What is wrong with a stream. -/
inductive StreamError where
  | io
  | framing (error : FramingError)
  /-- No greeting came within the limit, in milliseconds. -/
  | handshakeTimeout (limit : Nat)
  /-- The stream ended inside a packet of which some bytes were there. -/
  | truncatedPacket (buffered : Nat)
  deriving Repr, DecidableEq

/-- The text an operator sees. -/
def StreamError.message : StreamError → String
  | .io => "I/O error"
  | .framing error => error.message
  | .handshakeTimeout limit => s!"no handshake from partner within {Text.duration limit}"
  | .truncatedPacket buffered =>
    s!"stream closed with {buffered} bytes of an incomplete packet buffered"

/-! ### Arrivals -/

/-- What the partner's side of a stream holds in store. -/
inductive Arrival where
  /-- Bytes that arrive together; none at all are an end of the stream. -/
  | bytes (chunk : Bytes)
  /-- Nothing is there yet. -/
  | pending
  | failure
  deriving Repr, DecidableEq

/-- What one read gives. -/
inductive ReadResult where
  | bytes (chunk : Bytes)
  | ended
  | pending
  | failed
  deriving Repr, DecidableEq

namespace Arrival

/-- How much there is to read: every byte and every event counts. -/
def weight : List Arrival → Nat
  | [] => 0
  | .bytes chunk :: rest => chunk.length + 1 + weight rest
  | _ :: rest => 1 + weight rest

/-- Reads at most `limit` bytes. What is left of a chunk is read next.
Behind the last arrival the stream has ended. -/
def read (limit : Nat) : List Arrival → ReadResult × List Arrival
  | [] => (.ended, [])
  | .pending :: rest => (.pending, rest)
  | .failure :: rest => (.failed, rest)
  | .bytes [] :: rest => (.ended, rest)
  | .bytes chunk :: rest =>
    if chunk.length ≤ limit then (.bytes chunk, rest)
    else (.bytes (chunk.take limit), .bytes (chunk.drop limit) :: rest)

/-- A read that gives bytes leaves less to read. -/
theorem weight_read_lt {limit : Nat} (hlimit : 0 < limit) {arrivals rest : List Arrival}
    {chunk : Bytes} (h : read limit arrivals = (.bytes chunk, rest)) :
    weight rest < weight arrivals := by
  match arrivals with
  | [] => simp [read] at h
  | .pending :: _ => simp [read] at h
  | .failure :: _ => simp [read] at h
  | .bytes [] :: _ => simp [read] at h
  | .bytes (byte :: more) :: tail =>
    simp only [read] at h
    split at h
    · obtain ⟨-, rfl⟩ := by simpa using h
      simp only [weight]
      omega
    · obtain ⟨-, rfl⟩ := by simpa using h
      simp only [weight, List.length_drop]
      simp only [List.length_cons]
      omega

end Arrival

/-! ### Packets -/

/-- How many bytes one read takes at most. -/
def chunkLimit : Nat := 1024

/-- What a reader comes up with. -/
inductive PacketResult where
  | packet (bytes : Bytes)
  /-- The stream ended between two packets. -/
  | ended
  /-- The packet is not complete yet. -/
  | pending
  | error (error : StreamError)
  deriving Repr, DecidableEq

/-- The next packet of a stream of which `buffer` was received before. Gives
the result, what is kept for later, and what is still to arrive. -/
def readPacket (buffer : Bytes) (arrivals : List Arrival) :
    PacketResult × Bytes × List Arrival :=
  match decodePacket buffer with
  | .ok (packet, rest) => (.packet packet, rest, arrivals)
  | .error _ =>
    match _h : Arrival.read chunkLimit arrivals with
    | (.bytes chunk, rest) => readPacket (buffer ++ chunk) rest
    | (.ended, rest) =>
      if buffer = [] then (.ended, buffer, rest)
      else (.error (.truncatedPacket buffer.length), buffer, rest)
    | (.pending, rest) => (.pending, buffer, rest)
    | (.failed, rest) => (.error .io, buffer, rest)
termination_by Arrival.weight arrivals
decreasing_by exact Arrival.weight_read_lt (by decide) _h

/-- Waits for the next packet up to a time limit. What is not there yet is
looked for once more when the time is up. -/
def awaitPacket (buffer : Bytes) (arrivals : List Arrival) :
    PacketResult × Bytes × List Arrival :=
  match readPacket buffer arrivals with
  | (.pending, buffer, arrivals) => readPacket buffer arrivals
  | result => result

/-! ### Both directions -/

/-- A stream with both directions. -/
structure Stream where
  arrivals : List Arrival := []
  /-- What was received and is not a packet yet. -/
  buffer : Bytes := []
  written : Bytes := []
  /-- The partner takes what is written. -/
  writable : Bool := true
  deriving Repr, DecidableEq

namespace Stream

/-- Writes bytes. -/
def write (stream : Stream) (bytes : Bytes) : Except StreamError Unit × Stream :=
  if stream.writable then (.ok (), { stream with written := stream.written ++ bytes })
  else (.error .io, stream)

/-- Writes a packet behind its length. -/
def writePacket (stream : Stream) (packet : Bytes) : Except StreamError Unit × Stream :=
  match encodePacket packet with
  | .ok bytes => stream.write bytes
  | .error error => (.error (.framing error), stream)

/-- Waits for the next packet up to a time limit. -/
def nextPacket (stream : Stream) : PacketResult × Stream :=
  let (result, buffer, arrivals) := awaitPacket stream.buffer stream.arrivals
  (result, { stream with buffer, arrivals })

/-! ### Greetings -/

/-- The outcome of waiting for a number of bytes. -/
inductive Gathered where
  | all (bytes : Bytes)
  /-- Some bytes are missing; these are there. -/
  | pending (missing : Nat) (bytes : Bytes)
  /-- The stream ended or a read failed. -/
  | broken
  deriving Repr, DecidableEq

/-- Gathers `missing` more bytes behind those that are there. -/
def gather : Nat → Bytes → List Arrival → Gathered × List Arrival
  | 0, bytes, arrivals => (.all bytes, arrivals)
  | missing + 1, bytes, arrivals =>
    match Arrival.read 1 arrivals with
    | (.bytes chunk, rest) => gather missing (bytes ++ chunk) rest
    | (.pending, rest) => (.pending (missing + 1) bytes, rest)
    | (.ended, rest) | (.failed, rest) => (.broken, rest)

/-- Gathers bytes up to a time limit, with a last look when the time is
up. -/
def awaitBytes (count : Nat) (arrivals : List Arrival) : Gathered × List Arrival :=
  match gather count [] arrivals with
  | (.pending missing bytes, rest) => gather missing bytes rest
  | result => result

/-- Judges the partner's greeting. -/
def judge (limit : Nat) : Gathered → Except StreamError Unit
  | .all [first, second] => (checkGreeting first second).mapError .framing
  | .all _ | .broken => .error .io
  | .pending _ _ => .error (.handshakeTimeout limit)

/-- Sends a greeting and waits `limit` milliseconds for that of the
partner. -/
def handshake (limit : Nat) (stream : Stream) : Except StreamError Unit × Stream :=
  match stream.write greeting with
  | (.error error, stream) => (.error error, stream)
  | (.ok (), stream) =>
    let (gathered, arrivals) := awaitBytes greeting.length stream.arrivals
    (judge limit gathered, { stream with arrivals })

end Stream

end SensorGateway.Forwarder
