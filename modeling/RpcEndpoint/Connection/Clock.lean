import RpcEndpoint.Connection.Worker

/-!
# Connections in time

A clock goes with the connection. Each thing that the worker does takes a while, and while it is
busy others see what it has done so far: of a chunk, the payloads that have been routed. While it
has nothing to do, time passes up to the next deadline or to what happens at the wire.
-/

namespace RpcEndpoint

/-- A connection and the time. -/
structure Timed (app : Application) (ω : Type) where
  connection : Connection app ω
  /-- The payloads of the last chunk that are still to be routed. -/
  underway : List Bytes
  /-- When the worker came to the end of what it has done. -/
  now : Instant

namespace Timed

variable {app : Application} {ω : Type}

/-- A connection at a time, with a worker that has nothing to do. -/
def start (connection : Connection app ω) (now : Instant) : Timed app ω :=
  ⟨connection, [], now⟩

/-- How long a command takes. -/
def moment : Duration := ⟨1000⟩

/-- How long it takes to route a payload. -/
def routing (payload : Bytes) : Duration :=
  ⟨moment.nanoseconds + 10 * payload.length⟩

/-- How long the next thing takes that the worker has to do, if there is one. -/
def toil? (timed : Timed app ω) : Option Duration :=
  match timed.underway, timed.connection.inbox with
  | payload :: _, _ => some (routing payload)
  | [], _ :: _ => some moment
  | [], [] => none

/-- The time has come to an instant, as far as the worker has nothing to do. -/
def rest (instant : Instant) (timed : Timed app ω) : Timed app ω :=
  if timed.toil?.isSome then timed else { timed with now := timed.now.latest instant }

variable [Wire ω]

/-- Takes in what the wire has brought up to now. -/
def gather (timed : Timed app ω) : Timed app ω :=
  { timed with connection := timed.connection.takeArrivals }

/-- Takes in a chunk; its payloads are routed one after another. -/
def unpack (chunk : Bytes) (later : Instant) (timed : Timed app ω) : Timed app ω :=
  let (payloads, unpacked) := timed.connection.unpack chunk
  ⟨if payloads.isEmpty then unpacked.expire later else unpacked, payloads, later⟩

/-- Lets the worker do the next thing, or look at its deadlines if there is none. It has done it
at an instant, or later if the wire kept it waiting. -/
def turn (later : Instant) (timed : Timed app ω) : Timed app ω :=
  let connection := timed.connection
  let done : Timed app ω := match timed.underway, connection.inbox with
    | payload :: others, _ =>
      let routed := connection.route payload
      ⟨if others.isEmpty then routed.expire later else routed, others, later⟩
    | [], .received chunk :: inbox =>
      unpack chunk later { timed with connection := { connection with inbox } }
    | [], _ => ⟨connection.turn timed.now later, [], later⟩
  { done with now := done.now.latest (Wire.time done.connection.framer.wire) }

/-- Lets the next thing be done or happen, if it is by a limit; says when. -/
def proceed (limit : Option Instant) (timed : Timed app ω) : Option Instant × Timed app ω :=
  let connection := timed.connection
  let own := (timed.toil?.map timed.now.plus).or
    (connection.pending.nextDeadline.map timed.now.latest)
  let (happened, wire) :=
    Wire.proceed (Instant.earliest? limit own) connection.framer.wire
  let framer := { connection.framer with wire }
  let current := { timed with connection := { connection with framer } }
  match happened, own with
  | some instant, _ => (some instant, (current.rest instant).gather)
  | none, some instant =>
    if limit.all instant.hasCome then (some instant, current.turn instant)
    else (none, limit.elim current current.rest)
  | none, none => (none, limit.elim current current.rest)

/-- Lets the worker do what there is to do, so many things at the most. -/
def settle : Nat → Timed app ω → Timed app ω
  | 0, timed => timed
  | fuel + 1, timed =>
    if timed.toil?.isSome then settle fuel (timed.proceed none).2 else timed

/-- Waits for something that a look at the connection finds, over so many changes at the most and
not beyond a limit. -/
def await {α : Type} (look : Connection app ω → Option α × Connection app ω)
    (limit : Option Instant) (turns : Nat) : Nat → Timed app ω → Option α × Timed app ω
  | 0, timed => (none, timed)
  | fuel + 1, timed =>
    let settled := timed.settle turns
    match look settled.connection with
    | (some found, connection) => (some found, { settled with connection })
    | (none, connection) =>
      match { settled with connection }.proceed limit with
      | (some _, later) => await look limit turns fuel later
      | (none, later) => (none, later)

end Timed

end RpcEndpoint
