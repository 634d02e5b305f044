import RpcEndpoint.Failure

/-!
# Wires

A wire carries bytes to the peer and back. It takes a write whole or refuses it whole. What lies
behind it may change as time passes.
-/

namespace RpcEndpoint

/-- What comes to a connection from its wire. -/
inductive Arrival where
  | chunk (bytes : Bytes)
  /-- The peer has gone for good. -/
  | lost

/-- What a connection needs of a wire. -/
class Wire (ω : Type) where
  /-- Offers bytes to the wire. -/
  write : Bytes → ω → Except WireFailure Unit × ω
  /-- What has arrived since it was last collected, in order. -/
  collect : ω → List Arrival × ω
  /-- Lets the time go on until something happens at the wire or until a limit; says when it
  happened, if it did. -/
  proceed : Option Instant → ω → Option Instant × ω
  /-- The time that the wire has come to. -/
  time : ω → Instant

end RpcEndpoint
