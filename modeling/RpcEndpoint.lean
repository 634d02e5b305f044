import RpcEndpoint.Config
import RpcEndpoint.Proofs.Arrival.Order
import RpcEndpoint.Proofs.Framing.Chunks
import RpcEndpoint.Proofs.Framing.RoundTrip
import RpcEndpoint.Proofs.Link.EndToEnd
import RpcEndpoint.Proofs.Replies.Answered
import RpcEndpoint.Proofs.Requests.Delivery
import RpcEndpoint.Proofs.Requests.Shutdown
import RpcEndpoint.Proofs.Schedule.Turn
import RpcEndpoint.Script.HostRun
import RpcEndpoint.Script.ProcessRun
import RpcEndpoint.Wire.Memory
import RpcEndpoint.Proofs.Schedule.Terms
import RpcEndpoint.Proofs.Writes.Verdicts
import RpcEndpoint.Proofs.Writes.Integrity
import RpcEndpoint.Proofs.Requests.Numbering
import RpcEndpoint.Proofs.Tokens.Held
import RpcEndpoint.Proofs.Tokens.Fleet
import RpcEndpoint.Proofs.Tokens.Hooks
import RpcEndpoint.Proofs.Requests.Leaving
import RpcEndpoint.Proofs.Tokens.Causes
import RpcEndpoint.Proofs.Tokens.Chase
import RpcEndpoint.Proofs.Tokens.Cancellation
import RpcEndpoint.Proofs.Accounts.Requests
import RpcEndpoint.Proofs.Arrival.Consumption
import RpcEndpoint.Proofs.Closing.Final
import RpcEndpoint.Proofs.Writes.Fates
import RpcEndpoint.Proofs.Process.Enactment
import RpcEndpoint.Proofs.Process.Calls
import RpcEndpoint.Proofs.Process.Unavailable
import RpcEndpoint.Proofs.Message.Decodings
import RpcEndpoint.Proofs.Framing.Rescanning
import RpcEndpoint.Proofs.Framing.Stalls
import RpcEndpoint.Proofs.Requests.Deadlines
import RpcEndpoint.Proofs.Accounts.Winding
import RpcEndpoint.Proofs.Requests.Timeouts
import RpcEndpoint.Proofs.Requests.Handles
import RpcEndpoint.Proofs.Writes.Refusals
import RpcEndpoint.Proofs.Framing.HeaderLines
import RpcEndpoint.Proofs.Wire.Waiting
import RpcEndpoint.Proofs.Closing.MassFailure
import RpcEndpoint.Proofs.Arrival.Dispatch
