import RpcEndpoint.Host
import RpcEndpoint.Text.Quoted

/-!
# Short descriptions

One line that shows what a handle stands for, or the state of a process.
-/

namespace RpcEndpoint

/-- The identifier with its kind. -/
def MessageId.describe : MessageId → String
  | .number value => "Number(" ++ toString value.toInt ++ ")"
  | .string text => "String(" ++ Text.quoted text ++ ")"

/-- The handle of a request of this side. -/
def describeHandle (id : MessageId) : String :=
  "PendingRequest \x7b id: " ++ id.describe ++ ", .. \x7d"

/-- An open request of the peer. -/
def Ticket.describe (ticket : Ticket) : String :=
  "RequestResponder \x7b id: " ++ ticket.id.describe ++ ", method: " ++ Text.quoted ticket.method
    ++ ", replied: false \x7d"

/-- How the process ended, as the word that its parent got. -/
def ExitStatus.describe (exit : ExitStatus) : String :=
  "ExitStatus(unix_wait_status(" ++ toString exit.word ++ "))"

def Status.describe : Status → String
  | .notStarted => "NotStarted"
  | .running => "Running"
  | .terminated none => "Terminated \x7b exit: None \x7d"
  | .terminated (some exit) => "Terminated \x7b exit: Some(" ++ exit.describe ++ ") \x7d"

/-- The wire to a process. -/
def ProcessWire.describe {η : Type} (wire : ProcessWire η) : String :=
  "ProcessTransport \x7b status: " ++ wire.status.describe ++ ", .. \x7d"

/-- The owner of a process. -/
def Host.describe {app : Application} {ρ : Type} (host : Host app ρ) : String :=
  "LanguageServerProcess \x7b command: " ++ Text.quoted host.config.command ++ ", status: "
    ++ host.status.describe ++ ", .. \x7d"

end RpcEndpoint
