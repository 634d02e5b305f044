import RpcEndpoint.Message.Envelope

/-!
# Cancellation tokens

A token cancels every request that carries it. While such a request is pending, a hook of it hangs
on the token; a token that is triggered gives up its hooks and takes no more. Requests of several
connections may carry one token.
-/

namespace RpcEndpoint

/-- A token, known by its number. -/
abbrev Token := Nat

/-- The hook of one request: a cancel command for its connection. -/
structure Hook where
  connection : Nat
  id : MessageId
deriving Repr, DecidableEq

/-- The state of one token. -/
structure TokenState where
  token : Token
  cancelled : Bool
  /-- The key of the next hook. -/
  nextKey : Nat
  /-- The hooks, each under its key. -/
  hooks : List (Nat × Hook)
deriving Repr

/-- Where a hook hangs: on which token and under which key. -/
structure Attachment where
  token : Token
  key : Nat
deriving Repr, DecidableEq

/-- The states of all tokens that have one; the others are untriggered and bare. -/
abbrev TokenTable := List TokenState

namespace TokenTable

/-- The state of a token. -/
def state (token : Token) (table : TokenTable) : TokenState :=
  (table.find? fun held => held.token = token).getD ⟨token, false, 0, []⟩

/-- Replaces the state of a token. -/
def put (state : TokenState) (table : TokenTable) : TokenTable :=
  state :: table.filter fun held => held.token ≠ state.token

def isCancelled (token : Token) (table : TokenTable) : Bool :=
  (table.state token).cancelled

/-- Triggers a token: the hooks that now run, none if it was triggered before. -/
def cancel (token : Token) (table : TokenTable) : List Hook × TokenTable :=
  let state := table.state token
  if state.cancelled then ([], table)
  else (state.hooks.map (·.2), table.put { state with cancelled := true, hooks := [] })

/-- Hangs a hook on a token, under a key of its own; a triggered token does not take it. -/
def attach? (token : Token) (hook : Hook) (table : TokenTable) : Option (Attachment × TokenTable) :=
  let state := table.state token
  if state.cancelled then none
  else some (⟨token, state.nextKey⟩, table.put { state with
    nextKey := state.nextKey + 1
    hooks := state.hooks ++ [(state.nextKey, hook)] })

/-- Takes a hook off its token. Nothing happens when the token has given it up. -/
def detach (attachment : Attachment) (table : TokenTable) : TokenTable :=
  let state := table.state attachment.token
  table.put { state with hooks := state.hooks.filter fun held => held.1 ≠ attachment.key }

end TokenTable

/-- The text that shows a token's state. -/
def TokenState.display (state : TokenState) : String :=
  "CancellationToken \x7b cancelled: " ++ toString state.cancelled ++ " \x7d"

end RpcEndpoint
