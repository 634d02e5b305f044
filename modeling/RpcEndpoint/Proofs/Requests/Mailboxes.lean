import RpcEndpoint.Proofs.Schedule.Terms

/-!
# Mailboxes

A request that is accepted gets a mailbox, if its owner wants one. An outcome fills it, a look
empties it, the owner takes it down, and the end of the worker spoils the mailboxes of the requests
that are lost. Every other step leaves all mailboxes as they are (`Job.posted`, `Act.posted`).
-/

namespace RpcEndpoint

open Connection
open Json (Schema Value)

variable {app : Application} {ω : Type}

/-! ## Mailboxes -/

namespace Mailbox

/-- A mailbox into which an outcome is put. Only one that waits takes it. -/
def fill (outcome : Except Failure Value) : Mailbox → Mailbox
  | .waiting => .holding outcome
  | mailbox => mailbox

/-- A mailbox after a look that takes what is in it. -/
def empty : Mailbox → Mailbox
  | .holding _ => .exhausted
  | mailbox => mailbox

/-- What a look into a mailbox finds. -/
def found : Mailbox → Option (Except Failure Value)
  | .waiting => none
  | .holding outcome => some outcome
  | .exhausted => some (.error .closed)

end Mailbox

/-- What an outcome makes of the mailbox of its request. -/
def Sink.put (outcome : Except Failure Bytes) : Sink app → Mailbox → Mailbox
  | .mailbox schema => Mailbox.fill (decodeOutcome schema outcome)
  | .callback _ => id

namespace Connection

private theorem lookup_map_content
    (content : Mailbox) (mailboxes : List (MessageId × Mailbox)) (other id : MessageId) :
    (mailboxes.map fun held => if held.1 = other then (other, content) else held).lookup id =
      if id = other then (mailboxes.lookup id).map fun _ => content else mailboxes.lookup id := by
  induction mailboxes with
  | nil =>
      simp
  | cons held rest inductionHypothesis =>
      obtain ⟨key, mailbox⟩ := held
      by_cases isKey : id = key
      · subst isKey
        by_cases isOther : id = other <;> simp [isOther]
      · have differs : (id == key) = false := beq_false_of_ne isKey
        have differsNew : (id == (if key = other then (other, content) else (key, mailbox)).1) =
            false := by
          split
          · rename_i isOther
            exact isOther ▸ differs
          · exact differs
        rw [List.map_cons, List.lookup_cons, differsNew, List.lookup_cons, differs]
        exact inductionHypothesis

theorem mailbox?_setMailbox
    (other : MessageId) (content : Mailbox) (connection : Connection app ω) (id : MessageId) :
    (connection.setMailbox other content).mailbox? id =
      if id = other then (connection.mailbox? id).map fun _ => content
      else connection.mailbox? id :=
  lookup_map_content content connection.mailboxes other id

theorem mailbox?_fillMailbox
    (other : MessageId) (outcome : Except Failure Value) (connection : Connection app ω)
    (id : MessageId) :
    (connection.fillMailbox other outcome).mailbox? id =
      if id = other then (connection.mailbox? id).map (·.fill outcome)
      else connection.mailbox? id := by
  unfold fillMailbox
  split
  · rename_i isWaiting
    rw [mailbox?_setMailbox]
    split
    · rename_i same
      rw [same, isWaiting]
      rfl
    · rfl
  · rename_i notWaiting
    split
    · rename_i same
      subst same
      cases up : connection.mailbox? id with
      | none =>
          rfl
      | some mailbox =>
          cases mailbox with
          | waiting =>
              exact absurd up notWaiting
          | holding | exhausted =>
              rfl
    · rfl

theorem mailbox?_takeOutcome
    (other : MessageId) (connection : Connection app ω) (id : MessageId) :
    (connection.takeOutcome other).2.mailbox? id =
      if id = other then (connection.mailbox? id).map Mailbox.empty
      else connection.mailbox? id := by
  by_cases same : id = other
  · subst same
    rw [if_pos rfl, takeOutcome]
    split
    · rename_i up
      rw [up]
      rfl
    · rename_i outcome up
      rw [mailbox?_setMailbox, if_pos rfl, up]
      rfl
    · rename_i up
      rw [up]
      rfl
    · rename_i down
      rw [down]
      rfl
  · rw [if_neg same, takeOutcome]
    split
    · rfl
    · rw [mailbox?_setMailbox, if_neg same]
    · rfl
    · rfl

theorem takeOutcome_eq_found
    {connection : Connection app ω} {id : MessageId} {mailbox : Mailbox}
    (up : connection.mailbox? id = some mailbox) :
    (connection.takeOutcome id).1 = mailbox.found := by
  rw [takeOutcome, up]
  cases mailbox <;> rfl

private theorem lookup_filter_ne
    (mailboxes : List (MessageId × Mailbox)) (other id : MessageId) :
    (mailboxes.filter fun held => held.1 ≠ other).lookup id =
      if id = other then none else mailboxes.lookup id := by
  induction mailboxes with
  | nil =>
      simp
  | cons held rest inductionHypothesis =>
      obtain ⟨key, mailbox⟩ := held
      by_cases isOther : key = other
      · rw [List.filter_cons_of_neg (by simpa using isOther), inductionHypothesis]
        by_cases same : id = other
        · rw [if_pos same, if_pos same]
        · have differs : (id == key) = false := beq_false_of_ne (isOther ▸ same)
          rw [if_neg same, if_neg same, List.lookup_cons, differs]
      · rw [List.filter_cons_of_pos (by simpa using isOther), List.lookup_cons,
          inductionHypothesis, List.lookup_cons]
        by_cases isKey : id = key
        · subst isKey
          simp [isOther]
        · rw [beq_false_of_ne isKey]

theorem mailbox?_dropMailbox
    (other : MessageId) (connection : Connection app ω) (id : MessageId) :
    (connection.dropMailbox other).mailbox? id =
      if id = other then none else connection.mailbox? id :=
  lookup_filter_ne connection.mailboxes other id

theorem accepted_honour
    (promise : Promise app) (outcome : Except Failure Bytes) (connection : Connection app ω) :
    (connection.honour promise outcome).accepted = [] := by
  obtain ⟨id, sink⟩ := promise
  cases sink <;> rfl

theorem mailbox?_honour
    (promise : Promise app) (outcome : Except Failure Bytes) (connection : Connection app ω)
    (id : MessageId) :
    (connection.honour promise outcome).connection.mailbox? id =
      if id = promise.id then (connection.mailbox? id).map (promise.sink.put outcome)
      else connection.mailbox? id := by
  obtain ⟨other, sink⟩ := promise
  cases sink with
  | mailbox schema =>
      exact mailbox?_fillMailbox other (decodeOutcome schema outcome) _ id
  | callback react =>
      rw [Sink.put, Option.map_id]
      exact (ite_self _).symm

end Connection

/-- Whether a command is a request with a mailbox that has this identifier. -/
def Command.mailsTo (id : MessageId) : Command app → Bool
  | .request message _ (.mailbox _) => message.id = id
  | _ => false

namespace Connection

theorem mailbox?_lose
    (connection : Connection app ω) (command : Command app) (id : MessageId) :
    (connection.lose command).mailbox? id =
      if command.mailsTo id then (connection.mailbox? id).map fun _ => .exhausted
      else connection.mailbox? id := by
  cases command with
  | request message options sink =>
      cases sink with
      | mailbox schema =>
          rw [lose, mailbox?_setMailbox]
          by_cases same : message.id = id
          · rw [if_pos same.symm, Command.mailsTo, if_pos (decide_eq_true same)]
          · rw [if_neg (Ne.symm same), Command.mailsTo, if_neg (by simpa using same)]
      | callback react =>
          rfl
  | notification message receipt =>
      cases receipt <;> rfl
  | reply | received | order =>
      rfl

theorem mailbox?_foldl_lose
    (commands : List (Command app)) (connection : Connection app ω) (id : MessageId) :
    (commands.foldl lose connection).mailbox? id =
      if commands.any (·.mailsTo id) then (connection.mailbox? id).map fun _ => .exhausted
      else connection.mailbox? id := by
  induction commands generalizing connection with
  | nil =>
      rfl
  | cons command rest inductionHypothesis =>
      rw [List.foldl_cons, inductionHypothesis, mailbox?_lose, List.any_cons]
      cases command.mailsTo id <;> cases rest.any (·.mailsTo id) <;> simp [Function.comp_def]

/-! ## Steps that put mailboxes up -/

/-- The mailboxes are as before, or a request was accepted and may have got one. -/
inductive Posted (before : Connection app ω) (progress : Progress app ω) : Prop where
  | unchanged
      (accepted : progress.accepted = [])
      (mailboxes : progress.connection.mailboxes = before.mailboxes)
  | opened (message : Request) (options : Options) (sink : Sink app)
      (isRunning : before.running = true)
      (accepted : progress.accepted = [message.id])
      (inbox : progress.connection.inbox = before.inbox ++ [.request message options sink])
      (mailboxes : progress.connection.mailboxes =
        (openMailbox message.id sink before).mailboxes)

theorem mailboxes_enqueue (command : Command app) (connection : Connection app ω) :
    (connection.enqueue command).mailboxes = connection.mailboxes := by
  rw [enqueue_eq]

theorem mailboxes_takeArrivals [Wire ω] (connection : Connection app ω) :
    connection.takeArrivals.mailboxes = connection.mailboxes := by
  have accepts (arrivals : List Arrival) (reached : Connection app ω) :
      (arrivals.foldl accept reached).mailboxes = reached.mailboxes := by
    induction arrivals generalizing reached with
    | nil =>
        rfl
    | cons arrival rest inductionHypothesis =>
        refine (inductionHypothesis _).trans ?_
        cases arrival <;> exact mailboxes_enqueue _ reached
  exact accepts _ _

theorem mailboxes_transmit [Wire ω] (payload : Bytes) (connection : Connection app ω) :
    (connection.transmit payload).2.mailboxes = connection.mailboxes := by
  unfold transmit
  rcases connection.framer.write payload with ⟨outcome, framer⟩
  exact mailboxes_takeArrivals _

theorem mailboxes_notify (method : String) (params : Params) (connection : Connection app ω) :
    (connection.notify method params).2.mailboxes = connection.mailboxes := by
  unfold notify
  cases params with
  | error fault =>
      rfl
  | ok encoded =>
      dsimp only
      split
      · exact mailboxes_enqueue _ connection
      · rfl

theorem mailboxes_notifyWithReceipt
    (method : String) (params : Params) (connection : Connection app ω) :
    (connection.notifyWithReceipt method params).2.mailboxes = connection.mailboxes := by
  unfold notifyWithReceipt
  cases params with
  | error fault =>
      rfl
  | ok encoded =>
      dsimp only
      split
      · exact mailboxes_enqueue _ connection
      · rfl

theorem mailboxes_answer
    (number : TicketNumber) (outcome : Except ResponseError Value)
    (connection : Connection app ω) :
    (connection.answer number outcome).2.mailboxes = connection.mailboxes := by
  unfold answer
  split
  · exact mailboxes_enqueue _ _
  · rfl

theorem mailboxes_discard (number : TicketNumber) (connection : Connection app ω) :
    (connection.discard number).2.mailboxes = connection.mailboxes := by
  unfold discard
  split
  · exact mailboxes_enqueue _ _
  · rfl

theorem mailboxes_keep (number : TicketNumber) (connection : Connection app ω) :
    (connection.keep number).2.mailboxes = connection.mailboxes := by
  unfold keep
  split <;> rfl

theorem mailboxes_setOff (connection : Connection app ω) (hook : Hook) :
    (connection.setOff hook).mailboxes = connection.mailboxes := by
  unfold setOff
  split
  · exact mailboxes_enqueue _ connection
  · rfl

theorem mailboxes_reportFate
    (receipt : Option Nat) (fate : Except Failure Unit) (connection : Connection app ω) :
    (connection.reportFate receipt fate).mailboxes = connection.mailboxes := by
  cases receipt <;> rfl

theorem mailboxes_writeNotification [Wire ω]
    (message : Notification) (receipt : Option Nat) (connection : Connection app ω) :
    (connection.writeNotification message receipt).mailboxes = connection.mailboxes := by
  have transmitted := mailboxes_transmit message.toValue.encode connection
  unfold writeNotification
  split
  · exact mailboxes_reportFate receipt _ connection
  · split
    · rename_i sent isSent
      rw [isSent] at transmitted
      exact (mailboxes_reportFate receipt _ _).trans transmitted
    · rename_i failure refused isRefused
      rw [isRefused] at transmitted
      exact (mailboxes_reportFate receipt _ _).trans transmitted

theorem posted_sort (payload : Bytes) (connection : Connection app ω) :
    Posted connection (connection.sort payload) := by
  unfold sort
  cases Incoming.classify payload with
  | response response =>
      unfold pair
      dsimp only
      split <;> exact .unchanged rfl rfl
  | notification message =>
      unfold notice
      dsimp only
      split <;> exact .unchanged rfl rfl
  | request message =>
      unfold consider
      dsimp only
      split
      · exact .unchanged rfl rfl
      · exact .unchanged rfl (mailboxes_answer _ _ _)
  | unrecognized reason =>
      exact .unchanged rfl rfl

theorem posted_request
    (method : String) (params : Params) (options : Options) (sink : Sink app)
    (connection : Connection app ω) (jobs : List (Job app)) :
    Posted connection
      { jobs
        connection := (connection.request method params options sink).2
        accepted := (connection.request method params options sink).1.toOption.toList } := by
  unfold request
  cases params with
  | error fault =>
      exact .unchanged rfl rfl
  | ok encoded =>
      dsimp only
      by_cases isRunning : connection.running = true
      · rw [if_pos isRunning, enqueue, if_pos isRunning]
        refine .opened (.new (numberedId connection.nextNumber) method encoded) options sink
          isRunning rfl ?_ ?_
        · cases sink <;> rfl
        · cases sink <;> rfl
      · rw [if_neg isRunning]
        exact .unchanged rfl rfl

theorem posted_advance (reaction : Reaction app) (connection : Connection app ω) :
    Posted connection (reaction.advance connection) := by
  cases reaction with
  | request method params options sink next =>
      exact posted_request method params options sink connection _
  | notify method params next =>
      exact .unchanged rfl (mailboxes_notify method params connection)
  | order wanted next =>
      exact .unchanged rfl (mailboxes_enqueue _ connection)
  | answer ticket outcome next =>
      exact .unchanged rfl (mailboxes_answer ticket outcome connection)
  | discard ticket next =>
      exact .unchanged rfl (mailboxes_discard ticket connection)
  | keep ticket next =>
      exact .unchanged rfl (mailboxes_keep ticket connection)
  | done | note | «recall» | remember | cancelToken =>
      exact .unchanged rfl rfl

theorem posted_begin [Wire ω] (command : Command app) (connection : Connection app ω) :
    Posted connection (connection.begin command) := by
  have drained (failure : Failure) :
      (connection.drain failure).accepted = [] ∧
        (connection.drain failure).connection.mailboxes = connection.mailboxes := by
    unfold drain
    split <;> exact ⟨rfl, rfl⟩
  cases command with
  | request message options sink =>
      unfold Connection.begin weigh
      dsimp only
      split <;> exact .unchanged rfl rfl
  | notification message receipt =>
      exact .unchanged rfl (mailboxes_writeNotification message receipt connection)
  | reply response =>
      exact .unchanged rfl (mailboxes_transmit _ connection)
  | received chunk =>
      exact .unchanged rfl rfl
  | order order =>
      cases order with
      | register | resetFramer =>
          exact .unchanged rfl rfl
      | cancel id =>
          unfold Connection.begin heed expel
          dsimp only
          split <;> exact .unchanged rfl rfl
      | failPending failure | close failure =>
          exact .unchanged (drained failure).1 (drained failure).2
      | shutdown =>
          exact .unchanged (drained .closed).1 (drained .closed).2

end Connection

/-- Only an outcome and the end of the worker change mailboxes that are up. -/
theorem Job.posted [Wire ω]
    (now : Instant) (job : Job app) (connection : Connection app ω)
    (noDelivery : ∀ promise outcome, job ≠ .deliver promise outcome) (goesOn : job ≠ .halt) :
    Posted connection (job.step now connection) := by
  cases job with
  | carryOut command =>
      exact posted_begin command connection
  | launch message options sink =>
      refine .unchanged rfl ?_
      change (connection.watch message.id options.token).2.mailboxes = connection.mailboxes
      unfold watch
      split
      · rfl
      · split
        · rfl
        · exact mailboxes_enqueue _ connection
  | send message =>
      have transmitted := mailboxes_transmit message.toValue.encode connection
      unfold Job.step offer
      dsimp only
      split
      · rename_i sent isSent
        rw [isSent] at transmitted
        exact .unchanged rfl transmitted
      · rename_i failure refused isRefused
        rw [isRefused] at transmitted
        exact .unchanged rfl transmitted
  | finish entry outcome =>
      refine .unchanged rfl ?_
      change (connection.unhook entry).mailboxes = connection.mailboxes
      unfold unhook
      split <;> rfl
  | route payload =>
      exact posted_sort payload connection
  | release ticket =>
      refine .unchanged rfl ?_
      change (connection.releaseTicket ticket).mailboxes = connection.mailboxes
      unfold releaseTicket
      split
      · split
        · rfl
        · exact mailboxes_discard ticket connection
      · rfl
  | react reaction =>
      exact posted_advance reaction connection
  | signal hooks =>
      cases hooks with
      | nil =>
          exact .unchanged rfl rfl
      | cons hook rest =>
          exact .unchanged rfl (mailboxes_setOff connection hook)
  | sweep =>
      unfold Job.step Connection.sweep
      dsimp only
      split
      · split <;> exact .unchanged rfl rfl
      · exact .unchanged rfl rfl
  | timeOut | emit | puzzle | shut =>
      exact .unchanged rfl rfl
  | deliver promise outcome =>
      exact absurd rfl (noDelivery promise outcome)
  | halt =>
      exact absurd rfl goesOn

/-- Of the other threads only the owners of handles change mailboxes that are up. -/
theorem Act.posted [Wire ω]
    (act : Act app ω) (connection : Connection app ω)
    (noLook : ∀ id, act ≠ .takeOutcome id) (noDrop : ∀ id, act ≠ .dropMailbox id) :
    Posted connection (act.apply connection) := by
  cases act with
  | request method params options sink =>
      exact posted_request method params options sink connection []
  | notify method params =>
      exact .unchanged rfl (mailboxes_notify method params connection)
  | notifyWithReceipt method params =>
      exact .unchanged rfl (mailboxes_notifyWithReceipt method params connection)
  | order wanted =>
      exact .unchanged rfl (mailboxes_enqueue _ connection)
  | answer number outcome =>
      exact .unchanged rfl (mailboxes_answer number outcome connection)
  | discard number =>
      exact .unchanged rfl (mailboxes_discard number connection)
  | arrive arrival =>
      refine .unchanged rfl ?_
      cases arrival <;> exact mailboxes_enqueue _ connection
  | gather =>
      exact .unchanged rfl (mailboxes_takeArrivals connection)
  | disturb | attach | detach | remember =>
      exact .unchanged rfl rfl
  | takeOutcome id =>
      exact absurd rfl (noLook id)
  | dropMailbox id =>
      exact absurd rfl (noDrop id)

end RpcEndpoint
