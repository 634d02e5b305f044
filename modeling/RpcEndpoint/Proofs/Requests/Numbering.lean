import RpcEndpoint.Proofs.Replies.Answered
import RpcEndpoint.Proofs.Writes.Verdicts

/-!
# The numbers of requests

Sends may come from any thread and from callbacks. Each that succeeds gets the next number at the
very moment at which its request comes to the inbox, and one that fails changes nothing.
-/

namespace RpcEndpoint

open Connection

variable {app : Application} {ω : Type}

/-- The number that an identifier is. -/
def MessageId.number? : MessageId → Option Int
  | .number value => some value.toInt
  | .string _ => none

/-! ## What sends return -/

/-- What a job returns whose first step is the send of a request. -/
def Job.returns (connection : Connection app ω) : Job app → Option (Except Failure MessageId)
  | .react (.request method params options sink _) =>
    some (connection.request method params options sink).1
  | _ => none

def Act.returns (connection : Connection app ω) : Act app ω → Option (Except Failure MessageId)
  | .request method params options sink =>
    some (connection.request method params options sink).1
  | _ => none

/-- What the send of a request returns that is made with a choice. -/
def Machine.returns (machine : Machine app ω) :
    Choice app ω → Option (Except Failure MessageId)
  | .work => machine.agenda.head?.bind (Job.returns machine.connection)
  | .act act => act.returns machine.connection
  | _ => none

/-- What the sends of a schedule return, in their order. -/
def Machine.results [Wire ω] :
    Machine app ω → List (Choice app ω) → List (Except Failure MessageId)
  | _, [] => []
  | machine, choice :: rest =>
    (machine.returns choice).toList ++ (machine.next choice).results rest

/-- The identifiers that sends have returned. -/
def issuedAmong (results : List (Except Failure MessageId)) : List MessageId :=
  results.filterMap Except.toOption

theorem issuedAmong_append (left right : List (Except Failure MessageId)) :
    issuedAmong (left ++ right) = issuedAmong left ++ issuedAmong right :=
  List.filterMap_append

/-- A send fails because its params have no JSON form or because the worker has stopped, and then
nothing has changed. -/
theorem Connection.request_failed
    {method : String} {params : Params} {options : Options} {sink : Sink app}
    {connection : Connection app ω} {failure : Failure}
    (failed : (connection.request method params options sink).1 = .error failure) :
    (connection.request method params options sink).2 = connection ∧
      ((∃ fault, params = .error fault ∧ failure = .encoding fault) ∨
        connection.running = false ∧ failure = .closed) := by
  unfold request at failed ⊢
  cases params with
  | error fault =>
      exact ⟨rfl, .inl ⟨fault, rfl, (Except.error.inj failed).symm⟩⟩
  | ok encoded =>
      dsimp only at failed ⊢
      by_cases isRunning : connection.running = true
      · rw [if_pos isRunning] at failed
        contradiction
      · rw [if_neg isRunning] at failed ⊢
        have stopped : connection.running = false := by simpa using isRunning
        exact ⟨rfl, .inr ⟨stopped, (Except.error.inj failed).symm⟩⟩

/-- A send that fails takes no number and changes nothing, neither the inbox nor the table nor the
wire. -/
theorem Machine.next_failed [Wire ω]
    {machine : Machine app ω} {choice : Choice app ω} {failure : Failure}
    (failed : machine.returns choice = some (.error failure)) :
    (machine.next choice).connection = machine.connection ∧
      (machine.next choice).entered = machine.entered ∧
      (machine.next choice).accepted = machine.accepted ∧
      ((∃ fault, failure = .encoding fault) ∨
        machine.connection.running = false ∧ failure = .closed) := by
  have unchanged {jobs rest : List (Job app)} {method : String} {params : Params}
      {options : Options} {sink : Sink app}
      (isError : (machine.connection.request method params options sink).1 = .error failure) :
      let after := machine.absorb rest
        { jobs
          connection := (machine.connection.request method params options sink).2
          accepted :=
            (machine.connection.request method params options sink).1.toOption.toList }
      after.connection = machine.connection ∧ after.entered = machine.entered ∧
        after.accepted = machine.accepted ∧
        ((∃ fault, failure = .encoding fault) ∨
          machine.connection.running = false ∧ failure = .closed) := by
    obtain ⟨same, reason⟩ := request_failed isError
    have why : (∃ fault, failure = .encoding fault) ∨
        machine.connection.running = false ∧ failure = .closed := by
      refine reason.imp_left ?_
      rintro ⟨fault, -, isEncoding⟩
      exact ⟨fault, isEncoding⟩
    simp [absorb, same, isError, Except.toOption, why]
  cases choice with
  | work =>
      rw [returns] at failed
      cases agenda : machine.agenda with
      | nil =>
          rw [agenda] at failed
          contradiction
      | cons job rest =>
          rw [agenda] at failed
          rw [next, agenda]
          cases job with
          | react reaction =>
              cases reaction with
              | request method params options sink next =>
                  exact unchanged (Option.some.inj failed)
              | _ =>
                  contradiction
          | _ =>
              contradiction
  | act act =>
      cases act with
      | request method params options sink =>
          exact unchanged (Option.some.inj failed)
      | _ =>
          contradiction
  | _ =>
      contradiction

/-! ## Identifiers in the order of the inbox -/

private theorem issuedAmong_singleton (outcome : Except Failure MessageId) :
    issuedAmong [outcome] = outcome.toOption.toList := by
  cases outcome <;> rfl

/-- Only the send of a request gives out an identifier. -/
theorem Job.accepted_step [Wire ω]
    (now : Instant) (job : Job app) (connection : Connection app ω) :
    (job.step now connection).accepted = issuedAmong (job.returns connection).toList := by
  have drained (failure : Failure) : (connection.drain failure).accepted = [] := by
    unfold drain
    split <;> rfl
  cases job with
  | carryOut command =>
      cases command with
      | request message options sink =>
          unfold Job.step Connection.begin weigh
          dsimp only
          split <;> rfl
      | order order =>
          cases order with
          | cancel id =>
              unfold Job.step Connection.begin heed expel
              dsimp only
              split <;> rfl
          | failPending failure =>
              exact drained failure
          | close failure =>
              exact drained failure
          | shutdown =>
              exact drained .closed
          | register | resetFramer =>
              rfl
      | notification | reply | received =>
          rfl
  | send message =>
      unfold Job.step offer
      dsimp only
      split <;> rfl
  | deliver promise outcome =>
      unfold Job.step honour
      dsimp only
      split <;> rfl
  | route payload =>
      unfold Job.step sort pair notice consider
      dsimp only
      split
      · split <;> rfl
      · split <;> rfl
      · split <;> rfl
      · rfl
  | react reaction =>
      cases reaction with
      | request method params options sink next =>
          exact (issuedAmong_singleton _).symm
      | _ =>
          rfl
  | signal hooks =>
      cases hooks <;> rfl
  | sweep =>
      unfold Job.step Connection.sweep
      dsimp only
      split
      · split <;> rfl
      · rfl
  | launch | finish | timeOut | emit | puzzle | release | shut | halt =>
      rfl

theorem accepted_next [Wire ω] (machine : Machine app ω) (choice : Choice app ω) :
    (machine.next choice).accepted =
      machine.accepted ++ issuedAmong (machine.returns choice).toList := by
  have nothing : machine.accepted = machine.accepted ++ issuedAmong [] :=
    (List.append_nil _).symm
  cases choice with
  | take =>
      rw [Machine.next]
      split <;> exact nothing
  | wake =>
      rw [Machine.next]
      split <;> exact nothing
  | work =>
      rw [Machine.next, Machine.returns]
      cases machine.agenda with
      | nil =>
          exact nothing
      | cons job rest =>
          have step := job.accepted_step machine.now machine.connection
          exact congrArg (machine.accepted ++ ·) step
  | reorder hooks =>
      rw [Machine.next]
      split
      · split <;> exact nothing
      · exact nothing
  | act act =>
      cases act with
      | request method params options sink =>
          exact congrArg (machine.accepted ++ ·) (issuedAmong_singleton _).symm
      | _ =>
          rfl
  | fire hook =>
      rw [Machine.next]
      split
      · rfl
      · exact nothing
  | pass instant =>
      exact nothing
  | trigger token =>
      rfl

/-- The identifiers that were given out are those that the sends returned. -/
theorem accepted_run [Wire ω] (machine : Machine app ω) (schedule : List (Choice app ω)) :
    (machine.run schedule).accepted =
      machine.accepted ++ issuedAmong (machine.results schedule) := by
  induction schedule generalizing machine with
  | nil =>
      exact (List.append_nil _).symm
  | cons choice rest inductionHypothesis =>
      have later := inductionHypothesis (machine.next choice)
      rw [accepted_next, List.append_assoc, ← issuedAmong_append] at later
      exact later

/-! ## Identifiers on the wire -/

/-- The requests among the messages of commands are those whose promises the commands make. -/
theorem ids_requestsAmong (commands : List (Command app)) :
    (requestsAmong (messagesIn commands)).map (·.id) = (promisesIn commands).map (·.id) := by
  induction commands with
  | nil =>
      rfl
  | cons command rest inductionHypothesis =>
      have step : messagesIn (command :: rest) = messagesIn [command] ++ messagesIn rest :=
        List.filterMap_append (l := [command])
      have promised : promisesIn (command :: rest) = promisesIn [command] ++ promisesIn rest :=
        promisesIn_append [command] rest
      rw [step, promised, requestsAmong, List.filterMap_append, List.map_append, List.map_append]
      refine congrArg₂ (· ++ ·) ?_ inductionHypothesis
      cases command <;> rfl

private theorem acceptedAmong_sublist (verdicts : List Verdict) :
    (acceptedAmong verdicts).Sublist (verdicts.map (·.message)) := by
  induction verdicts with
  | nil =>
      exact .slnil
  | cons verdict rest inductionHypothesis =>
      rw [List.map_cons, acceptedAmong]
      rcases verdict with ⟨message, ruling⟩
      cases ruling with
      | accepted =>
          exact inductionHypothesis.cons_cons message
      | refused failure =>
          exact inductionHypothesis.cons message
      | dropped failure =>
          exact inductionHypothesis.cons message

private theorem toInt_ofNat {number : Nat} (small : number < 2 ^ 63) :
    (Int64.ofNat number).toInt = number :=
  Int64.toInt_ofNat_of_lt small

private theorem pairwise_numbered {count : Nat} (small : count < 2 ^ 63 - 1) :
    ((List.range' 1 count).map numberedId).Pairwise fun left right =>
      left.before right = true := by
  rw [List.pairwise_map]
  refine List.Pairwise.imp_of_mem ?_ List.pairwise_lt_range'
  intro left right isLeft isRight less
  rw [List.mem_range'_1] at isLeft isRight
  have leftSmall : left < 2 ^ 63 := by omega
  have rightSmall : right < 2 ^ 63 := by omega
  simp only [numberedId, MessageId.before, decide_eq_true_eq, Int64.lt_iff_toInt_lt,
    toInt_ofNat leftSmall, toInt_ofNat rightSmall]
  exact_mod_cast less

/-- However sends of any threads and callbacks follow each other and whatever happens in between:
those that succeed return the numbers 1, 2, 3 and so on, without gap or repetition, in the order in
which their requests come to the inbox. A send that fails changes nothing. The requests on the wire
have ascending numbers. There must be fewer than `2 ^ 63 - 1` sends. -/
theorem sends_are_numbered_in_order [Wire ω]
    (wire : ω) (memory : app.Memory) (defaultTimeout : Option Duration)
    (schedule : List (Choice app ω))
    (few : ((Machine.start wire memory defaultTimeout : Machine app ω).results schedule).length <
      2 ^ 63 - 1) :
    let start : Machine app ω := .start wire memory defaultTimeout
    let reached := start.run schedule
    let issued := issuedAmong (start.results schedule)
    let messages := acceptedAmong (start.verdicts schedule)
    issued.map MessageId.number? =
        (List.range' 1 issued.length).map (fun number => some (Int.ofNat number)) ∧
      (promisesIn reached.entered).map (·.id) = issued ∧
      (∀ earlier choice later, schedule = earlier ++ choice :: later → ∀ failure,
        (start.run earlier).returns choice = some (.error failure) →
          ((start.run earlier).next choice).connection = (start.run earlier).connection ∧
            ((start.run earlier).next choice).entered = (start.run earlier).entered ∧
            ((start.run earlier).next choice).accepted = (start.run earlier).accepted ∧
            ((∃ fault, failure = .encoding fault) ∨
              (start.run earlier).connection.running = false ∧ failure = .closed)) ∧
      reached.connection.written = messages.map Outgoing.frame ∧
      ((requestsAmong messages).map (·.id)).Pairwise (fun left right =>
        left.before right = true) := by
  intro start reached issued messages
  have accepted : reached.accepted = issued := accepted_run start schedule
  have short : issued.length < 2 ^ 63 - 1 :=
    Nat.lt_of_le_of_lt (List.length_filterMap_le _ _) few
  have bound : reached.accepted.length ≤ 2 ^ 64 := by
    rw [accepted]
    omega
  have ledger : Ledger reached := ledger_run (Ledger.start wire memory defaultTimeout) schedule bound
  have numbered : issued = (List.range' 1 issued.length).map numberedId := by
    have given := ledger.numbered
    rwa [accepted] at given
  have judged := judged_run View.nothing wire memory defaultTimeout schedule (by
    intro choice _
    cases choice with
    | act act =>
        cases act <;> simp [Choice.Unseen, View.nothing]
    | _ =>
        trivial)
  have ids : (promisesIn reached.entered).map (·.id) = issued := ledger.ids.trans accepted
  refine ⟨?_, ids, ?_, ?_, ?_⟩
  · rw [numbered, List.map_map, List.length_map, List.length_range']
    refine List.map_congr_left ?_
    intro number isNumber
    rw [List.mem_range'_1] at isNumber
    have small : number < 2 ^ 63 := by omega
    simp [numberedId, MessageId.number?, toInt_ofNat small]
  · intro earlier choice later _ failure failed
    exact Machine.next_failed failed
  · have written := congrArg Output.written judged.output
    rw [Output.written_foldl, List.nil_append] at written
    exact written
  · obtain ⟨waiting, entered, -⟩ := ledger.inbox
    have inAll := acceptedAmong_sublist (start.verdicts schedule)
    have inTaken : messages.Sublist (messagesIn reached.taken) := by
      rw [← judged.messages]
      exact inAll.trans (List.sublist_append_left _ _)
    have amongPromises : ((requestsAmong messages).map (·.id)).Sublist issued := by
      have ofTaken := (inTaken.filterMap Outgoing.request?).map (·.id)
      change List.Sublist _ ((requestsAmong (messagesIn reached.taken)).map (·.id)) at ofTaken
      rw [ids_requestsAmong] at ofTaken
      refine ofTaken.trans ?_
      rw [← ids, entered, promisesIn_append, List.map_append]
      exact List.sublist_append_left _ _
    rw [numbered] at amongPromises
    exact (pairwise_numbered short).sublist amongPromises

/-- One send whose params have no JSON form, and one whose token was triggered; the callback of that
sends again. The wire refuses a request and accepts another. Behind the end of the worker nothing can
be sent. -/
def sendsOfAllKinds : List (Choice bare (MemoryWire Unit)) :=
  .act (.request "odd" (.error ⟨.mismatched (.refused "odd"), none⟩) .none (.mailbox .any)) ::
    .trigger 7 ::
    .act (.request "first" (.ok none) ⟨none, some 7⟩ (.callback fun _ =>
      .request "second" (.ok none) .none (.callback fun _ => .done) fun _ => .done)) :: workOff ++
    .act (.disturb (MemoryWire.setRefusal (some .closed))) ::
    .act (.request "third" (.ok none) .none (.callback fun _ => .done)) :: workOff ++
    .act (.disturb (MemoryWire.setRefusal none)) ::
    .act (.request "fourth" (.ok none) .none (.callback fun _ => .done)) :: workOff ++
    .act (.order (.cancel (.number 2))) :: .act (.order .shutdown) :: workOff ++
    [.act (.request "late" (.ok none) .none (.mailbox .any))]

/-- Of six sends four have succeeded, and two of their requests are on the wire. -/
theorem four_sends_take_four_numbers :
    let start : Machine bare (MemoryWire Unit) := .start .new () none
    let issued := issuedAmong (start.results sendsOfAllKinds)
    let messages := acceptedAmong (start.verdicts sendsOfAllKinds)
    (start.results sendsOfAllKinds).length = 6 ∧
      issued = [.number 1, .number 2, .number 3, .number 4] ∧
      (requestsAmong messages).map (·.id) = [.number 2, .number 4] ∧
      issued.map MessageId.number? =
        (List.range' 1 issued.length).map fun number => some (Int.ofNat number) := by
  intro start issued messages
  have few : (start.results sendsOfAllKinds).length < 2 ^ 63 - 1 := by
    decide +kernel
  refine ⟨by decide +kernel, by decide +kernel, by decide +kernel, ?_⟩
  have numbering := sends_are_numbered_in_order (MemoryWire.new : MemoryWire Unit)
    (() : bare.Memory) none sendsOfAllKinds
  exact (numbering few).1

end RpcEndpoint
