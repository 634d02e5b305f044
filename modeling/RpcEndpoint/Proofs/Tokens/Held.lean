import RpcEndpoint.Proofs.Requests.Ledger
import RpcEndpoint.Proofs.Schedule.Terms
import RpcEndpoint.Proofs.Tokens.Mirror

/-!
# The requests that a machine holds

A request keeps its hook from the moment it is entered until the worker comes to finish it, also
while it is out of the table and stands in the agenda. Every choice does one of five things to these
requests and to the table of tokens (`Handling`).
-/

namespace RpcEndpoint

open Connection

variable {app : Application} {ω : Type}

/-- The request that a job is to end, as long as it has its hook. -/
def Job.entries : Job app → List (PendingRequest app)
  | .finish entry _ | .timeOut entry => [entry]
  | _ => []

def entriesOf (jobs : List (Job app)) : List (PendingRequest app) :=
  jobs.flatMap Job.entries

/-- The requests that are pending, or have left the table and are not finished. -/
def Machine.held (machine : Machine app ω) : List (PendingRequest app) :=
  entriesOf machine.agenda ++ machine.connection.pending

theorem entriesOf_append (left right : List (Job app)) :
    entriesOf (left ++ right) = entriesOf left ++ entriesOf right :=
  List.flatMap_append

private theorem entriesOf_map
    (job : PendingRequest app → Job app) (ends : ∀ entry, (job entry).entries = [entry])
    (entries : List (PendingRequest app)) : entriesOf (entries.map job) = entries := by
  induction entries with
  | nil =>
      rfl
  | cons entry rest inductionHypothesis =>
      rw [List.map_cons, entriesOf, List.flatMap_cons, ends, ← entriesOf, inductionHypothesis]
      rfl

/-! ## Requests that leave the table -/

private theorem perm_drain
    (failure : Failure) (connection : Connection app ω) (last : List (Job app))
    (lastEntries : entriesOf last = []) :
    (entriesOf ((connection.drain failure).jobs ++ last) ++
      (connection.drain failure).connection.pending).Perm connection.pending := by
  obtain ⟨jobs, sends, -⟩ := drain_spec failure connection
  have isEmpty : (connection.drain failure).connection.pending = [] := sends.pending
  rw [jobs, entriesOf_append, lastEntries, isEmpty, entriesOf_map _ (fun _ => rfl)]
  rw [List.append_nil, List.append_nil]
  exact (PendingTable.perm_inOrder _).symm

private theorem perm_expel
    (id : MessageId) (connection : Connection app ω)
    (distinct : connection.pending.Distinct) :
    (entriesOf (connection.expel id).jobs ++ (connection.expel id).connection.pending).Perm
      connection.pending := by
  unfold expel
  cases found : connection.pending.find id with
  | some entry =>
      exact (PendingTable.perm_remove distinct found).symm
  | none =>
      exact .refl _

private theorem perm_offer [Wire ω]
    (message : Request) (connection : Connection app ω)
    (distinct : connection.pending.Distinct) :
    (entriesOf (connection.offer message).jobs ++
      (connection.offer message).connection.pending).Perm connection.pending := by
  have transmitted := (sends_transmit message.toValue.encode connection).pending
  unfold offer
  split
  · rename_i sent isSent
    rw [isSent] at transmitted
    exact .of_eq transmitted
  · rename_i failure refused isRefused
    rw [isRefused] at transmitted
    dsimp only at transmitted ⊢
    rw [transmitted, entriesOf_map _ (fun _ => rfl)]
    change ((connection.pending.find message.id).toList ++
      connection.pending.remove message.id).Perm connection.pending
    cases found : connection.pending.find message.id with
    | some entry =>
        exact (PendingTable.perm_remove distinct found).symm
    | none =>
        rw [PendingTable.remove_of_not_mem (PendingTable.find_eq_none_iff.mp found)]
        exact .refl _

private theorem perm_sweep (now : Instant) (connection : Connection app ω) :
    (entriesOf (connection.sweep now).jobs ++ (connection.sweep now).connection.pending).Perm
      connection.pending := by
  have parted := PendingTable.perm_due now connection.pending
  unfold sweep
  split
  · exact .refl _
  · rename_i first rest isDue
    rw [isDue] at parted
    dsimp only
    rw [entriesOf_map _ (fun _ => rfl)]
    exact parted.symm

private theorem perm_sort
    (payload : Bytes) (connection : Connection app ω)
    (distinct : connection.pending.Distinct) :
    (entriesOf (connection.sort payload).jobs ++ (connection.sort payload).connection.pending).Perm
      connection.pending := by
  unfold sort
  cases Incoming.classify payload with
  | response response =>
      unfold pair
      dsimp only
      cases found : connection.pending.find response.id with
      | some entry =>
          exact (PendingTable.perm_remove distinct found).symm
      | none =>
          exact .refl _
  | notification message =>
      unfold notice
      dsimp only
      split <;> exact .refl _
  | request message =>
      unfold consider
      dsimp only
      split
      · exact .refl _
      · exact .of_eq (sends_answer _ _ _).pending
  | unrecognized reason =>
      have noEntries : entriesOf (connection.wonder reason payload).jobs = [] := by
        unfold wonder
        cases connection.handlers.undecodable <;> rfl
      dsimp only
      rw [noEntries]
      exact .refl _

/-- What leaves the table stands in the agenda, until it is finished. -/
theorem Job.entries_step [Wire ω]
    (now : Instant) (job : Job app) (connection : Connection app ω)
    (distinct : connection.pending.Distinct)
    (noLaunch : ∀ message options sink, job ≠ .launch message options sink)
    (noFinish : ∀ entry outcome, job ≠ .finish entry outcome) :
    (entriesOf (job.step now connection).jobs ++
        (job.step now connection).connection.pending).Perm
      (job.entries ++ connection.pending) := by
  cases job with
  | carryOut command =>
      cases command with
      | request message options sink =>
          unfold Job.step Connection.begin weigh
          dsimp only
          split <;> exact .refl _
      | notification message receipt =>
          exact .of_eq (sends_writeNotification message receipt connection).pending
      | reply response =>
          exact .of_eq (sends_transmit _ connection).pending
      | received chunk =>
          have noEntries :
              entriesOf ((Job.carryOut (.received chunk)).step now connection).jobs = [] := by
            refine List.flatMap_eq_nil_iff.mpr ?_
            intro next isNext
            rcases List.mem_append.mp isNext with isFault | isPayload
            · obtain ⟨fault, -, rfl⟩ := List.mem_map.mp isFault
              rfl
            · obtain ⟨payload, -, rfl⟩ := List.mem_map.mp isPayload
              rfl
          rw [noEntries]
          exact .refl _
      | order order =>
          cases order with
          | register | resetFramer =>
              exact .refl _
          | cancel id =>
              exact perm_expel id connection distinct
          | failPending failure =>
              have drained := perm_drain failure connection [] rfl
              rwa [List.append_nil] at drained
          | close failure =>
              exact perm_drain failure connection [.shut failure] rfl
          | shutdown =>
              exact perm_drain .closed connection [.halt] rfl
  | launch message options sink =>
      exact absurd rfl (noLaunch message options sink)
  | finish entry outcome =>
      exact absurd rfl (noFinish entry outcome)
  | send message =>
      exact perm_offer message connection distinct
  | deliver promise outcome =>
      unfold Job.step honour
      dsimp only
      split
      · exact .of_eq (sends_fillMailbox _ _ _).pending
      · exact .refl _
  | timeOut entry =>
      exact .refl _
  | emit event =>
      have noEntries : entriesOf ((Job.emit event).step now connection).jobs = [] := by
        refine List.flatMap_eq_nil_iff.mpr ?_
        intro next isNext
        obtain ⟨react, -, rfl⟩ := List.mem_map.mp isNext
        rfl
      rw [noEntries]
      exact .refl _
  | route payload =>
      exact perm_sort payload connection distinct
  | puzzle payload reaction =>
      exact .refl _
  | release ticket =>
      exact .of_eq (sends_releaseTicket ticket connection).pending
  | react reaction =>
      have noEntries : entriesOf ((Job.react reaction).step now connection).jobs = [] := by
        cases reaction <;> rfl
      rw [noEntries]
      exact .of_eq (sends_advance reaction connection).pending
  | signal hooks =>
      cases hooks with
      | nil =>
          exact .refl _
      | cons hook rest =>
          exact .of_eq (sends_setOff connection hook).pending
  | shut failure =>
      exact .refl _
  | halt =>
      exact .of_eq (sends_halt connection).pending
  | sweep =>
      unfold Job.step
      dsimp only
      split
      · exact perm_sweep now connection
      · exact .refl _

/-! ## What becomes of the held requests and the tokens -/

/-- The entry that a machine makes of a request. -/
def Machine.entryOf
    (message : Request) (options : Options) (sink : Sink app) (attachment : Option Attachment)
    (machine : Machine app ω) : PendingRequest app where
  id := message.id
  method := message.method
  sink := sink
  deadline := (options.timeout.or machine.connection.defaultTimeout).bind
    (Deadline.after? machine.now)
  attachment := attachment

/-- A token has set off this hook, and it has not taken effect. -/
def Machine.Carries (machine : Machine app ω) (hook : Hook) : Prop :=
  hook ∈ machine.flying ∨ ∃ hooks, .signal hooks ∈ machine.agenda ∧ hook ∈ hooks

/-- What happens to the requests that a machine holds, and to the tokens. -/
inductive Handling (before after : Machine app ω) : Prop where
  | kept
      (tokens : after.connection.tokens = before.connection.tokens)
      (held : after.held.Perm before.held)
  /-- A request is entered that hangs on no token. -/
  | entered {message : Request} {options : Options} {sink : Sink app} {rest : List (Job app)}
      (agenda : before.agenda = .launch message options sink :: rest)
      (untied : ∀ token ∈ options.token,
        (before.connection.tokens.state token).cancelled = true)
      (tokens : after.connection.tokens = before.connection.tokens)
      (held : after.held.Perm (before.entryOf message options sink none :: before.held))
  /-- A request is entered whose hook its token has taken. -/
  | hung {message : Request} {options : Options} {sink : Sink app} {rest : List (Job app)}
      {token : Token} {attachment : Attachment}
      (agenda : before.agenda = .launch message options sink :: rest)
      (carried : options.token = some token)
      (attached : before.connection.tokens.attach? token ⟨before.connection.name, message.id⟩ =
        some (attachment, after.connection.tokens))
      (held : after.held.Perm
        (before.entryOf message options sink (some attachment) :: before.held))
  | dropped {entry : PendingRequest app} {outcome : Except Failure Bytes} {rest : List (Job app)}
      (agenda : before.agenda = .finish entry outcome :: rest)
      (tokens : after.connection.tokens = (before.connection.unhook entry).tokens)
      (held : before.held.Perm (entry :: after.held))
  | triggered (token : Token)
      (tokens : after.connection.tokens = (before.connection.tokens.cancel token).2)
      (held : after.held = before.held)
      (carries : ∀ hook ∈ (before.connection.tokens.cancel token).1, after.Carries hook)

namespace Handling

variable {before after : Machine app ω}

/-- The hooks of a token mirror the requests whatever happens to these. -/
theorem mirrors
    (handling : Handling before after) {held : Nat → List (PendingRequest app)}
    (mirrors : Mirrors before.connection.tokens held)
    (isHeld : held before.connection.name = before.held) :
    Mirrors after.connection.tokens
      (Function.update held before.connection.name after.held) := by
  have regroup {table : TokenTable} {listed : List (PendingRequest app)}
      (mirrored : Mirrors table (Function.update held before.connection.name listed))
      (same : ∀ token, (hooksOn before.connection.name token after.held).Perm
        (hooksOn before.connection.name token listed)) :
      Mirrors table (Function.update held before.connection.name after.held) := by
    refine mirrored.regroup ?_
    intro other token
    by_cases isName : other = before.connection.name
    · rw [isName, Function.update_self, Function.update_self]
      exact same token
    · rw [Function.update_of_ne isName, Function.update_of_ne isName]
  have unchanged : Mirrors before.connection.tokens
      (Function.update held before.connection.name before.held) := by
    rwa [← isHeld, Function.update_eq_self]
  cases handling with
  | kept tokens sameHeld =>
      rw [tokens]
      exact regroup unchanged fun token => sameHeld.filterMap _
  | entered agenda untied tokens grown =>
      rw [tokens]
      refine regroup unchanged ?_
      intro token
      exact grown.filterMap (PendingRequest.hook? before.connection.name token)
  | @hung message options sink rest token attachment agenda carried attached grown =>
      let entry := before.entryOf message options sink (some attachment)
      have tied : entry.attachment = some attachment := rfl
      have attachedTo := mirrors.attach tied attached
      rw [isHeld] at attachedTo
      exact regroup attachedTo fun _ => grown.filterMap _
  | @dropped entry outcome rest agenda tokens parted =>
      rw [tokens, Connection.unhook]
      cases tied : entry.attachment with
      | some attachment =>
          rw [← isHeld] at parted
          exact mirrors.detach tied parted
      | none =>
          refine regroup unchanged ?_
          intro token
          have listed := parted.filterMap (PendingRequest.hook? before.connection.name token)
          have noHook : entry.hook? before.connection.name token = none := by
            rw [PendingRequest.hook?, tied]
          rw [List.filterMap_cons_none noHook] at listed
          exact listed.symm
  | triggered token tokens sameHeld carries =>
      rw [tokens, sameHeld, ← isHeld, Function.update_eq_self]
      exact mirrors.cancel token

/-- A token that was triggered stays so. -/
theorem cancelled
    (handling : Handling before after) {token : Token}
    (wasCancelled : (before.connection.tokens.state token).cancelled = true) :
    (after.connection.tokens.state token).cancelled = true := by
  cases handling with
  | kept tokens held =>
      rwa [tokens]
  | entered agenda untied tokens held =>
      rwa [tokens]
  | hung agenda carried attached held =>
      obtain ⟨untriggered, -, states⟩ := TokenTable.attach?_eq_some attached
      rw [states]
      split
      · rename_i same
        rw [same, untriggered] at wasCancelled
        contradiction
      · exact wasCancelled
  | @dropped entry outcome rest agenda tokens held =>
      rw [tokens, Connection.unhook]
      cases entry.attachment with
      | none =>
          exact wasCancelled
      | some attachment =>
          dsimp only
          rw [TokenTable.state_detach]
          split
          · rename_i same
            rw [same] at wasCancelled
            exact wasCancelled
          · exact wasCancelled
  | triggered other tokens held carries =>
      rw [tokens, TokenTable.state_cancel]
      split
      · rfl
      · exact wasCancelled

/-- Of all that is done to a table of tokens, only a trigger triggers a token, and it sets off the
hooks of the token. -/
theorem carries
    (handling : Handling before after) {token : Token}
    (untriggered : (before.connection.tokens.state token).cancelled = false)
    (triggered : (after.connection.tokens.state token).cancelled = true)
    {held : Nat × Hook} (isHook : held ∈ (before.connection.tokens.state token).hooks) :
    after.Carries held.2 := by
  cases handling with
  | kept tokens =>
      simp [tokens, untriggered] at triggered
  | entered agenda untied tokens =>
      simp [tokens, untriggered] at triggered
  | hung agenda carried attached =>
      obtain ⟨wasOpen, -, states⟩ := TokenTable.attach?_eq_some attached
      rw [states] at triggered
      split at triggered <;> simp_all
  | @dropped entry outcome rest agenda tokens =>
      rw [tokens, Connection.unhook] at triggered
      cases hung : entry.attachment with
      | none =>
          simp [hung, untriggered] at triggered
      | some attachment =>
          simp only [hung, TokenTable.state_detach] at triggered
          split at triggered <;> simp_all
  | triggered cause tokens kept carries =>
      rw [tokens, TokenTable.state_cancel] at triggered
      split at triggered
      · rename_i isCause
        obtain ⟨rfl, -⟩ := isCause
        apply carries
        rw [TokenTable.hooks_cancel untriggered]
        exact List.mem_map_of_mem isHook
      · simp [untriggered] at triggered

end Handling

/-! ## Steps -/

/-- Whether a choice is open to a machine whose tokens only its own requests hang on. -/
def Choice.isOwn : Choice app ω → Bool
  | .act (.attach _ _) | .act (.detach _) => false
  | _ => true

/-- Either a request hangs on its token, or it has none that could still be triggered. -/
private theorem watch_spec
    (id : MessageId) (token : Option Token) (connection : Connection app ω) :
    ((connection.watch id token).1 = none ∧
      (connection.watch id token).2.tokens = connection.tokens ∧
      ∀ carried ∈ token, (connection.tokens.state carried).cancelled = true) ∨
    ∃ carried attachment, token = some carried ∧
      (connection.watch id token).1 = some attachment ∧
      connection.tokens.attach? carried ⟨connection.name, id⟩ =
        some (attachment, (connection.watch id token).2.tokens) := by
  unfold watch
  cases token with
  | none =>
      left
      refine ⟨rfl, rfl, ?_⟩
      intro carried isCarried
      contradiction
  | some carried =>
      cases attached : connection.tokens.attach? carried (connection.hook id) with
      | some hung =>
          right
          have isAttached : connection.tokens.attach? carried ⟨connection.name, id⟩ = some hung :=
            attached
          exact ⟨carried, hung.1, rfl, by simp [attached], by simp [attached, isAttached]⟩
      | none =>
          left
          have isCancelled := TokenTable.attach?_eq_none_iff.mp attached
          refine ⟨by simp [attached], ?_, ?_⟩
          · simp [attached, enqueue_eq]
          · rintro other ⟨⟩
            exact isCancelled

theorem pending_launch [Wire ω]
    (message : Request) (options : Options) (sink : Sink app) (machine : Machine app ω) :
    ((Job.launch message options sink).step machine.now machine.connection).connection.pending =
      machine.connection.pending.insert (machine.entryOf message options sink
        (machine.connection.watch message.id options.token).1) := by
  have samePending := (sends_watch message.id options.token machine.connection).pending
  have sameLimit : (machine.connection.watch message.id options.token).2.defaultTimeout =
      machine.connection.defaultTimeout := by
    unfold watch
    split
    · rfl
    · split
      · rfl
      · rw [enqueue_eq]
  simp only [Job.step, enter, Machine.entryOf, samePending, sameLimit]

private theorem tokens_setOff (connection : Connection app ω) (hook : Hook) :
    (connection.setOff hook).tokens = connection.tokens := by
  unfold setOff
  split
  · rw [enqueue_eq]
  · rfl

namespace Machine

private theorem perm_regroup
    {new table old formerTable rest : List (PendingRequest app)}
    (step : (new ++ table).Perm (old ++ formerTable)) :
    (new ++ (rest ++ table)).Perm (old ++ (rest ++ formerTable)) :=
  (List.perm_append_comm_assoc new rest table).trans
    ((step.append_left rest).trans (List.perm_append_comm_assoc rest old formerTable))

private theorem held_absorb
    (machine : Machine app ω) (rest : List (Job app)) (progress : Progress app ω) :
    (machine.absorb rest progress).held =
      entriesOf progress.jobs ++ (entriesOf rest ++ progress.connection.pending) := by
  rw [held, absorb, entriesOf_append, List.append_assoc]

private theorem held_of_agenda
    {machine : Machine app ω} {job : Job app} {rest : List (Job app)}
    (agenda : machine.agenda = job :: rest) :
    machine.held = job.entries ++ (entriesOf rest ++ machine.connection.pending) := by
  rw [held, agenda, entriesOf, List.flatMap_cons, List.append_assoc]
  rfl

variable [Wire ω]

/-- A request that is entered hangs on its token, unless that was triggered in the meantime. -/
private theorem handling_launch
    (machine : Machine app ω) {message : Request} {options : Options} {sink : Sink app}
    {rest : List (Job app)}
    (agenda : machine.agenda = .launch message options sink :: rest)
    (isNew : message.id ∉ machine.connection.pending.ids) :
    Handling machine (machine.absorb rest
      ((Job.launch message options sink).step machine.now machine.connection)) := by
  let step := (Job.launch message options sink).step machine.now machine.connection
  have grown {attachment : Option Attachment}
      (isAttachment : (machine.connection.watch message.id options.token).1 = attachment) :
      (machine.absorb rest step).held.Perm
        (machine.entryOf message options sink attachment :: machine.held) := by
    have inserted : machine.connection.pending.insert
        (machine.entryOf message options sink attachment) = _ :=
      PendingTable.insert_of_not_mem isNew
    have isPending := pending_launch message options sink machine
    rw [isAttachment, inserted] at isPending
    rw [held_absorb, held_of_agenda agenda, isPending]
    change (entriesOf rest ++ (_ ++ _)).Perm (_ :: (entriesOf rest ++ _))
    rw [← List.append_assoc]
    exact List.perm_append_singleton _ _
  rcases watch_spec message.id options.token machine.connection with
    ⟨noHook, sameTokens, untied⟩ | ⟨token, attachment, carried, isHook, attached⟩
  · exact .entered agenda untied sameTokens (grown noHook)
  · exact .hung agenda carried attached (grown isHook)

/-- The worker does the first step of a job. -/
private theorem handling_work
    (machine : Machine app ω) {job : Job app} {rest : List (Job app)}
    (agenda : machine.agenda = job :: rest)
    (distinct : ((job.promises ++ machine.connection.pending.promises).map (·.id)).Nodup) :
    Handling machine (machine.absorb rest (job.step machine.now machine.connection)) := by
  rw [List.map_append, PendingTable.map_id_promises] at distinct
  -- All other jobs only move entries between the table and the agenda.
  have sameEntries
      (noLaunch : ∀ message options sink, job ≠ .launch message options sink)
      (noFinish : ∀ entry outcome, job ≠ .finish entry outcome) :
      (machine.absorb rest (job.step machine.now machine.connection)).held.Perm
        machine.held := by
    rw [held_absorb, held_of_agenda agenda]
    exact perm_regroup (job.entries_step machine.now machine.connection distinct.of_append_right
      noLaunch noFinish)
  by_cases unbinding : job.binds = false
  · have sameTerms := job.terms_step machine.now machine.connection unbinding
    refine .kept (congrArg Terms.tokens sameTerms) (sameEntries ?_ ?_)
    · rintro message options sink rfl
      contradiction
    · rintro entry outcome rfl
      contradiction
  · cases job with
    | launch message options sink =>
        exact machine.handling_launch agenda (List.nodup_cons.mp distinct).1
    | finish entry outcome =>
        refine .dropped agenda rfl ?_
        have isPending : (machine.connection.unhook entry).pending =
            machine.connection.pending := (sends_unhook entry machine.connection).pending
        rw [held_absorb, held_of_agenda agenda]
        change List.Perm _ (entry :: (entriesOf rest ++ (machine.connection.unhook entry).pending))
        rw [isPending]
        exact .refl _
    | react reaction =>
        cases reaction with
        | cancelToken token next =>
            refine .triggered token rfl ?_ ?_
            · rw [held_absorb, held_of_agenda agenda]
              rfl
            · intro hook isHook
              exact .inr ⟨_, List.mem_cons_self, isHook⟩
        | _ =>
            contradiction
    | signal hooks =>
        refine .kept ?_ (sameEntries (by intros; simp) (by intros; simp))
        cases hooks with
        | nil =>
            rfl
        | cons hook later =>
            exact tokens_setOff machine.connection hook
    | shut failure =>
        exact .kept rfl (sameEntries (by intros; simp) (by intros; simp))
    | _ =>
        contradiction

/-- Every choice does one of the five things. -/
theorem handling
    (machine : Machine app ω) (choice : Choice app ω) (isOwn : choice.isOwn = true)
    (ledger : Ledger machine) (bound : machine.accepted.length ≤ 2 ^ 64) :
    Handling machine (machine.next choice) := by
  have same : Handling machine machine := .kept rfl (.refl _)
  cases choice with
  | take =>
      rw [next]
      split
      · rename_i command rest agenda isRunning inbox
        refine .kept rfl ?_
        rw [held, held, agenda]
        exact .refl _
      · exact same
  | wake =>
      rw [next]
      split
      · rename_i agenda isRunning
        refine .kept rfl ?_
        rw [held, held, agenda]
        exact .refl _
      · exact same
  | work =>
      rw [next]
      split
      · rename_i job rest agenda
        exact machine.handling_work agenda (ledger.nodup_head bound agenda)
      · exact same
  | reorder hooks =>
      rw [next]
      split
      · rename_i listed rest agenda
        split
        · refine .kept rfl ?_
          rw [held, held, agenda]
          exact .refl _
        · exact same
      · exact same
  | pass instant =>
      exact .kept rfl (.refl _)
  | act act =>
      have sends := sends_apply act machine.connection
      have sameHeld : (machine.absorb machine.agenda (act.apply machine.connection)).held =
          machine.held := by
        rw [held, held, absorb, sends.pending]
        cases act <;> rfl
      refine .kept ?_ (.of_eq sameHeld)
      by_cases mild : act.meddles = false
      · have kept : Keeps .nothing _ _ := act.keeps machine.connection mild
        exact congrArg Terms.tokens kept.terms
      · cases act with
        | disturb change =>
            rfl
        | _ =>
            contradiction
  | trigger token =>
      refine .triggered token rfl rfl ?_
      intro hook isHook
      exact .inl (List.mem_append_right machine.flying isHook)
  | fire hook =>
      rw [next]
      split
      · refine .kept (tokens_setOff machine.connection hook) ?_
        have isPending : (machine.connection.setOff hook).pending =
            machine.connection.pending := (sends_setOff machine.connection hook).pending
        rw [held, held, absorb, isPending]
        exact .refl _
      · exact same

end Machine

end RpcEndpoint
