import RpcEndpoint.Proofs.Arrival.Counts
import RpcEndpoint.Proofs.Callbacks.Amid
import RpcEndpoint.Proofs.Framing.Batches
import RpcEndpoint.Proofs.Requests.Places

/-!
# The order of what arrives

Chunks that wait in the inbox one behind another are worked off as if their bytes had come at once,
but for one thing: a malformed header block is told ahead of the payloads that its last chunk
completes, although they come before it in the stream.
-/

namespace RpcEndpoint.Connection

open Framing (Decoder Batch)

variable {app : Application} {ω : Type}

/-! ## One chunk -/

/-- Takes in what a chunk completes. -/
def takeIn (connection : Connection app ω) (batch : Batch) : Connection app ω :=
  batch.payloads.foldl route (connection.tell batch.fault.toList)

theorem tell_amid
    (decoder : Decoder) (front : List (Command app)) (connection : Connection app ω)
    (faults : List Framing.HeaderFault) :
    (connection.amid decoder front).tell faults = (connection.tell faults).amid decoder front := by
  induction faults generalizing connection with
  | nil => rfl
  | cons fault rest inductionHypothesis =>
      have told := emit_amid decoder front connection (.malformedHeader fault)
      have later := inductionHypothesis (connection.emit (.malformedHeader fault))
      rw [← told] at later
      exact later

theorem takeIn_amid
    (decoder : Decoder) (front : List (Command app)) (connection : Connection app ω)
    (batch : Batch) :
    (connection.amid decoder front).takeIn batch =
      (connection.takeIn batch).amid decoder front := by
  rw [takeIn, tell_amid, foldl_route_amid, takeIn]

theorem receive_amid
    (decoder : Decoder) (front : List (Command app)) (connection : Connection app ω)
    (chunk : Bytes) :
    (connection.amid decoder front).receive chunk =
      (connection.takeIn (decoder.push chunk).1).amid (decoder.push chunk).2 front := by
  rw [← takeIn_amid]
  unfold receive unpack
  rcases pushed : decoder.push chunk with ⟨⟨payloads, fault⟩, last⟩
  have samePushed : (connection.amid decoder front).framer.decoder.push chunk =
      (⟨payloads, fault⟩, last) := pushed
  rw [samePushed]
  cases fault <;> rfl

/-- Nothing but the table, the counts and the callbacks' own matters change. -/
theorem running_foldl_route (payloads : List Bytes) (connection : Connection app ω) :
    (payloads.foldl route connection).running = connection.running := by
  induction payloads generalizing connection with
  | nil => rfl
  | cons payload rest inductionHypothesis =>
      exact (inductionHypothesis (connection.route payload)).trans
        (spares_route connection payload).running

theorem mem_pending_foldl_route
    {payloads : List Bytes} {connection : Connection app ω} {entry : PendingRequest app}
    (mem : entry ∈ (payloads.foldl route connection).pending) : entry ∈ connection.pending := by
  induction payloads generalizing connection with
  | nil => exact mem
  | cons payload rest inductionHypothesis =>
      have held := inductionHypothesis mem
      rw [(spares_route connection payload).pending] at held
      exact PendingTable.mem_of_mem_without held

/-! ## Chunks in the inbox -/

/-- No pending request has a deadline. -/
def Timeless (connection : Connection app ω) : Prop :=
  ∀ entry ∈ connection.pending, entry.deadline = none

theorem Timeless.expire
    {connection : Connection app ω} (timeless : connection.Timeless) (now : Instant) :
    connection.expire now = connection := by
  have noneDue : connection.pending.filter (·.isDue now) = [] := by
    refine List.filter_eq_nil_iff.mpr fun entry held => ?_
    rw [PendingRequest.isDue, timeless entry held]
    exact Bool.false_ne_true
  have nobody : connection.pending.due now = [] := by
    rw [PendingTable.due, noneDue]
    exact List.mergeSort_nil
  rw [Connection.expire, nobody]

theorem Timeless.takeIn
    {connection : Connection app ω} (timeless : connection.Timeless) (batch : Batch) :
    (connection.takeIn batch).Timeless := by
  intro entry held
  have inTold := mem_pending_foldl_route held
  rw [(apart_tell batch.fault.toList connection).pending] at inTold
  exact timeless entry inTold

theorem running_takeIn (connection : Connection app ω) (batch : Batch) :
    (connection.takeIn batch).running = connection.running :=
  (running_foldl_route _ _).trans (apart_tell batch.fault.toList connection).running

/-- Puts chunks into the inbox, one behind another. -/
def hear (chunks : List Bytes) (connection : Connection app ω) : Connection app ω :=
  chunks.foldl (fun heard chunk => heard.enqueue (.received chunk)) connection

/-- Turns of the worker, each with the time when it begins and the time when it looks for requests
whose time is up. -/
def turns [Wire ω] (times : List (Instant × Instant)) (connection : Connection app ω) :
    Connection app ω :=
  times.foldl (fun turned time => turned.turn time.1 time.2) connection

theorem hear_eq
    {connection : Connection app ω} (running : connection.running = true)
    (chunks : List Bytes) :
    connection.hear chunks =
      { connection with inbox := connection.inbox ++ chunks.map .received } := by
  induction chunks generalizing connection with
  | nil =>
      rw [List.map_nil, List.append_nil]
      rfl
  | cons chunk rest inductionHypothesis =>
      have enqueued : connection.enqueue (.received chunk) =
          { connection with inbox := connection.inbox ++ [.received chunk] } :=
        if_pos running
      have later :
          hear rest { connection with inbox := connection.inbox ++ [.received chunk] } =
            { connection with
              inbox := (connection.inbox ++ [.received chunk]) ++ rest.map .received } :=
        inductionHypothesis running
      rw [hear] at later
      rw [hear, List.foldl_cons, enqueued, later]
      simp only [List.map_cons, List.append_assoc, List.singleton_append]

theorem turn_received [Wire ω]
    {connection : Connection app ω} {chunk : Bytes} {rest : List (Command app)}
    (running : connection.running = true) (isInbox : connection.inbox = .received chunk :: rest)
    (now later : Instant) :
    connection.turn now later =
      let handled := { connection with inbox := rest }.receive chunk
      if handled.running then handled.expire later else handled := by
  unfold turn
  rw [if_pos running, isInbox]
  rfl

/-- The turns that work off the chunks take in what they complete, chunk by chunk. -/
theorem turns_amid [Wire ω]
    {connection : Connection app ω} (running : connection.running = true)
    (timeless : connection.Timeless) (decoder : Decoder) (chunks : List Bytes)
    {times : List (Instant × Instant)} (enough : times.length = chunks.length) :
    (connection.amid decoder (chunks.map .received)).turns times =
      ((decoder.batches chunks).foldl takeIn connection).amid
        (Decoder.pushAll chunks decoder).2 [] := by
  induction chunks generalizing connection decoder times with
  | nil =>
      rw [List.length_eq_zero_iff.mp enough]
      rfl
  | cons chunk rest inductionHypothesis =>
      cases times with
      | nil => contradiction
      | cons time others =>
          let batch := (decoder.push chunk).1
          have stillRunning : (connection.takeIn batch).running = true :=
            (running_takeIn connection batch).trans running
          have stillTimeless := timeless.takeIn batch
          have handled := receive_amid decoder (rest.map .received) connection chunk
          have timelessAmid : Timeless ((connection.takeIn batch).amid (decoder.push chunk).2
              (rest.map .received)) := stillTimeless
          have unexpired := timelessAmid.expire time.2
          have isTurn :
              (connection.amid decoder ((chunk :: rest).map .received)).turn time.1 time.2 =
                (connection.takeIn batch).amid (decoder.push chunk).2 (rest.map .received) := by
            have runningAmid :
                (connection.amid decoder ((chunk :: rest).map .received)).running = true := running
            have isInbox :
                (connection.amid decoder ((chunk :: rest).map .received)).inbox =
                  .received chunk :: (rest.map .received ++ connection.inbox) := rfl
            refine (turn_received runningAmid isInbox time.1 time.2).trans ?_
            change (let handled := (connection.amid decoder (rest.map .received)).receive chunk
              if handled.running then handled.expire time.2 else handled) = _
            rw [handled]
            exact (if_pos stillRunning).trans unexpired
          rw [turns, List.foldl_cons, isTurn]
          exact inductionHypothesis stillRunning stillTimeless (decoder.push chunk).2
            (Nat.succ.inj enough)

/-! ## The whole stream -/

private theorem foldl_takeIn_nothing
    {batches : List Batch} (nothing : ∀ batch ∈ batches, batch = ⟨[], none⟩)
    (connection : Connection app ω) : batches.foldl takeIn connection = connection := by
  induction batches with
  | nil => rfl
  | cons batch rest inductionHypothesis =>
      have isNothing : batch = ⟨[], none⟩ := nothing batch List.mem_cons_self
      have restNothing : ∀ other ∈ rest, other = ⟨[], none⟩ :=
        fun other mem => nothing other (List.mem_cons_of_mem batch mem)
      rw [List.foldl_cons, isNothing]
      exact inductionHypothesis restNothing

/-- Of what the chunks complete, everything is routed in the order of the stream, but the malformed
header block, if there is one, is told ahead of the payloads that it has overtaken. -/
theorem foldl_takeIn_batches
    {decoder : Decoder} (settled : decoder.Settled) (chunks : List Bytes)
    (connection : Connection app ω) :
    ∃ early,
      (Decoder.pushAll chunks decoder).1.payloads = early ++ decoder.overtaken chunks ∧
        (decoder.batches chunks).foldl takeIn connection =
          (decoder.overtaken chunks).foldl route
            ((early.foldl route connection).tell (Decoder.pushAll chunks decoder).1.faults) := by
  induction chunks generalizing decoder connection with
  | nil =>
      exact ⟨[], rfl, rfl⟩
  | cons chunk rest inductionHypothesis =>
      rw [Decoder.pushAll_cons, Decoder.overtaken, Decoder.batches, List.foldl_cons]
      cases reported : (decoder.push chunk).1.fault with
      | none =>
          have next : Decoder.Settled (decoder.push chunk).2 :=
            Decoder.settled_take settled (.push chunk)
          obtain ⟨early, parted, worked⟩ :=
            inductionHypothesis next (connection.takeIn (decoder.push chunk).1)
          refine ⟨(decoder.push chunk).1.payloads ++ early, ?_, ?_⟩
          · rw [parted, List.append_assoc]
            rfl
          · rw [worked, List.foldl_append, takeIn, reported]
            rfl
      | some fault =>
          have stuck := Decoder.stuck_push settled reported
          obtain ⟨nothing, noBatches⟩ := stuck.pushAll rest
          refine ⟨[], ?_, ?_⟩
          · rw [nothing]
            exact List.append_nil _
          · rw [foldl_takeIn_nothing noBatches, nothing, takeIn, reported]
            rfl

private theorem apart_of_early
    {payloads early late : List Bytes} (parted : payloads = early ++ late)
    (connection : Connection app ω) (faults : List Framing.HeaderFault) :
    Apart faults (payloads.foldl route connection)
      (late.foldl route ((early.foldl route connection).tell faults)) := by
  rw [parted, List.foldl_append]
  exact (apart_tell faults (early.foldl route connection)).foldl_route late

/-- Chunks that wait one behind another are worked off in the order of the stream, with one
exception. Let no request have a deadline and the inbox be empty, and let the chunks come in and be
worked off, whatever the callbacks do meanwhile. Then all payloads are routed in their order; a
malformed header block, which can only be the last thing that is found, is told ahead of the
payloads that its last chunk completes. So any two cuts of the same bytes lead to the same table,
counts and decoder, and to the same connection altogether if the same payloads are overtaken;
without a malformed block none are. -/
theorem cuts_move_only_faults [Wire ω]
    {connection : Connection app ω} {inputs : List Framing.Input}
    (running : connection.running = true) (idle : connection.inbox = [])
    (timeless : connection.Timeless)
    (driven : connection.framer.decoder = .afterInputs inputs) :
    let decoder := connection.framer.decoder
    (∀ (chunks : List Bytes) (times : List (Instant × Instant)), times.length = chunks.length →
      let (harvest, last) := Decoder.pushAll chunks decoder
      ∃ early, harvest.payloads = early ++ decoder.overtaken chunks ∧
        (connection.hear chunks).turns times =
          ((decoder.overtaken chunks).foldl route
            ((early.foldl route connection).tell harvest.faults)).withDecoder last) ∧
      ∀ (lefts rights : List Bytes) (leftTimes rightTimes : List (Instant × Instant)),
        leftTimes.length = lefts.length → rightTimes.length = rights.length →
        lefts.flatten = rights.flatten →
          let left := (connection.hear lefts).turns leftTimes
          let right := (connection.hear rights).turns rightTimes
          left.pending = right.pending ∧ left.stats = right.stats ∧ left.framer = right.framer ∧
            (decoder.overtaken lefts = decoder.overtaken rights → left = right) ∧
            ((Decoder.pushAll lefts decoder).1.faults = [] → left = right) := by
  have settled : Decoder.Settled connection.framer.decoder := by
    rw [driven]
    exact Decoder.settled_afterInputs inputs
  have worked (chunks : List Bytes) (times : List (Instant × Instant))
      (enough : times.length = chunks.length) :
      ∃ early,
        (Decoder.pushAll chunks connection.framer.decoder).1.payloads =
            early ++ connection.framer.decoder.overtaken chunks ∧
          (connection.hear chunks).turns times =
            ((connection.framer.decoder.overtaken chunks).foldl route
              ((early.foldl route connection).tell
                (Decoder.pushAll chunks connection.framer.decoder).1.faults)).withDecoder
              (Decoder.pushAll chunks connection.framer.decoder).2 := by
    obtain ⟨early, parted, told⟩ := foldl_takeIn_batches settled chunks connection
    refine ⟨early, parted, ?_⟩
    have heard : connection.hear chunks =
        connection.amid connection.framer.decoder (chunks.map .received) := by
      rw [hear_eq running, amid, idle, List.append_nil, List.nil_append]
    rw [heard, turns_amid running timeless _ _ enough, told, amid_nil]
  refine ⟨worked, ?_⟩
  intro lefts rights leftTimes rightTimes enoughLeft enoughRight sameBytes
  have sameHarvest : Decoder.pushAll lefts connection.framer.decoder =
      Decoder.pushAll rights connection.framer.decoder := by
    rw [Decoder.pushAll_eq_unpack settled, Decoder.pushAll_eq_unpack settled, sameBytes]
  obtain ⟨leftEarly, leftParted, isLeft⟩ := worked lefts leftTimes enoughLeft
  obtain ⟨rightEarly, rightParted, isRight⟩ := worked rights rightTimes enoughRight
  rw [sameHarvest] at leftParted isLeft
  dsimp only
  rw [isLeft, isRight]
  have leftApart := apart_of_early leftParted connection
    (Decoder.pushAll rights connection.framer.decoder).1.faults
  have rightApart := apart_of_early rightParted connection
    (Decoder.pushAll rights connection.framer.decoder).1.faults
  have sameWhenOvertaken :
      connection.framer.decoder.overtaken lefts = connection.framer.decoder.overtaken rights →
        leftEarly = rightEarly := by
    intro sameOvertaken
    rw [rightParted, sameOvertaken] at leftParted
    exact (List.append_cancel_right leftParted).symm
  refine ⟨?_, ?_, ?_, ?_, ?_⟩
  · exact leftApart.pending.trans rightApart.pending.symm
  · exact leftApart.stats.trans rightApart.stats.symm
  · simp only [withDecoder, leftApart.framer, rightApart.framer]
  · intro sameOvertaken
    rw [sameOvertaken, sameWhenOvertaken sameOvertaken]
  · intro faultless
    have noneLeft := Decoder.overtaken_of_faultless faultless
    rw [sameHarvest] at faultless
    have noneRight := Decoder.overtaken_of_faultless faultless
    have sameOvertaken := noneLeft.trans noneRight.symm
    rw [sameOvertaken, sameWhenOvertaken sameOvertaken]

/-! ## A notification in front of a malformed block -/

/-- A connection with a handler for all notifications and an observer, which only leave notes. -/
def recording : Connection bare (MemoryWire Unit) :=
  { Connection.new .new () none with
    handlers :=
      { Handlers.empty with
        anyNotification := some fun _ => .note () .done
        observers := [fun _ => .note () .done] } }

/-- The frame of a notification, and a header block without a length. -/
def noticeAndFault : Bytes × Bytes :=
  (Framing.encodeFrame (encodeText "\x7b\"jsonrpc\":\"2.0\",\"method\":\"go\"\x7d"),
    encodeText "X: 1\r\n\r\n")

/-- The connection when frame and block have come in two chunks. -/
def heardApart : Connection bare (MemoryWire Unit) :=
  (recording.hear [noticeAndFault.1, noticeAndFault.2]).turns [(⟨0⟩, ⟨0⟩), (⟨0⟩, ⟨0⟩)]

/-- The connection when frame and block have come in one chunk. -/
def heardTogether : Connection bare (MemoryWire Unit) :=
  (recording.hear [noticeAndFault.1 ++ noticeAndFault.2]).turns [(⟨0⟩, ⟨0⟩)]

def isNotified : Occurrence bare → Bool
  | .notified _ => true
  | _ => false

def isMalformed : Occurrence bare → Bool
  | .emitted (.malformedHeader _) => true
  | _ => false

/-- In two chunks the notification comes first, in one chunk the malformed header. -/
theorem fault_overtakes_notification :
    heardApart.log.findIdx isNotified < heardApart.log.findIdx isMalformed ∧
      heardTogether.log.findIdx isMalformed < heardTogether.log.findIdx isNotified ∧
      heardApart.log ≠ heardTogether.log := by
  have inOrder : heardApart.log.findIdx isNotified < heardApart.log.findIdx isMalformed := by
    decide +kernel
  have swapped : heardTogether.log.findIdx isMalformed < heardTogether.log.findIdx isNotified := by
    decide +kernel
  refine ⟨inOrder, swapped, ?_⟩
  intro same
  rw [same] at inOrder
  exact Nat.lt_asymm inOrder swapped

theorem cuts_of_notice_and_fault :
    recording.running = true ∧ recording.inbox = [] ∧ recording.Timeless ∧
      recording.framer.decoder = .afterInputs [] ∧
      heardApart.pending = heardTogether.pending ∧ heardApart.stats = heardTogether.stats ∧
      heardApart.framer = heardTogether.framer := by
  have timeless : recording.Timeless := by
    intro entry held
    exact absurd held List.not_mem_nil
  have driven : recording.framer.decoder = .afterInputs [] := rfl
  have alike := (cuts_move_only_faults rfl rfl timeless driven).2
    [noticeAndFault.1, noticeAndFault.2] [noticeAndFault.1 ++ noticeAndFault.2]
    [(⟨0⟩, ⟨0⟩), (⟨0⟩, ⟨0⟩)] [(⟨0⟩, ⟨0⟩)] rfl rfl (by simp)
  exact ⟨rfl, rfl, timeless, driven, alike.1, alike.2.1, alike.2.2.1⟩

end RpcEndpoint.Connection
