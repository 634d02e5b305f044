import Mathlib.Data.List.Infix
import RpcEndpoint.Proofs.Framing.Batches
import RpcEndpoint.Proofs.Framing.Grammar

/-!
# Malformed header blocks

A header block that names no usable length is reported by the chunk that completes it and by no
other one. The argument compares what is left of the stream behind each chunk: since there is one
way only to read a stream, all of these remainders agree on where the block ends, and a decoder that
has not got so far cannot have found it.
-/

namespace RpcEndpoint.Framing

/-! ## Streams that are blocked -/

/-- Frames, and a header block behind them with its separator. -/
def throughBlock (frames : List Frame) (block : Bytes) : Bytes :=
  frames.flatMap Frame.bytes ++ block ++ separator

/-- There are frames in front of a header block that names no usable length. -/
structure Blocked (stream : Bytes) (frames : List Frame) (block : Bytes) (fault : HeaderFault) :
    Prop where
  proper : ∀ frame ∈ frames, frame.Proper
  first : EndsFirst block
  refused : Remainder (block ++ separator) (some fault)
  begins : throughBlock frames block <+: stream

/-- Bytes behind a malformed block neither repair it nor change what is wrong with it. -/
theorem Remainder.append
    {bytes : Bytes} {fault : HeaderFault} (remainder : Remainder bytes (some fault))
    (extra : Bytes) : Remainder (bytes ++ extra) (some fault) := by
  have halted := remainder_iff.mp remainder
  cases taken : front bytes with
  | unbroken | incomplete offset | payload payload rest =>
      rw [taken] at halted
      cases halted
  | malformed offset other =>
      rw [taken] at halted
      cases halted
      apply remainder_iff.mpr
      rw [front_append_malformed taken]
      rfl

/-- Where something is wrong with a remainder, it is wrong with its first block. -/
theorem Remainder.block
    {rest : Bytes} {fault : HeaderFault} (remainder : Remainder rest (some fault)) :
    ∃ block behind, EndsFirst block ∧ rest = block ++ separator ++ behind ∧
      Remainder (block ++ separator) (some fault) := by
  cases remainder with
  | @noText block behind first noText =>
      refine ⟨block, behind, first, rfl, ?_⟩
      rw [← List.append_nil (block ++ separator)]
      exact .noText first noText
  | @noLength block behind _ first refused isText =>
      refine ⟨block, behind, first, rfl, ?_⟩
      rw [← List.append_nil (block ++ separator)]
      exact .noLength first refused isText
  | @tooLong block behind length first named exceeds =>
      refine ⟨block, behind, first, rfl, ?_⟩
      rw [← List.append_nil (block ++ separator)]
      exact .tooLong first named exceeds

namespace Blocked

variable {stream : Bytes} {frames : List Frame} {block : Bytes} {fault : HeaderFault}

theorem reading (blocked : Blocked stream frames block fault) :
    ∃ behind, Reading stream frames (block ++ separator ++ behind) (some fault) := by
  obtain ⟨behind, isStream⟩ := blocked.begins
  refine ⟨behind, ?_, blocked.proper, blocked.refused.append behind⟩
  rw [← isStream, throughBlock]
  simp only [List.append_assoc]

theorem of_reading {rest : Bytes} (reading : Reading stream frames rest (some fault)) :
    ∃ block, Blocked stream frames block fault := by
  obtain ⟨block, behind, first, rfl, refused⟩ := reading.remainder.block
  refine ⟨block, reading.proper, first, refused, behind, ?_⟩
  rw [reading.whole, throughBlock]
  simp only [List.append_assoc]

/-- A stream is blocked in one place only. -/
theorem unique
    {others : List Frame} {other : Bytes} {otherFault : HeaderFault}
    (blocked : Blocked stream frames block fault)
    (otherBlocked : Blocked stream others other otherFault) :
    frames = others ∧ block = other ∧ fault = otherFault := by
  obtain ⟨behind, reading⟩ := blocked.reading
  obtain ⟨otherBehind, otherReading⟩ := otherBlocked.reading
  obtain ⟨rfl, sameRest, sameFault⟩ := reading.unique otherReading
  have found := firstSeparator_of_endsFirst blocked.first behind
  rw [sameRest, firstSeparator_of_endsFirst otherBlocked.first otherBehind] at found
  have sameLength : block.length = other.length := (Option.some.inj found).symm
  rw [List.append_assoc, List.append_assoc] at sameRest
  exact ⟨rfl, List.append_inj_left sameRest sameLength, Option.some.inj sameFault⟩

theorem of_prefix
    {start : Bytes} (isPrefix : start <+: stream) (blocked : Blocked start frames block fault) :
    Blocked stream frames block fault :=
  ⟨blocked.proper, blocked.first, blocked.refused, blocked.begins.trans isPrefix⟩

/-- What has arrived of a blocked stream is blocked as soon as the block is whole. -/
theorem of_whole
    {start : Bytes} (isPrefix : start <+: stream) (blocked : Blocked stream frames block fault)
    (whole : (throughBlock frames block).length ≤ start.length) :
    Blocked start frames block fault :=
  ⟨blocked.proper, blocked.first, blocked.refused,
    List.prefix_of_prefix_length_le blocked.begins isPrefix whole⟩

end Blocked

theorem throughBlock_length_pos (frames : List Frame) (block : Bytes) :
    0 < (throughBlock frames block).length := by
  have : separator.length = 4 := rfl
  simp only [throughBlock, List.length_append]
  omega

/-- A decoder finds a fault where the stream is blocked, and gives out the payloads before it. -/
theorem unpack_of_blocked
    {stream block : Bytes} {frames : List Frame} {fault : HeaderFault}
    (blocked : Blocked stream frames block fault) :
    (unpack stream false).1 = ⟨frames.map Frame.payload, some fault⟩ := by
  obtain ⟨others, otherReading, payloads, -⟩ := reading_unpack stream
  obtain ⟨behind, reading⟩ := blocked.reading
  obtain ⟨rfl, -, isFault⟩ := reading.unique otherReading
  rw [isFault, ← payloads]

theorem blocked_of_unpack
    {stream : Bytes} {fault : HeaderFault}
    (found : (unpack stream false).1.fault = some fault) :
    ∃ frames block, Blocked stream frames block fault := by
  obtain ⟨frames, reading, -, -⟩ := reading_unpack stream
  rw [found] at reading
  exact ⟨frames, Blocked.of_reading reading⟩

theorem unpack_of_part
    {stream start block : Bytes} {frames : List Frame} {fault : HeaderFault}
    (blocked : Blocked stream frames block fault) (isPrefix : start <+: stream)
    (isPart : start.length < (throughBlock frames block).length) :
    (unpack start false).1.fault = none := by
  cases found : (unpack start false).1.fault with
  | none => rfl
  | some other =>
      obtain ⟨others, otherBlock, otherBlocked⟩ := blocked_of_unpack found
      obtain ⟨rfl, rfl, -⟩ := blocked.unique (otherBlocked.of_prefix isPrefix)
      exact absurd otherBlocked.begins.length_le (Nat.not_le.mpr isPart)

namespace Decoder

/-! ## Decoders since their last reset -/

/-- What has been pushed since the last reset. -/
def sinceReset (inputs : List Input) : List Bytes :=
  inputs.foldl
    (fun chunks input => match input with
      | .push chunk => chunks ++ [chunk]
      | .reset => [])
    []

/-- The answer to a chunk that completes nothing. -/
def silence : Batch := ⟨[], none⟩

theorem batches_append (chunks others : List Bytes) (decoder : Decoder) :
    batches (chunks ++ others) decoder =
      batches chunks decoder ++ batches others (pushAll chunks decoder).2 := by
  induction chunks generalizing decoder with
  | nil => rfl
  | cons chunk rest inductionHypothesis =>
      rw [List.cons_append, batches, inductionHypothesis]
      rfl

theorem pushAll_append (chunks others : List Bytes) (decoder : Decoder) :
    (pushAll (chunks ++ others) decoder).2 = (pushAll others (pushAll chunks decoder).2).2 := by
  induction chunks generalizing decoder with
  | nil => rfl
  | cons chunk rest inductionHypothesis => exact inductionHypothesis _

theorem length_batches (chunks : List Bytes) (decoder : Decoder) :
    (batches chunks decoder).length = chunks.length := by
  induction chunks generalizing decoder with
  | nil => rfl
  | cons chunk rest inductionHypothesis => exact congrArg (· + 1) (inductionHypothesis _)

theorem pushAll_eq_batches (chunks : List Bytes) (decoder : Decoder) :
    (pushAll chunks decoder).1 =
      ⟨(batches chunks decoder).flatMap Batch.payloads,
        (batches chunks decoder).flatMap fun batch => batch.fault.toList⟩ := by
  induction chunks generalizing decoder with
  | nil => rfl
  | cons chunk rest inductionHypothesis =>
      rw [pushAll_cons, inductionHypothesis]
      rfl

/-- A decoder is as a fresh one that has taken what came since the last reset. -/
theorem afterInputs_eq_pushAll (inputs : List Input) :
    afterInputs inputs = (pushAll (sinceReset inputs) empty).2 := by
  -- A reset drops what the fold has collected, so the claim is made for any collection.
  suffices agree : ∀ chunks decoder, decoder = (pushAll chunks empty).2 →
      inputs.foldl take decoder = (pushAll
        (inputs.foldl
          (fun chunks input => match input with
            | .push chunk => chunks ++ [chunk]
            | .reset => [])
          chunks) empty).2 from
    agree [] empty rfl
  induction inputs with
  | nil =>
      intro chunks decoder same
      exact same
  | cons input rest inductionHypothesis =>
      intro chunks decoder same
      apply inductionHypothesis
      cases input with
      | push chunk =>
          rw [pushAll_append, ← same]
          rfl
      | reset => rfl

/-! ## The chunk that completes the block -/

/-- A place in a stream, counted from its begin, is reached by one of the chunks. -/
theorem exists_reaching
    {chunks : List Bytes} {place : Nat} (positive : 0 < place)
    (within : place ≤ chunks.flatten.length) :
    ∃ before chunk after, chunks = before ++ chunk :: after ∧
      before.flatten.length < place ∧ place ≤ (before ++ [chunk]).flatten.length := by
  induction chunks generalizing place with
  | nil =>
      rw [List.flatten_nil, List.length_nil] at within
      omega
  | cons chunk rest inductionHypothesis =>
      by_cases here : place ≤ chunk.length
      · exact ⟨[], chunk, rest, rfl, positive, by simpa using here⟩
      · rw [List.flatten_cons, List.length_append] at within
        have positiveLater : 0 < place - chunk.length := by omega
        obtain ⟨before, reaching, after, rfl, early, reached⟩ :=
          inductionHypothesis positiveLater (by omega)
        refine ⟨chunk :: before, reaching, after, rfl, ?_, ?_⟩
        · rw [List.flatten_cons, List.length_append]
          omega
        · rw [List.cons_append, List.flatten_cons, List.length_append]
          omega

private theorem pushAll_empty (chunks : List Bytes) :
    (pushAll chunks empty).1 =
      ⟨(unpack chunks.flatten false).1.payloads, (unpack chunks.flatten false).1.fault.toList⟩ := by
  have pushed := pushAll_eq_unpack settled_empty chunks
  simp only [empty, List.nil_append] at pushed
  exact congrArg Prod.fst pushed

private theorem settled_pushAll
    {decoder : Decoder} (settled : Settled decoder) (chunks : List Bytes) :
    Settled (pushAll chunks decoder).2 := by
  rw [pushAll_eq_unpack settled]
  exact settled_unpack _ _

theorem Stuck.batches
    {decoder : Decoder} (stuck : Stuck decoder) (chunks : List Bytes) :
    batches chunks decoder = chunks.map fun _ => silence := by
  induction chunks generalizing decoder with
  | nil => rfl
  | cons chunk rest inductionHypothesis =>
      obtain ⟨nothing, stillStuck⟩ := stuck.push chunk
      rw [Decoder.batches, nothing, inductionHypothesis stillStuck]
      rfl

/-- Behind a reported block all bytes wait. -/
theorem Stuck.buffered
    {decoder : Decoder} (stuck : Stuck decoder) (chunk : Bytes) :
    (decoder.push chunk).2.buffered = decoder.buffered + chunk.length := by
  obtain ⟨offset, fault, malformed⟩ := stuck.malformed
  have pushed := push_eq_unpack stuck.settled chunk
  rw [unpack_eq, front_append_malformed malformed chunk] at pushed
  rw [pushed]
  simp [Decoder.buffered]

theorem stuck_of_reported
    {chunks : List Bytes} {decoder : Decoder} (settled : Settled decoder)
    (reported : ∃ batch ∈ batches chunks decoder, batch.fault ≠ none) :
    Stuck (pushAll chunks decoder).2 := by
  induction chunks generalizing decoder with
  | nil =>
      obtain ⟨batch, isBatch, -⟩ := reported
      cases isBatch
  | cons chunk rest inductionHypothesis =>
      cases found : (decoder.push chunk).1.fault with
      | some fault =>
          -- What is stuck now stays so through the rest.
          have stuck := stuck_push settled found
          change Stuck (pushAll rest (decoder.push chunk).2).2
          clear inductionHypothesis reported found
          generalize (decoder.push chunk).2 = next at stuck
          induction rest generalizing next with
          | nil => exact stuck
          | cons later rest stays => exact stays _ (stuck.push later).2
      | none =>
          apply inductionHypothesis (settled_take settled (.push chunk))
          obtain ⟨batch, isBatch, isFault⟩ := reported
          rcases List.mem_cons.mp isBatch with rfl | isLater
          · exact absurd found isFault
          · exact ⟨batch, isLater, isFault⟩

/-- The answers to a blocked stream: nothing is reported in front of the chunk that completes the
block, this chunk reports it behind the last of the payloads, and the others are answered by
silence. -/
theorem batches_of_blocked
    {chunks : List Bytes} {frames : List Frame} {block : Bytes} {fault : HeaderFault}
    (blocked : Blocked chunks.flatten frames block fault) :
    ∃ before chunk after payloads,
      chunks = before ++ chunk :: after ∧
        before.flatten.length < (throughBlock frames block).length ∧
        (throughBlock frames block).length ≤ (before ++ [chunk]).flatten.length ∧
        batches chunks empty =
          batches before empty ++ ⟨payloads, some fault⟩ :: after.map (fun _ => silence) ∧
        (∀ batch ∈ batches before empty, batch.fault = none) ∧
        (batches before empty).flatMap Batch.payloads ++ payloads = frames.map Frame.payload := by
  obtain ⟨before, chunk, after, rfl, early, reached⟩ :=
    exists_reaching (throughBlock_length_pos frames block) blocked.begins.length_le
  have beforePart : before.flatten <+: (before ++ chunk :: after).flatten :=
    (List.prefix_append before _).flatten
  have throughPart : (before ++ [chunk]).flatten <+: (before ++ chunk :: after).flatten := by
    rw [List.append_cons before chunk after]
    exact (List.prefix_append _ after).flatten
  -- Up to the chunk the block is not whole, and with it the fault is found.
  have quiet : (pushAll before empty).1.faults = [] := by
    rw [pushAll_empty, unpack_of_part blocked beforePart early]
    rfl
  have through := pushAll_empty (before ++ [chunk])
  rw [unpack_of_blocked (blocked.of_whole throughPart reached)] at through
  rw [pushAll_eq_batches] at quiet through
  generalize isDecoder : (pushAll before empty).2 = decoder at *
  have splits :
      batches (before ++ [chunk]) empty = batches before empty ++ [(decoder.push chunk).1] := by
    rw [batches_append, isDecoder]
    rfl
  simp only [splits, List.flatMap_append, List.flatMap_singleton, Harvest.mk.injEq] at through
  obtain ⟨payloads, reported⟩ := through
  dsimp only at quiet
  rw [quiet, List.nil_append] at reported
  have settled : Settled decoder := isDecoder ▸ settled_pushAll settled_empty before
  have isFault : (decoder.push chunk).1.fault = some fault :=
    Option.toList_eq_singleton_iff.mp reported
  have stuck := stuck_push settled isFault
  refine ⟨before, chunk, after, (decoder.push chunk).1.payloads, rfl, early, reached, ?_, ?_,
    payloads⟩
  · rw [batches_append, isDecoder, batches, stuck.batches after, ← isFault]
  · intro batch isBatch
    exact Option.toList_eq_nil_iff.mp (List.flatMap_eq_nil_iff.mp quiet batch isBatch)

/-- A decoder that has been pushed and reset in any way is a fresh one with the chunks since its
last reset behind it, whatever state it was reset from. If these chunks and further ones make up a
stream with a malformed header block, they are answered by one report, which comes with the chunk
that completes the block and behind all payloads in front of it; if not, by none. From the report
on, every push is answered by silence, and all of its bytes wait. -/
theorem malformed_block_is_reported_once (inputs : List Input) (chunks : List Bytes) :
    let decoder := afterInputs inputs
    let life := sinceReset inputs ++ chunks
    let answers := batches (sinceReset inputs) empty ++ batches chunks decoder
    (∀ frames block fault, Blocked life.flatten frames block fault →
      ∃ before chunk after earlier payloads,
        life = before ++ chunk :: after ∧
          before.flatten.length < (throughBlock frames block).length ∧
          (throughBlock frames block).length ≤ (before ++ [chunk]).flatten.length ∧
          answers = earlier ++ ⟨payloads, some fault⟩ :: after.map (fun _ => silence) ∧
          earlier.length = before.length ∧
          (∀ batch ∈ earlier, batch.fault = none) ∧
          earlier.flatMap Batch.payloads ++ payloads = frames.map Frame.payload) ∧
      ((∃ batch ∈ answers, batch.fault ≠ none) →
        ∃ frames block fault, Blocked life.flatten frames block fault) ∧
      ((∃ batch ∈ batches (sinceReset inputs) empty, batch.fault ≠ none) →
        ∀ chunk,
          (decoder.push chunk).1 = silence ∧
            (decoder.push chunk).2.buffered = decoder.buffered + chunk.length) ∧
      ∀ (worn : Decoder) (later : List Input),
        (later.foldl take worn.reset) = afterInputs later ∧
          batches chunks worn.reset = batches chunks empty := by
  have isDecoder := afterInputs_eq_pushAll inputs
  have isAnswers :
      batches (sinceReset inputs) empty ++ batches chunks (afterInputs inputs) =
        batches (sinceReset inputs ++ chunks) empty := by
    rw [isDecoder, batches_append]
  simp only [isAnswers]
  refine ⟨?_, ?_, ?_, fun worn later => ⟨rfl, rfl⟩⟩
  · intro frames block fault blocked
    obtain ⟨before, chunk, after, payloads, isLife, early, reached, answered, quiet, given⟩ :=
      batches_of_blocked blocked
    exact ⟨before, chunk, after, _, payloads, isLife, early, reached, answered,
      length_batches before empty, quiet, given⟩
  · rintro ⟨batch, isBatch, isFault⟩
    obtain ⟨fault, isSome⟩ := Option.ne_none_iff_exists'.mp isFault
    have harvested := pushAll_empty (sinceReset inputs ++ chunks)
    rw [pushAll_eq_batches] at harvested
    have isReported : fault ∈
        (batches (sinceReset inputs ++ chunks) empty).flatMap fun batch => batch.fault.toList :=
      List.mem_flatMap.mpr ⟨batch, isBatch, by rw [isSome]; exact List.mem_singleton_self fault⟩
    have isFound := congrArg Harvest.faults harvested
    dsimp only at isFound
    rw [isFound] at isReported
    obtain ⟨frames, block, blocked⟩ :=
      blocked_of_unpack (Option.mem_toList.mp isReported)
    exact ⟨frames, block, fault, blocked⟩
  · intro reported chunk
    have stuck : Stuck (afterInputs inputs) := by
      rw [isDecoder]
      exact stuck_of_reported settled_empty reported
    exact ⟨(stuck.push chunk).1, stuck.buffered chunk⟩

/-- Behind a reset, the third of four chunks is not yet enough for the block; the fourth is, and a
fifth one waits with it. -/
theorem blocked_stream_is_reported_once :
    let inputs := [.push (encodeText "Y\r\n\r\n"), .reset] ++ blockedStream.map .push
    let decoder := afterInputs inputs
    (∃ frames block, Blocked (sinceReset inputs ++ [[0x3F]]).flatten frames block .missingLength ∧
      ∃ before chunk after earlier payloads,
        sinceReset inputs ++ [[0x3F]] = before ++ chunk :: after ∧
          batches (sinceReset inputs) empty ++ batches [[0x3F]] decoder =
            earlier ++ ⟨payloads, some .missingLength⟩ :: after.map (fun _ => silence) ∧
          ∀ batch ∈ earlier, batch.fault = none) ∧
      (∃ batch ∈ batches (sinceReset inputs) empty, batch.fault ≠ none) ∧
      (decoder.push [0x3F]).1 = silence ∧
      (decoder.push [0x3F]).2.buffered = decoder.buffered + 1 := by
  intro inputs decoder
  obtain ⟨once, -, later, -⟩ := malformed_block_is_reported_once inputs [[0x3F]]
  have found : (unpack (sinceReset inputs ++ [[0x3F]]).flatten false).1.fault =
      some .missingLength := by
    have reported :
        (pushAll (sinceReset inputs ++ [[0x3F]]) empty).1.faults = [.missingLength] := by
      decide +kernel
    rw [pushAll_empty] at reported
    exact Option.toList_eq_singleton_iff.mp reported
  have reported : ∃ batch ∈ batches (sinceReset inputs) empty, batch.fault ≠ none := by
    decide +kernel
  obtain ⟨frames, block, blocked⟩ := blocked_of_unpack found
  obtain ⟨before, chunk, after, earlier, payloads, isLife, -, -, answered, -, quiet, -⟩ :=
    once frames block _ blocked
  exact ⟨⟨frames, block, blocked, before, chunk, after, earlier, payloads, isLife, answered,
    quiet⟩, reported, later reported [0x3F]⟩

end Decoder

end RpcEndpoint.Framing
