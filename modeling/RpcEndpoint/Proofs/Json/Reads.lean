import RpcEndpoint.Json.Reader

/-!
# What readers read

`Reads` says that a reader takes given bytes from the front of any text that goes on in a given way,
and what it makes of them. The rules follow the ways in which readers are put together.
-/

namespace RpcEndpoint.Json

/-! ## Cursors -/

theorem Cursor.rest_next (cursor : Cursor) : cursor.next.rest = cursor.rest.tail := by
  obtain ⟨rest, left, position, left_eq⟩ := cursor
  cases rest <;> rfl

theorem Cursor.rest_skip (cursor : Cursor) (count : Nat) :
    (cursor.skip count).rest = cursor.rest.drop count := by
  induction count generalizing cursor with
  | zero =>
      rfl
  | succ count inductionHypothesis =>
      rw [Cursor.skip, inductionHypothesis, Cursor.rest_next, List.drop_tail]

namespace Reader

variable {α β : Type} {bytes more rest : Bytes}

/-- From every text that begins with the bytes and goes on with the rest, the reader takes the
bytes and gives the value. -/
def Reads (reader : Reader α) (bytes rest : Bytes) (value : α) : Prop :=
  ∀ cursor : Cursor, cursor.rest = bytes ++ rest →
    ∃ ahead, reader cursor = .ok value ahead ∧ ahead.rest = rest

/-! ## One reader after another -/

theorem reads_pure (value : α) (rest : Bytes) : Reads (pure value) [] rest value :=
  fun cursor isRest => ⟨cursor, rfl, isRest⟩

/-- A reader that has succeeded leaves the next one to go on from where it stopped. -/
theorem bind_eq
    {reader : Reader α} {value : α} {cursor ahead : Cursor} (ran : reader cursor = .ok value ahead)
    (next : α → Reader β) : (reader >>= next) cursor = next value ahead := by
  change EStateM.bind reader next cursor = _
  rw [EStateM.bind, ran]

theorem Reads.bind
    {reader : Reader α} {next : α → Reader β} {value : α} {result : β}
    (first : Reads reader bytes (more ++ rest) value)
    (second : Reads (next value) more rest result) :
    Reads (reader >>= next) (bytes ++ more) rest result := by
  intro cursor isRest
  rw [List.append_assoc] at isRest
  obtain ⟨ahead, ran, left⟩ := first cursor isRest
  obtain ⟨last, ranOn, nothingElse⟩ := second ahead left
  exact ⟨last, (bind_eq ran next).trans ranOn, nothingElse⟩

/-- The first reader only looks ahead. -/
theorem Reads.look
    {reader : Reader α} {next : α → Reader β} {value : α} {result : β}
    (first : Reads reader [] (bytes ++ rest) value)
    (second : Reads (next value) bytes rest result) :
    Reads (reader >>= next) bytes rest result :=
  first.bind second

/-- The first reader takes one byte. -/
theorem Reads.step
    {reader : Reader α} {next : α → Reader β} {value : α} {result : β} {byte : UInt8}
    (first : Reads reader [byte] (bytes ++ rest) value)
    (second : Reads (next value) bytes rest result) :
    Reads (reader >>= next) (byte :: bytes) rest result :=
  first.bind second

/-- The first reader takes everything. -/
theorem Reads.last
    {reader : Reader α} {next : α → Reader β} {value : α} {result : β}
    (first : Reads reader bytes rest value) (second : Reads (next value) [] rest result) :
    Reads (reader >>= next) bytes rest result := by
  have alone : Reads reader bytes ([] ++ rest) value := first
  have both : Reads (reader >>= next) (bytes ++ []) rest result := alone.bind second
  rwa [List.append_nil] at both

/-- What was read is turned into something else. -/
theorem Reads.map
    {reader : Reader α} {value : α} (reads : Reads reader bytes rest value) (change : α → β) :
    Reads (reader >>= fun read => pure (change read)) bytes rest (change value) :=
  reads.last (reads_pure (change value) rest)

theorem Reads.enclosed
    {body : Reader α} {close : Reader Unit} {value : α}
    (inside : Reads body bytes (more ++ rest) value) (closes : Reads close more rest ()) :
    Reads (Reader.enclosed body close) (bytes ++ more) rest value := by
  intro cursor isRest
  rw [List.append_assoc] at isRest
  obtain ⟨ahead, ran, left⟩ := inside cursor isRest
  obtain ⟨last, closed, nothingElse⟩ := closes ahead left
  refine ⟨last, ?_, nothingElse⟩
  rw [Reader.enclosed, ran]
  dsimp only
  rw [closed]

/-- A reader that reads a whole text. -/
theorem Reads.readAll
    {reader : Reader α} {value : α} (reads : Reads reader bytes [] value) :
    Reader.readAll reader bytes = .ok value := by
  obtain ⟨ahead, ran, left⟩ := reads (Cursor.start bytes) (List.append_nil bytes).symm
  have nothingElse : (peekVisible : Reader (Option UInt8)) ahead = .ok none ahead := by
    rw [peekVisible, Cursor.skipWhile, left]
    dsimp only [List.takeWhile, List.length_nil, Cursor.skip]
    rw [left]
    rfl
  rw [Reader.readAll, bind_eq ran, bind_eq nothingElse]
  rfl

/-! ## Single bytes -/

theorem reads_peek (rest : Bytes) : Reads peek [] rest rest.head? := by
  intro cursor isRest
  refine ⟨cursor, ?_, isRest⟩
  rw [peek, isRest]
  rfl

theorem reads_skipByte (byte : UInt8) (rest : Bytes) : Reads skipByte [byte] rest () := by
  intro cursor isRest
  refine ⟨cursor.next, rfl, ?_⟩
  rw [Cursor.rest_next, isRest]
  rfl

theorem reads_nextByte (byte : UInt8) (rest : Bytes) :
    Reads nextByte [byte] rest (some byte) := by
  intro cursor isRest
  refine ⟨cursor.next, ?_, ?_⟩
  · rw [nextByte, isRest]
    rfl
  · rw [Cursor.rest_next, isRest]
    rfl

theorem reads_remaining (rest : Bytes) : Reads remaining [] rest rest.length := by
  intro cursor isRest
  refine ⟨cursor, ?_, isRest⟩
  rw [remaining, cursor.left_eq, isRest]
  rfl

theorem reads_takeWhile
    {test : UInt8 → Bool} (passes : ∀ byte ∈ bytes, test byte = true)
    (stops : ∀ byte, rest.head? = some byte → test byte = false) :
    Reads (takeWhile test) bytes rest bytes := by
  intro cursor isRest
  have noMore : rest.takeWhile test = [] := by
    cases rest with
    | nil =>
        rfl
    | cons byte rest =>
        rw [List.takeWhile_cons, stops byte rfl]
        rfl
  have taken : cursor.rest.takeWhile test = bytes := by
    rw [isRest, List.takeWhile_append_of_pos passes, noMore, List.append_nil]
  refine ⟨cursor.skipWhile test, ?_, ?_⟩
  · rw [takeWhile, taken]
  · rw [Cursor.skipWhile, Cursor.rest_skip, taken, isRest, List.drop_left]

/-- Nothing is read over where no white space stands. -/
theorem reads_peekVisible
    {byte : UInt8} (visible : isBlankByte byte = false) (rest : Bytes) :
    Reads peekVisible [] (byte :: rest) (some byte) := by
  intro cursor isRest
  have nothing : cursor.skipWhile isBlankByte = cursor := by
    rw [Cursor.skipWhile, isRest, List.nil_append, List.takeWhile_cons, visible]
    rfl
  refine ⟨cursor, ?_, isRest⟩
  rw [peekVisible, nothing, isRest]
  rfl

theorem reads_readWord (word rest : Bytes) : Reads (readWord word) word rest () := by
  induction word with
  | nil =>
      exact reads_pure () rest
  | cons expected word inductionHypothesis =>
      refine (reads_nextByte expected (word ++ rest)).step ?_
      dsimp only
      rw [if_pos rfl]
      exact inductionHypothesis

end Reader

end RpcEndpoint.Json
