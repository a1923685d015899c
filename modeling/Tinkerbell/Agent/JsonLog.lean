import Mathlib.Logic.Function.Basic
import Tinkerbell.Library.FirstMatch
import Tinkerbell.Library.JsonString
import Tinkerbell.Library.LineSplit

/-!
Owns: the pair of writers that turn the output of a container into one log file of
JSON records, and that the file loses nothing of either stream.

Both writers share a lock, so a whole `Write` is one step; a run is any sequence of
writes to the two streams. The file is the list of its records. What the encoder does
with the n-th record it is given, and the time it is given it, is arbitrary.

After any run a stream's buffer is the rest of what was written to it, and its records
are the complete lines (`Holds`).
-/

namespace Tinkerbell.Agent.JsonLog

open ByteText (Bytes)

inductive Stream where
  | stdout
  | stderr
deriving DecidableEq

/-- A record; `log` is the literal that the file has for it. -/
structure JsonLogEntry where
  log : Bytes
  stream : Stream
  time : String

/-- The error and the time of the n-th record. -/
structure Encoder where
  err : Nat → Option String
  now : Nat → String

structure State where
  file : List JsonLogEntry := []
  closed : Bool := false
  encodes : Nat := 0
  buf : Stream → Bytes := fun _ => []

def newline : UInt8 := 10

section Writer

variable (enc : Encoder)

/-- Write a record; its log is never empty, so the field is never left out. -/
def encodeLocked (stream : Stream) (line : Bytes) (s : State) : State × Option String :=
  let tried := { s with encodes := s.encodes + 1 }
  if s.closed then (tried, some "file already closed")
  else
    match enc.err s.encodes with
    | some err => (tried, some err)
    | none =>
      let entry := ⟨JsonString.quote line, stream, enc.now s.encodes⟩
      ({ tried with file := s.file ++ [entry] }, none)

/-- The loop of `write`; every round takes a line out of the buffer, so the buffer's length
bounds their number. -/
def emitLines (stream : Stream) : Nat → State → State × Option String
  | 0, s => (s, none)
  | rounds + 1, s =>
    let data := s.buf stream
    match data.findIdx? (· = newline) with
    | none => (s, none)
    | some i =>
      let line := data.take (i + 1)
      -- the line leaves the buffer before it is encoded, so one that fails is dropped
      let s := { s with buf := Function.update s.buf stream (data.drop (i + 1)) }
      match encodeLocked enc stream line s with
      | (s, some err) => (s, some err)
      | (s, none) => emitLines stream rounds s

def write (stream : Stream) (p : Bytes) (s : State) : State × Nat × Option String :=
  if p = [] then (s, 0, none)
  else
    let data := s.buf stream ++ p
    let s := { s with buf := Function.update s.buf stream data }
    let (s, err) := emitLines enc stream data.length s
    (s, p.length, err)

def flush (stream : Stream) (s : State) : State × Option String :=
  if s.buf stream = [] then (s, none)
  else
    let line := s.buf stream
    encodeLocked enc stream line { s with buf := Function.update s.buf stream [] }

def close (s : State) : State × List String :=
  if s.closed then (s, [])
  else
    let (s, stdoutErr) := flush enc .stdout s
    let (s, stderrErr) := flush enc .stderr s
    ({ s with closed := true }, stdoutErr.toList ++ stderrErr.toList)

def run (writes : List (Stream × Bytes)) : State :=
  writes.foldl (fun s call => (write enc call.1 call.2 s).1) {}

end Writer

def written (writes : List (Stream × Bytes)) (stream : Stream) : Bytes :=
  (writes.filter (·.1 = stream)).flatMap (·.2)

def literals (file : List JsonLogEntry) (stream : Stream) : List Bytes :=
  (file.filter (·.stream = stream)).map (·.log)

private theorem literals_append (file entries : List JsonLogEntry) (stream : Stream) :
    literals (file ++ entries) stream = literals file stream ++ literals entries stream := by
  rw [literals, List.filter_append, List.map_append]
  rfl

private theorem literals_singleton (entry : JsonLogEntry) (stream : Stream) :
    literals [entry] stream = if entry.stream = stream then [entry.log] else [] := by
  rw [literals, List.filter_cons]
  split
  · next isSame => rw [if_pos (of_decide_eq_true isSame)]; rfl
  · next apart => rw [if_neg fun isSame => apart (decide_eq_true isSame)]; rfl

structure Holds (s : State) (bytes : Stream → Bytes) : Prop where
  isOpen : s.closed = false
  buf : ∀ stream, s.buf stream = (LineSplit.split newline (bytes stream)).2
  file : ∀ stream, literals s.file stream =
    (LineSplit.split newline (bytes stream)).1.map JsonString.quote

structure Emits (stream : Stream) (lines : List Bytes) (rest : Bytes) (before after : State) :
    Prop where
  isOpen : after.closed = before.closed
  buf : after.buf = Function.update before.buf stream rest
  file : ∀ other, literals after.file other =
    literals before.file other ++ if stream = other then lines.map JsonString.quote else []

theorem Emits.trans {stream : Stream} {lines later : List Bytes} {rest last : Bytes}
    {before between after : State} (emits : Emits stream lines rest before between)
    (emitsLater : Emits stream later last between after) :
    Emits stream (lines ++ later) last before after := by
  refine ⟨emitsLater.isOpen.trans emits.isOpen, ?_, ?_⟩
  · rw [emitsLater.buf, emits.buf, Function.update_idem]
  · intro other
    rw [emitsLater.file, emits.file, List.append_assoc]
    split
    · rw [List.map_append]
    · rfl

theorem emits_nothing (stream : Stream) (s : State) : Emits stream [] (s.buf stream) s s := by
  refine ⟨rfl, (Function.update_eq_self stream s.buf).symm, ?_⟩
  intro other
  simp

section Succeeding

variable {enc : Encoder} (succeeds : ∀ n, enc.err n = none)
include succeeds

variable {s : State} {bytes : Stream → Bytes}

theorem encodeLocked_emits (stream : Stream) (line rest : Bytes) (isOpen : s.closed = false) :
    ∃ after, encodeLocked enc stream line
        { s with buf := Function.update s.buf stream rest } = (after, none) ∧
      Emits stream [line] rest s after := by
  simp only [encodeLocked, isOpen, Bool.false_eq_true, if_false, succeeds]
  refine ⟨_, rfl, ⟨isOpen.symm, rfl, ?_⟩⟩
  intro other
  rw [literals_append, literals_singleton]
  rfl

theorem emitLines_emits (stream : Stream) {rounds : Nat} {s : State} (isOpen : s.closed = false)
    (enough : (s.buf stream).length ≤ rounds) :
    ∃ after, emitLines enc stream rounds s = (after, none) ∧
      Emits stream (LineSplit.split newline (s.buf stream)).1
        (LineSplit.split newline (s.buf stream)).2 s after := by
  induction rounds generalizing s with
  | zero =>
    have isEmpty := List.eq_nil_of_length_eq_zero (Nat.le_zero.mp enough)
    have nothing := emits_nothing stream s
    rw [isEmpty] at nothing ⊢
    exact ⟨s, rfl, nothing⟩
  | succ rounds ih =>
    rw [emitLines]
    cases isPosition : (s.buf stream).findIdx? (· = newline) with
    | none =>
      have plain : newline ∉ s.buf stream := by
        intro member
        have notNewline := List.findIdx?_eq_none_iff.mp isPosition newline member
        exact absurd rfl (of_decide_eq_false notNewline)
      rw [LineSplit.split_plain plain]
      exact ⟨s, rfl, emits_nothing stream s⟩
    | some position =>
      obtain ⟨body, _, rest, isData, isLength, isNewline, noneBefore⟩ :=
        FirstMatch.split_of_findIdx? isPosition
      have plain : newline ∉ body := fun member =>
        absurd rfl (of_decide_eq_false (noneBefore newline member))
      rw [of_decide_eq_true isNewline] at isData
      have isLine : (body ++ newline :: rest).take (position + 1) = body ++ [newline] := by
        rw [List.append_cons, ← isLength, ← List.length_singleton (a := newline),
          ← List.length_append, List.take_left]
      have isRest : (body ++ newline :: rest).drop (position + 1) = rest := by
        rw [List.append_cons, ← isLength, ← List.length_singleton (a := newline),
          ← List.length_append, List.drop_left]
      rw [isData] at enough ⊢
      dsimp only
      rw [isLine, isRest, LineSplit.split_line plain]
      obtain ⟨encoded, isEncoded, emitsLine⟩ :=
        encodeLocked_emits succeeds stream (body ++ [newline]) rest isOpen
      have isLeft : encoded.buf stream = rest := by
        rw [emitsLine.buf, Function.update_self]
      have enoughLater : (encoded.buf stream).length ≤ rounds := by
        rw [List.length_append, List.length_cons] at enough
        rw [isLeft]
        omega
      obtain ⟨after, isAfter, emitsLater⟩ :=
        ih (emitsLine.isOpen.trans isOpen) enoughLater
      rw [isLeft] at emitsLater
      rw [isEncoded]
      exact ⟨after, isAfter, emitsLine.trans emitsLater⟩

private theorem write_holds {s : State} {bytes : Stream → Bytes} (holds : Holds s bytes)
    (stream : Stream) (p : Bytes) :
    (write enc stream p s).2 = (p.length, none) ∧
      Holds (write enc stream p s).1 (Function.update bytes stream (bytes stream ++ p)) := by
  unfold write
  split
  · next isEmpty =>
    subst isEmpty
    refine ⟨rfl, ?_⟩
    rw [List.append_nil, Function.update_eq_self]
    exact holds
  · dsimp only
    have isBuf : Function.update s.buf stream (s.buf stream ++ p) stream = s.buf stream ++ p :=
      Function.update_self ..
    obtain ⟨_, isAfter, emits⟩ := @emitLines_emits enc succeeds stream
      (s.buf stream ++ p).length { s with buf := Function.update s.buf stream (s.buf stream ++ p) }
      holds.isOpen (Nat.le_of_eq (congrArg List.length isBuf))
    rw [isAfter]
    refine ⟨rfl, ?_⟩
    dsimp only at emits
    rw [isBuf, holds.buf stream] at emits
    refine ⟨emits.isOpen.trans holds.isOpen, ?_, ?_⟩
    · intro other
      rw [emits.buf, Function.update_idem]
      by_cases isSame : other = stream
      · subst isSame
        rw [Function.update_self, Function.update_self,
          LineSplit.split_append newline (bytes other) p]
      · rw [Function.update_of_ne isSame, Function.update_of_ne isSame, holds.buf other]
    · intro other
      rw [emits.file, holds.file other]
      by_cases isSame : stream = other
      · subst isSame
        rw [if_pos rfl, Function.update_self, LineSplit.split_append newline (bytes stream) p,
          List.map_append]
      · rw [if_neg isSame, Function.update_of_ne (Ne.symm isSame), List.append_nil]

private theorem foldl_write_holds (writes : List (Stream × Bytes)) (holds : Holds s bytes) :
    Holds (writes.foldl (fun s call => (write enc call.1 call.2 s).1) s)
      (fun stream => bytes stream ++ written writes stream) := by
  induction writes generalizing s bytes with
  | nil =>
    simp only [written, List.filter_nil, List.flatMap_nil, List.append_nil]
    exact holds
  | cons call later ih =>
    obtain ⟨stream, p⟩ := call
    have held := ih (write_holds succeeds holds stream p).2
    have sameBytes :
        (fun other => Function.update bytes stream (bytes stream ++ p) other ++
          written later other) =
        fun other => bytes other ++ written ((stream, p) :: later) other := by
      funext other
      by_cases isSame : other = stream
      · subst isSame
        simp [written]
      · simp [written, isSame, Ne.symm isSame]
    rw [sameBytes] at held
    exact held

theorem run_holds (writes : List (Stream × Bytes)) : Holds (run enc writes) (written writes) := by
  have start : Holds {} fun _ => [] := ⟨rfl, fun _ => rfl, fun _ => rfl⟩
  exact foldl_write_holds succeeds writes start

theorem flush_emits (stream : Stream) (isOpen : s.closed = false) :
    ∃ after, flush enc stream s = (after, none) ∧
      Emits stream (if s.buf stream = [] then [] else [s.buf stream]) [] s after := by
  unfold flush
  split
  · next isEmpty =>
    have nothing := emits_nothing stream s
    rw [isEmpty] at nothing
    exact ⟨s, rfl, nothing⟩
  · exact encodeLocked_emits succeeds stream (s.buf stream) [] isOpen

def records (bytes : Bytes) : List Bytes :=
  let (lines, rest) := LineSplit.split newline bytes
  lines ++ if rest = [] then [] else [rest]

omit succeeds in
theorem Holds.literals_flushed {s after : State} {bytes : Stream → Bytes} (holds : Holds s bytes)
    {stream : Stream}
    (isFile : literals after.file stream = literals s.file stream ++
      (if s.buf stream = [] then [] else [s.buf stream]).map JsonString.quote) :
    literals after.file stream = (records (bytes stream)).map JsonString.quote := by
  rw [isFile, holds.file, holds.buf, ← List.map_append]
  rfl

private theorem close_records (holds : Holds s bytes) (stream : Stream) :
    (close enc s).2 = [] ∧
      literals (close enc s).1.file stream = (records (bytes stream)).map JsonString.quote := by
  obtain ⟨flushed, isFlushed, emitsOut⟩ := flush_emits succeeds .stdout holds.isOpen
  obtain ⟨_, isAfter, emitsErr⟩ :=
    flush_emits succeeds .stderr (emitsOut.isOpen.trans holds.isOpen)
  have sameErr : flushed.buf .stderr = s.buf .stderr := by
    rw [emitsOut.buf, Function.update_of_ne (by decide)]
  rw [sameErr] at emitsErr
  unfold close
  rw [if_neg (by rw [holds.isOpen]; decide), isFlushed]
  dsimp only
  rw [isAfter]
  refine ⟨rfl, holds.literals_flushed ?_⟩
  rw [emitsErr.file, emitsOut.file]
  cases stream with
  | stdout | stderr => simp

end Succeeding

private theorem flatten_records (bytes : Bytes) : (records bytes).flatten = bytes := by
  obtain ⟨-, -, isWhole⟩ := LineSplit.split_parts newline bytes
  unfold records
  conv_rhs => rw [← isWhole]
  rw [List.flatten_append]
  split
  · next isEmpty => rw [isEmpty, List.flatten_nil]
  · rw [List.flatten_singleton]

theorem isLine_of_mem_dropLast {bytes line : Bytes} (member : line ∈ (records bytes).dropLast) :
    LineSplit.IsLine newline line := by
  obtain ⟨areLines, -, -⟩ := LineSplit.split_parts newline bytes
  unfold records at member
  dsimp only at member
  split at member
  · rw [List.append_nil] at member
    exact areLines line ((List.dropLast_sublist _).subset member)
  · rw [List.dropLast_concat] at member
    exact areLines line member

private theorem encoded_of_mem_records {characters : List Char} {record : Bytes}
    (member : record ∈ records (JsonString.encode characters)) :
    ∃ part, record = JsonString.encode part := by
  have isNewline : String.utf8EncodeChar '\n' = [newline] := by decide
  have isSplit := LineSplit.split_flatMap isNewline (fun rune apart =>
    JsonString.notMem_utf8EncodeChar (by decide) fun sameCode => apart (Char.toNat_inj.mp sameCode))
    characters
  unfold records JsonString.encode at member
  rw [isSplit] at member
  rcases List.mem_append.mp member with isComplete | isRest
  · obtain ⟨part, -, isPart⟩ := List.mem_map.mp isComplete
    exact ⟨part, isPart.symm⟩
  · split at isRest
    · exact absurd isRest List.not_mem_nil
    · exact ⟨_, List.mem_singleton.mp isRest⟩

/-- The log fields of a stream's records, read back from the file, make up all that was written
to it, and all of them but the last are lines. -/
theorem container_logs_lose_nothing {enc : Encoder} (succeeds : ∀ n, enc.err n = none)
    {writes : List (Stream × Bytes)}
    (valid : ∀ stream, ∃ characters, written writes stream = JsonString.encode characters)
    (stream : Stream) :
    ∃ logs : List Bytes,
      (literals (close enc (run enc writes)).1.file stream).map JsonString.unquote =
        logs.map some ∧
      logs.flatten = written writes stream ∧
      ∀ log ∈ logs.dropLast, LineSplit.IsLine newline log := by
  refine ⟨records (written writes stream), ?_, flatten_records _, ?_⟩
  · rw [(close_records succeeds (run_holds succeeds writes) stream).2, List.map_map]
    refine List.map_congr_left ?_
    intro record member
    obtain ⟨_, isValid⟩ := valid stream
    rw [isValid] at member
    obtain ⟨part, rfl⟩ := encoded_of_mem_records member
    exact JsonString.unquote_quote part
  · intro log member
    exact isLine_of_mem_dropLast member

/-- A character in two writes of one stream, with a write of the other between them. -/
theorem container_logs_lose_nothing_split :
    let enc : Encoder := ⟨fun _ => none, fun _ => ""⟩
    let writes : List (Stream × Bytes) :=
      [(.stdout, [97, 10, 195]), (.stderr, [98]), (.stdout, [169, 10, 99])]
    ∃ logs : List Bytes,
      (literals (close enc (run enc writes)).1.file .stdout).map JsonString.unquote =
        logs.map some ∧
      logs.flatten = [97, 10, 195, 169, 10, 99] := by
  intro enc writes
  obtain ⟨logs, areLogs, isWhole, -⟩ :=
    @container_logs_lose_nothing enc (fun _ => rfl) writes (by
      intro stream
      cases stream with
      | stdout => exact ⟨['a', '\n', 'é', '\n', 'c'], by decide⟩
      | stderr => exact ⟨['b'], by decide⟩) .stdout
  exact ⟨logs, areLogs, isWhole⟩

end Tinkerbell.Agent.JsonLog
