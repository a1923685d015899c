import Mathlib.Data.List.Perm.Basic
import Tinkerbell.Library.TransitionSystem
import Tinkerbell.Smee.Syslog

/-!
Owns: the syslog receiver with its pool of messages, and what its log says about
the datagrams it read.

A message goes from the pool to the read loop, through the channel to a parser,
and back to the pool with its fields reset and its buffer as it was. So a datagram
is parsed in a buffer that still holds the end of an earlier one. The fields never
carry over (`Sound`); the buffer does, for the datagrams with an open priority.

Several parsers share the channel, and each logs when it is done: only one parser
logs in the order of the datagrams.
-/

variable {message : Message} {arrival : Arrival}

namespace Tinkerbell.Smee.Syslog

open Smee.SyslogTime

/-- What `ReadFromUDP` puts into a message, with the time the read loop sets. Bytes
that do not fit into the buffer are lost. -/
def receive (message : Message) (datagram : List UInt8) (time : Moment)
    (host : List UInt8) : Message :=
  { buf := datagram.take bufferSize ++ message.buf.drop (datagram.take bufferSize).length
    size := (datagram.take bufferSize).length
    host
    parsed := { message.parsed with time }
    length_buf := by
      rw [List.length_append, List.length_drop, message.length_buf, List.length_take]
      omega
    size_le := by
      rw [List.length_take]
      omega }

/-- A message of the pool: any buffer, any time, no parsed field. -/
def Clean (message : Message) : Prop :=
  message.parsed = cleared message.parsed.time

theorem clean_reset (message : Message) : Clean (reset message) :=
  rfl

theorem openPriority_take (datagram : List UInt8) :
    OpenPriority (datagram.take bufferSize) ↔ OpenPriority datagram := by
  by_cases fits : datagram.length ≤ bufferSize
  · rw [List.take_of_length_le fits]
  · have isLong : bufferSize = 32768 := rfl
    constructor
    · rintro ⟨_, short, _⟩
      rw [List.length_take] at short
      omega
    · rintro ⟨_, short, _⟩
      omega

def parseDatagram (datagram : List UInt8) (time : Moment) : Except Panic (Bool × Parsed) :=
  match priorityOf (datagram.take bufferSize) (cleared time) with
  | (false, parsed) => .ok (false, parsed)
  | (true, parsed) => parseAfterPriority parsed

theorem parseDatagram_ok (datagram : List UInt8) (time : Moment) :
    Succeeds (parseDatagram datagram time) := by
  unfold parseDatagram
  split
  · exact succeeds_ok _
  · exact parseAfterPriority_ok _

variable {datagram : List UInt8}

theorem parse_receive {pooled : Message} (clean : Clean pooled) (closed : ¬OpenPriority datagram)
    (time : Moment) (host : List UInt8) :
    parse (receive pooled datagram time host) = parseDatagram datagram time := by
  have isParsed : (receive pooled datagram time host).parsed = cleared time := by
    show { pooled.parsed with time } = cleared time
    rw [clean]
    rfl
  rw [← openPriority_take] at closed
  unfold parse parseDatagram
  rw [parsePriority_eq rfl rfl closed, isParsed]
  generalize priorityOf (datagram.take bufferSize) (cleared time) = outcome
  obtain ⟨hasPriority, _⟩ := outcome
  cases hasPriority <;> rfl

def filledMessage (byte : UInt8) : Message :=
  { buf := List.replicate bufferSize byte
    size := 0
    host := []
    parsed := cleared ⟨Api.zeroTime, 0⟩
    length_buf := List.length_replicate
    size_le := Nat.zero_le _ }

theorem buf_receive_filled (byte : UInt8) (datagram : List UInt8)
    (short : datagram.length < 5) (time : Moment) (host : List UInt8) :
    (receive (filledMessage byte) datagram time host).buf =
      datagram ++ byte :: List.replicate (bufferSize - datagram.length - 1) byte := by
  have isLong : bufferSize = 32768 := rfl
  have whole : datagram.take bufferSize = datagram := List.take_of_length_le (by omega)
  show datagram.take bufferSize ++
    (List.replicate bufferSize byte).drop (datagram.take bufferSize).length = _
  rw [whole, List.drop_replicate, ← List.replicate_succ, Nat.sub_add_cancel (by omega)]

theorem parse_panics (isOpen : OpenPriority datagram) (time : Moment) (host : List UInt8) :
    parse (receive (filledMessage 62) datagram time host) =
      .error (.slice (datagram.length + 1) datagram.length) := by
  have short := isOpen.2.1
  have isLong : bufferSize = 32768 := rfl
  have isSize : (receive (filledMessage 62) datagram time host).size = datagram.length := by
    show (datagram.take bufferSize).length = _
    rw [List.take_of_length_le (by omega)]
  unfold parse
  rw [parsePriority_panics (buf_receive_filled 62 datagram short time host) isSize isOpen]
  rfl

/-- The parser returns, with a result that is the same for every message of the pool
and every sender, exactly when the datagram does not leave its priority open. -/
theorem parse_depends_on_datagram_iff (datagram : List UInt8) (time : Moment) :
    (∃ result, ∀ pooled host, Clean pooled →
        parse (receive pooled datagram time host) = .ok result) ↔
      ¬OpenPriority datagram := by
  constructor
  · rintro ⟨result, same⟩ isOpen
    have panics := parse_panics isOpen time []
    rw [same (filledMessage 62) [] rfl] at panics
    cases panics
  · intro closed
    obtain ⟨result, isResult⟩ := parseDatagram_ok datagram time
    refine ⟨result, ?_⟩
    intro pooled host clean
    rw [parse_receive clean closed, isResult]

/-- `<34` is refused in a fresh buffer. In one that was filled with `>` the parser
slices the buffer from 4 to 3. -/
theorem open_priority_panics :
    parse (receive (filledMessage 0) [60, 51, 52] ⟨0, 0⟩ []) =
      .ok (false, cleared ⟨0, 0⟩) ∧
    parse (receive (filledMessage 62) [60, 51, 52] ⟨0, 0⟩ []) = .error (.slice 4 3) := by
  refine ⟨?_, parse_panics (by decide) _ _⟩
  have isBuf := buf_receive_filled 0 [60, 51, 52] (by decide) ⟨0, 0⟩ []
  unfold parse
  rw [parsePriority_opened isBuf rfl (Nat.le_refl 3)]
  rfl

structure Arrival where
  datagram : List UInt8
  time : Moment
  host : List UInt8

/-- A message as the parser hands it to the logger. -/
structure Entry where
  accepted : Bool
  parsed : Parsed
  (host raw : List UInt8)

/-- `held` is the message of the read loop, `reading` is false once it has returned, and
`parsing` are the messages that the parsers have taken. `received` records the datagrams that
went into the channel; no step reads it. -/
structure Receiver where
  pool : List Message
  held : Option Message
  reading : Bool
  msgCh : List Message
  parsing : List Message
  logged : List Entry
  panicked : Option Panic
  received : List Arrival

def newMessage : Message :=
  filledMessage 0

def start : Receiver :=
  { pool := []
    held := none
    reading := true
    msgCh := []
    parsing := []
    logged := []
    panicked := none
    received := [] }

/-- What can happen next. `get` takes the chosen message of the pool, or a new one;
`arrive` waits for room in the channel; in `cancel` a datagram may have been read
and not sent; `take` is a free parser taking a message from the channel, `finish` the parser
with the chosen one parsing, logging and returning it; `collect` is the pool losing a message
to the garbage collector. -/
inductive Event where
  | get (choice : Nat)
  | arrive (arrival : Arrival)
  | cancel (unsent : Option Arrival)
  | take
  | finish (choice : Nat)
  | collect (choice : Nat)

def Message.read (message : Message) (arrival : Arrival) : Message :=
  receive message arrival.datagram arrival.time arrival.host

def handle (message : Message) : Except Panic (Message × Entry) := do
  let (accepted, parsed) ← parse message
  .ok ({ message with parsed },
    { accepted
      parsed
      host := message.host
      raw := message.buf.take message.size })

/-- How many parsers `StartReceiver` starts. -/
def parserCount (parsers : Nat) : Nat :=
  if parsers < 1 then 1 else parsers

def advance (parsers : Nat) (receiver : Receiver) : Event → Receiver
  | .get choice =>
    if receiver.reading && receiver.held.isNone then
      { receiver with
        pool := receiver.pool.eraseIdx choice
        held := some (receiver.pool[choice]?.getD newMessage) }
    else receiver
  | .arrive arrival =>
    match receiver.held with
    | none => receiver
    | some message =>
      if receiver.msgCh.length < parserCount parsers * 64 then
        { receiver with
          held := none
          msgCh := receiver.msgCh ++ [message.read arrival]
          received := receiver.received ++ [arrival] }
      else receiver
  | .cancel unsent =>
    -- the deferred reset puts the held message back
    let returned := receiver.held.map fun message =>
      match unsent with
      | none => reset message
      | some arrival => reset (message.read arrival)
    { receiver with
      pool := receiver.pool ++ returned.toList
      held := none
      reading := false }
  | .take =>
    match receiver.msgCh with
    | [] => receiver
    | message :: later =>
      if receiver.parsing.length < parserCount parsers then
        { receiver with msgCh := later, parsing := receiver.parsing ++ [message] }
      else receiver
  | .finish choice =>
    match receiver.parsing[choice]? with
    | none => receiver
    | some message =>
      match handle message with
      | .error panic => { receiver with panicked := some panic }
      | .ok (parsed, entry) =>
        { receiver with
          pool := receiver.pool ++ [reset parsed]
          parsing := receiver.parsing.eraseIdx choice
          logged := receiver.logged ++ [entry] }
  | .collect choice => { receiver with pool := receiver.pool.eraseIdx choice }

def step (parsers : Nat) (receiver : Receiver) (event : Event) : Receiver :=
  match receiver.panicked with
  | some _ => receiver
  | none => advance parsers receiver event

/-- The entry for a datagram that is parsed in a fresh buffer. -/
def entryOf (arrival : Arrival) : Except Panic Entry := do
  let (accepted, parsed) ← parseDatagram arrival.datagram arrival.time
  .ok
    { accepted
      parsed
      host := arrival.host
      raw := arrival.datagram.take bufferSize }

theorem entryOf_ok (arrival : Arrival) : Succeeds (entryOf arrival) :=
  succeeds_bind (parseDatagram_ok _ _) fun _ => succeeds_ok _

theorem entry_read (clean : Clean message)
    (closed : ¬OpenPriority arrival.datagram) :
    (handle (message.read arrival)).map Prod.snd = entryOf arrival := by
  have isRaw : (message.read arrival).buf.take (message.read arrival).size =
      arrival.datagram.take bufferSize :=
    List.take_left
  unfold handle entryOf
  rw [isRaw]
  unfold Message.read
  rw [parse_receive clean closed]
  cases parseDatagram arrival.datagram arrival.time <;> rfl

/-- What is logged, followed by what will be for the messages on their way. -/
def Receiver.entries (receiver : Receiver) : List (Except Panic Entry) :=
  receiver.logged.map Except.ok ++
    (receiver.parsing ++ receiver.msgCh).map fun message => (handle message).map Prod.snd

/-- What holds of the receiver as long as no datagram has an open priority: messages
that nobody works on are clean, and the entries are those of the datagrams received. -/
structure Sound (parsers : Nat) (receiver : Receiver) : Prop where
  pool : ∀ message ∈ receiver.pool, Clean message
  held : ∀ message ∈ receiver.held, Clean message
  runs : receiver.panicked = none
  entries : receiver.entries.Perm (receiver.received.map entryOf)
  busy : receiver.parsing.length ≤ parserCount parsers
  inOrder : parserCount parsers = 1 → receiver.entries = receiver.received.map entryOf

variable {parsers : Nat}

theorem sound_start : Sound parsers start where
  pool := by simp [start]
  held := by simp [start]
  runs := rfl
  entries := .refl _
  busy := Nat.zero_le _
  inOrder := fun _ => rfl

def Event.Closed : Event → Prop
  | .arrive arrival => ¬OpenPriority arrival.datagram
  | _ => True

section Step

variable {receiver : Receiver} (sound : Sound parsers receiver)

include sound

theorem Sound.get (choice : Nat) : Sound parsers (advance parsers receiver (.get choice)) := by
  unfold advance
  dsimp only
  split
  · refine ⟨?_, ?_, sound.runs, sound.entries, sound.busy, sound.inOrder⟩
    · intro message isPooled
      exact sound.pool message (List.mem_of_mem_eraseIdx isPooled)
    · intro message isHeld
      obtain rfl := Option.mem_some_iff.mp isHeld
      cases chosen : receiver.pool[choice]? with
      | none => rfl
      | some message => exact sound.pool message (List.mem_of_getElem? chosen)
  · exact sound

theorem Sound.arrive (closed : ¬OpenPriority arrival.datagram) :
    Sound parsers (advance parsers receiver (.arrive arrival)) := by
  unfold advance
  dsimp only
  split
  · exact sound
  next message isHeld =>
  split
  · have isEntry := entry_read (sound.held message isHeld) closed
    -- the new message comes last in the channel, as its datagram does in the record
    have grown : Receiver.entries { receiver with
        held := none
        msgCh := receiver.msgCh ++ [message.read arrival]
        received := receiver.received ++ [arrival] } = receiver.entries ++ [entryOf arrival] := by
      simp [Receiver.entries, isEntry]
    refine ⟨sound.pool, by simp, sound.runs, ?_, sound.busy, ?_⟩
    · rw [grown, List.map_append]
      exact sound.entries.append_right _
    · intro single
      rw [grown, List.map_append, sound.inOrder single]
      rfl
  · exact sound

theorem Sound.cancel (unsent : Option Arrival) :
    Sound parsers (advance parsers receiver (.cancel unsent)) := by
  refine ⟨?_, by simp [advance], sound.runs, sound.entries, sound.busy, sound.inOrder⟩
  intro message isPooled
  rcases List.mem_append.mp isPooled with old | returned
  · exact sound.pool message old
  · rw [Option.mem_toList, Option.map_eq_some_iff] at returned
    obtain ⟨held, _, rfl⟩ := returned
    cases unsent with
    | none => exact clean_reset held
    | some arrival => exact clean_reset (held.read arrival)

theorem Sound.take : Sound parsers (advance parsers receiver .take) := by
  unfold advance
  dsimp only
  split
  · exact sound
  next message later isChannel =>
  split
  · next free =>
    have same : receiver.parsing ++ [message] ++ later = receiver.parsing ++ receiver.msgCh := by
      rw [isChannel, List.append_assoc, List.singleton_append]
    refine ⟨sound.pool, sound.held, sound.runs, ?_, ?_, ?_⟩
    · rw [Receiver.entries, same]
      exact sound.entries
    · rw [List.length_append]
      exact free
    · rw [Receiver.entries, same]
      exact sound.inOrder
  · exact sound

theorem Sound.handled (isTaken : message ∈ receiver.parsing) :
    ∃ result, handle message = .ok result := by
  -- the record has an entry for the message, so the parser returns
  have onItsWay : (handle message).map Prod.snd ∈ receiver.entries :=
    List.mem_append_right _ (List.mem_map_of_mem (List.mem_append_left _ isTaken))
  obtain ⟨arrival, _, isEntry⟩ := List.mem_map.mp (sound.entries.mem_iff.mp onItsWay)
  obtain ⟨_, isOk⟩ := entryOf_ok arrival
  cases handled : handle message with
  | error =>
    rw [isOk, handled] at isEntry
    cases isEntry
  | ok result => exact ⟨result, rfl⟩

theorem Sound.finish (choice : Nat) :
    Sound parsers (advance parsers receiver (.finish choice)) := by
  unfold advance
  dsimp only
  split
  · exact sound
  next message isChosen =>
  obtain ⟨⟨_, _⟩, handled⟩ := sound.handled (List.mem_of_getElem? isChosen)
  rw [handled]
  obtain ⟨inRange, isMessage⟩ := List.getElem?_eq_some_iff.mp isChosen
  have erased := List.getElem_cons_eraseIdx_perm inRange
  rw [isMessage] at erased
  have moved := erased.map fun message => (handle message).map Prod.snd
  simp only [List.map_cons, handled, Except.map] at moved
  refine ⟨?_, sound.held, sound.runs, ?_, ?_, ?_⟩
  · intro pooled isPooled
    rcases List.mem_append.mp isPooled with old | returned
    · exact sound.pool pooled old
    · obtain rfl := List.mem_singleton.mp returned
      exact clean_reset _
  · refine .trans ?_ sound.entries
    simp only [Receiver.entries, List.map_append, List.append_assoc, List.map_singleton]
    exact (moved.append_right _).append_left _
  · rw [List.length_eraseIdx_of_lt inRange]
    exact Nat.le_trans (Nat.sub_le _ _) sound.busy
  · intro single
    -- the one parser had this message, and no other is taken
    have isAlone : receiver.parsing = [message] := by
      have busy := sound.busy
      rw [single] at busy
      obtain ⟨_, isOther⟩ := List.length_eq_one_iff.mp (Nat.le_antisymm busy (by omega))
      simp only [isOther, List.length_singleton, Nat.lt_one_iff] at inRange
      simp [isOther, inRange] at isChosen
      rw [isOther, isChosen]
    have isFirst : choice = 0 := by
      rw [isAlone, List.length_singleton] at inRange
      omega
    rw [← sound.inOrder single]
    simp [Receiver.entries, isAlone, isFirst, handled, Except.map]

theorem Sound.collect (choice : Nat) :
    Sound parsers (advance parsers receiver (.collect choice)) := by
  refine ⟨?_, sound.held, sound.runs, sound.entries, sound.busy, sound.inOrder⟩
  intro message isPooled
  exact sound.pool message (List.mem_of_mem_eraseIdx isPooled)

theorem Sound.next {event : Event} (closed : event.Closed) :
    Sound parsers (step parsers receiver event) := by
  unfold step
  rw [sound.runs]
  cases event with
  | get choice => exact sound.get choice
  | arrive => exact sound.arrive closed
  | cancel unsent => exact sound.cancel unsent
  | take => exact sound.take
  | finish choice => exact sound.finish choice
  | collect choice => exact sound.collect choice

end Step

/-- In every run without an open priority the receiver does not panic, and it logs each datagram
once at most, as if it had been parsed in a fresh buffer. A single parser logs them in the order
in which they were received. -/
theorem run_logs_received {events : List Event} (closed : ∀ event ∈ events, event.Closed) :
    let receiver := TransitionSystem.run (step parsers) start events
    receiver.panicked = none ∧
      (receiver.logged.map Except.ok).Subperm (receiver.received.map entryOf) ∧
      (parsers ≤ 1 → receiver.logged.map Except.ok <+: receiver.received.map entryOf) := by
  intro receiver
  have sound : Sound parsers receiver :=
    TransitionSystem.run_invariant (fun _ _ sound closed => sound.next closed) sound_start
      (TransitionSystem.meets_of_forall closed)
  refine ⟨sound.runs, ?_, ?_⟩
  · exact (List.sublist_append_left _ _).subperm.trans sound.entries.subperm
  · intro isSingle
    have single : parserCount parsers = 1 := by
      unfold parserCount
      split <;> omega
    rw [← sound.inOrder single]
    exact List.prefix_append _ _

/-- `<34>hello` and `<34>J`, one after the other in the same message. -/
def reusedMessage : List Event :=
  [.get 0, .arrive ⟨[60, 51, 52, 62, 104, 101, 108, 108, 111], ⟨0, 0⟩, []⟩, .take, .finish 0,
   .get 0, .arrive ⟨[60, 51, 52, 62, 74], ⟨0, 0⟩, []⟩, .take, .finish 0]

/-- The buffer ends up as `<34>Jello`, and what is logged of the second datagram is `<34>J`. -/
theorem run_logs_received_reused :
    let receiver := TransitionSystem.run (step 1) start reusedMessage
    receiver.pool.map (fun message => message.buf.take 9) =
        [[60, 51, 52, 62, 74, 101, 108, 108, 111]] ∧
      receiver.logged.map Entry.raw =
        [[60, 51, 52, 62, 104, 101, 108, 108, 111], [60, 51, 52, 62, 74]] ∧
      receiver.logged.map Except.ok <+: receiver.received.map entryOf := by
  have closed : ∀ event ∈ reusedMessage, event.Closed := by
    simp [reusedMessage, Event.Closed]
    decide
  exact ⟨by decide +kernel, by decide +kernel, (run_logs_received closed).2.2 (Nat.le_refl 1)⟩

end Tinkerbell.Smee.Syslog
