import Mathlib.Logic.Function.Basic
import Tinkerbell.Library.KeyedMap
import Tinkerbell.Library.TransitionSystem

/-!
Owns: the handlers of the SSH sessions to serial consoles, step by step: the
look-up that makes a session the initial or an additional one, the shared
state with its counter, wait group and channel, and the store of these states
by user name.

Any number of sessions of any number of users run at once. A step is one
operation of one handler on what the handlers share, or one meeting of a
sender and a receiver on a channel; connections, exits of commands and
disconnects come from outside. The state that an initial session makes goes by
the number of that session.

The counters are unbounded, and a nil state that is waited for ends the
process.
-/

namespace Tinkerbell.Secondstar

/-- Sessions are numbered in the order of their connection. -/
abbrev SessionID := Nat

structure State where
  additionalSessions : Int := 0
  wg : Nat := 0

/-- Where the handler of an initial session stands. -/
inductive InitialStage where
  /-- The look-up found nothing. -/
  | starting
  /-- The activate command is started, the state is not yet set. -/
  | started
  /-- In `cmd.Wait`. -/
  | serving
  /-- The command has exited. -/
  | exited
  | found (value : Option SessionID)
  /-- The counter was positive. -/
  | signalling (value : SessionID)
  /-- In the send on the channel of a state. -/
  | sending (value channel : SessionID)
  /-- In `wg.Wait`. -/
  | awaiting (value : SessionID)
  | removing
  | deactivating
  | closed
  | refused
  | panicked
deriving DecidableEq

/-- Where the handler of an additional session stands. -/
inductive AdditionalStage where
  /-- The look-up found a state. -/
  | joining
  | counted
  /-- In the `select`. -/
  | listening
  | leaving (told : Bool)
  | uncounted (told : Bool)
  | left (told : Bool)
deriving DecidableEq

inductive Phase where
  | connected
  | initial (stage : InitialStage)
  | additional (state : SessionID) (stage : AdditionalStage)
deriving DecidableEq

structure Session where
  user : String
  phase : Phase := .connected

structure World where
  sessions : List Session := []
  states : SessionID → State := fun _ => {}
  globalState : KeyedMap String SessionID := KeyedMap.empty
  crashed : Bool := false

/-- What a step of a handler does to what the handlers share. -/
inductive Effect where
  | none
  | set
  | delete
  | addSession (state : SessionID) (delta : Int)
  | wgAdd (state : SessionID)
  | wgDone (state : SessionID)
  | panic

def World.updateState (world : World) (state : SessionID) (change : State → State) : World :=
  { world with states := Function.update world.states state (change (world.states state)) }

def World.perform (world : World) (s : SessionID) (user : String) : Effect → World
  | .none => world
  | .set =>
    { world.updateState s fun _ => {} with globalState := world.globalState.set user s }
  | .delete => { world with globalState := world.globalState.erase user }
  | .addSession state delta =>
    world.updateState state fun old =>
      { old with additionalSessions := old.additionalSessions + delta }
  | .wgAdd state => world.updateState state fun old => { old with wg := old.wg + 1 }
  | .wgDone state => world.updateState state fun old => { old with wg := old.wg - 1 }
  | .panic => { world with crashed := true }

def initialSession (world : World) (user : String) :
    InitialStage → Option (InitialStage × Effect)
  | .starting => some (.started, .none)
  | .started => some (.serving, .set)
  | .serving => none
  | .exited => some (.found (world.globalState.get user), .none)
  -- without a state there is no wait group to wait for
  | .found none => some (.panicked, .panic)
  | .found (some value) =>
    some (if 0 < (world.states value).additionalSessions then .signalling value
      else .awaiting value, .none)
  | .signalling value =>
    match world.globalState.get user with
    | some channel => some (.sending value channel, .none)
    | none => some (.awaiting value, .none)
  | .sending _ _ => none
  | .awaiting value => if (world.states value).wg = 0 then some (.removing, .none) else none
  | .removing => some (.deactivating, .delete)
  | .deactivating => some (.closed, .none)
  | .closed | .refused | .panicked => none

def additionalSession (state : SessionID) : AdditionalStage → Option (AdditionalStage × Effect)
  | .joining => some (.counted, .addSession state 1)
  | .counted => some (.listening, .wgAdd state)
  | .listening => none
  | .leaving told => some (.uncounted told, .addSession state (-1))
  | .uncounted told => some (.left told, .wgDone state)
  | .left _ => none

def handler (world : World) (session : Session) : Option (Phase × Effect) :=
  match session.phase with
  | .connected =>
    match world.globalState.get session.user with
    | some state => some (.additional state .joining, .none)
    | none => some (.initial .starting, .none)
  | .initial stage =>
    (initialSession world session.user stage).map fun next => (.initial next.1, next.2)
  | .additional state stage =>
    (additionalSession state stage).map fun next => (.additional state next.1, next.2)

inductive Event where
  | connect (user : String)
  /-- The handler of the session takes its next step. -/
  | proceed (s : SessionID)
  /-- No BMC data, no pipe, or the command does not start. -/
  | refuse (s : SessionID)
  /-- The command of the session exits. -/
  | exit (s : SessionID)
  /-- The client of an additional session disconnects or types the escape sequence. -/
  | leave (s : SessionID)
  /-- The channel's sender and one of its receivers meet. -/
  | tell (sender receiver : SessionID)

def World.put (world : World) (s : SessionID) (session : Session) : World :=
  { world with sessions := world.sessions.set s session }

def World.advance (world : World) (s : SessionID) (session : Session) (phase : Phase)
    (effect : Effect) : World :=
  (world.put s { session with phase }).perform s session.user effect

def World.meet (world : World) (sender receiver : SessionID) (sending listening : Session)
    (value state : SessionID) : World :=
  (world.put sender { sending with phase := .initial (.awaiting value) }).put receiver
    { listening with phase := .additional state (.leaving true) }

def external : Event → Phase → Option Phase
  | .refuse _, .initial .starting => some (.initial .refused)
  | .exit _, .initial .serving => some (.initial .exited)
  | .leave _, .additional state .listening => some (.additional state (.leaving false))
  | _, _ => none

def proceed (world : World) (s : SessionID) : World :=
  match world.sessions[s]? with
  | none => world
  | some session =>
    match handler world session with
    | none => world
    | some (phase, effect) => world.advance s session phase effect

def undergo (world : World) (s : SessionID) (event : Event) : World :=
  match world.sessions[s]? with
  | none => world
  | some session =>
    match external event session.phase with
    | none => world
    | some phase => world.advance s session phase .none

def tell (world : World) (sender receiver : SessionID) : World :=
  match world.sessions[sender]?, world.sessions[receiver]? with
  | some sending, some listening =>
    match sending.phase, listening.phase with
    | .initial (.sending value channel), .additional state .listening =>
      if channel = state then world.meet sender receiver sending listening value state
      else world
    | _, _ => world
  | _, _ => world

def step (world : World) (event : Event) : World :=
  if world.crashed then world
  else
    match event with
    | .connect user => { world with sessions := world.sessions ++ [{ user }] }
    | .proceed s => proceed world s
    | .refuse s => undergo world s event
    | .exit s => undergo world s event
    | .leave s => undergo world s event
    | .tell sender receiver => tell world sender receiver

/-- The ways in which one session moves on. -/
inductive Transition (world : World) (s : SessionID) (user : String) :
    Event → Phase → Phase → Effect → Prop where
  | lookUpState {state : SessionID} (isState : world.globalState.get user = some state) :
      Transition world s user (.proceed s) .connected (.additional state .joining) .none
  | lookUpNothing (nothing : world.globalState.get user = none) :
      Transition world s user (.proceed s) .connected (.initial .starting) .none
  | start : Transition world s user (.proceed s) (.initial .starting) (.initial .started) .none
  | refuse : Transition world s user (.refuse s) (.initial .starting) (.initial .refused) .none
  | set : Transition world s user (.proceed s) (.initial .started) (.initial .serving) .set
  | exit : Transition world s user (.exit s) (.initial .serving) (.initial .exited) .none
  | get : Transition world s user (.proceed s) (.initial .exited)
      (.initial (.found (world.globalState.get user))) .none
  | panic :
    Transition world s user (.proceed s) (.initial (.found none)) (.initial .panicked) .panic
  | signal {value : SessionID} (positive : 0 < (world.states value).additionalSessions) :
      Transition world s user (.proceed s) (.initial (.found (some value)))
        (.initial (.signalling value)) .none
  | noSignal {value : SessionID} (notPositive : ¬0 < (world.states value).additionalSessions) :
      Transition world s user (.proceed s) (.initial (.found (some value)))
        (.initial (.awaiting value)) .none
  | getChannel {value channel : SessionID} (isState : world.globalState.get user = some channel) :
      Transition world s user (.proceed s) (.initial (.signalling value))
        (.initial (.sending value channel)) .none
  | noChannel {value : SessionID} (nothing : world.globalState.get user = none) :
      Transition world s user (.proceed s) (.initial (.signalling value))
        (.initial (.awaiting value)) .none
  | waited {value : SessionID} (isZero : (world.states value).wg = 0) :
      Transition world s user (.proceed s) (.initial (.awaiting value)) (.initial .removing) .none
  | delete : Transition world s user (.proceed s) (.initial .removing) (.initial .deactivating)
      .delete
  | deactivated : Transition world s user (.proceed s) (.initial .deactivating) (.initial .closed)
      .none
  | count {state : SessionID} : Transition world s user (.proceed s) (.additional state .joining)
      (.additional state .counted) (.addSession state 1)
  | join {state : SessionID} : Transition world s user (.proceed s) (.additional state .counted)
      (.additional state .listening) (.wgAdd state)
  | leave {state : SessionID} : Transition world s user (.leave s) (.additional state .listening)
      (.additional state (.leaving false)) .none
  | uncount {state : SessionID} {told : Bool} : Transition world s user (.proceed s)
      (.additional state (.leaving told)) (.additional state (.uncounted told))
      (.addSession state (-1))
  | done {state : SessionID} {told : Bool} : Transition world s user (.proceed s)
      (.additional state (.uncounted told)) (.additional state (.left told)) (.wgDone state)

variable {world : World} {s : SessionID} {user : String} {effect : Effect}

private theorem transition_of_initialSession {stage next : InitialStage}
    (isNext : initialSession world user stage = some (next, effect)) :
    Transition world s user (.proceed s) (.initial stage) (.initial next) effect := by
  cases stage with
  | starting =>
    cases isNext
    exact .start
  | started =>
    cases isNext
    exact .set
  | serving => cases isNext
  | exited =>
    cases isNext
    exact .get
  | found value =>
    cases value with
    | none =>
      cases isNext
      exact .panic
    | some =>
      cases isNext
      split
      · next positive => exact .signal positive
      · next notPositive => exact .noSignal notPositive
  | signalling =>
    simp only [initialSession] at isNext
    split at isNext
    · next _ isState =>
      cases isNext
      exact .getChannel isState
    · next nothing =>
      cases isNext
      exact .noChannel nothing
  | sending => cases isNext
  | awaiting =>
    simp only [initialSession] at isNext
    split at isNext
    · next isZero =>
      cases isNext
      exact .waited isZero
    · cases isNext
  | removing =>
    cases isNext
    exact .delete
  | deactivating =>
    cases isNext
    exact .deactivated
  | closed | refused | panicked => cases isNext

private theorem transition_of_additionalSession {state : SessionID} {stage next : AdditionalStage}
    (isNext : additionalSession state stage = some (next, effect)) :
    Transition world s user (.proceed s) (.additional state stage) (.additional state next)
      effect := by
  cases stage with
  | joining =>
    cases isNext
    exact .count
  | counted =>
    cases isNext
    exact .join
  | listening => cases isNext
  | leaving =>
    cases isNext
    exact .uncount
  | uncounted =>
    cases isNext
    exact .done
  | left => cases isNext

variable {session new : Session} {event : Event} {sessions : List Session}

private theorem transition_of_handler {phase : Phase}
    (isNext : handler world session = some (phase, effect)) :
    Transition world s session.user (.proceed s) session.phase phase effect := by
  unfold handler at isNext
  split at isNext
  · next isConnected =>
    rw [isConnected]
    split at isNext
    · next _ isState =>
      cases isNext
      exact .lookUpState isState
    · next nothing =>
      cases isNext
      exact .lookUpNothing nothing
  · next _ isInitial =>
    rw [isInitial]
    obtain ⟨_, isStep, same⟩ := Option.map_eq_some_iff.mp isNext
    cases same
    exact transition_of_initialSession isStep
  · next _ _ isAdditional =>
    rw [isAdditional]
    obtain ⟨_, isStep, same⟩ := Option.map_eq_some_iff.mp isNext
    cases same
    exact transition_of_additionalSession isStep

private theorem transition_of_external {before after : Phase}
    (isFor : event = .refuse s ∨ event = .exit s ∨ event = .leave s)
    (isNext : external event before = some after) :
    Transition world s user event before after .none := by
  unfold external at isNext
  split at isNext
  · cases isNext
    have same := isFor.resolve_right (by simp)
    cases same
    exact .refuse
  · cases isNext
    have same := (isFor.resolve_left (by simp)).resolve_right (by simp)
    cases same
    exact .exit
  · cases isNext
    have same := (isFor.resolve_left (by simp)).resolve_left (by simp)
    cases same
    exact .leave
  · cases isNext

theorem getElem?_set_of_some {t : SessionID} {old : Session} (isSession : sessions[s]? = some old) :
    (sessions.set s new)[t]? = if s = t then some new else sessions[t]? := by
  obtain ⟨within, _⟩ := List.getElem?_eq_some_iff.mp isSession
  rw [List.getElem?_set, if_pos within]

/-- What a step can do. -/
inductive Steps (world : World) (event : Event) (after : World) : Prop where
  | idle (same : after = world)
  | connect (user : String) (isEvent : event = .connect user)
      (isAfter : after = { world with sessions := world.sessions ++ [{ user }] })
  | advance (s : SessionID) (session : Session) (phase : Phase) (effect : Effect)
      (isSession : world.sessions[s]? = some session)
      (transition : Transition world s session.user event session.phase phase effect)
      (isAfter : after = world.advance s session phase effect)
  | tell (sender receiver : SessionID) (sending listening : Session)
      (value channel : SessionID) (isEvent : event = .tell sender receiver)
      (isSender : world.sessions[sender]? = some sending)
      (isReceiver : (world.put sender
        { sending with phase := .initial (.awaiting value) }).sessions[receiver]? = some listening)
      (sends : sending.phase = .initial (.sending value channel))
      (listens : listening.phase = .additional channel .listening)
      (isAfter : after = world.meet sender receiver sending listening value channel)

private theorem steps_proceed (world : World) (s : SessionID) :
    Steps world (.proceed s) (proceed world s) := by
  unfold proceed
  split
  · exact .idle rfl
  · next session isSession =>
    split
    · exact .idle rfl
    · next phase effect isNext =>
      exact .advance s session phase effect isSession (transition_of_handler isNext) rfl

theorem steps_undergo (world : World)
    (isFor : event = .refuse s ∨ event = .exit s ∨ event = .leave s) :
    Steps world event (undergo world s event) := by
  unfold undergo
  split
  · exact .idle rfl
  · next session isSession =>
    split
    · exact .idle rfl
    · next phase isNext =>
      exact .advance s session phase .none isSession (transition_of_external isFor isNext) rfl

private theorem steps_tell (world : World) (sender receiver : SessionID) :
    Steps world (.tell sender receiver) (tell world sender receiver) := by
  unfold tell
  split
  · next sending listening isSender isReceiver =>
    split
    · next value channel _ sends listens =>
      split
      · next same =>
        subst same
        have different : sender ≠ receiver := by
          intro same
          rw [same, isReceiver] at isSender
          rw [Option.some.inj isSender, sends] at listens
          cases listens
        have isStill : (world.sessions.set sender
            { sending with phase := .initial (.awaiting value) })[receiver]? = some listening := by
          rw [getElem?_set_of_some isSender, if_neg different]
          exact isReceiver
        exact .tell sender receiver sending listening value channel rfl isSender isStill
          sends listens rfl
      · exact .idle rfl
    · exact .idle rfl
  · exact .idle rfl

theorem steps_step (world : World) (event : Event) : Steps world event (step world event) := by
  unfold step
  split
  · exact .idle rfl
  · split
    · next user => exact .connect user rfl rfl
    · next s => exact steps_proceed world s
    · exact steps_undergo world (by simp)
    · exact steps_undergo world (by simp)
    · exact steps_undergo world (by simp)
    · next sender receiver => exact steps_tell world sender receiver

theorem sessions_advance (world : World) (s : SessionID) (session : Session) (phase : Phase)
    (effect : Effect) :
    (world.advance s session phase effect).sessions =
      world.sessions.set s { session with phase } := by
  cases effect <;> rfl

theorem getElem?_connect {t : Nat} (isSession : (sessions ++ [new])[t]? = some session) :
    sessions[t]? = some session ∨ (t = sessions.length ∧ session = new) := by
  rw [List.getElem?_append] at isSession
  split at isSession
  · exact Or.inl isSession
  · next _ =>
    obtain ⟨within, isNew⟩ := List.getElem?_eq_some_iff.mp isSession
    rw [List.length_singleton] at within
    refine Or.inr ⟨by omega, ?_⟩
    rw [← isNew]
    simp

end Tinkerbell.Secondstar
